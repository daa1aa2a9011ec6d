import Letterpress.Proofs.Basic
import Letterpress.Proofs.Placeholder.Plain

/-! Slots: places in a text that are filled with the value under a key, as it is or in one letter case. A slot is one tag, which
prints a value that is there or missing, and always escaped. -/
namespace Letterpress.Placeholder
open Letterpress.Text

def isKeyStart (c : Char) : Bool := isSymbol c && !c.isDigit && c != '-'

/-- What may be the name of a value and is no number: every identifier, and with dashes and colons more than those. -/
def isKey (key : String) : Bool :=
  match key.toList with
  | c :: rest => isKeyStart c && rest.all isSymbol
  | [] => false

inductive Slot
  | plain (key : String)
  | upper (key : String)
  | lower (key : String)
  deriving DecidableEq, Repr

namespace Slot

def body : Slot → List Char
  | plain key => key.toList
  | upper key => "uppercase".toList ++ ' ' :: key.toList
  | lower key => "lowercase".toList ++ ' ' :: key.toList

private theorem body_plain (key : String) : (plain key).body = key.toList := rfl

private theorem body_upper (key : String) : (upper key).body = "uppercase".toList ++ ' ' :: key.toList := rfl

private theorem body_lower (key : String) : (lower key).body = "lowercase".toList ++ ' ' :: key.toList := rfl

def source (slot : Slot) : List Char := doubleOpen ++ (slot.body ++ doubleClose)

/-- A key must not be taken for something else: on its own, for the name of a helper or the beginning of a branch, and as an
argument for a keyword. -/
def isSound : Slot → Bool
  | plain key => isKey key && (Helper.ofName? key).isNone && !"else".toList.isPrefixOf key.toList
  | upper key | lower key => isKey key && key != "as" && key != "else"

end Slot

/-- The way to the value under a key. `this` stays where it is. -/
def Path.ofWord (w : List Char) : Path :=
  ⟨String.ofList w, false, false, 0, [String.ofList w].filter (· != "this")⟩

variable {c d : Char} {w s t rest : List Char} {key : String} {fuel : Nat}

/-- The characters that end a tag, and what is behind it. -/
abbrev closing (rest : List Char) : List Char := '\x7d' :: '\x7d' :: rest

/-- What a word in a tag may be ended by: the end of the call or of the tag that it is in. -/
def isEnd (c : Char) : Bool := c == ')' || c == '\x7d'

/-- What no word, literal or path begins with. -/
def isSign (c : Char) : Bool := c == '(' || c == '#' || isEnd c

private theorem isSign_of_isEnd (ends : isEnd d = true) : isSign d = true := by
  rw [isSign,ends,Bool.or_true]

private theorem cases_of_isEnd (ends : isEnd d = true) : d = ')' ∨ d = '\x7d' := by simpa [isEnd] using ends

private theorem cases_of_isSign (sign : isSign d = true) : (d = '(' ∨ d = '#') ∨ d = ')' ∨ d = '\x7d' := by
  simpa [isSign,isEnd] using sign

private theorem not_isSymbol_of_isSign (sign : isSign d = true) : isSymbol d = false := by
  rcases cases_of_isSign sign with (rfl | rfl) | rfl | rfl <;> decide

private theorem not_isSymbol_end (ends : isEnd d = true) : ∀ e ∈ (d :: t).head?, isSymbol e = false := by
  intro e first
  cases first
  exact not_isSymbol_of_isSign (isSign_of_isEnd ends)

/-- What does not hold the end of a word comes before it. -/
theorem append_cons_inj {lead t u : List Char} (same : lead ++ u = w ++ d :: t) (other : d ∉ lead) :
    ∃ more, w = lead ++ more ∧ more ++ d :: t = u := by
  rcases List.append_eq_append_iff.mp same with ⟨more,inner,behind⟩ | ⟨more,inner,behind⟩
  · exact ⟨more,inner,behind.symm⟩
  · cases more with
    | nil => exact ⟨[],by simpa using inner.symm,by simpa using behind⟩
    | cons e more =>
      obtain rfl := (List.cons.inj behind).1
      exact absurd (by simp [inner]) other

private theorem not_mem_of_isEnd (ends : isEnd d = true) (other : ∀ e ∈ s, isEnd e = false) : d ∉ s := by
  intro member
  rw [other d member] at ends
  contradiction

theorem skipGap_sign (sign : isSign d = true) : skipGap (d :: t) = d :: t := by
  rw [skipGap,List.dropWhile_cons_of_neg]
  rcases cases_of_isSign sign with (rfl | rfl) | rfl | rfl <;> decide

theorem identifier?_sign (sign : isSign d = true) : identifier? (d :: t) = none := by
  rw [identifier?,List.takeWhile_cons_of_neg (by simp [not_isSymbol_of_isSign sign])]
  rfl

theorem path?_sign (sign : isSign d = true) : path? (d :: t) = none := by
  have identifier : identifier? (d :: t) = none := identifier?_sign sign
  rcases cases_of_isSign sign with (rfl | rfl) | rfl | rfl <;>
    simp [path?,skipCurrent,takeRoot,takeLoop,takeUps,step?,stripLead?,identifier]

theorem literal?_sign (sign : isSign d = true) : literal? (d :: t) = none := by
  rcases cases_of_isSign sign with (rfl | rfl) | rfl | rfl <;>
    simp [literal?,afterLiteral?,afterNumber?,afterWord?,stripLead?]

theorem atKeyword_sign (sign : isSign d = true) : atKeyword (d :: t) = false := by
  rcases cases_of_isSign sign with (rfl | rfl) | rfl | rfl <;> simp [atKeyword,stripLead?]

private theorem term?_end (ends : isEnd d = true) (fuel : Nat) : term? fuel (d :: t) = none := by
  have sign := isSign_of_isEnd ends
  cases fuel with
  | zero => rfl
  | succ fuel =>
    have inner : subterm? fuel (d :: t) = none := by
      rcases cases_of_isEnd ends with rfl | rfl <;> cases fuel <;> rfl
    simp only [term?,atKeyword_sign sign,literal?_sign sign,path?_sign sign,inner]
    rfl

theorem arguments_end (ends : isEnd d = true) (fuel : Nat) : arguments fuel (d :: t) = ([], d :: t) := by
  have sign := isSign_of_isEnd ends
  cases fuel with
  | zero => rfl
  | succ fuel =>
    simp only [arguments,skipGap_sign sign,identifier?_sign sign,term?_end ends]
    rfl

private theorem token?_end (ends : isEnd d = true) : token? ['='] (d :: t) = none := by
  rw [token?,skipGap_sign (isSign_of_isEnd ends),stripLead?,if_neg]
  rcases cases_of_isEnd ends with rfl | rfl <;> decide

theorem readPart_append (w s : List Char) : readPart (w ++ s) s = w := by
  rw [readPart,List.length_append,Nat.add_sub_cancel,List.take_left]

theorem finish?_closing (tag : Tag) (trims : Bool) :
    finish? doubleClose tag trims (closing rest) = some (⟨tag, trims, false⟩, rest) := by
  have start : skipGap (closing rest) = closing rest := skipGap_sign rfl
  simp [finish?,takeTrim,token?,start,doubleClose,stripLead?]

/-- A word that a tag may begin with. -/
structure IsWord (w : List Char) : Prop where
  start : ∃ c t, w = c :: t ∧ isKeyStart c = true
  symbols : ∀ c ∈ w, isSymbol c = true

private theorem isSymbol_of_isKeyStart (start : isKeyStart c = true) : isSymbol c = true := by
  simp only [isKeyStart,Bool.and_eq_true] at start
  exact start.1.1

theorem isWord_of_isKey (checked : isKey key = true) : IsWord key.toList := by
  unfold isKey at checked
  split at checked
  · next c t same =>
    simp only [Bool.and_eq_true,List.all_eq_true] at checked
    obtain ⟨start,later⟩ := checked
    refine ⟨⟨c,t,same,start⟩,fun d member => ?_⟩
    rw [same] at member
    rcases List.mem_cons.mp member with rfl | behind
    · exact isSymbol_of_isKeyStart start
    · exact later d behind
  · contradiction

private theorem ne_of_isKeyStart (start : isKeyStart c = true) (other : isKeyStart d = false) : c ≠ d := by
  rintro rfl
  rw [start] at other
  contradiction

theorem not_isGap_of_isSymbol (symbol : isSymbol c = true) : isGap c = false := by
  by_contra gap
  simp only [isGap,Bool.not_eq_false,Bool.or_eq_true,beq_iff_eq] at gap
  rcases gap with ((rfl | rfl) | rfl) | rfl <;> exact absurd symbol (by decide)

private theorem isSeparator_of_isSymbol (symbol : isSymbol c = true) : isSeparator c = false := by
  by_contra separator
  simp only [isSeparator,Bool.not_eq_false,Bool.or_eq_true,beq_iff_eq] at separator
  rcases separator with rfl | rfl <;> exact absurd symbol (by decide)

private theorem not_isDigit_of_isKeyStart (start : isKeyStart c = true) : c.isDigit = false := by
  simp only [isKeyStart,Bool.and_eq_true,Bool.not_eq_true'] at start
  exact start.1.2

namespace IsWord

theorem skipGap (word : IsWord w) (s : List Char) : skipGap (w ++ s) = w ++ s := by
  obtain ⟨⟨c,t,rfl,start⟩,symbols⟩ := word
  rw [Placeholder.skipGap,List.cons_append,List.dropWhile_cons_of_neg]
  simp [not_isGap_of_isSymbol (symbols c List.mem_cons_self)]

/-- Nothing that begins with another character is what comes first in a word. -/
theorem stripLead?_eq_none (word : IsWord w) (other : isKeyStart d = false) (t s : List Char) :
    stripLead? (d :: t) (w ++ s) = none := by
  obtain ⟨⟨c,_,rfl,start⟩,_⟩ := word
  rw [List.cons_append,stripLead?,if_neg (ne_of_isKeyStart start other).symm]

theorem identifier? (word : IsWord w) (stops : ∀ d ∈ s.head?, isSymbol d = false) :
    identifier? (w ++ s) = some (String.ofList w, s) := by
  have taken : (w ++ s).takeWhile isSymbol = w := by
    rw [List.takeWhile_append_of_pos word.symbols]
    cases s with
    | nil => simp
    | cons d s => rw [List.takeWhile_cons_of_neg (by simp [stops d rfl]),List.append_nil]
  have left : (w ++ s).dropWhile isSymbol = s := by
    rw [List.dropWhile_append_of_pos word.symbols]
    cases s with
    | nil => rfl
    | cons d s => exact List.dropWhile_cons_of_neg (by simp [stops d rfl])
  obtain ⟨⟨c,t,same,_⟩,_⟩ := word
  rw [Placeholder.identifier?,taken,left,if_neg (by simp [same])]

private theorem path? (word : IsWord w) (ends : isEnd d = true) : path? (w ++ d :: t) = some (.ofWord w, d :: t) := by
  have identifier : Placeholder.identifier? (w ++ d :: t) = some (String.ofList w, d :: t) :=
    word.identifier? (not_isSymbol_end ends)
  have apart : isSeparator d = false := by
    rcases cases_of_isEnd ends with rfl | rfl <;> decide
  have current : skipCurrent (w ++ d :: t) = w ++ d :: t := by
    unfold skipCurrent
    split
    · next c _ stripped =>
      -- a word that begins like `this` is only cut where a separator follows, which neither a symbol nor an end is
      have same := stripLead?_eq_some stripped
      have other : d ∉ "this".toList := by rcases cases_of_isEnd ends with rfl | rfl <;> decide
      obtain ⟨more,inner,behind⟩ := append_cons_inj same.symm other
      have plain : isSeparator c = false := by
        cases more with
        | nil =>
          cases behind
          exact apart
        | cons e more =>
          cases behind
          exact isSeparator_of_isSymbol (word.symbols c (by simp [inner]))
      rw [plain]
      rfl
    · have apart := word.stripLead?_eq_none (d := '.') (by decide) ['/'] (d :: t)
      change (stripLead? ['.','/'] _).getD _ = _
      rw [apart]
      rfl
  have root : takeRoot (w ++ d :: t) = (false, w ++ d :: t) := by
    have apart := word.stripLead?_eq_none (d := '@') (by decide) "root".toList (d :: t)
    have spelled : "@root".toList = '@' :: "root".toList := by decide
    rw [takeRoot,spelled,apart]
  have steps : takeSteps (d :: t).length (d :: t) = ([], d :: t) := by
    simp [takeSteps,apart]
  obtain ⟨⟨c,w,rfl,start⟩,_⟩ := word
  have loop : takeLoop (c :: w ++ d :: t) = (false, c :: w ++ d :: t) := by
    unfold takeLoop
    split
    · next begins => exact absurd (List.cons.inj begins).1 (ne_of_isKeyStart start (by decide))
    · rfl
  have ups : takeUps (c :: w ++ d :: t) = (0, c :: w ++ d :: t) := by
    unfold takeUps
    split
    · next begins => exact absurd (List.cons.inj begins).1 (ne_of_isKeyStart start (by decide))
    · rfl
  have step : step? (c :: w ++ d :: t) = some (String.ofList (c :: w), d :: t) := by
    unfold step?
    split
    · next begins => exact absurd (List.cons.inj begins).1 (ne_of_isKeyStart start (by decide))
    · exact identifier
  simp only [Placeholder.path?,current,root,loop,ups,step,steps,readPart_append]
  rfl

private theorem afterWord? (word : IsWord w) (ends : isEnd d = true) {given : List Char}
    (other : ∀ e ∈ given, isEnd e = false) :
    afterWord? given (w ++ d :: t) = if w = given then some (d :: t) else none := by
  unfold Placeholder.afterWord?
  cases stripped : stripLead? given (w ++ d :: t) with
  | none =>
    rw [if_neg]
    rintro rfl
    rw [stripLead?_append] at stripped
    contradiction
  | some u =>
    obtain ⟨more,rfl,rfl⟩ := append_cons_inj (stripLead?_eq_some stripped).symm (not_mem_of_isEnd ends other)
    cases more with
    | nil =>
      rw [List.append_nil,if_pos rfl,List.nil_append]
      exact if_neg (by simp [not_isSymbol_of_isSign (isSign_of_isEnd ends)])
    | cons e more =>
      rw [if_neg (by simp)]
      exact if_pos (word.symbols e (by simp))

private theorem atKeyword (word : IsWord w) (ends : isEnd d = true) (other : w ≠ "as".toList ∧ w ≠ "else".toList) :
    atKeyword (w ++ d :: t) = false := by
  unfold Placeholder.atKeyword
  rw [List.any_eq_false]
  intro given listed
  have apart : w ≠ given ∧ ∀ e ∈ given, isEnd e = false := by
    simp only [List.mem_cons,List.not_mem_nil,or_false] at listed
    rcases listed with rfl | rfl
    · exact ⟨other.1,by simp [isEnd]⟩
    · exact ⟨other.2,by simp [isEnd]⟩
  cases stripped : stripLead? given (w ++ d :: t) with
  | none => simp
  | some u =>
    obtain ⟨more,rfl,rfl⟩ := append_cons_inj (stripLead?_eq_some stripped).symm (not_mem_of_isEnd ends apart.2)
    cases more with
    | nil => exact absurd (List.append_nil given) apart.1
    | cons e more =>
      have symbol := word.symbols e (by simp)
      simp [Placeholder.skipGap,not_isGap_of_isSymbol symbol,symbol]

private theorem afterLiteral? (word : IsWord w) (ends : isEnd d = true) (fuel : Nat) : afterLiteral? (fuel + 1) (w ++ d :: t) =
    if w = "null".toList ∨ w = "true".toList ∨ w = "false".toList then some (d :: t) else none := by
  have number : afterNumber? (w ++ d :: t) = none := by
    have unsigned := word.stripLead?_eq_none (d := '-') (by decide) [] (d :: t)
    obtain ⟨⟨c,w,rfl,start⟩,_⟩ := word
    rw [List.cons_append] at unsigned ⊢
    simp [Placeholder.afterNumber?,unsigned,not_isDigit_of_isKeyStart start]
  have words : (Placeholder.afterWord? "null".toList (w ++ d :: t)).or
      ((Placeholder.afterWord? "true".toList (w ++ d :: t)).or (Placeholder.afterWord? "false".toList (w ++ d :: t))) =
      if w = "null".toList ∨ w = "true".toList ∨ w = "false".toList then some (d :: t) else none := by
    rw [word.afterWord? ends (by simp [isEnd]),word.afterWord? ends (by simp [isEnd]),word.afterWord? ends (by simp [isEnd])]
    split <;> split <;> split <;> simp_all
  rw [← words]
  obtain ⟨⟨c,w,rfl,start⟩,_⟩ := word
  have apart (e : Char) (other : isKeyStart e = false) : c ≠ e := ne_of_isKeyStart start other
  rw [List.cons_append] at number ⊢
  unfold Placeholder.afterLiteral?
  split
  all_goals try (next begins => exact absurd (List.cons.inj begins).1 (apart _ (by decide)))
  rw [number]
  rfl

/-- As an argument, a word is read as what it says where that is a value, and as the way to a value everywhere else. -/
theorem term? (word : IsWord w) (other : w ≠ "as".toList ∧ w ≠ "else".toList) (ends : isEnd d = true) (fuel : Nat) :
    term? (fuel + 1) (w ++ d :: t) = some (if w = "null".toList ∨ w = "true".toList ∨ w = "false".toList
      then .literal (String.ofList w) (Json.ofText (String.ofList w)).toOption
      else .path (.ofWord w), d :: t) := by
  have literal : literal? (w ++ d :: t) = if w = "null".toList ∨ w = "true".toList ∨ w = "false".toList
      then some (.literal (String.ofList w) (Json.ofText (String.ofList w)).toOption, d :: t) else none := by
    rw [Placeholder.literal?,word.afterLiteral? ends]
    by_cases given : w = "null".toList ∨ w = "true".toList ∨ w = "false".toList
    · rw [if_pos given,if_pos given,Option.map_some,readPart_append]
      obtain ⟨⟨c,w,rfl,start⟩,_⟩ := word
      have unquoted : c ≠ '\'' := ne_of_isKeyStart start (by decide)
      dsimp only
      split
      · next begins => exact absurd (List.cons.inj begins).1 unquoted
      · rfl
    · rw [if_neg given,if_neg given]
      rfl
  rw [Placeholder.term?,word.atKeyword ends other,literal,word.path? ends]
  by_cases given : w = "null".toList ∨ w = "true".toList ∨ w = "false".toList
  · rw [if_pos given,if_pos given]
    rfl
  · rw [if_neg given,if_neg given]
    rfl

end IsWord

theorem arguments_cons {term : Term}
    (keyless : ∀ key behind, identifier? (skipGap s) = some (key, behind) → token? ['='] behind = none)
    (read : term? fuel (skipGap s) = some (term, rest)) :
    arguments (fuel + 1) s = (.mk none term :: (arguments fuel rest).1, (arguments fuel rest).2) := by
  rw [arguments]
  cases named : identifier? (skipGap s) with
  | none => simp only [Option.bind_none,read,Option.none_or,Option.map_some]
  | some found =>
    have behind := keyless found.1 found.2 named
    simp only [Option.bind_some,behind,Option.bind_none,read,Option.none_or,Option.map_some]

/-- Text that is read as an argument wherever it is ended, with as much fuel as it is long. -/
structure IsArgument (x : List Char) (term : Term) : Prop where
  gapless : ∀ s, skipGap (x ++ s) = x ++ s
  keyless : ∀ d t, isEnd d = true →
    ∀ key behind, identifier? (x ++ d :: t) = some (key, behind) → token? ['='] behind = none
  read : ∀ d t fuel, isEnd d = true → x.length ≤ fuel → term? fuel (x ++ d :: t) = some (term, d :: t)

theorem IsWord.isArgument (word : IsWord w) (other : w ≠ "as".toList ∧ w ≠ "else".toList) :
    IsArgument w (if w = "null".toList ∨ w = "true".toList ∨ w = "false".toList
      then .literal (String.ofList w) (Json.ofText (String.ofList w)).toOption
      else .path (.ofWord w)) where
  gapless := word.skipGap
  keyless d t ends key behind found := by
    cases (word.identifier? (not_isSymbol_end ends)).symm.trans found
    exact token?_end ends
  read d t fuel ends enough := by
    obtain ⟨⟨c,w,rfl,start⟩,symbols⟩ := word
    cases fuel with
    | zero => exact absurd enough (by simp)
    | succ fuel => exact IsWord.term? ⟨⟨c,w,rfl,start⟩,symbols⟩ other ends fuel

/-- An argument behind a blank is the only one if it is ended. -/
theorem IsArgument.arguments {term : Term} (argument : IsArgument w term) (ends : isEnd d = true) (enough : w.length < fuel) :
    arguments fuel (' ' :: (w ++ d :: t)) = ([.mk none term], d :: t) := by
  obtain ⟨fuel,rfl⟩ : ∃ less, fuel = less + 1 := ⟨fuel - 1,by omega⟩
  have start : skipGap (' ' :: (w ++ d :: t)) = w ++ d :: t := argument.gapless (d :: t)
  have keyless := argument.keyless d t ends
  have read := argument.read d t fuel ends (by omega)
  rw [← start] at keyless read
  rw [arguments_cons keyless read,arguments_end ends]

/-- Whatever data it is filled with, a call prints something that is escaped. -/
structure Call.IsHarmless (call : Call) : Prop where
  valid : call.invalid? = none
  answers : ∀ members, ∃ answer given, call.answer (.object members) [.root] = .ok (answer, given) ∧
    ((∃ json, answer = .value json) ∨ ∃ text, answer = .text (escapeHtml text))

private theorem exists_look (w : List Char) (members : List (String × Json)) :
    ∃ value, (Path.ofWord w).look (.object members) [.root] = .ok value := by
  by_cases still : String.ofList w = "this"
  · have path : Path.ofWord w = ⟨String.ofList w, false, false, 0, []⟩ := by simp [Path.ofWord,still]
    rw [path]
    exact ⟨_,rfl⟩
  · have path : Path.ofWord w = ⟨String.ofList w, false, false, 0, [String.ofList w]⟩ := by simp [Path.ofWord,still]
    have place : (Path.ofWord w).look (.object members) [.root] = atPlace (.object members) [String.ofList w] := by
      rw [path]
      simp [Path.look,given?,startScope,Scope.look,Scope.root,Keyed.lookup?]
    rw [place]
    cases found : Keyed.lookup? (String.ofList w) members with
    | none => exact ⟨.missing,by simp [atPlace,follow,stepInto,found]; rfl⟩
    | some json => exact ⟨⟨json,some [String.ofList w]⟩,by simp [atPlace,follow,stepInto,found]; rfl⟩

private theorem exists_term (word : IsWord w) (other : w ≠ "as".toList ∧ w ≠ "else".toList) :
    ∃ term, IsArgument w term ∧ term.invalid? = none ∧
      ∀ members, ∃ value, term.evaluate (.object members) [.root] = .ok value := by
  refine ⟨_,word.isArgument other,?_⟩
  split
  · next given =>
    have valid : ∃ json, (Json.ofText (String.ofList w)).toOption = some json := by
      rcases given with rfl | rfl | rfl
      · exact ⟨.null,rfl⟩
      · exact ⟨.bool true,rfl⟩
      · exact ⟨.bool false,rfl⟩
    obtain ⟨json,valid⟩ := valid
    rw [valid]
    exact ⟨rfl,fun members => ⟨_,rfl⟩⟩
  · exact ⟨rfl,fun members => exists_look w members⟩

private theorem bareName?_word (word : IsWord w) : bareName? (w ++ closing rest) =
    some (⟨.path (.ofWord w), []⟩, closing rest) := by
  have unopened : subterm? (2 * (w ++ closing rest).length + 2) (w ++ closing rest) = none := by
    obtain ⟨⟨c,t,rfl,start⟩,_⟩ := word
    unfold subterm?
    split
    · next begins => exact absurd (List.cons.inj begins).1 (ne_of_isKeyStart start (by decide))
    · rfl
  rw [bareName?,word.skipGap,unopened,word.path? rfl]
  rfl

private theorem value?_word (word : IsWord w) : value? (w ++ closing rest) =
    some (⟨.path (.ofWord w), []⟩, closing rest) := by
  rw [value?,word.skipGap,word.identifier? (not_isSymbol_end rfl)]
  simp only [arguments_end (d := '\x7d') rfl,bareName?_word word]

theorem value?_argument {name : List Char} (named : IsWord name) {term : Term} (argument : IsArgument w term) :
    value? (name ++ ' ' :: (w ++ closing rest)) = some (⟨.word (String.ofList name), [.mk none term]⟩, closing rest) := by
  have stops : ∀ d ∈ (' ' :: (w ++ closing rest)).head?, isSymbol d = false := by
    intro d first
    cases first
    decide
  rw [value?,named.skipGap,named.identifier? stops]
  simp only [argument.arguments (d := '\x7d') rfl (show w.length < 2 * (' ' :: (w ++ closing rest)).length + 2 by simp; omega)]

theorem mark?_of_value {call : Call} (word : IsWord w) (plain : ¬ "else".toList <+: w ++ s)
    (read : value? (w ++ s) = some (call, closing rest)) :
    mark? (doubleOpen ++ (w ++ s)) = some (⟨.print true call, false, false⟩, rest) := by
  have opened : stripLead? doubleOpen (doubleOpen ++ (w ++ s)) = some (w ++ s) := stripLead?_append _ _
  have untrimmed : takeTrim (w ++ s) = (false, w ++ s) := by
    have apart := word.stripLead?_eq_none (d := '~') (by decide) [] s
    simp [takeTrim,token?,word.skipGap,apart]
  have unbranched : token? "else".toList (w ++ s) = none := by
    rw [token?,word.skipGap,stripLead?_eq_none plain]
  have uncaret : token? ['^'] (w ++ s) = none := by
    rw [token?,word.skipGap,word.stripLead?_eq_none (by decide)]
  have branch (body : List Char → Option (Tag × List Char)) :
      (sigil? ["else".toList] body (doubleOpen ++ (w ++ s))).or (sigil? [['^']] body (doubleOpen ++ (w ++ s))) = none := by
    simp only [sigil?,opened,Option.bind_eq_bind,Option.bind_some,untrimmed,List.foldlM_cons,unbranched,uncaret,Option.bind_none,
      Option.none_or]
  have print : print? (doubleOpen ++ (w ++ s)) = some (⟨.print true call, false, false⟩, rest) := by
    simp only [print?,sigil?,opened,Option.bind_eq_bind,Option.bind_some,untrimmed,List.foldlM_nil,Option.pure_def,read,
      Option.map_some,finish?_closing]
  simp only [mark?,orElse?,orElseCall?,branch,print,Option.none_or,Option.some_or]

private theorem isHarmless_path (unowned : Helper.ofName? (String.ofList w) = none) :
    Call.IsHarmless ⟨.path (.ofWord w), []⟩ where
  valid := rfl
  answers members := by
    obtain ⟨value,found⟩ := exists_look w members
    have name : (Path.ofWord w).raw = String.ofList w := rfl
    refine ⟨.value value.json,false,?_,.inl ⟨_,rfl⟩⟩
    simp only [Call.answer,Term.nameIn,Term.evaluate,name,List.isEmpty_nil,if_true,ok_bind,unowned,found]
    rfl

private theorem isHarmless_helper {name : String} {helper : Helper} (named : Helper.ofName? name = some helper)
    (cased : helper = .upper ∨ helper = .lower) {term : Term} (valid : term.invalid? = none)
    (known : ∀ members, ∃ value, term.evaluate (.object members) [.root] = .ok value) :
    Call.IsHarmless ⟨.word name, [.mk none term]⟩ where
  valid := by simp [Call.invalid?,Term.invalid?,invalidAmong?,Argument.invalid?,valid]
  answers members := by
    obtain ⟨value,found⟩ := known members
    have given : argumentsIn (.object members) [.root] [.mk none term] = .ok ⟨[value], []⟩ := by
      simp only [argumentsIn,valuesOf,optionsOf,found]
      rfl
    have answer : ∃ text, helper.answer ⟨[value], []⟩ = .ok (.text (escapeHtml text)) := by
      rcases cased with rfl | rfl
      · exact ⟨_,rfl⟩
      · exact ⟨_,rfl⟩
    obtain ⟨text,answer⟩ := answer
    refine ⟨.text (escapeHtml text),true,?_,.inr ⟨text,rfl⟩⟩
    simp only [Call.answer,Term.nameIn,List.isEmpty_cons,Bool.false_eq_true,if_false,ok_bind,given,named,answer]
    rfl

theorem ofName?_uppercase : Helper.ofName? "uppercase" = some .upper := by
  simp [Helper.ofName?,Helper.every,Helper.name,Relation.name]

theorem ofName?_lowercase : Helper.ofName? "lowercase" = some .lower := by
  simp [Helper.ofName?,Helper.every,Helper.name,Relation.name]

theorem isWord_uppercase : IsWord "uppercase".toList := isWord_of_isKey (by decide)

theorem isWord_lowercase : IsWord "lowercase".toList := isWord_of_isKey (by decide)

private theorem mark?_argument {name : String} {helper : Helper} (named : Helper.ofName? name = some helper)
    (cased : helper = .upper ∨ helper = .lower) (word : IsWord name.toList) (apart : ∀ t, ¬ "else".toList <+: name.toList ++ t)
    (checked : isKey key = true) (other : key ≠ "as" ∧ key ≠ "else") (rest : List Char) :
    ∃ call : Call, call.IsHarmless ∧ mark? (doubleOpen ++ (name.toList ++ ' ' :: (key.toList ++ closing rest))) =
      some (⟨.print true call, false, false⟩, rest) := by
  have inner := isWord_of_isKey checked
  have free : key.toList ≠ "as".toList ∧ key.toList ≠ "else".toList :=
    ⟨fun same => other.1 (String.toList_inj.mp same),fun same => other.2 (String.toList_inj.mp same)⟩
  obtain ⟨term,argument,valid,known⟩ := exists_term inner free
  refine ⟨_,isHarmless_helper named cased valid known,mark?_of_value word (apart _) ?_⟩
  rw [value?_argument word argument,String.ofList_toList]

/-- A slot is read as one tag, whatever is behind it. -/
theorem mark?_slot {slot : Slot} (sound : slot.isSound = true) (rest : List Char) :
    ∃ call : Call, call.IsHarmless ∧ mark? (slot.source ++ rest) = some (⟨.print true call, false, false⟩, rest) := by
  have spelled : slot.source ++ rest = doubleOpen ++ (slot.body ++ closing rest) := by
    simp only [Slot.source,List.append_assoc]
    rfl
  rw [spelled]
  cases slot with
  | plain key =>
    simp only [Slot.isSound,Bool.and_eq_true,Option.isNone_iff_eq_none,Bool.not_eq_true'] at sound
    obtain ⟨⟨checked,unowned⟩,unbranched⟩ := sound
    have word := isWord_of_isKey checked
    have apart : ¬ "else".toList <+: key.toList ++ closing rest := by
      rintro ⟨t,same⟩
      obtain ⟨more,inner,-⟩ := append_cons_inj same (by decide)
      have leads := List.isPrefixOf_iff_prefix.mpr ⟨more,inner.symm⟩
      rw [leads] at unbranched
      contradiction
    refine ⟨_,isHarmless_path ?_,mark?_of_value word apart (value?_word word)⟩
    rw [Slot.body_plain,String.ofList_toList,unowned]
  | upper key =>
    simp only [Slot.isSound,Bool.and_eq_true,bne_iff_ne] at sound
    rw [Slot.body_upper,List.append_assoc,List.cons_append]
    exact mark?_argument ofName?_uppercase (.inl rfl) isWord_uppercase (by simp) sound.1.1 ⟨sound.1.2,sound.2⟩ rest
  | lower key =>
    simp only [Slot.isSound,Bool.and_eq_true,bne_iff_ne] at sound
    rw [Slot.body_lower,List.append_assoc,List.cons_append]
    exact mark?_argument ofName?_lowercase (.inr rfl) isWord_lowercase (by simp) sound.1.1 ⟨sound.1.2,sound.2⟩ rest

end Letterpress.Placeholder
