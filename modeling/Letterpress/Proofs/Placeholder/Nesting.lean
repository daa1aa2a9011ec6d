import Letterpress.Proofs.Placeholder.Forms

/-! Helpers for letter case around a key, one inside the other. Every helper escapes what it gives, so a text is escaped as many
times as there are helpers around it, and what is compared with is escaped as well. -/
namespace Letterpress.Placeholder
open Letterpress.Text

/-- The helpers that put a text into one letter case. -/
inductive Recase
  | upper
  | lower
  deriving DecidableEq, Repr

namespace Recase

def helper : Recase → Helper
  | upper => .upper
  | lower => .lower

def name (c : Recase) : String := c.helper.name

def change : Recase → String → String
  | upper => Text.upper
  | lower => Text.lower

private theorem ofName?_name (c : Recase) : Helper.ofName? c.name = some c.helper := by
  cases c with
  | upper => exact ofName?_uppercase
  | lower => exact ofName?_lowercase

theorem isWord_name (c : Recase) : IsWord c.name.toList := by
  cases c with
  | upper => exact isWord_uppercase
  | lower => exact isWord_lowercase

private theorem answer_text (c : Recase) (s : String) (keys : Option (List String)) :
    c.helper.answer ⟨[⟨.string s, keys⟩], []⟩ = .ok (.text (escapeHtml (c.change s))) := by
  cases c <;> rfl

end Recase

/-- The words that have a meaning of their own where an argument stands. -/
def keywords : List String := ["as", "else", "null", "true", "false", "this"]

/-- A key that is read as the way to the value under it wherever it is an argument. -/
def isWay (key : String) : Bool := isKey key && !keywords.contains key

/-- A key with helpers around it, the outermost first, as it stands where an argument does. -/
def wrapped (key : String) : List Recase → List Char
  | [] => key.toList
  | c :: cs => '(' :: (c.name.toList ++ ' ' :: (wrapped key cs ++ [')']))

def wrappedTerm (key : String) : List Recase → Term
  | [] => .path (.ofWord key.toList)
  | c :: cs => .call (.word c.name) [.mk none (wrappedTerm key cs)]

/-- A key under at least one helper, as a call of its own. -/
def wrappedCall (key : String) (c : Recase) (cs : List Recase) : Call := ⟨.word c.name, [.mk none (wrappedTerm key cs)]⟩

/-- What helpers make of a text, the outermost first. -/
def escapedEach (cs : List Recase) (s : String) : String := cs.foldr (fun c text => escapeHtml (c.change text)) s

variable {key : String} {x name s rest : List Char} {term : Term} {fuel : Nat}

theorem not_isSymbol_blank (s : List Char) : ∀ d ∈ (' ' :: s).head?, isSymbol d = false := by
  intro d first
  cases first
  decide

theorem term?_call (named : IsWord name) {first : Argument} {others : List Argument}
    (read : arguments fuel (' ' :: s) = (first :: others, ')' :: rest)) :
    term? (fuel + 2) ('(' :: (name ++ ' ' :: s)) = some (.call (.word (String.ofList name)) (first :: others), rest) := by
  have closed : token? [')'] (')' :: rest) = some rest := by
    rw [token?,skipGap_sign rfl]
    rfl
  rw [term?,atKeyword_sign rfl,literal?_sign rfl,path?_sign rfl,subterm?]
  simp only [named.skipGap,named.identifier? (not_isSymbol_blank s),read,Option.bind_some,closed]
  rfl

private theorem IsArgument.call (named : IsWord name) (argument : IsArgument x term) :
    IsArgument ('(' :: (name ++ ' ' :: (x ++ [')']))) (.call (.word (String.ofList name)) [.mk none term]) where
  gapless s := skipGap_sign rfl
  keyless d t _ key behind found := by
    rw [List.cons_append,identifier?_sign rfl] at found
    exact nomatch found
  read d t fuel _ enough := by
    have spelled : '(' :: (name ++ ' ' :: (x ++ [')'])) ++ d :: t = '(' :: (name ++ ' ' :: (x ++ ')' :: d :: t)) := by simp
    simp only [List.length_cons,List.length_append,List.length_nil] at enough
    obtain ⟨fuel,rfl⟩ : ∃ less, fuel = less + 2 := ⟨fuel - 2,by omega⟩
    rw [spelled]
    exact term?_call named (argument.arguments rfl (by omega))

private theorem isWord_of_isWay (way : isWay key = true) : IsWord key.toList := by
  simp only [isWay,Bool.and_eq_true] at way
  exact isWord_of_isKey way.1

private theorem isArgument_key (way : isWay key = true) : IsArgument key.toList (.path (.ofWord key.toList)) := by
  have word := isWord_of_isWay way
  simp only [isWay,keywords,Bool.and_eq_true,Bool.not_eq_true',List.contains_eq_mem,List.mem_cons,decide_eq_false_iff_not,
    not_or] at way
  have free (w : String) (other : key ≠ w) : key.toList ≠ w.toList := fun same => other (String.toList_inj.mp same)
  obtain ⟨-,as,notElse,null,notTrue,notFalse,-⟩ := way
  have argument := word.isArgument ⟨free _ as,free _ notElse⟩
  rwa [if_neg] at argument
  rintro (same | same | same)
  · exact free _ null same
  · exact free _ notTrue same
  · exact free _ notFalse same

theorem isArgument_wrapped (way : isWay key = true) (cs : List Recase) : IsArgument (wrapped key cs) (wrappedTerm key cs) := by
  induction cs with
  | nil => exact isArgument_key way
  | cons c cs ih =>
    have outer := IsArgument.call c.isWord_name ih
    rwa [String.ofList_toList] at outer

section Evaluating
variable {members : List (String × Json)} {s : String}

private theorem look_key (way : isWay key = true) (found : Keyed.lookup? key members = some (.string s)) :
    (Path.ofWord key.toList).look (.object members) [.root] = .ok ⟨.string s, some [key]⟩ := by
  have moves : key ≠ "this" := by
    rintro rfl
    exact absurd way (by decide)
  have path : Path.ofWord key.toList = ⟨key, false, false, 0, [key]⟩ := by simp [Path.ofWord,moves]
  rw [path]
  simp [Path.look,given?,startScope,Scope.look,Scope.root,Keyed.lookup?,atPlace,follow,stepInto,found]
  rfl

/-- Wherever a key under helpers is an argument, its value is the text as the helpers have escaped it. -/
theorem evaluate_wrapped (way : isWay key = true) (found : Keyed.lookup? key members = some (.string s)) (cs : List Recase) :
    ∃ keys, (wrappedTerm key cs).evaluate (.object members) [.root] = .ok ⟨.string (escapedEach cs s), keys⟩ := by
  induction cs with
  | nil => exact ⟨_,look_key way found⟩
  | cons c cs ih =>
    obtain ⟨keys,inner⟩ := ih
    refine ⟨none,?_⟩
    simp only [wrappedTerm,Term.evaluate,valuesOf,optionsOf,inner,Term.nameIn,ok_bind,c.ofName?_name]
    change (c.helper.answer ⟨[⟨.string (escapedEach cs s), keys⟩], []⟩ >>= _) = _
    rw [c.answer_text]
    rfl

theorem answer_wrapped (way : isWay key = true) (found : Keyed.lookup? key members = some (.string s)) (c : Recase)
    (cs : List Recase) :
    (wrappedCall key c cs).answer (.object members) [.root] =
      .ok (.text (escapedEach (c :: cs) s), true) := by
  obtain ⟨keys,inner⟩ := evaluate_wrapped way found cs
  have given : argumentsIn (.object members) [.root] [.mk none (wrappedTerm key cs)] =
      .ok ⟨[⟨.string (escapedEach cs s), keys⟩], []⟩ := by
    simp only [argumentsIn,valuesOf,optionsOf,inner]
    rfl
  simp only [wrappedCall,Call.answer,Term.nameIn,List.isEmpty_cons,Bool.false_eq_true,if_false,ok_bind,given,c.ofName?_name,
    c.answer_text]
  rfl

end Evaluating

theorem invalid?_wrappedTerm (key : String) (cs : List Recase) : (wrappedTerm key cs).invalid? = none := by
  induction cs with
  | nil => rfl
  | cons c cs ih => simp [wrappedTerm,Term.invalid?,invalidAmong?,Argument.invalid?,ih]

/-- A key under helpers as a tag of its own. -/
def wrappedTag (key : String) (c : Recase) (cs : List Recase) : List Char :=
  doubleOpen ++ (c.name.toList ++ ' ' :: (wrapped key cs ++ doubleClose))

private theorem mark?_wrappedTag (way : isWay key = true) (c : Recase) (cs : List Recase) (rest : List Char) :
    mark? (wrappedTag key c cs ++ rest) =
      some (⟨.print true (wrappedCall key c cs), false, false⟩, rest) := by
  have spelled : wrappedTag key c cs ++ rest = doubleOpen ++ (c.name.toList ++ ' ' :: (wrapped key cs ++ closing rest)) := by
    simp only [wrappedTag,List.append_assoc,List.cons_append]
    rfl
  have apart : ¬ "else".toList <+: c.name.toList ++ ' ' :: (wrapped key cs ++ closing rest) := by
    cases c <;> simp [Recase.name,Recase.helper,Helper.name]
  have read : value? (c.name.toList ++ ' ' :: (wrapped key cs ++ closing rest)) = some (wrappedCall key c cs, closing rest) := by
    rw [value?_argument c.isWord_name (isArgument_wrapped way cs),String.ofList_toList]
    rfl
  rw [spelled]
  exact mark?_of_value c.isWord_name apart read

theorem leads_nil : Leads "".toList where
  plain := by decide
  stops := by decide

theorem ofSource_wrappedTag (way : isWay key = true) (c : Recase) (cs : List Recase) :
    Template.ofSource (String.ofList (wrappedTag key c cs)) =
      .ok ⟨[.print .start true (wrappedCall key c cs)]⟩ := by
  have read := mark?_wrappedTag way c cs []
  rw [List.append_nil,wrappedTag] at read
  obtain ⟨next,cut⟩ := piecesFrom?_tag leads_nil read (wrappedTag key c cs).length .start
  have found : pieces? (wrappedTag key c cs) = some ⟨[⟨.ofText "",
      ⟨.print true (wrappedCall key c cs), false, false⟩, .start⟩], .ofText ""⟩ := by
    refine cut.trans ?_
    have last : piecesFrom? (wrappedTag key c cs).length false next "".toList = some ⟨[], .ofText ""⟩ :=
      piecesFrom?_text (by decide) _ next
    change (piecesFrom? (wrappedTag key c cs).length false next "".toList).map _ = _
    rw [last]
    rfl
  have trimmed : Pieces.trim ⟨[⟨.ofText "", ⟨.print true (wrappedCall key c cs), false, false⟩, .start⟩],
      .ofText ""⟩ = ([⟨none, .print true (wrappedCall key c cs), .start, false, none⟩], none) := rfl
  have nested : isNested [.print true (wrappedCall key c cs)] = true := rfl
  have valid : (wrappedCall key c cs).invalid? = none := by
    simp [wrappedCall,Call.invalid?,Term.invalid?,invalidAmong?,Argument.invalid?,invalid?_wrappedTerm]
  rw [Template.ofSource,String.toList_ofList,found]
  simp only [List.map_cons,List.map_nil,nested,trimmed,List.foldlM_cons,List.foldlM_nil,Building.step,Tag.call?,Option.bind_some,
    valid]
  rfl

theorem fill_of_text {call : Call} {data : Json} {text : String} (answered : call.answer data [.root] = .ok (.text text, true))
    (place : Position) : Template.fill ⟨[.print place true call]⟩ data = .ok text := by
  rw [Template.fill]
  change (fillAll data _ (fillUnder data _ 999) [.print place true call] .start).map _ = _
  have scopes : Filling.start.scopes = [.root] := rfl
  rw [fillAll,fill_print,scopes,answered]
  change Except.ok ("" ++ text) = _
  rw [String.empty_append]

end Letterpress.Placeholder
