import Letterpress.Proofs.Placeholder.Nesting

/-! Blocks that are shown where a key under helpers for letter case is in some relation to a text. Such a block is read as one
node, and filling it shows its word if the relation holds of the text under the key as the helpers have escaped it. -/
namespace Letterpress.Placeholder
open Letterpress.Text

variable {key : String} {x name s rest : List Char} {term : Term} {fuel : Nat}

/-- What may stand between double quotes and means itself. -/
def isPlainText (s : List Char) : Bool := s.all fun c => c != '"' && c != '\\' && 0x20 ≤ c.toNat

private theorem afterText?_plain (plain : isPlainText s = true) (rest : List Char) :
    afterText? '"' (s ++ '"' :: rest) = some rest := by
  induction s with
  | nil =>
    unfold afterText?
    rfl
  | cons c s ih =>
    simp only [isPlainText,List.all_cons,Bool.and_eq_true,bne_iff_ne] at plain
    rw [List.cons_append]
    unfold afterText?
    rw [if_neg plain.1.1.1,if_neg plain.1.1.2]
    exact ih plain.2

private theorem scanText_plain (plain : isPlainText s = true) (before : List Char) (enough : s.length < fuel) :
    Json.scanText (.ok before) fuel (s ++ ['"']) = .ok (.ok (String.ofList (before.reverse ++ s)), []) := by
  induction s generalizing before fuel with
  | nil =>
    obtain ⟨fuel,rfl⟩ : ∃ less, fuel = less + 1 := ⟨fuel - 1,by simp at enough; omega⟩
    simp [Json.scanText,Except.map]
  | cons c s ih =>
    obtain ⟨fuel,rfl⟩ : ∃ less, fuel = less + 1 := ⟨fuel - 1,by omega⟩
    simp only [isPlainText,List.all_cons,Bool.and_eq_true,bne_iff_ne] at plain
    have later := ih plain.2 (c :: before) (by simpa using enough)
    rw [List.reverse_cons,List.append_assoc,List.singleton_append] at later
    have low : ¬ c.toNat < 0x20 := by simpa using plain.1.2
    rw [List.cons_append,Json.scanText]
    · rw [if_neg low]
      exact later
    · exact fun same => plain.1.1.1 same
    · exact fun same => plain.1.1.2 same

private theorem literal?_text {text : String} (plain : isPlainText text.toList = true) (rest : List Char) :
    literal? ('"' :: (text.toList ++ '"' :: rest)) =
      some (.literal (String.ofList ('"' :: (text.toList ++ ['"']))) (some (.string text)), rest) := by
  have after (fuel : Nat) : afterLiteral? (fuel + 1) ('"' :: (text.toList ++ '"' :: rest)) = some rest :=
    afterText?_plain plain rest
  have source : readPart ('"' :: (text.toList ++ '"' :: rest)) rest = '"' :: (text.toList ++ ['"']) := by
    have spelled : '"' :: (text.toList ++ '"' :: rest) = '"' :: (text.toList ++ ['"']) ++ rest := by simp
    rw [spelled,readPart_append]
  have json : Json.ofText (String.ofList ('"' :: (text.toList ++ ['"']))) = .ok (.string text) := by
    have scanned : Json.scanString (text.toList ++ ['"']) = .ok (.ok text, []) := by
      rw [Json.scanString,scanText_plain plain [] (by rw [List.length_append]; omega)]
      simp
    have drafted : Json.Draft.ofText ('"' :: (text.toList ++ ['"'])) = (.string (.ok text), false) := by
      have start : Json.skip ('"' :: (text.toList ++ ['"'])) = '"' :: (text.toList ++ ['"']) := rfl
      rw [Json.Draft.ofText,Json.draftValue]
      simp only [start,scanned]
      rfl
    rw [Json.ofText,String.toList_ofList,drafted]
    rfl
  rw [literal?,after,Option.map_some,source]
  change some (Term.literal _ (Json.ofText (String.ofList ('"' :: (text.toList ++ ['"'])))).toOption, rest) = _
  rw [json]
  rfl

/-- A text in double quotes as an argument. -/
def quotedTerm (text : String) : Term := .literal (String.ofList ('"' :: (text.toList ++ ['"']))) (some (.string text))

private theorem term?_text {text : String} (plain : isPlainText text.toList = true) (rest : List Char) (fuel : Nat) :
    term? (fuel + 1) ('"' :: (text.toList ++ '"' :: rest)) = some (quotedTerm text, rest) := by
  have keyword : atKeyword ('"' :: (text.toList ++ '"' :: rest)) = false := by simp [atKeyword,stripLead?]
  rw [term?,keyword,literal?_text plain]
  rfl

private theorem arguments_text {text : String} (plain : isPlainText text.toList = true) (rest : List Char) (fuel : Nat) :
    arguments (fuel + 2) (' ' :: '"' :: (text.toList ++ '"' :: ')' :: rest)) = ([.mk none (quotedTerm text)], ')' :: rest) := by
  have start : skipGap (' ' :: '"' :: (text.toList ++ '"' :: ')' :: rest)) = '"' :: (text.toList ++ '"' :: ')' :: rest) := rfl
  have nameless : identifier? ('"' :: (text.toList ++ '"' :: ')' :: rest)) = none := rfl
  have read := term?_text plain (')' :: rest) fuel
  rw [← start] at nameless read
  rw [arguments_cons (fun _ _ named => nomatch nameless.symm.trans named) read,arguments_end rfl]

private theorem term?_wrapped (way : isWay key = true) (c : Recase) (cs : List Recase) (rest : List Char)
    (enough : (wrapped key (c :: cs)).length ≤ fuel) :
    term? fuel (wrapped key (c :: cs) ++ rest) = some (wrappedTerm key (c :: cs), rest) := by
  have spelled : wrapped key (c :: cs) ++ rest = '(' :: (c.name.toList ++ ' ' :: (wrapped key cs ++ ')' :: rest)) := by
    simp [wrapped]
  simp only [wrapped,List.length_cons,List.length_append,List.length_nil] at enough
  obtain ⟨fuel,rfl⟩ : ∃ less, fuel = less + 2 := ⟨fuel - 2,by omega⟩
  have read : arguments fuel (' ' :: (wrapped key cs ++ ')' :: rest)) = ([.mk none (wrappedTerm key cs)], ')' :: rest) :=
    (isArgument_wrapped way cs).arguments rfl (by omega)
  rw [spelled,term?_call c.isWord_name read,String.ofList_toList]
  rfl

private theorem arguments_compared (way : isWay key = true) (c : Recase) (cs : List Recase) {text : String}
    (plain : isPlainText text.toList = true) (rest : List Char) (enough : (wrapped key (c :: cs)).length + 2 < fuel) :
    arguments fuel (' ' :: (wrapped key (c :: cs) ++ ' ' :: '"' :: (text.toList ++ '"' :: ')' :: rest))) =
      ([.mk none (wrappedTerm key (c :: cs)), .mk none (quotedTerm text)], ')' :: rest) := by
  obtain ⟨fuel,rfl⟩ : ∃ less, fuel = less + 3 := ⟨fuel - 3,by omega⟩
  let behind := ' ' :: '"' :: (text.toList ++ '"' :: ')' :: rest)
  have start : skipGap (' ' :: (wrapped key (c :: cs) ++ behind)) = wrapped key (c :: cs) ++ behind :=
    (isArgument_wrapped way (c :: cs)).gapless behind
  have nameless : identifier? (wrapped key (c :: cs) ++ behind) = none := identifier?_sign rfl
  have read : term? (fuel + 2) (wrapped key (c :: cs) ++ behind) = some (wrappedTerm key (c :: cs), behind) :=
    term?_wrapped way c cs behind (by omega)
  rw [← start] at nameless read
  rw [arguments_cons (fun _ _ named => nomatch nameless.symm.trans named) read,arguments_text plain]

private theorem isWord_relation (r : Relation) : IsWord r.name.toList := by
  cases r <;> exact isWord_of_isKey (by decide)

/-- A relation between a key under helpers and a text, as an argument. -/
def compared (r : Relation) (key : String) (c : Recase) (cs : List Recase) (text : String) : List Char :=
  '(' :: (r.name.toList ++ ' ' :: (wrapped key (c :: cs) ++ ' ' :: '"' :: (text.toList ++ ['"', ')'])))

def comparedTerm (r : Relation) (key : String) (c : Recase) (cs : List Recase) (text : String) : Term :=
  .call (.word r.name) [.mk none (wrappedTerm key (c :: cs)), .mk none (quotedTerm text)]

theorem isArgument_compared (r : Relation) (way : isWay key = true) (c : Recase) (cs : List Recase) {text : String}
    (plain : isPlainText text.toList = true) : IsArgument (compared r key c cs text) (comparedTerm r key c cs text) where
  gapless s := skipGap_sign rfl
  keyless d t _ key behind found := by
    rw [compared,List.cons_append,identifier?_sign rfl] at found
    exact nomatch found
  read d t fuel _ enough := by
    have spelled : compared r key c cs text ++ d :: t =
        '(' :: (r.name.toList ++ ' ' :: (wrapped key (c :: cs) ++ ' ' :: '"' :: (text.toList ++ '"' :: ')' :: d :: t))) := by
      simp [compared]
    simp only [compared,List.length_cons,List.length_append,List.length_nil] at enough
    obtain ⟨fuel,rfl⟩ : ∃ less, fuel = less + 2 := ⟨fuel - 2,by omega⟩
    have fueled : (wrapped key (c :: cs)).length + 2 < fuel := by omega
    rw [spelled,term?_call (isWord_relation r) (arguments_compared way c cs plain (d :: t) fueled),String.ofList_toList]
    rfl

private theorem line?_argument (named : IsWord name) (argument : IsArgument x term) (rest : List Char) :
    line? (name ++ ' ' :: (x ++ closing rest)) =
      some ((⟨.word (String.ofList name), [.mk none term]⟩, []), closing rest) := by
  have found : arguments (2 * (' ' :: (x ++ closing rest)).length + 2) (' ' :: (x ++ closing rest)) =
      ([.mk none term], closing rest) :=
    argument.arguments rfl (by simp; omega)
  have unnamed : takeLocals (closing rest) = ([], closing rest) := by
    have as : token? "as".toList (closing rest) = none := by simp [token?,skipGap_sign (d := '\x7d') rfl,stripLead?]
    simp only [takeLocals,as]
    rfl
  rw [line?,named.skipGap,named.identifier? (not_isSymbol_blank _)]
  simp only [Option.map_some,found,unnamed]

private theorem mark?_openBlock {call : Call} {locals : List String} (read : line? s = some ((call, locals), closing rest)) :
    mark? (doubleOpen ++ '#' :: s) = some (⟨.openBlock call locals, false, false⟩, rest) := by
  have opened : stripLead? doubleOpen (doubleOpen ++ '#' :: s) = some ('#' :: s) := stripLead?_append _ _
  have start : skipGap ('#' :: s) = '#' :: s := skipGap_sign rfl
  have other (lead : List Char) {d : Char} (other : d ≠ '#') : token? (d :: lead) ('#' :: s) = none := by
    rw [token?,start,stripLead?,if_neg other]
  have untrimmed : takeTrim ('#' :: s) = (false, '#' :: s) := by rw [takeTrim,other [] (by decide)]
  have unread (lead : List Char) {d : Char} (apart : d ≠ '#') (tokens : List (List Char))
      (body : List Char → Option (Tag × List Char)) : sigil? ((d :: lead) :: tokens) body (doubleOpen ++ '#' :: s) = none := by
    simp only [sigil?,opened,Option.bind_eq_bind,Option.bind_some,untrimmed,List.foldlM_cons,other lead apart,Option.bind_none]
  have bare : bareName? ('#' :: s) = none := by
    have unopened (fuel : Nat) : subterm? fuel ('#' :: s) = none := by cases fuel <;> rfl
    rw [bareName?,start,unopened,path?_sign rfl]
    rfl
  have value : value? ('#' :: s) = none := by
    rw [value?,start,identifier?_sign rfl]
    exact bare
  have print : print? (doubleOpen ++ '#' :: s) = none := by
    simp only [print?,sigil?,opened,Option.bind_eq_bind,Option.bind_some,untrimmed,List.foldlM_nil,Option.pure_def,value,
      Option.map_none,Option.bind_none]
  have branches : orElse? (doubleOpen ++ '#' :: s) = none ∧ orElseCall? (doubleOpen ++ '#' :: s) = none := by
    have spelled : "else".toList = 'e' :: "lse".toList := by decide
    constructor
    · rw [orElse?,spelled]
      simp only [unread _ (show 'e' ≠ '#' by decide),unread _ (show '^' ≠ '#' by decide),Option.none_or]
    · rw [orElseCall?,spelled]
      simp only [unread _ (show 'e' ≠ '#' by decide),unread _ (show '^' ≠ '#' by decide),Option.none_or]
  have raw : printRaw? (doubleOpen ++ '#' :: s) = none := by
    have triple : stripLead? ['\x7b', '\x7b', '\x7b'] (doubleOpen ++ '#' :: s) = none := by simp [doubleOpen,stripLead?]
    simp only [printRaw?,triple,Option.bind_eq_bind,Option.bind_none,unread _ (show '\x7b' ≠ '#' by decide),
      unread _ (show '&' ≠ '#' by decide),Option.none_or]
  have block : openBlock? (doubleOpen ++ '#' :: s) = some (⟨.openBlock call locals, false, false⟩, rest) := by
    have sharp : token? ['#'] ('#' :: s) = some s := by
      rw [token?,start]
      rfl
    simp only [openBlock?,sigil?,opened,Option.bind_eq_bind,Option.bind_some,untrimmed,List.foldlM_cons,List.foldlM_nil,sharp,
      Option.pure_def,read,Option.map_some,finish?_closing]
  simp only [mark?,branches.1,branches.2,print,raw,block,Option.none_or,Option.some_or]

def ifCall (term : Term) : Call := ⟨.word "if", [.mk none term]⟩

/-- A block that shows a word where an argument counts as true. -/
def shownIf (argument : List Char) (shown : String) : List Char :=
  doubleOpen ++ '#' :: ("if".toList ++ ' ' :: (argument ++ closing (shown.toList ++ "\x7b\x7b/if\x7d\x7d".toList)))

private theorem leads_of_isWord (word : IsWord s) : Leads s where
  plain within := by
    -- there are two braces in it, and only one of them is not in the word
    have twice := within.sublist.count_le '\x7b'
    have inside : '\x7b' ∈ s := by
      rw [List.count_append] at twice
      have brace : ['\x7b'].count '\x7b' = 1 := rfl
      have braces : doubleOpen.count '\x7b' = 2 := rfl
      exact List.count_pos_iff.mp (by omega)
    exact absurd (word.symbols _ inside) (by decide)
  stops ends := absurd (word.symbols _ (List.mem_of_getLast? ends)) (by decide)

private theorem mark?_closeIf : mark? "\x7b\x7b/if\x7d\x7d".toList = some (⟨.close "if", false, false⟩, []) := by
  with_unfolding_all rfl

private theorem pieces?_shownIf (argument : IsArgument x term) {shown : String} (word : IsWord shown.toList) :
    ∃ place, pieces? (shownIf x shown) = some ⟨[⟨.ofText "", ⟨.openBlock (ifCall term) [], false, false⟩, .start⟩,
      ⟨.ofText shown, ⟨.close "if", false, false⟩, place⟩], .ofText ""⟩ := by
  have ifWord : IsWord "if".toList := isWord_of_isKey (by decide)
  have opens := mark?_openBlock (line?_argument ifWord argument (shown.toList ++ "\x7b\x7b/if\x7d\x7d".toList))
  obtain ⟨fuel,enough⟩ : ∃ fuel, (shownIf x shown).length = fuel + 2 :=
    ⟨(shownIf x shown).length - 2,by simp [shownIf,doubleOpen]⟩
  obtain ⟨next,cut⟩ := piecesFrom?_tag leads_nil opens (fuel + 2) .start
  obtain ⟨last,recut⟩ := piecesFrom?_tag (leads_of_isWord word) mark?_closeIf (fuel + 1) next
  refine ⟨shown.toList.foldl Position.advance next,?_⟩
  rw [pieces?,enough]
  refine cut.trans ?_
  have rest : piecesFrom? (fuel + 1) false last "".toList = some ⟨[], .ofText ""⟩ := piecesFrom?_text (by decide) fuel last
  change (piecesFrom? (fuel + 2) false next (shown.toList ++ "\x7b\x7b/if\x7d\x7d".toList)).map _ = _
  have recut : piecesFrom? (fuel + 2) false next (shown.toList ++ "\x7b\x7b/if\x7d\x7d".toList) = _ := recut
  rw [recut]
  change ((piecesFrom? (fuel + 1) false last "".toList).map _).map _ = _
  rw [rest]
  rfl

private theorem not_isLine_of_isSymbol {c : Char} (symbol : isSymbol c = true) :
    isLineBlank c = false ∧ isLineBreak c = false := by
  have notGap := not_isGap_of_isSymbol symbol
  simp only [isGap,Bool.or_eq_false_iff] at notGap
  simp [isLineBlank,isLineBreak,notGap]

private theorem endsLine_word (word : IsWord s) (last : Bool) : endsLine last s = false := by
  obtain ⟨⟨c,s,rfl,-⟩,symbols⟩ := word
  obtain ⟨blank,lineBreak⟩ := not_isLine_of_isSymbol (symbols c List.mem_cons_self)
  rw [endsLine,dropLineBlanks,List.dropWhile_cons_of_neg (by simp [blank])]
  exact lineBreak

private theorem beginsLine_word (word : IsWord s) (first : Bool) : beginsLine first s = false := by
  obtain ⟨⟨c,s,rfl,-⟩,symbols⟩ := word
  obtain ⟨d,t,ends⟩ := List.exists_cons_of_ne_nil (List.reverse_ne_nil_iff.mpr (List.cons_ne_nil c s))
  have member : d ∈ c :: s := List.mem_reverse.mp (by rw [ends]; exact List.mem_cons_self)
  obtain ⟨blank,lineBreak⟩ := not_isLine_of_isSymbol (symbols d member)
  rw [beginsLine,ends,List.dropWhile_cons_of_neg (by simp [blank])]
  exact lineBreak

/-- The text of the branch stands on the line of both tags, so neither takes anything of it. -/
theorem trim_shownIf (term : Term) {shown : String} (word : IsWord shown.toList) (place : Position) :
    ∃ indent, Pieces.trim ⟨[⟨.ofText "", ⟨.openBlock (ifCall term) [], false, false⟩, .start⟩,
      ⟨.ofText shown, ⟨.close "if", false, false⟩, place⟩], .ofText ""⟩ =
    ([⟨none, .openBlock (ifCall term) [], .start, false, none⟩,
      ⟨some shown.toList, .close "if", place, false, indent⟩], none) := by
  have filled : shown ≠ "" := by
    rintro rfl
    obtain ⟨c,t,filled,-⟩ := word.start
    exact List.cons_ne_nil c t filled.symm
  have ends : endsLine false shown.toList = false := endsLine_word word false
  have begins : beginsLine false shown.toList = false := beginsLine_word word false
  have source : (Run.ofText shown).source = shown.toList := rfl
  simp only [Pieces.trim,trimFrom,after_ofText,if_pos,if_neg filled,Tag.takesLines,Tag.isComment,source,ends,begins,
    List.isEmpty_cons,Bool.false_eq_true,if_false,Bool.and_false,Bool.false_and,Option.map_none]
  exact ⟨_,rfl⟩

theorem ofSource_shownIf (argument : IsArgument x term) (valid : term.invalid? = none) {shown : String}
    (word : IsWord shown.toList) : Template.ofSource (String.ofList (shownIf x shown)) =
      .ok ⟨[.block (some .start) (ifCall term) [] false [.text shown] none]⟩ := by
  obtain ⟨place,found⟩ := pieces?_shownIf argument word
  obtain ⟨indent,trimmed⟩ := trim_shownIf term word place
  have nested : isNested [.openBlock (ifCall term) [], .close "if"] = true := by rfl
  have sound : (ifCall term).invalid? = none := by simp [ifCall,Call.invalid?,Term.invalid?,invalidAmong?,Argument.invalid?,valid]
  rw [Template.ofSource,String.toList_ofList,found]
  simp only [List.map_cons,List.map_nil,nested,trimmed,List.foldlM_cons,List.foldlM_nil,Building.step,Tag.call?,Option.bind_some,
    sound]
  change Except.ok (Template.mk [Node.block (some .start) (ifCall term) [] false [.text (String.ofList shown.toList)] none]) = _
  rw [String.ofList_toList]

section Filled
variable {members : List (String × Json)} {s : String}

private theorem ofName?_relation (r : Relation) : Helper.ofName? r.name = some (.relation r) := by
  cases r <;> simp [Helper.ofName?,Helper.every,Helper.name,Relation.name]

theorem evaluate_compared (r : Relation) (way : isWay key = true) (found : Keyed.lookup? key members = some (.string s))
    (c : Recase) (cs : List Recase) (text : String) : (comparedTerm r key c cs text).evaluate (.object members) [.root] =
      .ok ⟨.bool (r.holds (.string (escapedEach (c :: cs) s)) (.string text)), none⟩ := by
  obtain ⟨keys,inner⟩ := evaluate_wrapped way found (c :: cs)
  have values : valuesOf (.object members) [.root] [.mk none (wrappedTerm key (c :: cs)), .mk none (quotedTerm text)] =
      .ok [⟨.string (escapedEach (c :: cs) s), keys⟩, ⟨.string text, none⟩] := by
    simp only [valuesOf,inner,ok_bind]
    rfl
  have options : optionsOf (.object members) [.root] [.mk none (wrappedTerm key (c :: cs)), .mk none (quotedTerm text)] =
      .ok [] := by
    simp only [optionsOf]
  simp only [comparedTerm,Term.evaluate,values,options,Term.nameIn,ok_bind,ofName?_relation]
  rfl

theorem fill_shownIf {term : Term} {data : Json} {holds : Bool}
    (evaluated : term.evaluate data [.root] = .ok ⟨.bool holds, none⟩) (place : Position) (shown : String) :
    Template.fill ⟨[.block (some place) (ifCall term) [] false [.text shown] none]⟩ data =
      .ok (if holds then shown else "") := by
  have arguments : argumentsIn data [.root] [.mk none term] = .ok ⟨[⟨.bool holds, none⟩], []⟩ := by
    simp only [argumentsIn,valuesOf,optionsOf,evaluated]
    rfl
  have helper : Helper.ofName? "if" = some .when := by simp [Helper.ofName?,Helper.every,Helper.name,Relation.name]
  have course : (ifCall term).course [] data [.root] = .ok (if holds then .body else .inverse) := by
    simp only [Call.course,ifCall,Term.nameIn,arguments,ok_bind,helper]
    rfl
  rw [Template.fill]
  change (fillAll data _ (fillUnder data _ 999) [.block (some place) (ifCall term) [] false [.text shown] none] .start).map _ = _
  have scopes : Filling.start.scopes = [.root] := rfl
  rw [fillAll,Node.fill,scopes,course]
  cases holds with
  | true =>
    by_cases empty : shown = ""
    · subst empty
      rfl
    · change Except.ok (Filling.write _ shown).written = Except.ok shown
      simp [Filling.write,empty,Filling.nested,Filling.start]
  | false => rfl

end Filled

end Letterpress.Placeholder
