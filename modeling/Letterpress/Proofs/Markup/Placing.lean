import Letterpress.Markup.Assembly
import Letterpress.Proofs.Basic
import Letterpress.Proofs.Text.Places
import Letterpress.Proofs.Text.Searching

/-! Where the lexemes of a document stand. What a lexeme is can be seen from its raw text, its offset is the length of
what lies in front of it, and so the `<` of a tag is looked for where it is. What has been cut off a source stays as it is
when more follows that begins with a tag, so a document can be read in parts. -/
namespace Letterpress.Markup
open Letterpress.Text

/-- The raw texts that a token is cut from. -/
inductive Token.SpelledAs : Token → List Char → Prop
  | text {chars : List Char} (outside : ∀ c ∈ chars, c ≠ '<') : SpelledAs (.text chars) chars
  | opening (inside : List Char) : SpelledAs (.opening inside) ('<' :: (inside ++ ['>']))
  | standalone (inside : List Char) : SpelledAs (.standalone inside) ('<' :: (inside ++ ['/', '>']))
  | closing {name blanks : List Char} (blank : ∀ c ∈ blanks, isTagBlank c = true) :
    SpelledAs (.closing name) ('<' :: '/' :: (name ++ blanks ++ ['>']))
  | characterData (data : List Char) : SpelledAs .characterData ("<![CDATA[".toList ++ data ++ "]]>".toList)
  | passing (more : List Char) : SpelledAs .passing ('<' :: more)

private theorem closingName_append (inside : List Char) :
    ∃ blanks, inside = closingName inside ++ blanks ∧ ∀ c ∈ blanks, isTagBlank c = true := by
  unfold closingName
  dsimp only
  split
  · exact ⟨[],(List.append_nil inside).symm,List.forall_mem_nil _⟩
  · refine ⟨(inside.reverse.takeWhile isTagBlank).reverse,?_,fun c member => ?_⟩
    · rw [← List.reverse_append,List.takeWhile_append_dropWhile,List.reverse_reverse]
    · exact List.mem_takeWhile_imp (List.mem_reverse.mp member)

private theorem spelledAs_ofTag (inside : List Char) : (Token.ofTag inside).SpelledAs ('<' :: (inside ++ ['>'])) := by
  unfold Token.ofTag
  split
  · next name =>
    obtain ⟨blanks,whole,blank⟩ := closingName_append name
    have spelled : (Token.closing (closingName name)).SpelledAs _ := .closing blank
    rwa [← whole] at spelled
  · split
    · next last =>
      have spelled := Token.SpelledAs.standalone inside.dropLast
      obtain ⟨front,rfl⟩ := List.getLast?_eq_some_iff.mp last
      simpa using spelled
    · exact .opening inside

private theorem untilTagEnd?_eq_some {quote : Option Char} {s inside : List Char} (found : untilTagEnd? quote s = some inside) :
    inside ++ ['>'] <+: s := by
  fun_induction untilTagEnd? quote s generalizing inside with
  | case1 quote => contradiction
  | case2 =>
    cases found
    exact List.prefix_append ['>'] _
  | case3 c s inner ih =>
    obtain ⟨more,rest,rfl⟩ := Option.map_eq_some_iff.mp found
    exact List.cons_prefix_cons.mpr ⟨rfl,ih rest⟩
  | case4 quote c s ih =>
    obtain ⟨more,rest,rfl⟩ := Option.map_eq_some_iff.mp found
    exact List.cons_prefix_cons.mpr ⟨rfl,ih rest⟩

private theorem scanDeclaration_spelled {s : List Char} {token : Token} {more : Nat}
    (read : scanDeclaration s = .ok (token, more)) : token.SpelledAs ('<' :: ('!' :: s).take more) := by
  unfold scanDeclaration at read
  split at read
  · split at read
    · cases read
      exact .passing _
    · contradiction
  · next s =>
    split at read
    · next data rest found =>
      obtain ⟨behind,stripped,broken⟩ := Option.bind_eq_some_iff.mp found
      obtain rfl := stripLead?_eq_some stripped
      obtain rfl := breakOn?_eq_some broken
      cases read
      have length : ("![CDATA[".toList ++ data ++ "]]>".toList).length = data.length + 11 := by simp
      have whole : '!' :: '[' :: ("CDATA[".toList ++ (data ++ "]]>".toList ++ rest)) =
          "![CDATA[".toList ++ data ++ "]]>".toList ++ rest := by simp
      rw [whole,← length,List.take_left]
      exact .characterData data
    · contradiction
  · split at read
    · split at read
      · split at read
        · split at read
          · contradiction
          · cases read
            exact .passing _
        · contradiction
      · contradiction
    · contradiction
  · contradiction

private theorem scan_spelled {c : Char} {s : List Char} {token : Token} {more : Nat} (read : scan c s = .ok (token, more)) :
    token.SpelledAs (c :: s.take more) := by
  unfold scan at read
  split at read
  · next opens =>
    subst opens
    unfold scanMarkup at read
    split at read
    · contradiction
    · exact scanDeclaration_spelled read
    · split at read
      · contradiction
      · split at read
        · cases read
          exact .passing _
        · contradiction
    · split at read
      · next inside found =>
        simp only [Except.ok.injEq,Prod.mk.injEq] at read
        obtain ⟨rfl,rfl⟩ := read
        have whole : inside ++ ['>'] = s.take (inside.length + 1) := by
          simpa using List.prefix_iff_eq_take.mp (untilTagEnd?_eq_some found)
        rw [← whole]
        exact spelledAs_ofTag inside
      · contradiction
  · next outside =>
    simp only [Except.ok.injEq,Prod.mk.injEq] at read
    obtain ⟨rfl,rfl⟩ := read
    rw [← List.prefix_iff_eq_take.mp (List.takeWhile_prefix (· != '<'))]
    refine .text fun d member same => ?_
    rcases List.mem_cons.mp member with rfl | more
    · exact outside same
    · have differs := List.mem_takeWhile_imp more
      rw [same] at differs
      contradiction

/-- A lexeme is spelled as its token says, and its offset is the length of what lies in front of it. -/
theorem lexemesFrom_split {offset opened : Nat} {source : List Char} {earlier later : List Lexeme} {lexeme : Lexeme}
    (cut : (lexemesFrom offset opened source).lexemes = earlier ++ lexeme :: later) :
    lexeme.token.SpelledAs lexeme.raw ∧ lexeme.offset = offset + byteLength (earlier.flatMap (·.raw)) := by
  fun_induction lexemesFrom offset opened source generalizing earlier with
  | case1 => exact absurd cut.symm (List.append_ne_nil_of_right_ne_nil _ (List.cons_ne_nil _ _))
  | case2 => exact absurd cut.symm (List.append_ne_nil_of_right_ne_nil _ (List.cons_ne_nil _ _))
  | case3 => exact absurd cut.symm (List.append_ne_nil_of_right_ne_nil _ (List.cons_ne_nil _ _))
  | case4 offset opened c s token more read opened' counted raw =>
    rename_i ih
    cases earlier with
    | nil =>
      obtain ⟨rfl,-⟩ := List.cons.inj cut
      exact ⟨scan_spelled read,rfl⟩
    | cons first earlier =>
      obtain ⟨rfl,behind⟩ := List.cons.inj cut
      obtain ⟨spelled,placed⟩ := ih behind
      refine ⟨spelled,?_⟩
      rw [placed,List.flatMap_cons,byteLength_append,Nat.add_assoc]

private theorem charAt?_append (s : List Char) (c : Char) (rest : List Char) :
    charAt? (s ++ c :: rest) (byteLength s) = some c := by
  induction s with
  | nil => rfl
  | cons d s ih =>
    have wide := Char.utf8Size_pos d
    simp only [List.cons_append,byteLength,charAt?,Nat.add_sub_cancel_left,ih]
    rw [if_neg (by omega),if_neg (by omega)]

private theorem tagStart_append (s rest : List Char) : tagStart (s ++ '<' :: rest) (byteLength s) = byteLength s :=
  if_pos (charAt?_append s '<' rest)

private theorem withoutMark_of_unmarked {source : List Char} (unmarked : source.head? ≠ some '\ufeff') :
    withoutMark source = source := by
  cases source with
  | nil => rfl
  | cons c s =>
    have differs : '\ufeff' ≠ c := fun same => unmarked (by rw [same]; rfl)
    simp [withoutMark,stripLead?,differs]

theorem source_of_split {source : List Char} {earlier later : List Lexeme} {lexeme : Lexeme}
    (cut : (lexemes source).lexemes = earlier ++ lexeme :: later) :
    ∃ rest, source = earlier.flatMap (·.raw) ++ (lexeme.raw ++ rest) := by
  obtain ⟨rest,whole⟩ := raw_isPrefixOf_source 0 0 source
  rw [lexemes] at cut
  refine ⟨later.flatMap (·.raw) ++ rest,?_⟩
  rw [← whole,cut]
  simp only [List.flatMap_append,List.flatMap_cons,List.append_assoc]

private theorem Token.SpelledAs.begins {token : Token} {raw : List Char} (spelled : token.SpelledAs raw)
    (tagged : ∀ chars, token ≠ .text chars) : ∃ more, raw = '<' :: more := by
  cases spelled with
  | text => exact absurd rfl (tagged _)
  | opening => exact ⟨_,rfl⟩
  | standalone => exact ⟨_,rfl⟩
  | closing => exact ⟨_,rfl⟩
  | characterData => exact ⟨_,rfl⟩
  | passing => exact ⟨_,rfl⟩

private theorem tagStart_of_mem {source : List Char} {lexeme : Lexeme} (member : lexeme ∈ (lexemes source).lexemes)
    (tagged : ∀ chars, lexeme.token ≠ .text chars) : tagStart source lexeme.offset = lexeme.offset := by
  obtain ⟨earlier,later,cut⟩ := List.append_of_mem member
  obtain ⟨spelled,placed⟩ := lexemesFrom_split cut
  obtain ⟨more,begun⟩ := spelled.begins tagged
  obtain ⟨rest,whole⟩ := source_of_split cut
  rw [placed,Nat.zero_add,whole,begun]
  exact tagStart_append _ _

namespace Assembly

/-- Reads lexemes, each of which is reported where it stands. -/
def ofLexemes (lexemes : List Lexeme) : Except Misprint Assembly :=
  lexemes.foldlM (fun a lexeme => a.step lexeme lexeme.offset) .empty

theorem ofLexemes_concat (lexemes : List Lexeme) (lexeme : Lexeme) :
    ofLexemes (lexemes ++ [lexeme]) = ofLexemes lexemes >>= fun a => a.step lexeme lexeme.offset := by
  simp only [ofLexemes,List.foldlM_append,List.foldlM_cons,List.foldlM_nil,bind_pure]

end Assembly

private theorem foldlM_congr_of_mem {ε α β : Type} {f g : β → α → Except ε β} {xs : List α}
    (same : ∀ x ∈ xs, ∀ b, f b x = g b x) (b : β) : xs.foldlM f b = xs.foldlM g b := by
  induction xs generalizing b with
  | nil => rfl
  | cons x xs ih =>
    rw [List.foldlM_cons,List.foldlM_cons,same x List.mem_cons_self b]
    exact bind_congr fun next => ih (fun y member => same y (List.mem_cons_of_mem x member)) next

theorem ofSource_of_unmarked {source : List Char} (unmarked : source.head? ≠ some '\ufeff') :
    Element.ofSource source =
      Assembly.ofLexemes (lexemes source).lexemes >>= fun a => a.finish (lexemes source).flaw := by
  rw [Element.ofSource,withoutMark_of_unmarked unmarked,Assembly.ofLexemes]
  refine congrArg (· >>= fun a => Assembly.finish a (lexemes source).flaw) (foldlM_congr_of_mem (fun lexeme member a => ?_) _)
  -- looking for the `<` of a tag finds it where the lexeme begins
  have placed := tagStart_of_mem member
  dsimp only
  split
  · next token => rw [placed fun chars text => by rw [text] at token; contradiction]
  · next token => rw [placed fun chars text => by rw [text] at token; contradiction]
  · next token => rw [placed fun chars text => by rw [text] at token; contradiction]
  · rfl

private theorem untilTagEnd?_append {quote : Option Char} {s inside : List Char} (found : untilTagEnd? quote s = some inside)
    (rest : List Char) : untilTagEnd? quote (s ++ rest) = some inside := by
  fun_induction untilTagEnd? quote s generalizing inside with
  | case1 => contradiction
  | case2 s => exact found
  | case3 c s other ih =>
    obtain ⟨tail,inner,rfl⟩ := Option.map_eq_some_iff.mp found
    simp only [List.cons_append,untilTagEnd?,other,if_false,ih inner,Option.map_some]
  | case4 quote c s ih =>
    obtain ⟨tail,inner,rfl⟩ := Option.map_eq_some_iff.mp found
    simp only [List.cons_append,untilTagEnd?,ih inner,Option.map_some]

private theorem untilBalanced?_append {depth : Int} {s inside : List Char} (found : untilBalanced? depth s = some inside)
    (rest : List Char) : untilBalanced? depth (s ++ rest) = some inside := by
  fun_induction untilBalanced? depth s generalizing inside with
  | case1 => contradiction
  | case2 s => exact found
  | case3 depth s deeper ih =>
    obtain ⟨tail,inner,rfl⟩ := Option.map_eq_some_iff.mp found
    simp only [List.cons_append,untilBalanced?,if_true,deeper,if_false,ih inner,Option.map_some]
  | case4 depth c s other ih =>
    obtain ⟨tail,inner,rfl⟩ := Option.map_eq_some_iff.mp found
    simp only [List.cons_append,untilBalanced?,other,if_false,ih inner,Option.map_some]

private theorem exists_breakOn?_append {lead needle s : List Char} {found : List Char × List Char}
    (within : (stripLead? lead s).bind (breakOn? needle) = some found) (rest : List Char) :
    (stripLead? lead (s ++ rest)).bind (breakOn? needle) = some (found.1, found.2 ++ rest) := by
  obtain ⟨after,stripped,broken⟩ := Option.bind_eq_some_iff.mp within
  rw [stripLead?_append_of_some stripped,Option.bind_some]
  exact breakOn?_append broken rest

private theorem scanDeclaration_append {s : List Char} {token : Token} {more : Nat}
    (read : scanDeclaration s = .ok (token, more))
    (rest : List Char) : scanDeclaration (s ++ rest) = .ok (token, more) := by
  unfold scanDeclaration at read
  split at read
  · split at read
    · next found =>
      rw [List.cons_append,scanDeclaration,exists_breakOn?_append found]
      exact read
    · contradiction
  · split at read
    · next found =>
      rw [List.cons_append,scanDeclaration,exists_breakOn?_append found]
      exact read
    · contradiction
  · next c s noComment noData =>
    split at read
    · next doctype =>
      split at read
      · next inside found =>
        rw [List.cons_append,scanDeclaration]
        · rw [if_pos doctype,untilBalanced?_append found]
          exact read
        · exact noComment
        · exact noData
      · contradiction
    · contradiction
  · contradiction

private theorem scanMarkup_append {s : List Char} {token : Token} {more : Nat} (read : scanMarkup s = .ok (token, more))
    (rest : List Char) : scanMarkup (s ++ rest) = .ok (token, more) := by
  unfold scanMarkup at read
  split at read
  · contradiction
  · exact scanDeclaration_append read rest
  · split at read
    · contradiction
    · rename_i s _ unfinished
      split at read
      · next found =>
        rw [List.cons_append,scanMarkup]
        · rw [breakOn?_append found]
          exact read
        · intro tail whole
          cases s with
          | nil => simp [breakOn?] at found
          | cons c s =>
            cases whole
            exact unfinished s rfl
      · contradiction
  · next filled noDeclaration noInstruction =>
    split at read
    · next inside found =>
      cases s with
      | nil => exact absurd rfl filled
      | cons c s =>
        rw [List.cons_append,scanMarkup]
        · rw [← List.cons_append,untilTagEnd?_append found]
          exact read
        · exact List.cons_ne_nil c (s ++ rest)
        · intro tail same
          cases same
          exact noDeclaration s rfl
        · intro tail same
          cases same
          exact noInstruction s rfl
    · contradiction

/-- Text ends at the end of a source or where a tag begins. -/
def EndsText (rest : List Char) : Prop := ∀ c ∈ rest.head?, c = '<'

/-- What is scanned stays what it is if another tag follows it. -/
theorem scan_append {c : Char} {s rest : List Char} {token : Token} {more : Nat} (read : scan c s = .ok (token, more))
    (ends : EndsText rest) : scan c (s ++ rest) = .ok (token, more) := by
  unfold scan at read ⊢
  split at read
  · next tag =>
    rw [if_pos tag]
    exact scanMarkup_append read rest
  · next text =>
    have stop : rest.takeWhile (· != '<') = [] := by
      cases rest with
      | nil => rfl
      | cons d rest => simp [ends d rfl]
    have same : (s ++ rest).takeWhile (· != '<') = s.takeWhile (· != '<') := by
      rw [List.takeWhile_append,stop,List.append_nil]
      split
      · next all => exact (List.takeWhile_prefix _ |>.eq_of_length all).symm
      · rfl
    rw [if_neg text,same]
    exact read

private theorem length_lt_of_untilBalanced? {depth : Int} {s inside : List Char}
    (found : untilBalanced? depth s = some inside) : inside.length < s.length := by
  fun_induction untilBalanced? depth s generalizing inside with
  | case1 => contradiction
  | case2 s =>
    cases found
    exact Nat.succ_pos _
  | case3 depth s deeper ih =>
    obtain ⟨tail,inner,rfl⟩ := Option.map_eq_some_iff.mp found
    exact Nat.succ_lt_succ (ih inner)
  | case4 depth c s other ih =>
    obtain ⟨tail,inner,rfl⟩ := Option.map_eq_some_iff.mp found
    exact Nat.succ_lt_succ (ih inner)

private theorem length_of_bind_breakOn? {lead needle s : List Char} {found : List Char × List Char}
    (within : (stripLead? lead s).bind (breakOn? needle) = some found) :
    lead.length + (found.1.length + needle.length) ≤ s.length := by
  obtain ⟨after,stripped,broken⟩ := Option.bind_eq_some_iff.mp within
  have size := length_of_breakOn? broken
  rw [stripLead?_eq_some stripped,List.length_append]
  omega

private theorem length_of_scanDeclaration {s : List Char} {token : Token} {more : Nat}
    (read : scanDeclaration s = .ok (token, more)) : more ≤ s.length + 1 := by
  unfold scanDeclaration at read
  split at read
  · split at read
    · next found =>
      cases read
      have size := length_of_bind_breakOn? found
      simp at size ⊢
      omega
    · contradiction
  · split at read
    · next found =>
      cases read
      have size := length_of_bind_breakOn? found
      simp at size ⊢
      omega
    · contradiction
  · split at read
    · split at read
      · next inside found =>
        have size := length_lt_of_untilBalanced? found
        split at read
        · split at read
          · contradiction
          · cases read
            simp only [List.length_cons]
            omega
        · contradiction
      · contradiction
    · contradiction
  · contradiction

private theorem length_of_scan {c : Char} {s : List Char} {token : Token} {more : Nat} (read : scan c s = .ok (token, more)) :
    more ≤ s.length := by
  unfold scan at read
  split at read
  · unfold scanMarkup at read
    split at read
    · contradiction
    · exact length_of_scanDeclaration read
    · split at read
      · contradiction
      · split at read
        · next found =>
          cases read
          have size := length_of_breakOn? found
          simp at size ⊢
          omega
        · contradiction
    · split at read
      · next inside found =>
        cases read
        simpa using (untilTagEnd?_eq_some found).length_le
      · contradiction
  · cases read
    exact (List.takeWhile_prefix _).length_le

/-- How many tags are open after these lexemes. -/
def openedBy (opened : Nat) (lexemes : List Lexeme) : Nat :=
  lexemes.foldl (fun n lexeme => (lexeme.token.opened? n).getD n) opened

/-- A source is cut as its beginning is, and goes on from there, if the rest begins with a tag. -/
theorem lexemesFrom_append {offset opened : Nat} {s rest : List Char} (ends : EndsText rest)
    (flawless : (lexemesFrom offset opened s).flaw = none) :
    (lexemesFrom offset opened (s ++ rest)).lexemes = (lexemesFrom offset opened s).lexemes ++
      (lexemesFrom (offset + byteLength s) (openedBy opened (lexemesFrom offset opened s).lexemes) rest).lexemes ∧
    (lexemesFrom offset opened (s ++ rest)).flaw =
      (lexemesFrom (offset + byteLength s) (openedBy opened (lexemesFrom offset opened s).lexemes) rest).flaw := by
  fun_induction lexemesFrom offset opened s with
  | case1 => exact ⟨rfl,rfl⟩
  | case2 => contradiction
  | case3 => contradiction
  | case4 offset opened c s token more scanned opened' counted raw ih =>
    have within : more ≤ s.length := length_of_scan scanned
    have cut : lexemesFrom offset opened (c :: (s ++ rest)) =
        (lexemesFrom (offset + byteLength raw) opened' (s.drop more ++ rest)).cons ⟨token, raw, offset⟩ := by
      rw [lexemesFrom]
      simp only [scan_append scanned ends,counted,List.take_append_of_le_length within,List.drop_append_of_le_length within]
      rfl
    have size : byteLength (c :: s) = byteLength raw + byteLength (s.drop more) := by
      rw [← byteLength_append]
      simp [raw]
    have next : openedBy opened (⟨token,raw,offset⟩ :: (lexemesFrom (offset + byteLength raw) opened' (s.drop more)).lexemes) =
        openedBy opened' (lexemesFrom (offset + byteLength raw) opened' (s.drop more)).lexemes := by
      simp only [openedBy,List.foldl_cons,counted,Option.getD_some]
    obtain ⟨lexemes,flaw⟩ := ih flawless
    rw [Nat.add_assoc,← size] at lexemes flaw
    simp only [List.cons_append,cut,Lexemes.cons,lexemes,flaw,next]
    exact ⟨trivial,trivial⟩

namespace Assembly

/-- What comes of an assembly when it goes on with `s`, with so many tags open. -/
def read (place : Lexeme → Nat) (a : Assembly) (offset opened : Nat) (s : List Char) : Except Misprint Element := do
  let cut := lexemesFrom offset opened s
  let done ← cut.lexemes.foldlM (fun (a : Assembly) lexeme => a.step lexeme (place lexeme)) a
  done.finish cut.flaw

/-- A source can be read in parts, if each but the first begins with a tag. Behind the part `s` the assembly `next` has come to
the byte `behind`, and `more` tags are open. -/
theorem read_append {place : Lexeme → Nat} {a : Assembly} {offset opened : Nat} {s rest : String}
    (next : Assembly) (behind more : Nat) (tagged : rest.toList.head? = some '<')
    (first : ((lexemesFrom offset opened s.toList).lexemes.foldlM (fun a lexeme => a.step lexeme (place lexeme)) a,
      (lexemesFrom offset opened s.toList).flaw) = (.ok next, none))
    (counted : (offset + byteLength s.toList, openedBy opened (lexemesFrom offset opened s.toList).lexemes) = (behind, more)) :
    read place a offset opened (s ++ rest).toList = read place next behind more rest.toList := by
  obtain ⟨assembled,flawless⟩ := Prod.mk.inj first
  cases counted
  have ends : EndsText rest.toList := fun c first => Option.some.inj (first.symm.trans tagged)
  obtain ⟨cut,flaw⟩ := lexemesFrom_append ends flawless
  rw [String.toList_append]
  simp only [read,cut,flaw,List.foldlM_append,assembled,ok_bind]

end Assembly

theorem ofSource_eq_read {source : List Char} (unmarked : source.head? ≠ some '\ufeff') :
    Element.ofSource source = Assembly.read (·.offset) .empty 0 0 source := ofSource_of_unmarked unmarked

end Letterpress.Markup
