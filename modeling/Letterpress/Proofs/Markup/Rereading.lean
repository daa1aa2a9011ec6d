import Letterpress.Proofs.Basic
import Letterpress.Proofs.Markup.Scanning
import Letterpress.Proofs.Markup.Standing

/-! Reading what has been written down. Taking one stretch off the front of a source is one step of the assembly; so a gap
leaves it as it is, and an element that is written down is attached where it stands. -/
namespace Letterpress.Markup
open Letterpress.Text

private theorem isKey_of_mem_ownAttributes (tag : Tag) : ∀ key ∈ tag.ownAttributes, IsKey key.toList := by
  cases tag <;> decide +kernel

private theorem isKey_of_mem_paddings : ∀ key ∈ Tag.paddings, IsKey key.toList := by decide

/-- Only groups of attributes accept names that cannot be written. -/
theorem isKey_of_accepts {tag : Tag} {key : String} (accepts : tag.accepts key = true)
    (single : ¬ (tag = .forAll ∨ tag = .forClass)) : IsKey key.toList := by
  have classes : ∀ key ∈ ["mj-class", "css-class"], IsKey key.toList := by decide
  unfold Tag.accepts at accepts
  split at accepts
  · exact absurd (.inl rfl) single
  · exact absurd (.inr rfl) single
  · split at accepts
    · next same =>
      rw [eq_of_beq same]
      exact classes _ (by decide)
    · simp only [Bool.or_eq_true,Bool.and_eq_true,List.contains_iff_mem] at accepts
      rcases accepts with (⟨same,_⟩ | ⟨padding,_⟩) | own
      · rw [eq_of_beq same]
        exact classes _ (by decide)
      · exact isKey_of_mem_paddings key padding
      · exact isKey_of_mem_ownAttributes tag key own

private theorem Element.Writable.isKey {holder : Option Tag} {e : Element} (writable : e.Writable holder) :
    ∀ a ∈ e.attributes, IsKey a.key.toList := by
  by_cases group : e.tag = .forAll ∨ e.tag = .forClass
  · exact writable.named group
  · exact fun a member => isKey_of_accepts (writable.dialect.accepted a member) group

private theorem Element.Regular.unquoted {holder : Option Tag} {e : Element} (regular : e.Regular holder) :
    ∀ a ∈ e.attributes, ∀ c, IsQuote c → c ∉ a.value.toList :=
  fun a member c isQuote => regular.values a member c (by rcases isQuote with rfl | rfl <;> decide)

namespace Assembly
variable {a next : Assembly} {written : List Char} {e : Element}

private theorem checkPlace_of_fitsIn {tag : Tag} (fits : tag.FitsIn a.holder) (free : a.pile = [] → a.root = none) :
    a.checkPlace tag = .ok () := by
  unfold holder at fits
  unfold checkPlace
  split
  · next parent others found =>
    rw [found] at fits
    exact if_pos (List.contains_iff_mem.mpr fits)
  · next found =>
    rw [found] at fits
    have isDocument : tag = .document := fits
    simp [free found,isDocument]

private theorem checkWidth_of_inDialect (dialect : e.InDialect) : checkWidth e = .ok () := by
  unfold checkWidth
  split
  · next width isColumn has =>
    cases blank : isBlankText width with
    | true => rfl
    | false => exact if_pos (by rw [dialect.width isColumn width has blank]; rfl)
  · rfl

private theorem checkRequired_of_carried (carried : ∀ key ∈ e.tag.required, (e.attribute? key).isSome = true) :
    checkRequired e = .ok () := by
  unfold checkRequired
  have complete : e.tag.required.find? (fun key => !(e.attributes.any (·.key == key))) = none := by
    refine List.find?_eq_none.mpr fun key required => ?_
    obtain ⟨a,member,same⟩ := (Element.isSome_attribute?_iff e key).mp (carried key required)
    simpa using ⟨a,member,same⟩
  rw [complete]

private theorem element_spelled (writable : e.Writable a.holder) (free : a.pile = [] → a.root = none)
    (spelled : SpelledAttributes e.attributes written) (offset : Nat) :
    a.element (e.tag.name.toList ++ written) offset = .ok ⟨e.tag, e.attributes, [], "", offset⟩ := by
  have known : e.attributes.find? (!e.tag.accepts ·.key) = none :=
    List.find?_eq_none.mpr fun b member => by simp [writable.dialect.accepted b member]
  have attributes : checkAttributes e.tag (e.tag.name.toList ++ written) = .ok e.attributes := by
    simp only [checkAttributes,known,
      attributes_spelled e.tag spelled writable.isKey writable.unquoted writable.dialect.distinct]
  have place := checkPlace_of_fitsIn writable.fits free
  have width : checkWidth e = .ok () := checkWidth_of_inDialect writable.dialect
  change checkWidth ⟨e.tag, e.attributes, [], "", offset⟩ = .ok () at width
  simp only [element,tagName_spelled e.tag spelled,String.ofList_toList,ofName?_name,pure_bind,place,attributes,width,
    ok_bind]
  cases declares : a.declaresDefaults with
  | true => rfl
  | false =>
    have bound : a.holder ≠ some .defaults := fun entry => by
      rw [(declaresDefaults_iff a).mpr entry] at declares
      contradiction
    have required : checkRequired e = .ok () := checkRequired_of_carried (writable.required bound)
    change checkRequired ⟨e.tag, e.attributes, [], "", offset⟩ = .ok () at required
    simp only [required,ok_bind]
    rfl

variable (place : Lexeme → Nat) (offset opened : Nat)

private theorem read_nil (a : Assembly) : read place a offset opened [] = a.finish none := by
  rw [read,lexemesFrom]
  rfl

private theorem read_cons {c : Char} {tail rest : List Char} {token : Token} {after : Nat}
    (scanned : scan c (tail ++ rest) = .ok (token, tail.length)) (counted : token.opened? opened = some after)
    (stepped : a.step ⟨token, c :: tail, offset⟩ (place ⟨token, c :: tail, offset⟩) = .ok next) :
    read place a offset opened (c :: (tail ++ rest)) = read place next (offset + byteLength (c :: tail)) after rest := by
  have cut : lexemesFrom offset opened (c :: (tail ++ rest)) =
      (lexemesFrom (offset + byteLength (c :: tail)) after rest).cons ⟨token, c :: tail, offset⟩ := by
    rw [lexemesFrom]
    simp only [scanned,counted,List.take_left,List.drop_left]
  simp only [read,cut,Lexemes.cons,List.foldlM_cons,stepped,ok_bind]

section Gaps
variable (outside : a.verbatim = none) {blanks text gap : List Char} (rest : List Char)
include outside

private theorem read_blanks (blank : ∀ c ∈ blanks, isAsciiBlank c = true) (ends : EndsText rest) :
    ∃ behind, read place a offset opened (blanks ++ rest) = read place a behind opened rest := by
  cases blanks with
  | nil => exact ⟨offset,rfl⟩
  | cons c more =>
    have text : ∀ d ∈ c :: more, d ≠ '<' := fun d member same => by
      have space := blank d member
      rw [same] at space
      exact absurd space (by decide)
    have stray : (c :: more).dropWhile isAsciiBlank = [] := List.dropWhile_eq_nil_iff.mpr blank
    refine ⟨_,read_cons place offset opened (scan_text text ends) rfl ?_⟩
    simp only [step,outside,stray,List.isEmpty_nil,if_true]

private theorem read_comment (comment : IsComment text) :
    ∃ behind, read place a offset opened ('<' :: ("!--".toList ++ text ++ commentEnd ++ rest)) =
      read place a behind opened rest :=
  ⟨_,read_cons place offset opened (scan_comment comment) rfl (by simp only [step,outside])⟩

/-- Blanks before a gap may belong to the text that it begins with. -/
theorem read_blanks_gap (isGap : IsGap gap) (ends : EndsText rest) (blank : ∀ c ∈ blanks, isAsciiBlank c = true) :
    ∃ behind, read place a offset opened (blanks ++ (gap ++ rest)) = read place a behind opened rest := by
  induction isGap generalizing offset blanks with
  | nil => exact read_blanks place offset opened outside rest blank ends
  | @blank c s space later ih =>
    have more : ∀ d ∈ blanks ++ [c], isAsciiBlank d = true := by
      intro d member
      rcases List.mem_append.mp member with before | last
      · exact blank d before
      · exact List.mem_singleton.mp last ▸ space
    obtain ⟨behind,same⟩ := ih offset more
    exact ⟨behind,by simpa using same⟩
  | @comment text s comment later ih =>
    have opens : EndsText ('<' :: ("!--".toList ++ text ++ commentEnd ++ (s ++ rest))) := fun c first => by
      cases first
      rfl
    obtain ⟨start,before⟩ := read_blanks place offset opened outside _ blank opens
    obtain ⟨middle,past⟩ := read_comment place start opened outside (s ++ rest) comment
    obtain ⟨behind,same⟩ := ih middle (List.forall_mem_nil _)
    refine ⟨behind,?_⟩
    rw [← same,List.nil_append,← past,← before]
    simp only [List.cons_append,List.append_assoc]

private theorem read_gap (isGap : IsGap gap) (ends : EndsText rest) :
    ∃ behind, read place a offset opened (gap ++ rest) = read place a behind opened rest :=
  read_blanks_gap place offset opened outside rest isGap ends (List.forall_mem_nil _)

end Gaps

/-- Whether it is verbatim decides where an element goes that has been opened. -/
def start (a : Assembly) (e : Element) : Assembly :=
  if e.tag.isVerbatim then { a with verbatim := some ⟨e, e.tag.name.toList, 0, []⟩ } else { a with pile := e :: a.pile }

private theorem read_openingTag (outside : a.verbatim = none) (writable : e.Writable a.holder)
    (free : a.pile = [] → a.root = none)
    (spelled : SpelledAttributes e.attributes written) (rest : List Char) : ∃ position behind,
      read place a offset opened (openingTag e.tag written ++ rest) =
        read place (a.start ⟨e.tag, e.attributes, [], "", position⟩) behind (opened + 1) rest := by
  have stepped (lexeme : Lexeme) (opens : lexeme.token = .opening (e.tag.name.toList ++ written)) (position : Nat) :
      a.step lexeme position = .ok (a.start ⟨e.tag, e.attributes, [], "", position⟩) := by
    simp only [step,outside,opens,element_spelled writable free spelled,Except.mapError,ok_bind,start,
      tagName_spelled e.tag spelled]
    split <;> rfl
  have scanned := scan_openingTag e.tag spelled writable.isKey writable.unquoted rest
  exact ⟨_,_,read_cons place offset opened scanned rfl (stepped _ rfl _)⟩

variable (pile : List Element) (root : Option Element)

private theorem read_closingTag (e : Element) (rest : List Char) : ∃ behind,
    read place ⟨e :: pile, none, root⟩ offset (opened + 1) (closingTag e.tag ++ rest) =
      read place (attach ⟨pile, none, root⟩ e) behind opened rest := by
  refine ⟨_,read_cons place offset (opened + 1) (scan_closingTag e.tag rest) rfl ?_⟩
  simp only [step,close,String.ofList_toList,beq_self_eq_true,if_true,Except.mapError]

private theorem read_content (v : Verbatim) {content rest : List Char} (plain : '<' ∉ content) (ends : EndsText rest) :
    ∃ behind,
    read place ⟨pile, some v, root⟩ offset opened (content ++ rest) =
      read place ⟨pile, some { v with content := v.content ++ content }, root⟩ behind opened rest := by
  cases content with
  | nil => exact ⟨offset,by simp⟩
  | cons c more =>
    have text : ∀ d ∈ c :: more, d ≠ '<' := fun d member same => plain (same ▸ member)
    exact ⟨_,read_cons place offset opened (scan_text text ends) rfl (by simp only [step,Verbatim.step])⟩

private theorem read_closingTag_of_verbatim (e : Element) (content rest : List Char) : ∃ behind,
    read place ⟨pile, some ⟨e, e.tag.name.toList, 0, content⟩, root⟩ offset (opened + 1) (closingTag e.tag ++ rest) =
      read place (attach ⟨pile, none, root⟩ { e with content := String.ofList (trimChars content) }) behind opened rest := by
  refine ⟨_,read_cons place offset (opened + 1) (scan_closingTag e.tag rest) rfl ?_⟩
  simp only [step,Verbatim.step,if_true]

private theorem endsText_closingTag (tag : Tag) (rest : List Char) : EndsText (closingTag tag ++ rest) := fun c first => by
  cases first
  rfl

private theorem endsText_spelled {s : List Char} (spelled : Spelled e s) (rest : List Char) : EndsText (s ++ rest) := by
  intro c first
  cases spelled <;> cases first <;> rfl

private theorem read_spelled_verbatim {tag : Tag} {attributes : List Attribute} {content : String} {position : Nat}
    (verbatim : tag.isVerbatim = true) (spelled : SpelledAttributes attributes written)
    (writable : (Element.mk tag attributes [] content position).Writable (Assembly.holder ⟨pile, none, root⟩))
    (free : pile = [] → root = none) (rest : List Char) : ∃ here behind,
      read place ⟨pile, none, root⟩ offset opened (openingTag tag written ++ (content.toList ++ closingTag tag) ++ rest) =
        read place (attach ⟨pile, none, root⟩ ⟨tag, attributes, [], content, here⟩) behind opened rest := by
  obtain ⟨here,first,begun⟩ := read_openingTag place offset opened rfl writable free spelled
    (content.toList ++ (closingTag tag ++ rest))
  have started : start ⟨pile, none, root⟩ ⟨tag, attributes, [], "", here⟩ =
      ⟨pile, some ⟨⟨tag, attributes, [], "", here⟩, tag.name.toList, 0, []⟩, root⟩ := if_pos verbatim
  obtain ⟨second,held⟩ := read_content place first (opened + 1) pile root
    ⟨⟨tag, attributes, [], "", here⟩, tag.name.toList, 0, []⟩ writable.content (endsText_closingTag tag rest)
  obtain ⟨third,closed⟩ := read_closingTag_of_verbatim place second opened pile root ⟨tag, attributes, [], "", here⟩
    content.toList rest
  have trimmed : String.ofList (trimChars content.toList) = content := by
    rw [trimChars_of_isTrimmed (writable.dialect.verbatim verbatim).2,String.ofList_toList]
  dsimp only at begun held closed
  rw [trimmed] at closed
  refine ⟨here,third,?_⟩
  rw [List.append_assoc,List.append_assoc,begun,started]
  exact held.trans closed

mutual
/-- An element that has been written down is attached where it stands. -/
theorem read_spelled {e : Element} {s : List Char} (spelled : Spelled e s) (pile : List Element) (root : Option Element)
    (writable : e.Throughout Element.Writable (Assembly.holder ⟨pile, none, root⟩)) (free : pile = [] → root = none)
    (offset opened : Nat) (rest : List Char) : ∃ same behind, same.unplaced = e.unplaced ∧
      read place ⟨pile, none, root⟩ offset opened (s ++ rest) =
        read place (attach ⟨pile, none, root⟩ same) behind opened rest := by
  cases spelled with
  | @verbatim tag attributes content position written verbatim spelled =>
    obtain ⟨here,behind,done⟩ := read_spelled_verbatim place offset opened pile root verbatim spelled writable.own free rest
    exact ⟨⟨tag, attributes, [], content, here⟩,behind,rfl,done⟩
  | @plain tag attributes children position written inside plain spelled within =>
    obtain ⟨here,first,begun⟩ := read_openingTag place offset opened rfl writable.own free spelled
      (inside ++ (closingTag tag ++ rest))
    have started : start ⟨pile, none, root⟩ ⟨tag, attributes, [], "", here⟩ =
        ⟨⟨tag, attributes, [], "", here⟩ :: pile, none, root⟩ := if_neg (by simp [plain])
    obtain ⟨same,second,equal,read⟩ := read_spelledAll within ⟨tag, attributes, [], "", here⟩ pile root
      (fun child member => writable.inside member) first (opened + 1) (closingTag tag ++ rest) (endsText_closingTag tag rest)
    obtain ⟨third,closed⟩ := read_closingTag place second opened pile root ⟨tag, attributes, same, "", here⟩ rest
    refine ⟨⟨tag, attributes, same, "", here⟩,third,by simp only [Element.unplaced_mk,equal],?_⟩
    dsimp only at begun read closed
    rw [List.append_assoc,List.append_assoc,begun,started]
    exact read.trans closed

/-- Elements that have been written down one after the other are all attached, in order. -/
theorem read_spelledAll {es : List Element} {s : List Char} (spelled : SpelledAll es s) (parent : Element)
    (others : List Element) (root : Option Element) (writable : ∀ e ∈ es, e.Throughout Element.Writable (some parent.tag))
    (offset opened : Nat) (rest : List Char) (ends : EndsText rest) : ∃ same behind,
      same.map Element.unplaced = es.map Element.unplaced ∧
      read place ⟨parent :: others, none, root⟩ offset opened (s ++ rest) =
        read place ⟨{ parent with children := parent.children ++ same } :: others, none, root⟩ behind opened rest := by
  cases spelled with
  | nil isGap =>
    obtain ⟨behind,past⟩ := read_gap (a := ⟨parent :: others, none, root⟩) place offset opened rfl rest isGap ends
    refine ⟨[],behind,rfl,?_⟩
    rw [past]
    cases parent
    rw [List.append_nil]
  | @cons e later gap written more isGap first following =>
    obtain ⟨start,past⟩ := read_gap (a := ⟨parent :: others, none, root⟩) place offset opened rfl (written ++ (more ++ rest))
      isGap (endsText_spelled first _)
    obtain ⟨child,middle,equal,attached⟩ := read_spelled first (parent :: others) root (writable e List.mem_cons_self)
      (by simp) start opened (more ++ rest)
    obtain ⟨same,behind,equals,all⟩ := read_spelledAll following (parent.attach child) others root
      (fun other member => writable other (List.mem_cons_of_mem e member)) middle opened rest ends
    refine ⟨child :: same,behind,by rw [List.map_cons,equal,equals,List.map_cons],?_⟩
    have attach_eq : attach ⟨parent :: others, none, root⟩ child = ⟨parent.attach child :: others, none, root⟩ := rfl
    rw [List.append_assoc,List.append_assoc,past,attached,attach_eq,all]
    simp only [Element.attach,List.append_assoc,List.singleton_append]
end

end Assembly

private theorem withoutMark_of_spelled {es : List Element} {source : List Char} (spelled : SpelledAll es source) :
    withoutMark source = source := by
  have mark : isAsciiBlank '\ufeff' = false := by decide
  have unmarked : stripLead? ['\ufeff'] source = none := by
    cases spelled with
    | nil isGap =>
      cases isGap with
      | nil => rfl
      | @blank c s space later => exact if_neg fun same => by simp [← same,mark] at space
      | comment => exact if_neg (by decide)
    | @cons e others gap s rest isGap first later =>
      cases isGap with
      | nil => cases first <;> exact if_neg (by decide)
      | @blank c s space later => exact if_neg fun same => by simp [← same,mark] at space
      | comment => exact if_neg (by decide)
  rw [withoutMark,unmarked]
  rfl

/-- A document that has been written down is read as the tree that it has been written from, but for places. -/
theorem ofSource_spelled {root : Element} {source : List Char} (writable : root.Throughout Element.Writable none)
    (spelled : SpelledAll [root] source) : ∃ same, Element.ofSource source = .ok same ∧ same.unplaced = root.unplaced := by
  have unmarked := withoutMark_of_spelled spelled
  cases spelled with
  | @cons e others gap s rest before first later =>
  cases later with
  | nil after =>
    obtain ⟨place,reading⟩ : ∃ place, Element.ofSource (gap ++ (s ++ rest)) =
        Assembly.read place .empty 0 0 (withoutMark (gap ++ (s ++ rest))) := ⟨_,rfl⟩
    have ends : EndsText [] := fun c first => by contradiction
    obtain ⟨start,past⟩ := Assembly.read_gap (a := .empty) place 0 0 rfl (s ++ rest) before (Assembly.endsText_spelled first _)
    obtain ⟨same,middle,equal,attached⟩ := Assembly.read_spelled place first [] none writable (fun _ => rfl) start 0 rest
    obtain ⟨behind,ended⟩ := Assembly.read_gap (a := ⟨[], none, some same⟩) place middle 0 rfl [] after ends
    refine ⟨same,?_,equal⟩
    rw [List.append_nil] at ended
    calc Element.ofSource (gap ++ (s ++ rest))
      _ = Assembly.read place .empty 0 0 (withoutMark (gap ++ (s ++ rest))) := reading
      _ = Assembly.read place .empty start 0 (s ++ rest) := by rw [unmarked,past]
      _ = Assembly.read place ⟨[], none, some same⟩ middle 0 rest := attached
      _ = Assembly.finish ⟨[], none, some same⟩ none := by rw [ended,Assembly.read_nil]
      _ = .ok same := rfl

namespace Element
variable {tag : Tag} {attributes : List Attribute} {children : List Element} {content : String} {offset : Nat}
  {holder : Option Tag}

/-- A tree of the dialect with names that can be written is written down by `written`, and read back from all that spells it:
the same elements with the same attributes and content in the same order. -/
theorem writing_is_read_back (root : Element) (writable : root.Throughout Writable none) :
    SpelledAll [root] root.written ∧ ∀ source : String, SpelledAll [root] source.toList →
      ∃ same, ofSource source.toList = .ok same ∧ same.unplaced = root.unplaced := by
  have plainly : SpelledAll [root] ([] ++ (root.written ++ [])) := .cons .nil (spelled_written writable) (.nil .nil)
  rw [List.nil_append,List.append_nil] at plainly
  exact ⟨plainly,fun source spelled => ofSource_spelled writable spelled⟩

private theorem regular_of_plain (fits : tag.FitsIn holder) (inside : ∀ child ∈ children, child.tag ∈ tag.children)
    (accepted : ∀ a ∈ attributes, tag.accepts a.key = true) (distinct : (attributes.map (·.key)).Nodup)
    (plain : tag.isVerbatim = false) (free : tag ≠ .column ∧ tag.required = [])
    (values : ∀ a ∈ attributes, ∀ c ∈ ['"', '\'', '<', '>'], c ∉ a.value.toList) :
    Regular holder ⟨tag, attributes, children, "", offset⟩ where
  fits := fits
  dialect := ⟨inside,accepted,distinct,fun verbatim => absurd (plain.symm.trans verbatim) (by decide),fun _ => rfl,
    fun isColumn => absurd isColumn free.1⟩
  required _ key bound := by
    change key ∈ tag.required at bound
    rw [free.2] at bound
    contradiction
  values := values
  content := List.not_mem_nil

private theorem regular_of_verbatim (fits : tag.FitsIn holder) (accepted : ∀ a ∈ attributes, tag.accepts a.key = true)
    (distinct : (attributes.map (·.key)).Nodup) (verbatim : tag.isVerbatim = true) (trimmed : IsTrimmed content.toList)
    (values : ∀ a ∈ attributes, ∀ c ∈ ['"', '\'', '<', '>'], c ∉ a.value.toList) (plain : '<' ∉ content.toList) :
    Regular holder ⟨tag, attributes, [], content, offset⟩ where
  fits := fits
  dialect := ⟨List.forall_mem_nil _,accepted,distinct,fun _ => ⟨rfl,trimmed⟩,
    fun plain => absurd (plain.symm.trans verbatim) (by decide),fun isColumn => by
      change tag = .column at isColumn
      rw [isColumn] at verbatim
      contradiction⟩
  required _ key bound := by
    change key ∈ tag.required at bound
    cases tag <;> contradiction
  values := values
  content := plain

def noteRaw : Element := ⟨.raw, [], [], "a > b", 0⟩

def noteBody : Element := ⟨.body, [⟨"width", "500px"⟩], [noteRaw], "", 0⟩

def note : Element := ⟨.document, [], [noteBody], "", 0⟩

def noteSource : String := "<mjml> <!-- a <note> -->\n<mj-body width='500px'><mj-raw>a > b</mj-raw></mj-body></mjml>"

private theorem writable_note : note.Throughout Writable none := by
  have raw : noteRaw.Regular (some .body) := regular_of_verbatim (by decide) (by simp) (by simp) rfl
    (isTrimmed_of_trimChars (by decide)) (by simp) (by decide)
  have body : noteBody.Regular (some .document) := regular_of_plain (by decide) (by decide) (by decide) (by decide) rfl
    (by decide) (by simp)
  have whole : note.Regular none := regular_of_plain (by decide) (by decide) (by simp) (by simp) rfl (by decide)
    (by simp)
  refine .mk ⟨whole,by simp [note]⟩ (List.forall_mem_singleton.mpr (.mk ⟨body,by simp [noteBody]⟩ ?_))
  exact List.forall_mem_singleton.mpr (.mk ⟨raw,by simp [noteRaw]⟩ (List.forall_mem_nil _))

private theorem spelled_note : SpelledAll [note] noteSource.toList := by
  have comment : IsComment " a <note> ".toList := by decide
  have gap := IsGap.blank (c := ' ') rfl (.comment comment (.blank (c := '\n') rfl .nil))
  have raw : Spelled noteRaw _ := .verbatim rfl .nil
  have width : SpelledAttributes noteBody.attributes _ := .cons (List.cons_ne_nil ' ' []) (List.forall_mem_singleton.mpr rfl)
    (.inr rfl) .nil
  have body : Spelled noteBody _ := .plain rfl width (.cons .nil raw (.nil .nil))
  have document : Spelled note _ := .plain rfl .nil (.cons gap body (.nil .nil))
  have whole := SpelledAll.cons .nil document (.nil .nil)
  refine Eq.mp (congrArg (SpelledAll [note]) ?_) whole
  decide

theorem writing_is_read_back_of_note :
    ∃ same, ofSource noteSource.toList = .ok same ∧ same.unplaced = note.unplaced :=
  (writing_is_read_back note writable_note).2 noteSource spelled_note

def spacedGroup : Element := ⟨.forAll, [⟨"a b", "x"⟩], [], "", 0⟩

def spacedDefaults : Element := ⟨.defaults, [], [spacedGroup], "", 0⟩

def spacedHead : Element := ⟨.head, [], [spacedDefaults], "", 0⟩

def spacedDocument : Element := ⟨.document, [], [spacedHead], "", 0⟩

def spacedNameSource : String :=
  "<mjml><mj-head><mj-attributes><mj-all a b=\"x\"></mj-all></mj-attributes></mj-head></mjml>"

private theorem regular_spacedDocument : spacedDocument.Throughout Regular none := by
  have group : spacedGroup.Regular (some .defaults) := regular_of_plain (by decide) (by simp) (by decide) (by simp) rfl
    (by decide) (by simp)
  have defaults : spacedDefaults.Regular (some .head) := regular_of_plain (by decide) (by decide) (by simp) (by simp) rfl
    (by decide) (by simp)
  have head : spacedHead.Regular (some .document) := regular_of_plain (by decide) (by decide) (by simp) (by simp) rfl
    (by decide) (by simp)
  have whole : spacedDocument.Regular none := regular_of_plain (by decide) (by decide) (by simp) (by simp) rfl (by decide)
    (by simp)
  refine .mk whole (List.forall_mem_singleton.mpr (.mk head (List.forall_mem_singleton.mpr (.mk defaults ?_))))
  exact List.forall_mem_singleton.mpr (.mk group (List.forall_mem_nil _))

private theorem spelled_spacedDocument : SpelledAll [spacedDocument] spacedNameSource.toList := by
  have group : Spelled spacedGroup _ := .plain rfl (spelled_writtenAttributes _) (.nil .nil)
  have defaults : Spelled spacedDefaults _ := .plain rfl .nil (.cons .nil group (.nil .nil))
  have head : Spelled spacedHead _ := .plain rfl .nil (.cons .nil defaults (.nil .nil))
  have document : Spelled spacedDocument _ := .plain rfl .nil (.cons .nil head (.nil .nil))
  have whole := SpelledAll.cons .nil document (.nil .nil)
  refine Eq.mp (congrArg (SpelledAll [spacedDocument]) ?_) whole
  decide

private theorem ofSource_spacedNameSource :
    ofSource spacedNameSource.toList = .error ⟨30, .attributeFlaw "mj-all" (.noEquals 9)⟩ := by
  with_unfolding_all rfl

/-- A tree of the dialect is not always read back: a name in a group of attributes may fall apart when it is written. -/
theorem spaced_name_is_not_read_back : ¬ ∀ (root : Element) (source : String), root.Throughout Regular none →
    SpelledAll [root] source.toList → ∃ same, ofSource source.toList = .ok same ∧ same.unplaced = root.unplaced := by
  intro reads
  obtain ⟨same,read,_⟩ := reads spacedDocument spacedNameSource regular_spacedDocument spelled_spacedDocument
  rw [ofSource_spacedNameSource] at read
  contradiction

end Element

end Letterpress.Markup
