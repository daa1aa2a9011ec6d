import Letterpress.Proofs.Plain

/-! Expressions in content. An indented page takes them over as they are written. A minified page collapses the blanks in
them as it does everywhere, so it takes over those in which there is nothing to collapse, those in preformatted blocks, and of
the others all but the blanks. -/
namespace Letterpress
open Markup Html Text

variable {source : String} {root body e : Element} {above : List Element} {expression : List Char} {raw : String}
  {fragments : List Fragment}

private theorem content_mem_page (read : Element.ofSource source.toList = .ok root) (found : root.child? .body = some body)
    (stands : Element.Stands body above e) (verbatim : e.tag.isVerbatim = true) :
    e.content ∈ Fragment.contents (page root) ∧ IsTrimmed e.content.toList := by
  have made := assembled_of_source read
  have within := made.inside (tag_of_child? found).2
  refine ⟨?_,(within.stands stands).own.isTrimmed⟩
  rw [contents_page made,found]
  exact List.mem_append_right _ (Element.Assembled.content_mem within stands verbatim)

/-- A stretch that may not be collapsed: there is nothing to collapse in it, or it stands in a preformatted block. -/
def IsKept (content stretch : List Char) : Prop :=
  Settled stretch ∨ ∃ block, .preformatted block ∈ pieces content ∧ stretch <:+: block

private theorem infix_of_isKept {content : List Char} (kept : IsKept content expression)
    (opens : opensExpression <+: expression)
    (within : expression <:+: content) : expression <:+: collapseChars content := by
  rcases kept with settled | ⟨block,piece,inside⟩
  · obtain ⟨before,after,rfl⟩ := within
    obtain ⟨rest,rfl⟩ := opens
    have start : ∀ c ∈ (opensExpression ++ rest).head?, isBlank c = false := by
      intro c first
      cases first
      decide
    obtain ⟨sooner,later,same,_⟩ := collapseChars_keeps before after settled fun _ => start
    rw [← List.append_assoc] at same
    exact ⟨sooner,later,by rw [same,List.append_assoc]⟩
  · exact infix_of_preformatted piece inside

private theorem exists_respaced {content : List Char} (within : expression <:+: content) : ∃ respaced,
    respaced <:+: collapseChars content ∧ respaced.filter (!isBlank ·) = expression.filter (!isBlank ·) := by
  obtain ⟨before,after,rfl⟩ := within
  have filled := filter_collapseChars (before ++ expression ++ after)
  rw [List.filter_append,List.filter_append] at filled
  obtain ⟨left,right,whole,inner,_⟩ := List.filter_eq_append_iff.mp filled
  obtain ⟨first,second,rfl,_,same⟩ := List.filter_eq_append_iff.mp inner
  exact ⟨second,⟨first,right,whole.symm⟩,same⟩

/-- An expression in the content of a text, a button, a table or raw content of the body stands in the page as it is written
when the page is indented. When it is minified, so does every expression that may not be collapsed, and any other but for
its blanks. -/
theorem expressions_survive (source : String) (root body e : Element) (above : List Element) (expression : List Char)
    (read : Element.ofSource source.toList = .ok root) (found : root.child? .body = some body)
    (stands : Element.Stands body above e) (kind : e.tag ∈ [Tag.text, .button, .table, .raw])
    (within : expression <:+: e.content.toList) (opens : opensExpression <+: expression) :
    ∃ indented minified, compile ⟨false⟩ source = .ok indented ∧ compile ⟨true⟩ source = .ok minified ∧
      expression <:+: indented.toList ∧
      (IsKept e.content.toList expression → expression <:+: minified.toList) ∧
      ∃ respaced, respaced <:+: minified.toList ∧ respaced.filter (!isBlank ·) = expression.filter (!isBlank ·) := by
  have verbatim : e.tag.isVerbatim = true := by
    simp only [List.mem_cons,List.not_mem_nil,or_false] at kind
    rcases kind with tag | tag | tag | tag <;> rw [tag] <;> rfl
  obtain ⟨member,trimmed⟩ := content_mem_page read found stands verbatim
  have small := Fragment.minified_isInfix member
  rw [minified_content trimmed] at small
  obtain ⟨respaced,stretch,same⟩ := exists_respaced within
  exact ⟨_,_,compile_of_root ⟨false⟩ read,compile_of_root ⟨true⟩ read,within.trans (Fragment.indented_isInfix member),
    fun kept => (infix_of_isKept kept opens within).trans small,respaced,stretch.trans small,same⟩

def greetingSource : String := "<mjml><mj-body><mj-raw>Dear \x7b\x7bname\x7d\x7d</mj-raw></mj-body></mjml>"

theorem expressions_survive_in_a_greeting : ∃ minified, compile ⟨true⟩ greetingSource = .ok minified ∧
    "\x7b\x7bname\x7d\x7d".toList <:+: minified.toList := by
  let raw : Element := ⟨.raw, [], [], "Dear \x7b\x7bname\x7d\x7d", 15⟩
  let body : Element := ⟨.body, [], [raw], "", 6⟩
  have read : Element.ofSource greetingSource.toList = .ok ⟨.document, [], [body], "", 0⟩ := by with_unfolding_all rfl
  have stands : Element.Stands body [body] raw := .child .root List.mem_cons_self
  have within : "\x7b\x7bname\x7d\x7d".toList <:+: raw.content.toList := ⟨"Dear ".toList,[],by decide⟩
  obtain ⟨indented,minified,_,compiled,_,kept,_⟩ :=
    expressions_survive greetingSource _ body raw [body] _ read rfl stands (by decide) within (by decide)
  exact ⟨minified,compiled,kept (.inl (settled_of_all (by decide)))⟩

private theorem tame_of_bare {leaves : List Leaf} (bare : ∀ leaf ∈ leaves, leaf.content? = none)
    (firm : ∀ html, .scaffold html ∈ leaves → Firm html) : Tame (String.ofList (leaves.flatMap Leaf.minified)) := by
  induction leaves with
  | nil => exact tame_empty
  | cons leaf rest ih =>
    have later := ih (fun other member => bare other (List.mem_cons_of_mem leaf member))
      fun html member => firm html (List.mem_cons_of_mem leaf member)
    cases leaf with
    | content raw => exact absurd (bare _ List.mem_cons_self) (by simp [Leaf.content?])
    | scaffold html =>
      rw [List.flatMap_cons,String.ofList_append,Leaf.minified,String.ofList_toList]
      exact ((firm html List.mem_cons_self).append later).tame

/-- Where all content of a page is one text between firm scaffold, expressions stand nowhere but in it. -/
theorem infix_of_alone (firmly : Firmly fragments) (alone : Fragment.contents fragments = [raw])
    (trimmed : IsTrimmed raw.toList) (opens : opensExpression <+: expression) (closes : closesExpression <:+ expression)
    (within : expression <:+: (Layout.minified.set fragments).toList) : expression <:+: collapseChars raw.toList := by
  obtain ⟨before,leaf,after,parts,first,here,last⟩ := List.filterMap_eq_cons_iff.mp alone
  obtain rfl : leaf = .content raw := by
    cases leaf with
    | scaffold html => contradiction
    | content other => cases here; rfl
  have left := tame_of_bare first fun html member => firmly html (parts ▸ List.mem_append_left _ member)
  have right := tame_of_bare (List.filterMap_eq_nil_iff.mp last) fun html member =>
    firmly html (parts ▸ List.mem_append_right _ (List.mem_cons_of_mem _ member))
  have opened := left.before (v := "\x7b") (lone_ofList _ rfl)
  have closed := right.after (s := ['\x7d']) (lone_of_isLone rfl)
  rw [String.toList_append,String.toList_ofList] at opened
  rw [String.toList_ofList] at closed
  change _ <:+: (Fragment.allJoined fragments).toList at within
  rw [Fragment.toList_allJoined,parts,List.flatMap_append,List.flatMap_cons,minified_content trimmed,
    ← List.append_assoc] at within
  exact infix_of_around opens closes opened closed within

def spacedSource : String := "<mjml><mj-body><mj-raw>\x7b\x7b\"a  b\"\x7d\x7d</mj-raw></mj-body></mjml>"

def spacedRaw : Element := ⟨.raw, [], [], "\x7b\x7b\"a  b\"\x7d\x7d", 15⟩

def spacedBody : Element := ⟨.body, [], [spacedRaw], "", 6⟩

def spacedDocument : Element := ⟨.document, [], [spacedBody], "", 0⟩

private theorem ofSource_spacedSource : Element.ofSource spacedSource.toList = .ok spacedDocument := by with_unfolding_all rfl

private theorem carries_spacedDocument : spacedDocument.Everywhere (Element.Carries LoneText) := by
  have bare (e : Element) (attributes : e.attributes = []) (tag : e.tag ∈ [Tag.document, .body, .raw]) :
      e.Carries LoneText := by
    refine ⟨fun a member => ?_,fun kind => ?_⟩
    · rw [attributes] at member
      contradiction
    · rcases kind with same | same | same <;> rw [same] at tag <;> contradiction
  refine Element.everywhere_iff.mpr ⟨bare spacedDocument rfl (by decide),List.forall_mem_singleton.mpr ?_⟩
  refine Element.everywhere_iff.mpr ⟨bare spacedBody rfl (by decide),List.forall_mem_singleton.mpr ?_⟩
  exact Element.everywhere_iff.mpr ⟨bare spacedRaw rfl (by decide),List.forall_mem_nil _⟩

/-- Two blanks in a text inside of an expression become one. -/
theorem expression_is_collapsed : ¬ ∀ (source : String) (root body e : Element) (above : List Element)
    (expression : List Char) (html : String), Element.ofSource source.toList = .ok root → root.child? .body = some body →
    Element.Stands body above e → e.tag ∈ [Tag.text, .button, .table, .raw] → expression <:+: e.content.toList →
    opensExpression <+: expression → closesExpression <:+ expression → compile ⟨true⟩ source = .ok html →
    expression <:+: html.toList := by
  intro survives
  have read := ofSource_spacedSource
  have stands : Element.Stands spacedBody [spacedBody] spacedRaw := .child .root List.mem_cons_self
  have within := survives spacedSource spacedDocument spacedBody spacedRaw [spacedBody] spacedRaw.content.toList _ read rfl
    stands (by decide) List.infix_rfl (by decide) (by decide) (compile_of_root ⟨true⟩ read)
  have alone : Fragment.contents (page spacedDocument) = [spacedRaw.content] := contents_page (assembled_of_source read)
  have trimmed : IsTrimmed spacedRaw.content.toList := isTrimmed_of_trimChars (by decide)
  have stretch := infix_of_alone (firmly_page carries_spacedDocument) alone trimmed (by decide) (by decide) within
  rw [collapseChars_of_blockless (by decide)] at stretch
  exact absurd stretch.length_le (by decide)

end Letterpress
