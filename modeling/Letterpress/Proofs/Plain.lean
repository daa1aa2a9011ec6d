import Letterpress.Compile
import Letterpress.Proofs.Html.Scaffold.Page
import Letterpress.Proofs.Html.Siblings
import Letterpress.Proofs.Placeholder.Plain

/-! Documents without expressions. Setting one writes no double brace, so there is nothing to fill in its page. Minified, raw
content is joined to the raw content before it with nothing in between, and there two braces can meet. -/
namespace Letterpress
open Markup Html

variable {source html : String} {root : Element} {options : CompileOptions}

/-- Nothing in the text opens or closes an expression. -/
def IsPlain (text : String) : Prop := ¬ opensExpression <:+: text.toList ∧ ¬ closesExpression <:+: text.toList

/-- Raw content that is set side by side may meet, in the head of a document and in all of its body. -/
def KeepsRawApart (root : Element) : Prop :=
  (∀ head ∈ root.child? .head, head.KeepsApart) ∧ ∀ body ∈ root.child? .body, body.Everywhere Element.KeepsApart

theorem isPlain_iff : IsPlain html ↔ LoneText html := lone_iff.symm

theorem exists_root_of_compile (compiled : compile options source = .ok html) :
    ∃ root, Element.ofSource source.toList = .ok root ∧ html = options.layout.set (page root) := by
  unfold compile at compiled
  split at compiled
  · next root read =>
    cases compiled
    exact ⟨root,read,rfl⟩
  · contradiction

theorem compile_of_root (options : CompileOptions) (read : Element.ofSource source.toList = .ok root) :
    compile options source = .ok (options.layout.set (page root)) := by
  unfold compile
  rw [read]

private theorem lone_page (made : root.Assembled source.toList none) (clean : Lone source.toList) :
    Firmly (page root) ∧ ∀ raw ∈ Fragment.contents (page root), LoneText raw ∧ Text.IsTrimmed raw.toList := by
  have written (v : String) (within : v.toList <:+: source.toList) : LoneText v := clean.within within
  refine ⟨firmly_page (made.everywhere fun _ _ own => own.carries written),fun raw member => ?_⟩
  obtain ⟨holder,e,own,rfl⟩ := of_mem_contents_page made member
  exact ⟨own.content_stretch written,own.isTrimmed⟩

theorem isPlain_page_iff (options : CompileOptions) (made : root.Assembled source.toList none) (plain : IsPlain source) :
    IsPlain (options.layout.set (page root)) ↔ (options.minify = true → KeepsRawApart root) := by
  obtain ⟨firmly,contents⟩ := lone_page made (isPlain_iff.mp plain)
  obtain ⟨minify⟩ := options
  cases minify with
  | false =>
    have lone := lone_indented firmly fun raw member => (contents raw member).1
    exact iff_of_true (isPlain_iff.mpr lone) fun minified => nomatch minified
  | true =>
    have parted := (lone_minified_iff firmly contents).trans (parted_page_iff made)
    exact (isPlain_iff.trans parted).trans ⟨fun apart _ => apart,fun apart => apart rfl⟩

/-- A document without expressions is set as a page without expressions, and filling that changes nothing: always when the
page is indented, and when it is minified, exactly where no raw content begins with the brace that the raw content before it
ends with. -/
theorem plain_document_stays_plain (options : CompileOptions) (source html : String)
    (compiled : compile options source = .ok html) (plain : IsPlain source) :
    ∃ root, Element.ofSource source.toList = .ok root ∧
      (IsPlain html ↔ (options.minify = true → KeepsRawApart root)) ∧
      (IsPlain html → ∃ template, Placeholder.Template.ofSource html = .ok template ∧
        ∀ data, template.fill data = .ok html) := by
  obtain ⟨root,read,rfl⟩ := exists_root_of_compile compiled
  exact ⟨root,read,isPlain_page_iff options (assembled_of_source read) plain,fun still =>
    Placeholder.filled_of_plain still.1⟩

def quietSource : String := "<mjml><mj-body><mj-raw>\x7b</mj-raw><mj-raw>a\x7d</mj-raw></mj-body></mjml>"

def quietDocument : Element :=
  ⟨.document, [], [⟨.body, [], [⟨.raw, [], [], "\x7b", 15⟩, ⟨.raw, [], [], "a\x7d", 33⟩], "", 6⟩], "", 0⟩

theorem ofSource_quietSource : Element.ofSource quietSource.toList = .ok quietDocument := by with_unfolding_all rfl

theorem keepsRawApart_quietDocument : KeepsRawApart quietDocument := by
  constructor
  · intro head found
    contradiction
  · intro body found
    cases found
    refine Element.everywhere_iff.mpr ⟨.cons_cons (fun _ _ c last d first => ?_) (.singleton _),?_⟩
    · cases last
      cases first
      exact apart_right (by decide)
    · intro child member
      simp only [List.mem_cons,List.not_mem_nil,or_false] at member
      rcases member with rfl | rfl <;> exact Element.keepsApart_of_childless rfl

theorem quietSource_stays_plain : ∃ html, compile ⟨true⟩ quietSource = .ok html ∧ IsPlain html := by
  have compiled := compile_of_root ⟨true⟩ ofSource_quietSource
  have plain : IsPlain quietSource := isPlain_iff.mpr (lone_ofList _ rfl)
  obtain ⟨root,read,still,_⟩ := plain_document_stays_plain ⟨true⟩ quietSource _ compiled plain
  rw [ofSource_quietSource] at read
  cases read
  exact ⟨_,compiled,still.mpr fun _ => keepsRawApart_quietDocument⟩

def touchingSource : String := "<mjml><mj-body><mj-raw>\x7b</mj-raw><mj-raw>\x7b</mj-raw></mj-body></mjml>"

def touchingDocument : Element :=
  ⟨.document, [], [⟨.body, [], [⟨.raw, [], [], "\x7b", 15⟩, ⟨.raw, [], [], "\x7b", 33⟩], "", 6⟩], "", 0⟩

private theorem ofSource_touchingSource :
    Element.ofSource touchingSource.toList = .ok touchingDocument := by with_unfolding_all rfl

private theorem not_keepsRawApart_touchingDocument : ¬ KeepsRawApart touchingDocument := by
  rintro ⟨_,body⟩
  have meet := (List.isChain_cons_cons.mp (body _ rfl).own).1 rfl rfl '\x7b' rfl '\x7b' rfl rfl
  contradiction

/-- Two braces in raw content of their own are doubled where it is joined. -/
theorem raw_braces_meet : ¬ ∀ (options : CompileOptions) (source html : String), compile options source = .ok html →
    IsPlain source → IsPlain html := by
  intro stays
  have plain : IsPlain touchingSource := isPlain_iff.mpr (lone_ofList _ rfl)
  have still := stays ⟨true⟩ touchingSource _ (compile_of_root ⟨true⟩ ofSource_touchingSource) plain
  have apart := (isPlain_page_iff ⟨true⟩ (assembled_of_source ofSource_touchingSource) plain).mp still rfl
  exact not_keepsRawApart_touchingDocument apart

end Letterpress
