import Letterpress.Proofs.Plain
import Letterpress.Proofs.Html.Weaving

/-! The top level of a document. Nothing but heads and bodies stands there, in any order; a document may do without a body, and
then that of its page is empty. As long as nothing stands there twice, all of it is set. -/
namespace Letterpress
open Markup Html

variable {root e : Element} {children : List Element} {tag : Tag} {source html : String}

private theorem child?_eq_some_iff (distinct : (root.children.map (·.tag)).Nodup) :
    root.child? tag = some e ↔ e ∈ root.children ∧ e.tag = tag := by
  constructor
  · exact fun found => (tag_of_child? found).symm
  · rintro ⟨member,rfl⟩
    cases found : root.child? e.tag with
    | none =>
      have absent := List.find?_eq_none.mp found e member
      simp at absent
    | some other =>
      obtain ⟨same,listed⟩ := tag_of_child? found
      rw [List.inj_on_of_nodup_map distinct listed member same]

private theorem child?_of_perm (distinct : (root.children.map (·.tag)).Nodup) (same : children.Perm root.children) (tag : Tag) :
    Element.child? { root with children := children } tag = root.child? tag := by
  have still : (children.map (·.tag)).Nodup := (same.map (·.tag)).nodup_iff.mpr distinct
  ext e
  rw [child?_eq_some_iff distinct,← same.mem_iff]
  exact child?_eq_some_iff still

/-- Where nothing stands twice on the top level, the order there does not matter. -/
theorem page_of_perm (distinct : (root.children.map (·.tag)).Nodup) (same : children.Perm root.children) :
    page { root with children := children } = page root := by
  unfold page languageOf
  simp only [child?_of_perm distinct same]
  rfl

/-- On the top level of a document that compiles stand heads and bodies only, and a document without a body has an empty one
in its page. Where nothing stands there twice, its order does not matter, and all raw content of the head and everything in
the body is set. -/
theorem top_level_is_set (options : CompileOptions) (source html : String) (compiled : compile options source = .ok html) :
    ∃ root, Element.ofSource source.toList = .ok root ∧ html = options.layout.set (page root) ∧
      (∀ child ∈ root.children, child.tag = .head ∨ child.tag = .body) ∧
      options.layout.text 1 [bodyOf root] <:+: html.toList ∧
      (root.child? .body = none → bodyOf root = .line "<body style=\"word-spacing:normal;\"></body>") ∧
      ((root.children.map (·.tag)).Nodup →
        (∀ child ∈ root.children, root.child? child.tag = some child) ∧
        (∀ children, children.Perm root.children → page { root with children := children } = page root) ∧
        (∀ head ∈ root.children, head.tag = .head → ∀ e ∈ head.children, e.tag = .raw →
          options.layout.setContent e.content <:+: html.toList) ∧
        ∀ body ∈ root.children, body.tag = .body → ∀ above e, Element.Stands body above e → e.tag.isVerbatim = true →
          options.layout.setContent e.content <:+: html.toList) := by
  obtain ⟨root,read,rfl⟩ := exists_root_of_compile compiled
  have made := assembled_of_source read
  have isDocument : root.tag = .document := made.own.fits
  refine ⟨root,read,rfl,fun child member => ?_,text_body_isInfix options.layout root,fun absent => ?_,fun distinct =>
    ⟨fun child member => ?_,fun children same => ?_,?_,?_⟩⟩
  · have fits := made.inDialect.children child member
    rw [isDocument] at fits
    simpa [Tag.children] using fits
  · rw [bodyOf,absent]
    rfl
  · exact (child?_eq_some_iff distinct).mpr ⟨member,rfl⟩
  · exact page_of_perm distinct same
  · intro head member isHead e listed isRaw
    have found := (child?_eq_some_iff distinct).mpr ⟨member,isHead⟩
    have taken : e.content ∈ Fragment.contents (page root) := by
      rw [contents_page made,found,raw_ofHead]
      refine List.mem_append_left _ (List.mem_map_of_mem ?_)
      exact List.mem_filter.mpr ⟨listed,by simpa using isRaw⟩
    exact setContent_isInfix options.layout taken ((made.inside member).inside listed).own.isTrimmed
  · intro body member isBody above e stands verbatim
    have found := (child?_eq_some_iff distinct).mpr ⟨member,isBody⟩
    have within := made.inside member
    have taken : e.content ∈ Fragment.contents (page root) := by
      rw [contents_page made,found]
      exact List.mem_append_right _ (Element.Assembled.content_mem within stands verbatim)
    exact setContent_isInfix options.layout taken (within.stands stands).own.isTrimmed

/-- A head, if any, and then a body. -/
def IsOrderly (root : Element) : Prop := root.children.map (·.tag) ∈ [[.body], [.head, .body]]

def reversedDocument : Element :=
  ⟨.document, [], [⟨.body, [], [⟨.raw, [], [], "a", 15⟩], "", 6⟩, ⟨.head, [], [], "", 43⟩], "", 0⟩

def reversedSource : String := "<mjml><mj-body><mj-raw>a</mj-raw></mj-body><mj-head></mj-head></mjml>"

private theorem ofSource_reversedSource :
    Element.ofSource reversedSource.toList = .ok reversedDocument := by with_unfolding_all rfl

theorem top_level_is_set_of_reversed : ∃ html, compile ⟨false⟩ reversedSource = .ok html ∧
    page { reversedDocument with children := reversedDocument.children.reverse } = page reversedDocument ∧
    "a".toList <:+: html.toList := by
  have compiled := compile_of_root ⟨false⟩ ofSource_reversedSource
  obtain ⟨root,read,_,_,_,_,all⟩ := top_level_is_set ⟨false⟩ reversedSource _ compiled
  rw [ofSource_reversedSource] at read
  cases read
  obtain ⟨_,reordered,_,content⟩ := all (by decide)
  have stands : Element.Stands ⟨.body, [], [⟨.raw, [], [], "a", 15⟩], "", 6⟩ _ ⟨.raw, [], [], "a", 15⟩ :=
    Element.Stands.root.child List.mem_cons_self
  exact ⟨_,compiled,reordered _ (List.reverse_perm _),content _ List.mem_cons_self rfl _ _ stands rfl⟩

def bodilessSource : String := "<mjml></mjml>"

private theorem ofSource_bodilessSource : Element.ofSource bodilessSource.toList = .ok ⟨.document, [], [], "", 0⟩ :=
  by with_unfolding_all rfl

/-- A document compiles without a body, and with a head behind its body. -/
theorem loose_documents_compile :
    (∃ root html, Element.ofSource bodilessSource.toList = .ok root ∧ compile ⟨true⟩ bodilessSource = .ok html ∧
      ¬ IsOrderly root ∧ root.children.map (·.tag) = []) ∧
    ∃ root html, Element.ofSource reversedSource.toList = .ok root ∧ compile ⟨true⟩ reversedSource = .ok html ∧
      ¬ IsOrderly root ∧ root.children.map (·.tag) = [.body, .head] := by
  have bodiless := compile_of_root ⟨true⟩ ofSource_bodilessSource
  have reversed := compile_of_root ⟨true⟩ ofSource_reversedSource
  exact ⟨⟨_,_,ofSource_bodilessSource,bodiless,by simp [IsOrderly],rfl⟩,
    ⟨_,_,ofSource_reversedSource,reversed,by simp [IsOrderly,reversedDocument],rfl⟩⟩

end Letterpress
