import Letterpress.Markup.Layers
import Letterpress.Proofs.Markup.Assembling

/-! Where values come from. Every value that an element gets is written in some attribute, of the element itself or of the
defaults in the head, or it is built in; and what is written is a stretch of the source. -/
namespace Letterpress.Markup
variable {Q : String → Prop} {source : List Char} {e root : Element} {holder : Option Tag} {defaults : Defaults}
  {attributes : List Attribute} {s : Styled} {key value : String}

/-- What an element carries that is no content of the page has the property. -/
structure Element.Carries (Q : String → Prop) (e : Element) : Prop where
  values : ∀ a ∈ e.attributes, Q a.value
  content : e.tag = .title ∨ e.tag = .preview ∨ e.tag = .style → Q e.content

/-- What the defaults declare has the property. -/
structure Defaults.Declares (Q : String → Prop) (defaults : Defaults) : Prop where
  forAll : ∀ a ∈ defaults.forAll, Q a.value
  forTag : ∀ entry ∈ defaults.forTag, Q entry.2.value
  forClass : ∀ entry ∈ defaults.forClass, Q entry.2.value

theorem Element.Made.content_stretch (made : e.Made source holder) (written : ∀ v : String, v.toList <:+: source → Q v) :
    Q e.content := by
  obtain ⟨raw,within,same⟩ := made.content
  rw [same]
  refine written _ ?_
  rw [String.toList_ofList]
  exact (Text.trimChars_isInfix raw).trans within

theorem Element.Made.carries (made : e.Made source holder) (written : ∀ v : String, v.toList <:+: source → Q v) :
    e.Carries Q := by
  refine ⟨fun a member => ?_,fun _ => made.content_stretch written⟩
  obtain ⟨inside,within,checked⟩ := made.attributes
  exact written _ (((checkAttributes_spec checked).1 a member).2.trans within)

theorem Element.of_attribute? (values : ∀ a ∈ e.attributes, Q a.value) (found : e.attribute? key = some value) : Q value := by
  obtain ⟨a,present,rfl⟩ := Option.map_eq_some_iff.mp found
  exact values a (List.mem_of_find?_eq_some present)

namespace Defaults

private theorem declares_none : none.Declares Q := by
  constructor <;> intro a member <;> contradiction

private theorem Declares.add (declares : defaults.Declares Q) (values : ∀ a ∈ e.attributes, Q a.value) :
    (defaults.add e).Declares Q := by
  unfold Defaults.add
  split
  · exact ⟨List.forall_mem_append.mpr ⟨declares.forAll,values⟩,declares.forTag,declares.forClass⟩
  · split
    · refine ⟨declares.forAll,declares.forTag,List.forall_mem_append.mpr ⟨declares.forClass,?_⟩⟩
      intro entry member
      obtain ⟨a,declared,rfl⟩ := List.mem_map.mp member
      exact values a (List.mem_of_mem_filter declared)
    · exact declares
  · refine ⟨declares.forAll,List.forall_mem_append.mpr ⟨declares.forTag,?_⟩,declares.forClass⟩
    intro entry member
    obtain ⟨a,declared,rfl⟩ := List.mem_map.mp member
    exact values a declared

/-- The entries of a document stand two levels below its head. -/
theorem declares_ofHead (values : root.Everywhere fun e => ∀ a ∈ e.attributes, Q a.value) :
    (ofHead (root.child? .head)).Declares Q := by
  refine List.foldlRecOn _ _ declares_none fun defaults declares entry member => declares.add ?_
  unfold entries at member
  split at member
  · next head found =>
    obtain ⟨block,within,inside⟩ := List.mem_flatMap.mp member
    have outer := values.inside (List.mem_of_find?_eq_some found)
    exact ((outer.inside (List.mem_of_mem_filter within)).inside inside).own
  · contradiction

end Defaults

private theorem of_lastValue? (all : ∀ a ∈ attributes, Q a.value) (found : lastValue? attributes key = some value) :
    Q value := by
  obtain ⟨a,present,rfl⟩ := Option.map_eq_some_iff.mp found
  exact all a (List.mem_reverse.mp (List.mem_of_find?_eq_some present))

namespace Styled

/-- All that an element may get its values from has the property. -/
structure Holds (Q : String → Prop) (s : Styled) : Prop where
  carried : s.element.Carries Q
  declared : s.defaults.Declares Q
  builtIn : ∀ tag : Tag, ∀ entry ∈ tag.builtIn, Q entry.2

/-- The same of the values alone. -/
structure Draws (Q : String → Prop) (s : Styled) : Prop where
  own : ∀ a ∈ s.element.attributes, Q a.value
  declared : s.defaults.Declares Q
  builtIn : ∀ tag : Tag, ∀ entry ∈ tag.builtIn, Q entry.2

private theorem Holds.draws (holds : s.Holds Q) : s.Draws Q := ⟨holds.carried.values,holds.declared,holds.builtIn⟩

private theorem Draws.fromClasses (draws : s.Draws Q) (found : s.fromClasses? key = some value) : Q value := by
  obtain ⟨names,_,found⟩ := Option.bind_eq_some_iff.mp found
  obtain ⟨name,_,given⟩ := List.exists_of_findSome?_eq_some found
  refine of_lastValue? (fun a member => ?_) given
  obtain ⟨entry,declared,rfl⟩ := List.mem_map.mp member
  exact draws.declared.forClass entry (List.mem_of_mem_filter declared)

private theorem Draws.forTag (draws : s.Draws Q) {tag : Tag} (found : s.defaults.tagValue? tag key = some value) : Q value := by
  refine of_lastValue? (fun a member => ?_) found
  obtain ⟨entry,declared,rfl⟩ := List.mem_map.mp member
  exact draws.declared.forTag entry (List.mem_of_mem_filter declared)

private theorem Draws.get (draws : s.Draws Q) (found : s.get? key = some value) : Q value := by
  simp only [get?,Option.or_eq_some_iff] at found
  rcases found with own | ⟨_,classes | ⟨_,tag | ⟨_,all | ⟨_,builtIn⟩⟩⟩⟩
  · exact s.element.of_attribute? draws.own own
  · exact draws.fromClasses classes
  · exact draws.forTag tag
  · split at all
    · exact of_lastValue? draws.declared.forAll all
    · contradiction
  · obtain ⟨entry,present,rfl⟩ := Option.map_eq_some_iff.mp builtIn
    exact draws.builtIn _ entry (List.mem_of_find?_eq_some present)

theorem Draws.filled (draws : s.Draws Q) (found : s.filled? key = some value) : Q value :=
  draws.get (Option.filter_eq_some_iff.mp found).1

private theorem Draws.getD (draws : s.Draws Q) {fallback : String} (last : Q fallback) : Q (s.getD key fallback) := by
  unfold Styled.getD
  cases found : s.filled? key with
  | none => exact last
  | some value => exact draws.filled found

theorem Holds.filled (holds : s.Holds Q) (found : s.filled? key = some value) : Q value := holds.draws.filled found

theorem Holds.getD (holds : s.Holds Q) {fallback : String} (last : Q fallback) : Q (s.getD key fallback) :=
  holds.draws.getD last

end Styled
end Letterpress.Markup
