import Letterpress.Markup.Layers
import Letterpress.Proofs.Markup.Assembling

/-! The dialect that an element keeps to once it has been read: what it holds, what it carries, and how much of it there can
be below one another. -/
namespace Letterpress.Markup
open Letterpress.Text

namespace Tag

/-- How many levels of elements an element has room for. -/
def room : Tag → Nat
  | document => 7
  | head => 6
  | defaults => 5
  | body => 4
  | wrapper => 3
  | band => 2
  | column => 1
  | _ => 0

/-- How many levels an element has room for when blocks of defaults have none. -/
def roomOutside : Tag → Nat
  | document => 5
  | body => 4
  | wrapper => 3
  | band => 2
  | column | head => 1
  | _ => 0

theorem room_lt {parent child : Tag} (allowed : child ∈ parent.children) : child.room < parent.room := by
  have falls : ∀ parent ∈ every, ∀ child ∈ parent.children, child.room < parent.room := by decide
  exact falls parent (mem_every parent) child allowed

theorem roomOutside_lt {parent child : Tag} (outside : parent ≠ .defaults) (allowed : child ∈ parent.children) :
    child.roomOutside < parent.roomOutside := by
  have falls : ∀ parent ∈ every, parent ≠ .defaults → ∀ child ∈ parent.children,
    child.roomOutside < parent.roomOutside := by decide
  exact falls parent (mem_every parent) outside child allowed

private theorem children_of_isVerbatim {tag : Tag} (verbatim : tag.isVerbatim = true) : tag.children = [] := by
  cases tag <;> first | rfl | contradiction

theorem forClass_child_iff (parent : Tag) : forClass ∈ parent.children ↔ parent = defaults := by
  cases parent <;> decide

end Tag

namespace Element
variable {source : List Char} {root parent e : Element} {above : List Element} {holder : Option Tag}

/-- What holds of an element of the dialect. -/
structure InDialect (e : Element) : Prop where
  children : ∀ child ∈ e.children, child.tag ∈ e.tag.children
  accepted : ∀ a ∈ e.attributes, e.tag.accepts a.key = true
  distinct : (e.attributes.map (·.key)).Nodup
  verbatim : e.tag.isVerbatim = true → e.children = [] ∧ IsTrimmed e.content.toList
  plain : e.tag.isVerbatim = false → e.content = ""
  width : e.tag = .column → ∀ width, e.attribute? "width" = some width → isBlankText width = false →
    (Css.Width.ofString? width).isSome = true

theorem isSome_attribute?_iff (e : Element) (key : String) :
    (e.attribute? key).isSome = true ↔ ∃ a ∈ e.attributes, a.key = key := by
  simp [attribute?]

private theorem readable_of_checkWidth (checked : checkWidth e = .ok ()) (isColumn : e.tag = .column) {width : String}
    (has : e.attribute? "width" = some width) (filled : isBlankText width = false) :
    (Css.Width.ofString? width).isSome = true := by
  unfold checkWidth at checked
  rw [isColumn,has] at checked
  simpa [filled,Option.isSome_iff_ne_none] using checked

theorem carried_of_checkRequired (checked : checkRequired e = .ok ()) {key : String} (required : key ∈ e.tag.required) :
    (e.attribute? key).isSome = true := by
  unfold checkRequired at checked
  split at checked
  · contradiction
  · next complete =>
    have carried := List.find?_eq_none.mp complete key required
    rw [isSome_attribute?_iff]
    simpa using carried

theorem Made.isTrimmed (made : e.Made source holder) : IsTrimmed e.content.toList := by
  obtain ⟨raw,_,same⟩ := made.content
  rw [same,String.toList_ofList]
  exact isTrimmed_trimChars raw

theorem Assembled.childless (made : e.Assembled source holder) (leaf : e.tag.children = []) : e.children = [] := by
  apply List.eq_nil_iff_forall_not_mem.mpr
  intro child member
  have impossible : child.tag ∈ e.tag.children := (made.inside member).own.fits
  rw [leaf] at impossible
  contradiction

theorem Assembled.inDialect (made : e.Assembled source holder) : e.InDialect := by
  obtain ⟨inside,_,checked⟩ := made.own.attributes
  have attributes := checkAttributes_spec checked
  exact ⟨fun child member => (made.inside member).own.fits,fun a member => (attributes.1 a member).1,attributes.2,
    fun verbatim => ⟨Assembled.childless made (Tag.children_of_isVerbatim verbatim),made.own.isTrimmed⟩,
    made.own.plain,fun isColumn width has filled => readable_of_checkWidth made.own.width isColumn has filled⟩

/-- Whatever falls from every element around `e` to what it may hold bounds how many there are. -/
theorem Assembled.length_add_le (made : root.Assembled source none) (stands : Stands root above e) (rank : Tag → Nat)
    (falls : ∀ parent ∈ above, ∀ child ∈ parent.tag.children, rank child < rank parent.tag) :
    above.length + rank e.tag ≤ rank .document := by
  have isDocument : root.tag = .document := made.own.fits
  have bound := stands.length_add_le rank fun parent member child inside => by
    obtain ⟨further,outer⟩ := stands.of_mem member
    exact falls parent member child.tag ((Assembled.inDialect (Assembled.stands made outer)).children child inside)
  rwa [isDocument] at bound

/-- Inside a body there is nothing but boxes and raw content. -/
theorem Assembled.isBox_or_raw (made : root.Assembled source holder) (isBody : root.tag = .body)
    (stands : Stands root above e) : e.tag.isBox = true ∨ e.tag = .raw := by
  have closed : ∀ parent ∈ Tag.every, parent.isBox = true → ∀ child ∈ parent.children,
    child.isBox = true ∨ child = .raw := by decide
  induction stands with
  | root =>
    rw [isBody]
    decide
  | @child above parent e outer member ih =>
    have fits := (Assembled.inDialect (Throughout.stands made outer)).children e member
    rcases ih with box | raw
    · exact closed parent.tag (Tag.mem_every _) box e.tag fits
    · rw [raw] at fits
      contradiction

/-- What holds an element inside a body is a box. -/
theorem Assembled.holds_of_stands (made : root.Assembled source holder) (isBody : root.tag = .body)
    (stands : Stands root (parent :: above) e) :
    Stands root above parent ∧ e ∈ parent.children ∧ parent.tag.isBox = true ∧ e.tag ∈ parent.tag.children := by
  cases stands with
  | child outer member =>
    have fits := (Assembled.inDialect (Throughout.stands made outer)).children e member
    refine ⟨outer,member,(made.isBox_or_raw isBody outer).resolve_right fun raw => ?_,fits⟩
    rw [raw] at fits
    contradiction

end Element
end Letterpress.Markup
