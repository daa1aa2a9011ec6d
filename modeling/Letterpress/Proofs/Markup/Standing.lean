import Letterpress.Markup.Element

/-! Where the elements of a tree stand. A statement about elements and the tags around them spreads from the root to every
element, and a rank of tags that falls from each element to those inside it bounds how deep elements are nested. Trees that
are equal once they have been recast differ in content or place only. -/
namespace Letterpress.Markup

/-- The kinds of content that fill a body. -/
def Tag.isFilling : Tag → Bool
  | text | button | table | raw => true
  | _ => false

/-- A mark for content, if there is any. -/
def mark (content : String) : String := if content.isEmpty then "" else "x"

/-- Leaves nothing of what fills a body but a mark where there is something. -/
def bare (tag : Tag) (content : String) : String := if tag.isFilling then mark content else content

namespace Element

/-- `e` stands in the tree of `root`, inside the elements `above`, of which the innermost comes first. -/
inductive Stands (root : Element) : List Element → Element → Prop
  | root : Stands root [] root
  | child {above : List Element} {parent e : Element} (outer : Stands root above parent) (inside : e ∈ parent.children) :
      Stands root (parent :: above) e

variable {P : Option Tag → Element → Prop} {root parent e child : Element} {above : List Element} {holder : Option Tag}

private theorem Stands.deeper (stands : Stands child above e) (inside : child ∈ root.children) :
    Stands root (above ++ [root]) e := by
  induction stands with
  | root => exact .child .root inside
  | child outer member ih => exact .child ih member

theorem Stands.of_mem (stands : Stands root above e) (member : parent ∈ above) : ∃ further, Stands root further parent := by
  induction stands with
  | root => contradiction
  | child outer inside ih =>
    rcases List.mem_cons.mp member with rfl | later
    · exact ⟨_,outer⟩
    · exact ih later

/-- What holds of an element and of everything inside of it. -/
def Everywhere (holds : Element → Prop) (e : Element) : Prop := ∀ above inner, Stands e above inner → holds inner

section Everywhere
variable {holds : Element → Prop}

theorem Everywhere.own (all : e.Everywhere holds) : holds e := all [] e .root

theorem Everywhere.inside (all : e.Everywhere holds) (member : child ∈ e.children) : child.Everywhere holds :=
  fun _ inner stands => all _ inner (stands.deeper member)

theorem Everywhere.mono {weaker : Element → Prop} (all : e.Everywhere holds) (each : ∀ inner, holds inner → weaker inner) :
    e.Everywhere weaker := fun above inner stands => each inner (all above inner stands)

theorem everywhere_iff : e.Everywhere holds ↔ holds e ∧ ∀ child ∈ e.children, child.Everywhere holds := by
  constructor
  · exact fun all => ⟨all.own,fun child member => all.inside member⟩
  · rintro ⟨own,inside⟩ above inner stands
    -- a place is the element itself, or in one of its children
    have place : inner = e ∨ ∃ child ∈ e.children, ∃ further, Stands child further inner := by
      induction stands with
      | root => exact .inl rfl
      | child outer member ih =>
        rcases ih with rfl | ⟨child,listed,further,within⟩
        · exact .inr ⟨_,member,[],.root⟩
        · exact .inr ⟨child,listed,_,within.child member⟩
    rcases place with rfl | ⟨child,listed,further,within⟩
    · exact own
    · exact inside child listed further inner within

end Everywhere

/-- `P` holds of an element and the tag that it stands in, and of all that stands inside of it. -/
inductive Throughout (P : Option Tag → Element → Prop) : Option Tag → Element → Prop
  | mk {holder : Option Tag} {e : Element} (own : P holder e)
      (inside : ∀ child ∈ e.children, Throughout P (some e.tag) child) : Throughout P holder e

theorem Throughout.own (all : Throughout P holder e) : P holder e := by
  cases all with
  | mk own inside => exact own

theorem Throughout.inside (all : Throughout P holder e) (member : child ∈ e.children) :
    Throughout P (some e.tag) child := by
  cases all with
  | mk own inside => exact inside child member

theorem Throughout.stands (all : Throughout P holder root) (stands : Stands root above e) :
    Throughout P ((above.head?.map (·.tag)).or holder) e := by
  induction stands with
  | root => exact all
  | child outer member ih => exact ih.inside member

theorem Throughout.everywhere {holds : Element → Prop} (all : Throughout P holder e)
    (each : ∀ holder inner, P holder inner → holds inner) : e.Everywhere holds :=
  fun _ inner stands => each _ inner (all.stands stands).own

theorem Throughout.attach (all : Throughout P holder e) (more : Throughout P (some e.tag) child)
    (same : P holder (e.attach child)) : Throughout P holder (e.attach child) := by
  refine .mk same fun other member => ?_
  have cases := List.mem_append.mp member
  rcases cases with before | last
  · exact all.inside before
  · rw [List.mem_singleton.mp last]
    exact more

theorem Stands.length_add_le (rank : Tag → Nat) (stands : Stands root above e)
    (falls : ∀ parent ∈ above, ∀ child ∈ parent.children, rank child.tag < rank parent.tag) :
    above.length + rank e.tag ≤ rank root.tag := by
  induction stands with
  | root => simp
  | @child above parent e outer member ih =>
    have bound := ih fun other later => falls other (List.mem_cons_of_mem parent later)
    have step := falls parent List.mem_cons_self e member
    simp only [List.length_cons]
    omega

mutual
/-- The element with all content in it rewritten and all places in it forgotten. -/
def recast (rewrite : Tag → String → String) : Element → Element
  | ⟨tag, attributes, children, content, _⟩ => ⟨tag, attributes, allRecast rewrite children, rewrite tag content, 0⟩

def allRecast (rewrite : Tag → String → String) : List Element → List Element
  | [] => []
  | e :: rest => recast rewrite e :: allRecast rewrite rest
end

def unplaced (e : Element) : Element := e.recast fun _ content => content

variable {rewrite : Tag → String → String}

private theorem allRecast_eq (elements : List Element) : allRecast rewrite elements = elements.map (recast rewrite) := by
  induction elements with
  | nil => rfl
  | cons e rest ih => rw [allRecast,ih,List.map_cons]

@[simp] theorem recast_tag (e : Element) : (e.recast rewrite).tag = e.tag := by
  cases e
  rfl

@[simp] theorem recast_attributes (e : Element) : (e.recast rewrite).attributes = e.attributes := by
  cases e
  rfl

@[simp] theorem recast_content (e : Element) : (e.recast rewrite).content = rewrite e.tag e.content := by
  cases e
  rfl

@[simp] theorem recast_children (e : Element) : (e.recast rewrite).children = e.children.map (recast rewrite) := by
  cases e
  exact allRecast_eq _

@[simp] theorem recast_attribute? (e : Element) (key : String) : (e.recast rewrite).attribute? key = e.attribute? key := by
  rw [attribute?,recast_attributes,attribute?]

@[simp] theorem recast_child? (e : Element) (tag : Tag) :
    (e.recast rewrite).child? tag = (e.child? tag).map (recast rewrite) := by
  rw [child?,recast_children,List.find?_map,child?]
  simp only [Function.comp_def,recast_tag]

theorem unplaced_mk (tag : Tag) (attributes : List Attribute) (children : List Element) (content : String) (offset : Nat) :
    (⟨tag, attributes, children, content, offset⟩ : Element).unplaced =
      ⟨tag, attributes, children.map unplaced, content, 0⟩ := by
  rw [unplaced,recast,allRecast_eq]
  rfl

end Element

end Letterpress.Markup
