import Letterpress.Markup.Layers
import Letterpress.Proofs.Markup.Standing
import Mathlib.Data.List.Forall2
import Mathlib.Data.List.Nodup

/-! Trees that differ in nothing but the attributes of their elements. As long as the attributes of twins answer the same where
they are looked up, by the first or by the last of one name, so do the blocks of defaults that are made of them. -/
namespace Letterpress.Markup

variable {α β : Type}

section Lists
variable {R S : α → β → Prop} {xs : List α} {ys : List β}

theorem forall₂_of_mem (related : List.Forall₂ R xs ys) (each : ∀ x ∈ xs, ∀ y, R x y → S x y) : List.Forall₂ S xs ys := by
  induction related with
  | nil => exact .nil
  | @cons x y xs ys first rest ih =>
    exact .cons (each x List.mem_cons_self y first) (ih fun x member => each x (List.mem_cons_of_mem _ member))

private theorem rel_find? (related : List.Forall₂ R xs ys) {p : α → Bool} {q : β → Bool} (same : ∀ x y, R x y → p x = q y) :
    Option.Rel R (xs.find? p) (ys.find? q) := by
  induction related with
  | nil => exact .none
  | @cons x y xs ys first rest ih =>
    rw [List.find?_cons,List.find?_cons,same x y first]
    cases q y with
    | true => exact .some first
    | false => exact ih

section
variable {γ : Type} (related : List.Forall₂ R xs ys)
include related

theorem map_eq_of_forall₂ {f : α → γ} {g : β → γ} (same : ∀ x y, R x y → f x = g y) : xs.map f = ys.map g := by
  induction related with
  | nil => rfl
  | @cons x y xs ys first rest ih => rw [List.map_cons,List.map_cons,same x y first,ih]

theorem flatMap_eq_of_forall₂ {f : α → List γ} {g : β → List γ} (same : ∀ x y, R x y → f x = g y) :
    xs.flatMap f = ys.flatMap g := by
  rw [List.flatMap_def,List.flatMap_def,map_eq_of_forall₂ related same]

end
end Lists

def firstValue? (attributes : List Attribute) (key : String) : Option String :=
  (attributes.find? (·.key == key)).map (·.value)

private theorem Element.attribute?_eq (e : Element) (key : String) : e.attribute? key = firstValue? e.attributes key := rfl

private theorem lastValue?_eq (attributes : List Attribute) (key : String) :
    lastValue? attributes key = firstValue? attributes.reverse key := rfl

section Attributes
variable {attributes others before after : List Attribute} {key dropped : String}

private theorem lastValue?_append (before after : List Attribute) (key : String) :
    lastValue? (before ++ after) key = (lastValue? after key).or (lastValue? before key) := by
  simp only [lastValue?,List.reverse_append,List.find?_append,Option.map_or]

/-- Attributes of different names may stand in any order. -/
theorem firstValue?_perm (same : attributes.Perm others) (distinct : (attributes.map (·.key)).Nodup) (key : String) :
    firstValue? attributes key = firstValue? others key := by
  have single (a b : Attribute) (member : a ∈ attributes) (listed : b ∈ attributes) (keys : a.key = b.key) : a = b :=
    List.inj_on_of_nodup_map distinct member listed keys
  unfold firstValue?
  cases found : attributes.find? (·.key == key) with
  | none =>
    have absent : others.find? (·.key == key) = none :=
      List.find?_eq_none.mpr fun b listed => List.find?_eq_none.mp found b (same.mem_iff.mpr listed)
    rw [absent]
  | some a =>
    cases foundToo : others.find? (·.key == key) with
    | none =>
      have absent := List.find?_eq_none.mp foundToo a (same.mem_iff.mp (List.mem_of_find?_eq_some found))
      exact absurd (List.find?_some found) absent
    | some b =>
      have named : a.key = key := by simpa using List.find?_some found
      have namedToo : b.key = key := by simpa using List.find?_some foundToo
      have listed := same.mem_iff.mpr (List.mem_of_find?_eq_some foundToo)
      rw [single a b (List.mem_of_find?_eq_some found) listed (named.trans namedToo.symm)]

theorem lastValue?_perm (same : attributes.Perm others) (distinct : (attributes.map (·.key)).Nodup) (key : String) :
    lastValue? attributes key = lastValue? others key := by
  have reversed : attributes.reverse.Perm others.reverse :=
    attributes.reverse_perm.trans (same.trans others.reverse_perm.symm)
  refine firstValue?_perm reversed ?_ key
  rw [List.map_reverse]
  exact List.nodup_reverse.mpr distinct

/-- Attributes of one name say nothing about those of another. -/
theorem firstValue?_without (other : key ≠ dropped) (attributes : List Attribute) :
    firstValue? (attributes.filter (·.key != dropped)) key = firstValue? attributes key := by
  have kept (a : Attribute) : decide ((a.key != dropped) = true ∧ (a.key == key) = true) = (a.key == key) := by
    by_cases same : a.key = key <;> simp [same,other]
  simp only [firstValue?,List.find?_filter,kept]

theorem lastValue?_without (other : key ≠ dropped) (attributes : List Attribute) :
    lastValue? (attributes.filter (·.key != dropped)) key = lastValue? attributes key := by
  rw [lastValue?_eq,← List.filter_reverse,firstValue?_without other,lastValue?_eq]

private theorem lastValue?_dropped (attributes : List Attribute) (key : String) :
    lastValue? (attributes.filter (·.key != key)) key = none := by
  simp [lastValue?]

/-- The attributes that stand under a label. -/
def under [BEq α] (label : α) (pairs : List (α × Attribute)) : List Attribute := (pairs.filter (·.1 == label)).map (·.2)

theorem under_append_labelled [BEq α] [LawfulBEq α] (pairs : List (α × Attribute)) (label wanted : α)
    (attributes : List Attribute) :
    under wanted (pairs ++ attributes.map (label, ·)) = under wanted pairs ++ if label == wanted then attributes else [] := by
  rw [under,List.filter_append,List.map_append,List.filter_map,List.map_map]
  by_cases same : label = wanted
  · simp [same,under,Function.comp_def]
  · simp [same,under,Function.comp_def]

/-- The last value under a label, when more attributes have been put behind under one label. -/
theorem lastValue?_labelled [BEq α] [LawfulBEq α] (pairs : List (α × Attribute)) (label wanted : α)
    (attributes : List Attribute) (key : String) :
    lastValue? (((pairs ++ attributes.map (label, ·)).filter (·.1 == wanted)).map (·.2)) key =
      (if label == wanted then lastValue? attributes key else none).or
        (lastValue? ((pairs.filter (·.1 == wanted)).map (·.2)) key) := by
  rw [← under,under_append_labelled,lastValue?_append,under]
  split <;> rfl

end Attributes

/-- Blocks of defaults that answer the same under the names in `keys`. -/
structure Defaults.AgreeOn (keys : String → Prop) (defaults others : Defaults) : Prop where
  forAll : ∀ key, keys key → lastValue? defaults.forAll key = lastValue? others.forAll key
  forTag : ∀ tag key, keys key → defaults.tagValue? tag key = others.tagValue? tag key
  forClass : ∀ name key, keys key → defaults.classValue? name key = others.classValue? name key

section Defaults
variable {keys : String → Prop} {defaults others : Defaults} {e other : Element} {key : String}

theorem Defaults.add_forAll (isAll : e.tag = .forAll) (defaults : Defaults) :
    defaults.add e = { defaults with forAll := defaults.forAll ++ e.attributes } := by
  simp only [add,isAll]

theorem Defaults.add_forClass (isClass : e.tag = .forClass) (defaults : Defaults) :
    defaults.add e = match e.attribute? "name" with
      | some name => { defaults with
          forClass := defaults.forClass ++ (e.attributes.filter (·.key != "name")).map (name, ·) }
      | Option.none => defaults := by
  cases e
  cases isClass
  rfl

theorem Defaults.add_forTag (kept : e.tag ≠ .forAll ∧ e.tag ≠ .forClass) (defaults : Defaults) :
    defaults.add e = { defaults with forTag := defaults.forTag ++ e.attributes.map (e.tag, ·) } := by
  unfold add
  split
  · next tag => exact absurd tag kept.1
  · next tag => exact absurd tag kept.2
  · rfl

private theorem Defaults.AgreeOn.add (agree : defaults.AgreeOn keys others) (tag : e.tag = other.tag)
    (last : ∀ key, keys key → lastValue? e.attributes key = lastValue? other.attributes key)
    (named : e.tag = .forClass → e.attribute? "name" = other.attribute? "name") :
    (defaults.add e).AgreeOn keys (others.add other) := by
  by_cases isAll : e.tag = .forAll
  · rw [add_forAll isAll,add_forAll (tag ▸ isAll)]
    refine ⟨fun key asked => ?_,agree.forTag,agree.forClass⟩
    rw [lastValue?_append,lastValue?_append,last key asked,agree.forAll key asked]
  · by_cases isClass : e.tag = .forClass
    · rw [add_forClass isClass,add_forClass (tag ▸ isClass),← named isClass]
      cases e.attribute? "name" with
      | none => exact agree
      | some name =>
        refine ⟨agree.forAll,agree.forTag,fun wanted key asked => ?_⟩
        have declared : lastValue? (e.attributes.filter (·.key != "name")) key =
            lastValue? (other.attributes.filter (·.key != "name")) key := by
          by_cases isName : key = "name"
          · rw [isName,lastValue?_dropped,lastValue?_dropped]
          · rw [lastValue?_without isName,lastValue?_without isName,last key asked]
        simp only [Defaults.classValue?,lastValue?_labelled,declared]
        rw [← Defaults.classValue?,← Defaults.classValue?,agree.forClass wanted key asked]
    · rw [add_forTag ⟨isAll,isClass⟩,add_forTag (tag ▸ ⟨isAll,isClass⟩)]
      refine ⟨agree.forAll,fun wanted key asked => ?_,agree.forClass⟩
      simp only [Defaults.tagValue?,lastValue?_labelled,tag,last key asked]
      rw [← Defaults.tagValue?,← Defaults.tagValue?,agree.forTag wanted key asked]

end Defaults

theorem Element.sizeOf_lt_of_mem {e child : Element} (member : child ∈ e.children) : sizeOf child < sizeOf e := by
  have smaller := List.sizeOf_lt_of_mem member
  cases e
  simp only [Element.mk.sizeOf_spec] at smaller ⊢
  omega

/-- Trees of one shape, with the same kinds and contents, whose elements carry related attributes. -/
inductive Element.Twins (R : Tag → List Attribute → List Attribute → Prop) : Element → Element → Prop
  | mk {e other : Element} (tag : e.tag = other.tag) (content : e.content = other.content)
      (own : R e.tag e.attributes other.attributes) (inside : List.Forall₂ (Twins R) e.children other.children) :
      Twins R e other

/-- Related attributes give the same last value to the names in `keys`, the same name to a group, and to elements of a settled
kind the same values altogether. -/
structure Respects (keys : String → Prop) (settled : Tag → Prop) (R : Tag → List Attribute → List Attribute → Prop) :
    Prop where
  last : ∀ {tag attributes others}, R tag attributes others → ∀ key, keys key →
    lastValue? attributes key = lastValue? others key
  first : ∀ {tag attributes others}, R tag attributes others → settled tag → ∀ key,
    firstValue? attributes key = firstValue? others key
  named : ∀ {attributes others}, R .forClass attributes others → firstValue? attributes "name" = firstValue? others "name"

namespace Element.Twins
variable {R : Tag → List Attribute → List Attribute → Prop} {keys : String → Prop} {settled : Tag → Prop} {e other : Element}
  {head head' : Option Element} {defaults others : Defaults}

theorem tag (twins : Twins R e other) : e.tag = other.tag := by
  cases twins with
  | mk tag content own inside => exact tag

theorem content (twins : Twins R e other) : e.content = other.content := by
  cases twins with
  | mk tag content own inside => exact content

private theorem own (twins : Twins R e other) : R e.tag e.attributes other.attributes := by
  cases twins with
  | mk tag content own inside => exact own

theorem inside (twins : Twins R e other) : List.Forall₂ (Twins R) e.children other.children := by
  cases twins with
  | mk tag content own inside => exact inside

theorem child? (twins : Twins R e other) (kind : Tag) : Option.Rel (Twins R) (e.child? kind) (other.child? kind) :=
  rel_find? twins.inside fun x y related => by rw [related.tag]

theorem attribute? (respects : Respects keys settled R) (twins : Twins R e other) (isSettled : settled e.tag) (key : String) :
    e.attribute? key = other.attribute? key := by
  rw [attribute?_eq,attribute?_eq]
  exact respects.first twins.own isSettled key

private theorem entries (twins : Option.Rel (Twins R) head head') :
    List.Forall₂ (Twins R) (Defaults.entries head) (Defaults.entries head') := by
  cases twins with
  | none => exact .nil
  | some twins =>
    have blocks := List.rel_filter (p := (·.tag == .defaults)) (q := (·.tag == .defaults))
      (fun x y related => by simp only [related.tag]) twins.inside
    exact List.rel_flatMap blocks fun x y related => related.inside

private theorem agreeOn_add (respects : Respects keys settled R) (twins : Twins R e other)
    (agree : defaults.AgreeOn keys others) : (defaults.add e).AgreeOn keys (others.add other) := by
  refine agree.add twins.tag (respects.last twins.own) fun isClass => respects.named ?_
  have own := twins.own
  rwa [isClass] at own

theorem agreeOn_ofHead (respects : Respects keys settled R) (twins : Option.Rel (Twins R) head head') :
    (Defaults.ofHead head).AgreeOn keys (Defaults.ofHead head') := by
  have initial : Defaults.none.AgreeOn keys Defaults.none := ⟨fun _ _ => rfl,fun _ _ _ => rfl,fun _ _ _ => rfl⟩
  exact List.rel_foldl (R := Twins R) (P := Defaults.AgreeOn keys) (fun _ _ agree _ _ twins => agreeOn_add respects twins agree)
    initial (entries twins)

/-- What an element gets under a name comes to the same from blocks of defaults that agree on it. -/
theorem get? (respects : Respects keys settled R) (twins : Twins R e other) (isSettled : settled e.tag)
    (agree : defaults.AgreeOn keys others) {key : String} (asked : keys key) :
    (⟨e, defaults⟩ : Styled).get? key = (⟨other, others⟩ : Styled).get? key := by
  have classes : (⟨e, defaults⟩ : Styled).fromClasses? key = (⟨other, others⟩ : Styled).fromClasses? key := by
    have same : (defaults.classValue? · key) = (others.classValue? · key) := funext fun name => agree.forClass name key asked
    simp only [Styled.fromClasses?,twins.attribute? respects isSettled,same]
  simp only [Styled.get?,classes,twins.attribute? respects isSettled,agree.forTag _ key asked,agree.forAll key asked,twins.tag]

theorem refl (own : ∀ tag attributes, R tag attributes attributes) (e : Element) : Twins R e e := by
  have inside : List.Forall₂ (Twins R) e.children e.children := List.forall₂_same.mpr fun child member => refl own child
  exact .mk rfl rfl (own e.tag e.attributes) inside
termination_by sizeOf e
decreasing_by exact Element.sizeOf_lt_of_mem member

/-- Twins are related more closely where the elements of the first tree make it so. -/
theorem imp {S : Tag → List Attribute → List Attribute → Prop} {holds : Element → Prop} {e other : Element}
    (twins : Twins R e other) (all : e.Everywhere holds)
    (each : ∀ inner attributes, holds inner → R inner.tag inner.attributes attributes →
      S inner.tag inner.attributes attributes) : Twins S e other := by
  have inside := forall₂_of_mem (S := Twins S) twins.inside fun child member twin related =>
    imp related (all.inside member) each
  exact .mk twins.tag twins.content (each e other.attributes all.own twins.own) inside
termination_by sizeOf e
decreasing_by exact Element.sizeOf_lt_of_mem member

end Element.Twins
end Letterpress.Markup
