import Letterpress.Proofs.Keyed
import Letterpress.Proofs.Template.Check
import Letterpress.Store.Basic

/-! The shelf of a store in memory. Every template on it is sound and stands under its own id, in the order of the ids; a
template is added exactly when it is sound and nothing stands under its id yet. -/
namespace Letterpress

def bytes (s : String) : List UInt8 := s.toByteArray.data.toList

private theorem bytes_eq (s : String) : bytes s = s.toList.flatMap String.utf8EncodeChar := by
  obtain ⟨cs,rfl⟩ : ∃ cs, s = String.ofList cs := ⟨s.toList,String.ofList_toList.symm⟩
  simp [bytes,List.utf8Encode]

private theorem toNat_lt_of_isIdChar {c : Char} (allowed : isIdChar c = true) : c.toNat < 128 := by
  have kinds : (c.isAlphanum = true ∨ c = '-') ∨ c = '_' := by simpa [isIdChar] using allowed
  rcases kinds with (letter | rfl) | rfl
  · change (decide (65 ≤ c.val ∧ c.val ≤ 90) || (decide (97 ≤ c.val) && decide (c.val ≤ 122)) ||
      (decide (48 ≤ c.val) && decide (c.val ≤ 57))) = true at letter
    simp only [Bool.or_eq_true,Bool.and_eq_true,decide_eq_true_eq,UInt32.le_iff_toNat_le] at letter
    change ((65 ≤ c.toNat ∧ c.toNat ≤ 90) ∨ (97 ≤ c.toNat ∧ c.toNat ≤ 122)) ∨ (48 ≤ c.toNat ∧ c.toNat ≤ 57) at letter
    omega
  · decide
  · decide

theorem encode_of_isIdChar {c : Char} (allowed : isIdChar c = true) : String.utf8EncodeChar c = [c.val.toUInt8] := by
  have small : c.val.toNat < 128 := toNat_lt_of_isIdChar allowed
  refine String.utf8EncodeChar_eq_singleton ?_
  rw [Char.utf8Size_eq_one_iff,UInt32.le_iff_toNat_le]
  change c.val.toNat ≤ 127
  omega

private theorem byte_lt_of_isIdChar {c d : Char} (allowed : isIdChar c = true) (allowedToo : isIdChar d = true)
    (below : c < d) : c.val.toUInt8 < d.val.toUInt8 := by
  have small : c.val.toNat < 128 := toNat_lt_of_isIdChar allowed
  have smallToo : d.val.toNat < 128 := toNat_lt_of_isIdChar allowedToo
  have less : c.val.toNat < d.val.toNat := below
  rw [UInt8.lt_iff_toNat_lt,UInt32.toNat_toUInt8,UInt32.toNat_toUInt8]
  omega

theorem isIdChar_of_idFlaw? {id : String} (legal : idFlaw? id = none) : ∀ c ∈ id.toList, isIdChar c = true := by
  unfold idFlaw? at legal
  split at legal
  · contradiction
  · split at legal
    next all => exact List.all_eq_true.mp all
    next => contradiction

private theorem encoded_lt {s t : List Char} (legal : ∀ c ∈ s, isIdChar c = true) (legalToo : ∀ c ∈ t, isIdChar c = true)
    (below : s < t) : s.flatMap String.utf8EncodeChar < t.flatMap String.utf8EncodeChar := by
  induction s generalizing t with
  | nil =>
    cases t with
    | nil => exact absurd below (List.lt_irrefl [])
    | cons d t =>
      rw [List.flatMap_cons,encode_of_isIdChar (legalToo d List.mem_cons_self)]
      exact List.nil_lt_cons _ _
  | cons c s ih =>
    cases t with
    | nil => exact absurd below (List.not_lt_nil _)
    | cons d t =>
      obtain ⟨first,others⟩ := List.forall_mem_cons.mp legal
      obtain ⟨firstToo,othersToo⟩ := List.forall_mem_cons.mp legalToo
      rw [List.flatMap_cons,List.flatMap_cons,encode_of_isIdChar first,encode_of_isIdChar firstToo,List.singleton_append,
        List.singleton_append,List.cons_lt_cons_iff]
      rcases List.cons_lt_cons_iff.mp below with less | ⟨rfl,later⟩
      · exact .inl (byte_lt_of_isIdChar first firstToo less)
      · exact .inr ⟨rfl,ih others othersToo later⟩

/-- The order of legal ids is that of their bytes. -/
theorem bytes_lt {id other : String} (legal : idFlaw? id = none) (legalToo : idFlaw? other = none) (below : id < other) :
    bytes id < bytes other := by
  rw [bytes_eq,bytes_eq]
  exact encoded_lt (isIdChar_of_idFlaw? legal) (isIdChar_of_idFlaw? legalToo) (String.lt_iff.mp below)

namespace Store

/-- The templates on a shelf, without their markup. -/
def templatesOn (shelf : List (String × Template × String)) : List Template := shelf.map (·.2.1)

theorem list_memory (shelf : List (String × Template × String)) : (memory shelf).list = .ok (templatesOn shelf) := rfl

variable {shelf grown : List (String × Template × String)} {t : Template} {markup : String}

/-- What a shelf is like that templates are only added to. -/
structure Orderly (shelf : List (String × Template × String)) : Prop where
  ascending : Keyed.Ascending shelf
  sound : ∀ id t markup, (id, t, markup) ∈ shelf → t.check = .ok () ∧ t.id = id

theorem orderly_nil : Orderly [] := ⟨Keyed.ascending_nil,fun _ _ _ member => absurd member List.not_mem_nil⟩

theorem enter_eq_ok_iff : enter shelf t markup = .ok grown ↔
    Keyed.lookup? t.id shelf = none ∧ grown = Keyed.insert t.id (t, markup) shelf := by
  unfold enter
  cases Keyed.lookup? t.id shelf with
  | some entry => simp
  | none => simp [eq_comm]

theorem shelve_of_sound (sound : t.check = .ok ()) : shelve shelf t markup = enter shelf t markup := by
  rw [shelve,sound]
  rfl

theorem shelve_of_flawed {e : TemplateError} (flawed : t.check = .error e) : shelve shelf t markup = .error e := by
  rw [shelve,flawed]
  rfl

theorem shelve_eq_ok_iff : shelve shelf t markup = .ok grown ↔
    t.check = .ok () ∧ Keyed.lookup? t.id shelf = none ∧ grown = Keyed.insert t.id (t, markup) shelf := by
  cases checked : t.check with
  | error e => simp [shelve_of_flawed checked]
  | ok done => simp [shelve_of_sound checked,enter_eq_ok_iff]

theorem Orderly.insert (orderly : Orderly shelf) (sound : t.check = .ok ()) (markup : String) :
    Orderly (Keyed.insert t.id (t, markup) shelf) where
  ascending := orderly.ascending.insert t.id (t, markup)
  sound id other text member := by
    rcases Keyed.mem_of_mem_insert member with same | before
    · cases same
      exact ⟨sound,rfl⟩
    · exact orderly.sound id other text before

theorem Orderly.shelve (orderly : Orderly shelf) (shelved : shelve shelf t markup = .ok grown) : Orderly grown := by
  obtain ⟨sound,_,rfl⟩ := shelve_eq_ok_iff.mp shelved
  exact orderly.insert sound markup

theorem Orderly.lookup?_eq_some_iff (orderly : Orderly shelf) {id : String} {entry : Template × String} :
    Keyed.lookup? id shelf = some entry ↔ (id, entry) ∈ shelf := Keyed.lookup?_eq_some_iff orderly.ascending.nodup

theorem Orderly.ascending_templates (orderly : Orderly shelf) :
    (templatesOn shelf).Pairwise fun a b => a.id < b.id := by
  rw [templatesOn,List.pairwise_map]
  have ascending : shelf.Pairwise fun a b => a.1 < b.1 := List.pairwise_map.mp orderly.ascending
  refine ascending.imp_of_mem fun {a b} member memberToo below => ?_
  rw [(orderly.sound _ _ _ member).2,(orderly.sound _ _ _ memberToo).2]
  exact below

/-- Sound templates in ascending order of their ids are in ascending order of the bytes of these. -/
theorem pairwise_bytes {templates : List Template} (sound : ∀ t ∈ templates, t.check = .ok ())
    (ascending : templates.Pairwise fun a b => a.id < b.id) :
    templates.Pairwise fun a b => bytes a.id < bytes b.id :=
  ascending.imp_of_mem fun member memberToo below =>
    bytes_lt (Template.idFlaw?_of_check (sound _ member)) (Template.idFlaw?_of_check (sound _ memberToo)) below

end Store

end Letterpress
