import Letterpress.Keyed
import Mathlib.Data.List.Dedup
import Mathlib.Data.List.Nodup

/-! Lists of pairs in ascending order of their keys. Insertions under different keys come to the same in either order, so
that the order of pairs does not matter while no key comes twice; an insertion keeps the list in order, and under a new
key it adds one pair and touches no other. A list put in order has one pair for each key, the last that there was. -/
namespace Letterpress.Keyed
variable {α : Type} {key other : String} {value : α} {pairs more : List (String × α)}

theorem insert_nil (key : String) (value : α) : insert key value [] = [(key, value)] := rfl

private theorem insert_same (key : String) (value old : α) (rest : List (String × α)) :
    insert key value ((key, old) :: rest) = (key, value) :: rest := if_pos rfl

private theorem insert_below (below : key < other) (value old : α) (rest : List (String × α)) :
    insert key value ((other, old) :: rest) = (key, value) :: (other, old) :: rest := by
  have different : key ≠ other := by
    rintro rfl
    exact String.lt_irrefl key below
  rw [insert,if_neg different,if_pos below]

private theorem insert_above (above : other < key) (value old : α) (rest : List (String × α)) :
    insert key value ((other, old) :: rest) = (other, old) :: insert key value rest := by
  have different : key ≠ other := by
    rintro rfl
    exact String.lt_irrefl key above
  rw [insert,if_neg different,if_neg (String.lt_asymm above)]

private theorem insert_comm_of_lt (below : key < other) (value old : α) (pairs : List (String × α)) :
    insert key value (insert other old pairs) = insert other old (insert key value pairs) := by
  induction pairs with
  | nil => simp only [insert_nil,insert_below below,insert_above below]
  | cons pair rest ih =>
    obtain ⟨start,kept⟩ := pair
    rcases Std.lt_trichotomy other start with lower | rfl | upper
    · have least := String.lt_trans below lower
      rw [insert_below lower,insert_below below,insert_below least,insert_above below,insert_below lower]
    · rw [insert_same,insert_below below,insert_below below,insert_above below,insert_same]
    · rcases Std.lt_trichotomy key start with least | rfl | greater
      · rw [insert_above upper,insert_below least,insert_below least,insert_above below,insert_above upper]
      · rw [insert_above upper,insert_same,insert_same,insert_above upper]
      · rw [insert_above upper,insert_above greater,insert_above greater,insert_above upper,ih]

private theorem insert_comm (different : key ≠ other) (value old : α) (pairs : List (String × α)) :
    insert key value (insert other old pairs) = insert other old (insert key value pairs) := by
  rcases Std.lt_trichotomy key other with below | same | above
  · exact insert_comm_of_lt below value old pairs
  · exact absurd same different
  · exact (insert_comm_of_lt above old value pairs).symm

theorem insertAll_append (before after sorted : List (String × α)) :
    insertAll (before ++ after) sorted = insertAll after (insertAll before sorted) := List.foldl_append

/-- Pairs with different keys may be inserted in any order. -/
theorem insertAll_perm (same : pairs.Perm more) (distinct : (pairs.map (·.1)).Nodup) (sorted : List (String × α)) :
    insertAll pairs sorted = insertAll more sorted := by
  refine same.foldl_eq' (fun pair listed other member => ?_) sorted
  intro sorted
  by_cases equal : pair = other
  · rw [equal]
  · have different : pair.1 ≠ other.1 := fun keys => equal (List.inj_on_of_nodup_map distinct listed member keys)
    exact (insert_comm different pair.2 other.2 sorted).symm

def Ascending (pairs : List (String × α)) : Prop := (pairs.map (·.1)).Pairwise (· < ·)

theorem ascending_nil : Ascending ([] : List (String × α)) := List.Pairwise.nil

theorem ascending_cons_iff {pair : String × α} :
    Ascending (pair :: pairs) ↔ (∀ other ∈ pairs, pair.1 < other.1) ∧ Ascending pairs := by
  simp [Ascending]

theorem Ascending.nodup (ascending : Ascending pairs) : (pairs.map (·.1)).Nodup :=
  List.Pairwise.imp (fun {a b} (below : a < b) (same : a = b) => String.lt_irrefl b (same ▸ below)) ascending

theorem mem_of_mem_insert {pair : String × α} (member : pair ∈ insert key value pairs) :
    pair = (key, value) ∨ pair ∈ pairs := by
  induction pairs with
  | nil => exact .inl (List.mem_singleton.mp member)
  | cons first rest ih =>
    obtain ⟨start,old⟩ := first
    rcases Std.lt_trichotomy key start with below | rfl | above
    · rw [insert_below below] at member
      exact List.mem_cons.mp member
    · rw [insert_same] at member
      exact (List.mem_cons.mp member).imp_right (List.mem_cons_of_mem _)
    · rw [insert_above above] at member
      rcases List.mem_cons.mp member with rfl | later
      · exact .inr List.mem_cons_self
      · exact (ih later).imp_right (List.mem_cons_of_mem _)

theorem Ascending.insert (ascending : Ascending pairs) (key : String) (value : α) :
    Ascending (insert key value pairs) := by
  induction pairs with
  | nil => exact List.pairwise_singleton _ _
  | cons first rest ih =>
    obtain ⟨start,old⟩ := first
    obtain ⟨least,later⟩ := ascending_cons_iff.mp ascending
    rcases Std.lt_trichotomy key start with below | rfl | above
    · rw [insert_below below]
      refine ascending_cons_iff.mpr ⟨fun pair member => ?_,ascending⟩
      rcases List.mem_cons.mp member with rfl | behind
      · exact below
      · exact String.lt_trans below (least pair behind)
    · rw [insert_same]
      exact ascending_cons_iff.mpr ⟨least,later⟩
    · rw [insert_above above]
      refine ascending_cons_iff.mpr ⟨fun pair member => ?_,ih later⟩
      rcases mem_of_mem_insert member with rfl | behind
      · exact above
      · exact least pair behind

/-- Insertion under a key that is not there adds the pair, and does nothing else. -/
theorem insert_perm (absent : lookup? key pairs = none) (value : α) :
    (insert key value pairs).Perm ((key, value) :: pairs) := by
  induction pairs with
  | nil => exact .refl _
  | cons first rest ih =>
    obtain ⟨start,old⟩ := first
    rw [lookup?_eq_none_iff,List.map_cons,List.mem_cons,not_or] at absent
    obtain ⟨different,later⟩ := absent
    rcases Std.lt_trichotomy key start with below | rfl | above
    · rw [insert_below below]
    · exact absurd rfl different
    · rw [insert_above above]
      exact ((ih ((lookup?_eq_none_iff key rest).mpr later)).cons _).trans (.swap _ _ _)

theorem mem_of_lookup? (found : lookup? key pairs = some value) : (key, value) ∈ pairs := by
  induction pairs with
  | nil => contradiction
  | cons pair rest ih =>
    rw [lookup?] at found
    split at found
    · next same =>
      cases found
      rw [same]
      exact List.mem_cons_self
    · exact List.mem_cons_of_mem _ (ih found)

theorem lookup?_eq_some_iff (distinct : (pairs.map (·.1)).Nodup) :
    lookup? key pairs = some value ↔ (key, value) ∈ pairs := by
  induction pairs with
  | nil => simp [lookup?]
  | cons first rest ih =>
    obtain ⟨start,old⟩ := first
    obtain ⟨single,later⟩ := List.nodup_cons.mp distinct
    by_cases same : key = start
    · subst same
      have alone : (key, value) ∉ rest := fun member => single (List.mem_map_of_mem (f := (·.1)) member)
      simp [lookup?,alone,eq_comm]
    · simp [lookup?,same,ih later]

theorem lookup?_map {β : Type} (key : String) (f : α → β) (pairs : List (String × α)) :
    lookup? key (pairs.map fun (key, value) => (key, f value)) = (lookup? key pairs).map f := by
  induction pairs with
  | nil => rfl
  | cons pair rest ih => by_cases same : key = pair.1 <;> simp [lookup?,same,ih]

private theorem insertAll_perm_append (distinct : (more.map (·.1)).Nodup) (fresh : ∀ pair ∈ more, lookup? pair.1 pairs = none) :
    (insertAll more pairs).Perm (more ++ pairs) := by
  induction more generalizing pairs with
  | nil => exact .refl _
  | cons pair rest ih =>
    obtain ⟨absent,later⟩ := List.forall_mem_cons.mp fresh
    obtain ⟨single,apart⟩ := List.nodup_cons.mp distinct
    have stays : ∀ other ∈ rest, lookup? other.1 (Keyed.insert pair.1 pair.2 pairs) = none := fun other member => by
      have different : other.1 ≠ pair.1 := fun same => single (List.mem_map.mpr ⟨other,member,same⟩)
      rw [lookup?_insert_of_ne different]
      exact later other member
    exact (ih apart stays).trans (((insert_perm absent pair.2).append_left rest).trans List.perm_middle)

/-- Pairs with different keys are all kept. -/
theorem ofList_perm (distinct : (pairs.map (·.1)).Nodup) : (ofList pairs).Perm pairs := by
  have kept : (insertAll pairs []).Perm (pairs ++ []) := insertAll_perm_append distinct fun _ _ => rfl
  rwa [List.append_nil] at kept

private theorem lookup?_insertAll (key : String) (pairs sorted : List (String × α)) :
    lookup? key (insertAll pairs sorted) = (lookup? key pairs.reverse).or (lookup? key sorted) := by
  induction pairs generalizing sorted with
  | nil => rfl
  | cons pair rest ih =>
    have step : insertAll (pair :: rest) sorted = insertAll rest (insert pair.1 pair.2 sorted) := rfl
    rw [step,ih,List.reverse_cons,lookup?_append,Option.or_assoc,lookup?_insert]
    by_cases same : key = pair.1 <;> simp [lookup?,same]

/-- Of several pairs with one key, the last one counts. -/
theorem lookup?_ofList (key : String) (pairs : List (String × α)) :
    lookup? key (ofList pairs) = lookup? key pairs.reverse := by
  rw [ofList,lookup?_insertAll]
  exact Option.or_none

theorem lookup?_reverse (distinct : (pairs.map (·.1)).Nodup) (key : String) :
    lookup? key pairs.reverse = lookup? key pairs := by
  have turned : (pairs.reverse.map (·.1)).Nodup := by
    rw [List.map_reverse]
    exact List.nodup_reverse.mpr distinct
  ext value
  rw [lookup?_eq_some_iff turned,lookup?_eq_some_iff distinct,List.mem_reverse]

private theorem Ascending.insertAll (ascending : Ascending pairs) (more : List (String × α)) :
    Ascending (insertAll more pairs) := by
  induction more generalizing pairs with
  | nil => exact ascending
  | cons pair rest ih => exact ih (ascending.insert pair.1 pair.2)

theorem ascending_ofList (pairs : List (String × α)) : Ascending (ofList pairs) := ascending_nil.insertAll pairs

/-- What is in order stays as it is. -/
theorem Ascending.ofList_eq (ascending : Ascending pairs) : ofList pairs = pairs := by
  refine List.Perm.eq_of_pairwise (fun a b _ _ below above => ?_) (List.pairwise_map.mp (ascending_ofList pairs))
    (List.pairwise_map.mp ascending) (ofList_perm ascending.nodup)
  exact absurd above (String.lt_asymm below)

theorem mem_keys_iff (key : String) (pairs : List (String × α)) :
    key ∈ pairs.map (·.1) ↔ (lookup? key pairs).isSome = true := by
  rw [Option.isSome_iff_ne_none,ne_eq,lookup?_eq_none_iff,not_not]

theorem mem_keys_ofList (key : String) (pairs : List (String × α)) :
    key ∈ (ofList pairs).map (·.1) ↔ key ∈ pairs.map (·.1) := by
  rw [mem_keys_iff,lookup?_ofList,← mem_keys_iff,List.map_reverse,List.mem_reverse]

theorem mem_of_mem_ofList {pair : String × α} (member : pair ∈ ofList pairs) : pair ∈ pairs := by
  refine List.foldlRecOn (motive := fun sorted => ∀ pair ∈ sorted, pair ∈ pairs) pairs _ (List.forall_mem_nil _) ?_ pair member
  intro sorted known entry listed pair member
  rcases mem_of_mem_insert member with rfl | before
  · exact listed
  · exact known pair before

/-- There is one pair for each key. -/
theorem keys_ofList_perm (pairs : List (String × α)) : ((ofList pairs).map (·.1)).Perm (pairs.map (·.1)).dedup :=
  (List.perm_ext_iff_of_nodup (ascending_ofList pairs).nodup (List.nodup_dedup _)).mpr fun key => by
    rw [mem_keys_ofList,List.mem_dedup]

end Letterpress.Keyed
