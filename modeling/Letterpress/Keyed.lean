/-! Lists of pairs whose first parts are keys. Look-up takes the first pair with a key; insertion keeps the keys in
strictly ascending order, which is that of their code points and so also that of their UTF-8 bytes. -/
namespace Letterpress.Keyed
variable {α : Type}

def lookup? (key : String) : List (String × α) → Option α
  | [] => none
  | (other, value) :: rest => if key = other then some value else lookup? key rest

/-- Puts a pair in its place; one with this key is replaced. -/
def insert (key : String) (value : α) : List (String × α) → List (String × α)
  | [] => [(key, value)]
  | (other, old) :: rest =>
    if key = other then (key, value) :: rest
    else if key < other then (key, value) :: (other, old) :: rest
    else (other, old) :: insert key value rest

def insertAll (pairs : List (String × α)) (sorted : List (String × α)) : List (String × α) :=
  pairs.foldl (fun sorted (key, value) => insert key value sorted) sorted

/-- The pairs in the order of their keys. Of two with one key the later counts. -/
def ofList (pairs : List (String × α)) : List (String × α) := insertAll pairs []

theorem lookup?_insert_self (key : String) (value : α) (pairs : List (String × α)) :
    lookup? key (insert key value pairs) = some value := by
  induction pairs with
  | nil => simp [insert,lookup?]
  | cons pair rest ih =>
    obtain ⟨other, old⟩ := pair
    simp only [insert]
    split
    · simp [lookup?]
    · next different =>
      split
      · simp [lookup?]
      · simp [lookup?,different,ih]

theorem lookup?_insert_of_ne {key other : String} (different : other ≠ key) (value : α) (pairs : List (String × α)) :
    lookup? other (insert key value pairs) = lookup? other pairs := by
  induction pairs with
  | nil => simp [insert,lookup?,different]
  | cons pair rest ih =>
    obtain ⟨first, old⟩ := pair
    simp only [insert]
    split
    · next same => subst same; simp [lookup?,different]
    · split
      · simp [lookup?,different]
      · simp only [lookup?,ih]

theorem lookup?_insert (key other : String) (value : α) (pairs : List (String × α)) :
    lookup? other (insert key value pairs) = if other = key then some value else lookup? other pairs := by
  split
  · next same => rw [same,lookup?_insert_self]
  · next different => exact lookup?_insert_of_ne different value pairs

theorem lookup?_append (key : String) (before after : List (String × α)) :
    lookup? key (before ++ after) = (lookup? key before).or (lookup? key after) := by
  induction before with
  | nil => rfl
  | cons pair rest ih =>
    obtain ⟨other, value⟩ := pair
    simp only [List.cons_append,lookup?]
    split
    · rfl
    · exact ih

theorem lookup?_eq_none_iff (key : String) (pairs : List (String × α)) :
    lookup? key pairs = none ↔ key ∉ pairs.map (·.1) := by
  induction pairs with
  | nil => simp [lookup?]
  | cons pair rest ih =>
    obtain ⟨other, value⟩ := pair
    by_cases same : key = other
    · simp [lookup?,same]
    · simp only [lookup?,List.map_cons,List.mem_cons,same,false_or]
      exact ih

end Letterpress.Keyed
