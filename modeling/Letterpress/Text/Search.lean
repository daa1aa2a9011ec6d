/-! Finding one text inside another. `breakOn` cuts at the first occurrence; every other search is said through it. -/
namespace Letterpress.Text

/-- What is left of `s` after `lead`, if `s` begins with it. -/
def stripLead? : List Char → List Char → Option (List Char)
  | [], s => some s
  | _ :: _, [] => none
  | l :: lead, c :: s => if l = c then stripLead? lead s else none

/-- The text before the first occurrence of `needle`, and the text after it. -/
def breakOn? (needle : List Char) : List Char → Option (List Char × List Char)
  | [] => if needle.isEmpty then some ([], []) else none
  | c :: s =>
    match stripLead? needle (c :: s) with
    | some after => some ([], after)
    | none => (breakOn? needle s).map fun (before, after) => (c :: before, after)

def replaceChar (c : Char) (by_ : List Char) (s : List Char) : List Char :=
  s.flatMap fun x => if x = c then by_ else [x]

theorem stripLead?_eq_some {lead s after : List Char} (h : stripLead? lead s = some after) : s = lead ++ after := by
  induction lead generalizing s with
  | nil => simpa [stripLead?] using h
  | cons l lead ih =>
    cases s with
    | nil => simp [stripLead?] at h
    | cons c s =>
      by_cases same : l = c
      · subst same
        simp only [stripLead?,if_true] at h
        simp [ih h]
      · simp [stripLead?,same] at h

theorem stripLead?_append (lead after : List Char) : stripLead? lead (lead ++ after) = some after := by
  induction lead with
  | nil => simp [stripLead?]
  | cons l lead ih => simp [stripLead?,ih]

theorem breakOn?_eq_some {needle s before after : List Char} (h : breakOn? needle s = some (before, after)) :
    s = before ++ needle ++ after := by
  induction s generalizing before with
  | nil =>
    cases needle with
    | nil => simp_all [breakOn?]
    | cons => simp [breakOn?] at h
  | cons c s ih =>
    simp only [breakOn?] at h
    split at h
    · next stripped => simp_all [stripLead?_eq_some stripped]
    · obtain ⟨⟨b, a⟩, found, equal⟩ := Option.map_eq_some_iff.mp h
      simp only [Prod.mk.injEq] at equal
      obtain ⟨rfl, rfl⟩ := equal
      simp [ih found]

theorem length_of_breakOn? {needle s before after : List Char} (h : breakOn? needle s = some (before, after)) :
    s.length = before.length + needle.length + after.length := by
  rw [breakOn?_eq_some h]
  simp only [List.length_append]

end Letterpress.Text
