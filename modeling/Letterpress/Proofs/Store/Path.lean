import Letterpress.Store.Disk

/-! The parts of a path. The markup of a sound template is kept under a path of names only, at least one, and joined to
any directory such a path just goes on from there. -/
namespace Letterpress
variable {path base : String}

inductive PathPart
  | top
  | here
  | up
  | name (name : String)
  deriving DecidableEq, Repr

def PathPart.isName : PathPart → Bool
  | name _ => true
  | _ => false

/-- What a segment stands for that is not the first one. -/
def partOf? (segment : String) : Option PathPart :=
  if segment = "" ∨ segment = "." then none else if segment = ".." then some .up else some (.name segment)

/-- What the first segment stands for, with others behind it or not. -/
def firstPart? (alone : Bool) (segment : String) : Option PathPart :=
  if segment = "" then (if alone then none else some .top) else if segment = "." then some .here else partOf? segment

def partsOf : List String → List PathPart
  | [] => []
  | first :: rest => (firstPart? rest.isEmpty first).toList ++ rest.filterMap partOf?

/-- The parts of a path. Repeated slashes count as one, and a dot counts at the start only. -/
def pathParts (path : String) : List PathPart := partsOf (segments path)

/-- A name that leads from a directory to something in it. -/
structure IsStep (s : String) : Prop where
  something : s ≠ ""
  moves : s ≠ "."
  down : s ≠ ".."
  single : '/' ∉ s.toList

/-- Neither nothing nor a dot. -/
def leadsOn (s : String) : Bool := s ≠ "" && s ≠ "."

theorem leadsOn_iff {s : String} : leadsOn s = true ↔ ¬(s = "" ∨ s = ".") := by simp [leadsOn]

theorem segments_ne_nil (path : String) : segments path ≠ [] :=
  fun empty => Text.fields_ne_nil _ _ (List.map_eq_nil_iff.mp empty)

private theorem segments_append_slash (base path : String) :
    segments (base ++ "/" ++ path) = segments base ++ segments path := by
  have chars : (base ++ "/" ++ path).toList = base.toList ++ '/' :: path.toList := by
    simp only [String.toList_append,List.append_assoc]
    rfl
  rw [segments,chars,Text.fields_append (by rfl),List.map_append]
  rfl

private theorem not_slash_of_mem_segments {s : String} (member : s ∈ segments path) : '/' ∉ s.toList := by
  obtain ⟨field,among,rfl⟩ := List.mem_map.mp member
  rw [String.toList_ofList]
  intro within
  have apart := Text.not_separates_of_mem_fields among '/' within
  contradiction

private theorem exists_of_ends (ends : base.toList.getLast? = some '/') : ∃ front, base = front ++ "/" := by
  obtain ⟨front,whole⟩ := List.getLast?_eq_some_iff.mp ends
  refine ⟨.ofList front,?_⟩
  rw [← String.toList_inj,String.toList_append,String.toList_ofList,whole]
  rfl

private theorem segments_of_head? (absolute : path.toList.head? = some '/') : ∃ rest, segments path = "" :: rest := by
  obtain ⟨tail,whole⟩ := List.head?_eq_some_iff.mp absolute
  refine ⟨(Text.fields (· == '/') tail).map String.ofList,?_⟩
  rw [segments,whole,Text.fields,if_pos (by rfl)]
  rfl

private theorem eq_empty_of_segments (single : segments path = [""]) : path = "" := by
  rw [← String.toList_inj]
  cases chars : path.toList with
  | nil => rfl
  | cons c rest =>
    rw [segments,chars,Text.fields] at single
    by_cases slash : (c == '/') = true
    · rw [if_pos slash,List.map_cons,List.cons.injEq,List.map_eq_nil_iff] at single
      exact absurd single.2 (Text.fields_ne_nil _ _)
    · rw [if_neg slash] at single
      split at single
      · simp at single
      · simp at single

theorem staysInside_iff : staysInside path = true ↔
    ∃ first rest, segments path = first :: rest ∧ first ≠ "" ∧ first ≠ "." ∧ ∀ s ∈ segments path, s ≠ ".." := by
  unfold staysInside
  cases whole : segments path with
  | nil => exact absurd whole (segments_ne_nil path)
  | cons first rest => simp [and_assoc]

theorem head?_of_staysInside (inside : staysInside path = true) : path.toList.head? ≠ some '/' := by
  intro absolute
  obtain ⟨first,_,whole,something,_⟩ := staysInside_iff.mp inside
  obtain ⟨rest,same⟩ := segments_of_head? absolute
  cases whole.symm.trans same
  exact something rfl

private theorem ne_empty_of_staysInside (inside : staysInside path = true) : path ≠ "" := by
  rintro rfl
  contradiction

theorem isStep_of_mem_steps (inside : staysInside path = true) {s : String} (member : s ∈ steps path) : IsStep s := by
  obtain ⟨_,_,_,_,_,down⟩ := staysInside_iff.mp inside
  obtain ⟨among,kept⟩ := List.mem_filter.mp member
  obtain ⟨something,moves⟩ := not_or.mp (leadsOn_iff.mp kept)
  exact ⟨something,moves,down s among,not_slash_of_mem_segments among⟩

theorem steps_ne_nil (inside : staysInside path = true) : steps path ≠ [] := by
  obtain ⟨first,rest,whole,something,moves,_⟩ := staysInside_iff.mp inside
  simp [steps,whole,something,moves]

private theorem filterMap_partOf? {parts : List String} (down : ∀ s ∈ parts, s ≠ "..") :
    parts.filterMap partOf? = (parts.filter leadsOn).map .name := by
  induction parts with
  | nil => rfl
  | cons s rest ih =>
    obtain ⟨first,later⟩ := List.forall_mem_cons.mp down
    rw [List.filterMap_cons,ih later]
    by_cases idle : s = "" ∨ s = "."
    · rw [List.filter_cons_of_neg (fun leads => leadsOn_iff.mp leads idle),partOf?,if_pos idle]
    · rw [List.filter_cons_of_pos (leadsOn_iff.mpr idle),partOf?,if_neg idle,if_neg first,List.map_cons]

private theorem filterMap_partOf?_segments (inside : staysInside path = true) :
    (segments path).filterMap partOf? = (steps path).map .name := by
  obtain ⟨_,_,_,_,_,down⟩ := staysInside_iff.mp inside
  exact filterMap_partOf? down

theorem pathParts_of_staysInside (inside : staysInside path = true) : pathParts path = (steps path).map .name := by
  obtain ⟨first,rest,whole,something,moves,_⟩ := staysInside_iff.mp inside
  rw [← filterMap_partOf?_segments inside,pathParts,whole,partsOf,List.filterMap_cons,firstPart?,if_neg something,
    if_neg moves]
  cases partOf? first <;> rfl

/-- A path stays inside if it is not empty and all its parts are names. -/
theorem staysInside_iff_isName : staysInside path = true ↔ path ≠ "" ∧ ∀ part ∈ pathParts path, part.isName = true := by
  constructor
  · intro inside
    refine ⟨ne_empty_of_staysInside inside,?_⟩
    rw [pathParts_of_staysInside inside]
    intro part member
    obtain ⟨s,_,rfl⟩ := List.mem_map.mp member
    rfl
  · rintro ⟨nonempty,names⟩
    obtain ⟨first,rest,whole⟩ := List.exists_cons_of_ne_nil (segments_ne_nil path)
    rw [pathParts,whole,partsOf,List.forall_mem_append] at names
    obtain ⟨start,later⟩ := names
    have something : first ≠ "" := by
      rintro rfl
      cases rest with
      | nil => exact nonempty (eq_empty_of_segments whole)
      | cons next others => simp [firstPart?,PathPart.isName] at start
    have moves : first ≠ "." := by
      rintro rfl
      simp [firstPart?,PathPart.isName] at start
    refine staysInside_iff.mpr ⟨first,rest,whole,something,moves,?_⟩
    rw [whole]
    rintro s member rfl
    rcases List.mem_cons.mp member with rfl | behind
    · simp [firstPart?,partOf?,PathPart.isName] at start
    · have up : PathPart.up ∈ rest.filterMap partOf? := List.mem_filterMap.mpr ⟨"..",behind,rfl⟩
      have named := later .up up
      contradiction

private theorem partsOf_append {first : String} {before : List String} (counts : first ≠ "" ∨ before ≠ [])
    (after : List String) :
    partsOf (first :: before ++ after) = partsOf (first :: before) ++ after.filterMap partOf? := by
  have same : firstPart? (before ++ after).isEmpty first = firstPart? before.isEmpty first := by
    rcases counts with something | more
    · simp only [firstPart?,if_neg something]
    · simp [firstPart?,more]
  rw [List.cons_append,partsOf,partsOf,same,List.filterMap_append,List.append_assoc]

/-- An empty segment between others stands for nothing. -/
theorem partsOf_append_empty {first : String} {before after : List String} (more : after ≠ []) :
    partsOf (first :: before ++ "" :: after) = partsOf (first :: before ++ after) := by
  have same : (before ++ "" :: after).isEmpty = (before ++ after).isEmpty := by
    rw [List.isEmpty_eq_false_iff.mpr (List.append_ne_nil_of_right_ne_nil before (List.cons_ne_nil "" after)),
      List.isEmpty_eq_false_iff.mpr (List.append_ne_nil_of_right_ne_nil before more)]
  rw [List.cons_append,List.cons_append,partsOf,partsOf,same,List.filterMap_append,List.filterMap_append]
  rfl

theorem joinPath_empty (path : String) : joinPath "" path = path := if_pos (.inl rfl)

theorem toList_joinPath (nonempty : base ≠ "") (relative : path.toList.head? ≠ some '/') :
    ∃ slash, (slash = [] ∨ slash = ['/']) ∧ (joinPath base path).toList = base.toList ++ slash ++ path.toList := by
  unfold joinPath
  rw [if_neg (not_or.mpr ⟨nonempty,relative⟩)]
  split
  · exact ⟨[],.inl rfl,by simp⟩
  · exact ⟨['/'],.inr rfl,by simp⟩

theorem joinPath_ne_empty (inside : staysInside path = true) (base : String) : joinPath base path ≠ "" := by
  by_cases nonempty : base = ""
  · rw [nonempty,joinPath_empty]
    exact ne_empty_of_staysInside inside
  · obtain ⟨slash,_,chars⟩ := toList_joinPath nonempty (head?_of_staysInside inside)
    rw [ne_eq,← String.toList_eq_nil_iff,chars]
    simp [nonempty]

/-- The segments of a path that goes on from a directory, whose own path may end with a slash. -/
theorem segments_joinPath (nonempty : base ≠ "") (relative : path.toList.head? ≠ some '/') :
    segments (joinPath base path) = segments base ++ segments path ∨
      ∃ front, base = front ++ "/" ∧ segments base = segments front ++ [""] ∧
        segments (joinPath base path) = segments front ++ segments path := by
  unfold joinPath
  rw [if_neg (not_or.mpr ⟨nonempty,relative⟩)]
  split
  next ends =>
    obtain ⟨front,rfl⟩ := exists_of_ends ends
    refine .inr ⟨front,rfl,?_,segments_append_slash front path⟩
    have whole := segments_append_slash front ""
    rwa [String.append_empty] at whole
  next => exact .inl (segments_append_slash base path)

private theorem partsOf_joinPath (nonempty : base ≠ "") (relative : path.toList.head? ≠ some '/') :
    pathParts (joinPath base path) = partsOf (segments base ++ segments path) := by
  rcases segments_joinPath nonempty relative with whole | ⟨front,_,own,whole⟩
  · rw [pathParts,whole]
  · obtain ⟨first,before,parts⟩ := List.exists_cons_of_ne_nil (segments_ne_nil front)
    rw [pathParts,whole,own,parts,List.append_assoc,List.singleton_append,partsOf_append_empty (segments_ne_nil path)]

/-- From any directory a path that stays inside goes on by its names, and by nothing else. -/
theorem pathParts_joinPath (inside : staysInside path = true) (base : String) :
    pathParts (joinPath base path) = pathParts base ++ (steps path).map .name := by
  by_cases nonempty : base = ""
  · subst nonempty
    exact pathParts_of_staysInside inside
  · obtain ⟨first,before,whole⟩ := List.exists_cons_of_ne_nil (segments_ne_nil base)
    have counts : first ≠ "" ∨ before ≠ [] := by
      by_cases alone : before = []
      · subst alone
        exact .inl fun same => nonempty (eq_empty_of_segments (same ▸ whole))
      · exact .inr alone
    rw [partsOf_joinPath nonempty (head?_of_staysInside inside),whole,partsOf_append counts,
      filterMap_partOf?_segments inside,pathParts,whole]

end Letterpress
