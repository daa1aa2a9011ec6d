import Letterpress.Proofs.Store.Path
import Letterpress.Proofs.Basic

/-! A whole volume of files, in which a directory is only one place. A path is followed from the top or from the directory
that one works in, and it can lead anywhere. A `Disk` is what is below one directory of it: as long as a path stays
inside, what is read from the disk is what is read from the volume at the joined path. -/
namespace Letterpress

/-- The ways to the entries start at the top. One works in the directory `here`. -/
structure Volume where
  here : List String
  entries : List (List String × Entry)

namespace Volume
variable {v : Volume} {disk : Disk} {root path : String} {way reached : List String}

/-- What is at the end of a way; the way that goes nowhere ends at the top. -/
def at? (v : Volume) (way : List String) : Option Entry :=
  if way.isEmpty then some .directory else (v.entries.find? (·.1 == way)).map (·.2)

/-- The way on which one goes on from `way` through the parts of a path. Above the top there is the top. -/
def walk (v : Volume) (way : List String) : List String → Except ReadFault (List String)
  | [] => .ok way
  | s :: rest =>
    match v.at? way with
    | none => .error .missing
    | some .directory =>
      if s = "" ∨ s = "." then v.walk way rest
      else if s = ".." then v.walk way.dropLast rest
      else if 255 < s.utf8ByteSize then .error .nameTooLong
      else v.walk (way ++ [s]) rest
    | some _ => .error .notADirectory

def wayTo (v : Volume) (path : String) : Except ReadFault (List String) :=
  v.walk (if path.toList.head? = some '/' then [] else v.here) (segments path)

def content : Option Entry → Except ReadFault String
  | some (.text content) => .ok content
  | some .bytes => .error .noText
  | some .directory => .error .isADirectory
  | none => .error .missing

def read (v : Volume) (path : String) : Except ReadFault String :=
  if path = "" then .error .missing
  else if '\x00' ∈ path.toList then .error .zeroInName
  else v.wayTo path >>= fun way => content (v.at? way)

/-- An entry as it is seen from a way, if that is above it. -/
def seen? (way : List String) (entry : List String × Entry) : Option (List String × Entry) :=
  if way <+: entry.1 then some (entry.1.drop way.length, entry.2) else none

/-- What is below a way, by the names from there on. -/
def below (v : Volume) (way : List String) : List (List String × Entry) := v.entries.filterMap (seen? way)

/-- What is below a directory, if there is one at this path. -/
def disk? (v : Volume) (root : String) : Option Disk :=
  match v.wayTo root with
  | .ok way =>
    if '\x00' ∉ root.toList ∧ v.at? way = some .directory then some ⟨root, v.below way⟩ else none
  | .error _ => none

theorem disk?_eq_some_iff : v.disk? root = some disk ↔ ∃ way, v.wayTo root = .ok way ∧
    '\x00' ∉ root.toList ∧ v.at? way = some .directory ∧ disk = ⟨root, v.below way⟩ := by
  unfold disk?
  cases v.wayTo root with
  | error fault => simp
  | ok way => simp [and_assoc,eq_comm]

private theorem walk_append (v : Volume) (way before after : List String) :
    v.walk way (before ++ after) = v.walk way before >>= fun reached => v.walk reached after := by
  induction before generalizing way with
  | nil => rfl
  | cons s rest ih =>
    simp only [List.cons_append,walk]
    split
    · rfl
    · split
      · exact ih way
      · split
        · exact ih way.dropLast
        · split
          · rfl
          · exact ih (way ++ [s])
    · rfl

/-- An empty part, or a dot, only asks for a directory. -/
theorem walk_idle {s : String} (there : v.at? way = some .directory) (idle : s = "" ∨ s = ".") (parts : List String) :
    v.walk way (s :: parts) = v.walk way parts := by
  rw [walk,there,if_pos idle]

private theorem walk_name {s : String} (there : v.at? way = some .directory) (leads : ¬(s = "" ∨ s = ".")) (down : s ≠ "..")
    (parts : List String) : v.walk way (s :: parts) =
      if 255 < s.utf8ByteSize then .error .nameTooLong else v.walk (way ++ [s]) parts := by
  rw [walk,there,if_neg leads,if_neg down]

private theorem directory_of_walk {s : String} {parts : List String} (walked : v.walk way (s :: parts) = .ok reached) :
    v.at? way = some .directory := by
  rw [walk] at walked
  split at walked
  · contradiction
  · assumption
  · contradiction

private theorem walk_empty (v : Volume) (way : List String) (s : String) (parts : List String) :
    v.walk way ("" :: s :: parts) = v.walk way (s :: parts) := by
  cases there : v.at? way with
  | none => rw [walk,walk,there]
  | some entry =>
    cases entry with
    | directory => exact walk_idle there (.inl rfl) (s :: parts)
    | text content => rw [walk,walk,there]
    | bytes => rw [walk,walk,there]

/-- A walk that does not go up ends below where it has started. -/
theorem walk_down {parts : List String} (down : ∀ s ∈ parts, s ≠ "..") (walked : v.walk way parts = .ok reached) :
    reached = way ++ parts.filter leadsOn := by
  induction parts generalizing way with
  | nil =>
    cases walked
    exact (List.append_nil _).symm
  | cons s rest ih =>
    obtain ⟨first,later⟩ := List.forall_mem_cons.mp down
    have there := directory_of_walk walked
    by_cases idle : s = "" ∨ s = "."
    · rw [walk_idle there idle] at walked
      rw [List.filter_cons_of_neg (fun leads => leadsOn_iff.mp leads idle)]
      exact ih later walked
    · rw [walk_name there idle first] at walked
      split at walked
      · contradiction
      · rw [List.filter_cons_of_pos (leadsOn_iff.mpr idle),ih later walked,List.append_assoc,List.singleton_append]

private theorem seen?_append (way further : List String) (entry : Entry) :
    seen? way (way ++ further, entry) = some (further, entry) := by
  rw [seen?,if_pos (List.prefix_append way further),List.drop_left]

private theorem any_seen? (way further : List String) (entry : List String × Entry) :
    (seen? way entry).any (·.1 == further) = (entry.1 == way ++ further) := by
  obtain ⟨other,entry⟩ := entry
  by_cases above : way <+: other
  · obtain ⟨rest,rfl⟩ := above
    rw [seen?_append,Bool.eq_iff_iff]
    simp
  · have apart : other ≠ way ++ further := by
      rintro rfl
      exact above (List.prefix_append way further)
    simp [seen?,above,apart]

private theorem entry?_below (there : v.at? way = some .directory) (further : List String) :
    Disk.entry? (.mk root (v.below way)) further = v.at? (way ++ further) := by
  cases further with
  | nil => rw [List.append_nil,there]; rfl
  | cons s rest =>
    have nonempty : (way ++ s :: rest).isEmpty = false := by simp
    rw [Disk.entry?,at?,nonempty,List.isEmpty_cons,below,List.find?_filterMap]
    simp only [any_seen?,Bool.false_eq_true,if_false]
    cases found : v.entries.find? (·.1 == way ++ s :: rest) with
    | none => rfl
    | some entry =>
      obtain ⟨other,entry⟩ := entry
      obtain rfl : other = way ++ s :: rest := by simpa using List.find?_some found
      simp [seen?_append]

/-- Without going up, one finds on the disk below a way what one finds from that way on. -/
theorem find_below (there : v.at? way = some .directory) {parts : List String} (down : ∀ s ∈ parts, s ≠ "..")
    (further : List String) : ((Disk.mk root (v.below way)).find further parts >>= fun entry => content (some entry)) =
      v.walk (way ++ further) parts >>= fun reached => content (v.at? reached) := by
  induction parts generalizing further with
  | nil =>
    rw [Disk.find,entry?_below there,walk,ok_bind]
    cases v.at? (way ++ further) <;> rfl
  | cons s rest ih =>
    obtain ⟨first,later⟩ := List.forall_mem_cons.mp down
    rw [Disk.find,entry?_below there,walk]
    cases v.at? (way ++ further) with
    | none => rfl
    | some entry =>
      cases entry with
      | directory =>
        simp only [first,if_false]
        split
        · exact ih later further
        · split
          · rfl
          · rw [List.append_assoc]
            exact ih later (further ++ [s])
      | text content => rfl
      | bytes => rfl

private theorem walk_segments (v : Volume) (way before : List String) (path : String) :
    v.walk way (before ++ "" :: segments path) = v.walk way (before ++ segments path) := by
  obtain ⟨first,rest,whole⟩ := List.exists_cons_of_ne_nil (segments_ne_nil path)
  rw [whole,walk_append,walk_append]
  simp only [walk_empty]

/-- A path that stays inside is followed from the end of the path that it is joined to. -/
theorem wayTo_joinPath (inside : staysInside path = true) (v : Volume) (root : String) :
    v.wayTo (joinPath root path) = v.wayTo root >>= fun way => v.walk way (segments path) := by
  have relative := head?_of_staysInside inside
  by_cases nonempty : root = ""
  · subst nonempty
    have same : v.wayTo "" >>= (fun way => v.walk way (segments path)) = v.walk v.here ([] ++ "" :: segments path) :=
      (walk_append v v.here [""] (segments path)).symm
    rw [same,walk_segments,List.nil_append,wayTo,joinPath_empty,if_neg relative]
  · have starts : (joinPath root path).toList.head? = root.toList.head? := by
      obtain ⟨slash,_,chars⟩ := toList_joinPath nonempty relative
      obtain ⟨c,others,whole⟩ := List.exists_cons_of_ne_nil (mt String.toList_eq_nil_iff.mp nonempty)
      rw [chars,whole]
      rfl
    rw [wayTo,wayTo,starts,← walk_append]
    rcases segments_joinPath nonempty relative with whole | ⟨front,_,own,whole⟩
    · rw [whole]
    · rw [whole,own,List.append_assoc,List.singleton_append,walk_segments]

private theorem down_of_staysInside (inside : staysInside path = true) : ∀ s ∈ segments path, s ≠ ".." := by
  obtain ⟨_,_,_,_,_,down⟩ := staysInside_iff.mp inside
  exact down

/-- Wherever a path that stays inside leads, it is below the end of the path that it is joined to. -/
theorem eq_of_wayTo_joinPath (inside : staysInside path = true) (led : v.wayTo (joinPath root path) = .ok reached) :
    ∃ way, v.wayTo root = .ok way ∧ reached = way ++ steps path := by
  rw [wayTo_joinPath inside] at led
  obtain ⟨way,start,later⟩ := exists_of_bind_ok led
  exact ⟨way,start,walk_down (down_of_staysInside inside) later⟩

private theorem read_disk_eq (disk : Disk) (path : String) : disk.read path =
    if '\x00' ∈ path.toList then .error .zeroInName
    else disk.find [] (segments path) >>= fun entry => content (some entry) := by
  simp only [Disk.read,List.contains_iff_mem]
  split
  · rfl
  · rcases disk.find [] (segments path) with fault | _ | _ | _ <;> rfl

private theorem zero_mem_joinPath (inside : staysInside path = true) (legal : '\x00' ∉ root.toList) :
    '\x00' ∈ (joinPath root path).toList ↔ '\x00' ∈ path.toList := by
  by_cases nonempty : root = ""
  · rw [nonempty,joinPath_empty]
  · obtain ⟨slash,rfl | rfl,chars⟩ := toList_joinPath nonempty (head?_of_staysInside inside)
    · simp [chars,legal]
    · simp [chars,legal]

/-- What is read from a disk is what is read from the volume at the joined path. -/
theorem read_joinPath (mounted : v.disk? root = some disk) (inside : staysInside path = true) :
    v.read (joinPath root path) = disk.read path := by
  obtain ⟨way,there,legal,directory,rfl⟩ := disk?_eq_some_iff.mp mounted
  rw [read,if_neg (joinPath_ne_empty inside root),read_disk_eq,wayTo_joinPath inside,there,ok_bind,
    find_below directory (down_of_staysInside inside),List.append_nil]
  simp only [zero_mem_joinPath inside legal]

end Volume

end Letterpress
