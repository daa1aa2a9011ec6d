import Letterpress.Proofs.Store.Path
import Letterpress.Proofs.Store.Shelf
import Mathlib.Data.String.Basic

/-! Sound templates. A check accepts a template if its id, its name, its source and its injections are what is asked of them, and if
its name is short enough in bytes as well as in characters. -/
namespace Letterpress

variable {s : String}

private theorem length_le_utf8ByteSize (s : String) : s.length ≤ s.utf8ByteSize := by
  rw [← String.length_toList,← String.utf8Len_toList]
  induction s.toList with
  | nil => exact Nat.le_refl 0
  | cons c rest ih =>
    have least := c.utf8Size_pos
    simp only [List.length_cons,String.utf8Len_cons]
    omega

private theorem utf8ByteSize_of_isIdChar (plain : ∀ c ∈ s.toList, isIdChar c = true) : s.utf8ByteSize = s.length := by
  rw [← String.length_toList,← String.utf8Len_toList]
  generalize s.toList = chars at plain ⊢
  induction chars with
  | nil => rfl
  | cons c rest ih =>
    obtain ⟨first,later⟩ := List.forall_mem_cons.mp plain
    have single : c.utf8Size = 1 := by
      rw [← String.length_utf8EncodeChar,encode_of_isIdChar first,List.length_singleton]
    simp only [List.length_cons,String.utf8Len_cons,ih later,single]

private theorem one_le_length_iff : 1 ≤ s.length ↔ s.utf8ByteSize ≠ 0 := by
  rw [ne_eq,String.utf8ByteSize_eq_zero_iff,← String.length_eq_zero_iff]
  omega

/-- An id has up to sixty-four characters, which are letters and digits of ASCII, hyphens and underscores. -/
structure IsId (id : String) : Prop where
  something : 1 ≤ id.length
  short : id.length ≤ 64
  plain : ∀ c ∈ id.toList, c.isAlphanum = true ∨ c = '-' ∨ c = '_'

private theorem isIdChar_iff {c : Char} : isIdChar c = true ↔ c.isAlphanum = true ∨ c = '-' ∨ c = '_' := by
  simp [isIdChar,or_assoc]

private theorem idFlaw?_eq_none_iff (id : String) : idFlaw? id = none ↔ IsId id := by
  constructor
  · intro flawless
    have plain := isIdChar_of_idFlaw? flawless
    have size := utf8ByteSize_of_isIdChar plain
    unfold idFlaw? at flawless
    split at flawless
    · contradiction
    · next fits =>
      rw [size,not_or] at fits
      constructor
      · omega
      · omega
      · intro c member
        exact isIdChar_iff.mp (plain c member)
  · intro legal
    have plain : ∀ c ∈ id.toList, isIdChar c = true := by
      intro c member
      exact isIdChar_iff.mpr (legal.plain c member)
    have fits : ¬(id.utf8ByteSize = 0 ∨ 64 < id.utf8ByteSize) := by
      have least := legal.something
      have most := legal.short
      rw [utf8ByteSize_of_isIdChar plain]
      omega
    rw [idFlaw?,if_neg fits,if_pos (List.all_eq_true.mpr plain)]

/-- An injection has a name. It has options if one of them is to be chosen, and else none. -/
structure Injection.Sound (i : Injection) : Prop where
  named : i.name ≠ ""
  choice : i.kind = .radio → i.options ≠ []
  free : i.kind = .text → i.options = []

private theorem Injection.sound_iff (i : Injection) : i.Sound ↔ i.name ≠ "" ∧ i.flaw? = none := by
  have flawless : i.flaw? = none ↔ (i.kind = .radio → i.options ≠ []) ∧ (i.kind = .text → i.options = []) := by
    unfold flaw?
    cases i.kind with
    | radio => simp
    | text => simp
  constructor
  · intro sound
    exact ⟨sound.named,flawless.mpr ⟨sound.choice,sound.free⟩⟩
  · intro ⟨named,flaws⟩
    obtain ⟨choice,free⟩ := flawless.mp flaws
    exact ⟨named,choice,free⟩

namespace Template

/-- A template as it should be. Its name has up to two hundred and fifty-six characters of any script, and its source is a path
that goes down from where the sources are kept. -/
structure Sound (t : Template) : Prop where
  id : IsId t.id
  named : 1 ≤ t.name.length
  short : t.name.length ≤ 256
  located : t.source ≠ ""
  below : ∀ part ∈ pathParts t.source, part.isName = true
  injections : ∀ i ∈ t.injections, i.Sound
  distinct : (t.injections.map (·.name)).Nodup

/-- A check accepts the sound templates whose names are short in bytes too, and no others. -/
theorem check_accepts_iff_sound (t : Template) : t.check = .ok () ↔ t.Sound ∧ t.name.utf8ByteSize ≤ 256 := by
  have injections : injectionsFlaw? [] t.injections = none ↔
      (∀ i ∈ t.injections, i.Sound) ∧ (t.injections.map (·.name)).Nodup := by
    rw [injectionsFlaw?_eq_none_iff]
    simp [Injection.sound_iff]
  rw [check_eq_ok_iff,flaw?_eq_none_iff,idFlaw?_eq_none_iff,staysInside_iff_isName,injections,not_or]
  constructor
  · intro ⟨id,⟨something,short⟩,⟨located,below⟩,sound,distinct⟩
    have bytes : t.name.utf8ByteSize ≤ 256 := Nat.le_of_not_lt short
    have chars : t.name.length ≤ 256 := Nat.le_trans (length_le_utf8ByteSize t.name) bytes
    exact ⟨⟨id,one_le_length_iff.mpr something,chars,located,below,sound,distinct⟩,bytes⟩
  · intro ⟨sound,bytes⟩
    exact ⟨sound.id,⟨one_le_length_iff.mp sound.named,Nat.not_lt_of_le bytes⟩,⟨sound.located,sound.below⟩,sound.injections,
      sound.distinct⟩

/-- The name has a hundred and twenty-nine characters, and two bytes for each. -/
def accented : Template := ⟨"welcome", String.ofList (List.replicate 129 'é'), "welcome.mjml", none, []⟩

theorem sound_accented_is_refused : accented.Sound ∧
    accented.check = .error (.invalidTemplate "welcome: name must be 1-256 characters") := by
  have length : accented.name.length = 129 := by
    rw [← String.length_toList]
    exact (congrArg List.length String.toList_ofList).trans List.length_replicate
  constructor
  · constructor
    · exact (idFlaw?_eq_none_iff _).mp (by decide)
    · omega
    · omega
    · decide
    · exact (staysInside_iff_isName.mp (by decide)).2
    · exact List.forall_mem_nil _
    · exact List.nodup_nil
  · decide +kernel

end Template
end Letterpress
