import Letterpress.Text.Blank
import Letterpress.Text.Search
import Mathlib.Data.List.Infix

/-! Trimming a text, and searching it. What trimming leaves is a stretch of the text that neither begins nor ends with a blank,
and of such a text it takes nothing. The first place at which something is found is the only one with nothing sooner; a search
for another text stops there, whatever follows it, and what stands before that may be longer or shorter. -/
namespace Letterpress.Text

def IsTrimmed (s : List Char) : Prop :=
  (∀ c ∈ s.head?, isBlank c = false) ∧ ∀ c ∈ s.getLast?, isBlank c = false

private theorem dropTrailingBlanks_isPrefix (s : List Char) : dropTrailingBlanks s <+: s := by
  have suffix : s.reverse.dropWhile isBlank <:+ s.reverse := List.dropWhile_suffix isBlank
  have turned := List.reverse_prefix.mpr suffix
  rwa [List.reverse_reverse] at turned

theorem trimChars_isInfix (s : List Char) : trimChars s <:+: s :=
  (dropTrailingBlanks_isPrefix (dropBlanks s)).isInfix.trans (List.dropWhile_suffix isBlank).isInfix

theorem isTrimmed_trimChars (s : List Char) : IsTrimmed (trimChars s) := by
  constructor
  · intro c first
    obtain ⟨rest,whole⟩ := dropTrailingBlanks_isPrefix (dropBlanks s)
    have begun : c ∈ (dropBlanks s).head? := by
      rw [← whole,List.head?_append]
      change (trimChars s).head? = some c at first
      change ((trimChars s).head?.or rest.head?) = some c
      rw [first]
      rfl
    have kept := List.head?_dropWhile_not isBlank s
    rw [dropBlanks] at begun
    rw [begun] at kept
    simpa using kept
  · intro c last
    have kept := List.head?_dropWhile_not isBlank (dropBlanks s).reverse
    rw [trimChars,dropTrailingBlanks,List.getLast?_reverse] at last
    rw [last] at kept
    simpa using kept

theorem isTrimmed_of_trimChars {s : List Char} (same : trimChars s = s) : IsTrimmed s := same ▸ isTrimmed_trimChars s

private theorem dropBlanks_of_isTrimmed {s : List Char} (trimmed : IsTrimmed s) : dropBlanks s = s := by
  cases s with
  | nil => rfl
  | cons c rest =>
    have first : isBlank c = false := trimmed.1 c rfl
    simp only [dropBlanks,List.dropWhile_cons,first,Bool.false_eq_true,if_false]

private theorem dropTrailingBlanks_of_isTrimmed {s : List Char} (trimmed : IsTrimmed s) : dropTrailingBlanks s = s := by
  have turned : IsTrimmed s.reverse :=
    ⟨fun c first => trimmed.2 c (by rwa [List.head?_reverse] at first),
      fun c last => trimmed.1 c (by rwa [List.getLast?_reverse] at last)⟩
  have same := dropBlanks_of_isTrimmed turned
  rw [dropBlanks] at same
  rw [dropTrailingBlanks,same,List.reverse_reverse]

theorem trimChars_of_isTrimmed {s : List Char} (trimmed : IsTrimmed s) : trimChars s = s := by
  rw [trimChars,dropBlanks_of_isTrimmed trimmed,dropTrailingBlanks_of_isTrimmed trimmed]

/-- The first place in a text of which something holds: what stands before it, and the text from there on. -/
structure FirstPlace (Holds : List Char → Prop) (s before rest : List Char) : Prop where
  whole : s = before ++ rest
  here : Holds rest
  soonest : ∀ {b a : List Char}, s = b ++ a → Holds a → before.length ≤ b.length

def NoPlace (Holds : List Char → Prop) (s : List Char) : Prop := ∀ b a, s = b ++ a → ¬ Holds a

variable {Holds : List Char → Prop} {c d : Char} {s t before after rest needle : List Char}

theorem firstPlace_here (here : Holds s) : FirstPlace Holds s [] s := ⟨rfl,here,fun _ _ => Nat.zero_le _⟩

theorem firstPlace_cons (elsewhere : ¬ Holds (c :: s)) (first : FirstPlace Holds s before rest) :
    FirstPlace Holds (c :: s) (c :: before) rest := by
  refine ⟨by rw [first.whole,List.cons_append],first.here,fun {b a} whole holds => ?_⟩
  cases b with
  | nil =>
    obtain rfl : c :: s = a := whole
    exact absurd holds elsewhere
  | cons d b => exact Nat.succ_le_succ (first.soonest (List.cons.inj whole).2 holds)

theorem FirstPlace.tail (first : FirstPlace Holds (c :: s) (c :: before) rest) :
    ¬ Holds (c :: s) ∧ FirstPlace Holds s before rest := by
  refine ⟨fun holds => ?_,(List.cons.inj first.whole).2,first.here,fun {b a} whole holds => ?_⟩
  · exact absurd (first.soonest (b := []) rfl holds) (by simp)
  · exact Nat.le_of_succ_le_succ (first.soonest (b := c :: b) (by rw [whole]; rfl) holds)

theorem noPlace_cons_iff : NoPlace Holds (c :: s) ↔ ¬ Holds (c :: s) ∧ NoPlace Holds s := by
  constructor
  · exact fun nowhere => ⟨nowhere [] _ rfl,fun b a whole => nowhere (c :: b) a (by rw [whole]; rfl)⟩
  · rintro ⟨here,later⟩ b a whole
    cases b with
    | nil =>
      obtain rfl : c :: s = a := whole
      exact here
    | cons d b => exact later b a (List.cons.inj whole).2

private theorem stripLead?_eq_none_iff {lead : List Char} : stripLead? lead s = none ↔ ¬ lead <+: s := by
  constructor
  · rintro stripped ⟨rest,rfl⟩
    rw [stripLead?_append] at stripped
    contradiction
  · intro absent
    cases found : stripLead? lead s with
    | none => rfl
    | some rest => exact absurd ⟨rest,(stripLead?_eq_some found).symm⟩ absent

theorem stripLead?_append_of_some {lead : List Char} (found : stripLead? lead s = some after) (rest : List Char) :
    stripLead? lead (s ++ rest) = some (after ++ rest) := by
  rw [stripLead?_eq_some found,List.append_assoc]
  exact stripLead?_append lead (after ++ rest)

theorem breakOn?_lead (needle after : List Char) : breakOn? needle (needle ++ after) = some ([], after) := by
  cases whole : needle ++ after with
  | nil =>
    obtain ⟨rfl,rfl⟩ := List.append_eq_nil_iff.mp whole
    rfl
  | cons c s => rw [breakOn?,← whole,stripLead?_append]

theorem breakOn?_cons (elsewhere : ¬ needle <+: c :: s) :
    breakOn? needle (c :: s) = (breakOn? needle s).map fun (before, after) => (c :: before, after) := by
  rw [breakOn?,stripLead?_eq_none_iff.mpr elsewhere]

/-- A first occurrence stays the first one, whatever follows it. -/
theorem breakOn?_first (found : breakOn? needle s = some (before, after)) (other : List Char) :
    breakOn? needle (before ++ needle ++ other) = some (before, other) := by
  induction s generalizing before with
  | nil =>
    cases needle with
    | nil =>
      obtain ⟨rfl,rfl⟩ := by simpa [breakOn?] using found
      exact breakOn?_lead [] other
    | cons => simp [breakOn?] at found
  | cons c s ih =>
    by_cases lead : needle <+: c :: s
    · obtain ⟨rest,same⟩ := lead
      rw [← same,breakOn?_lead] at found
      obtain ⟨rfl,rfl⟩ := by simpa using found
      exact breakOn?_lead needle other
    · rw [breakOn?_cons lead] at found
      obtain ⟨⟨b,a⟩,inner,same⟩ := Option.map_eq_some_iff.mp found
      cases same
      have later : ¬ needle <+: c :: (b ++ needle ++ other) := fun within => by
        have short : needle <+: c :: (b ++ needle) :=
          List.prefix_of_prefix_length_le within (by simp) (by simp; omega)
        rw [breakOn?_eq_some inner] at lead
        exact lead (short.trans (by simp))
      rw [List.cons_append,List.cons_append,breakOn?_cons later,ih inner]
      rfl

theorem breakOn?_append (found : breakOn? needle s = some (before, after)) (rest : List Char) :
    breakOn? needle (s ++ rest) = some (before, after ++ rest) := by
  rw [breakOn?_eq_some found,List.append_assoc]
  exact breakOn?_first found (after ++ rest)

theorem not_infix_of_breakOn?_eq_none (unfound : breakOn? needle s = none) : ¬ needle <:+: s := by
  induction s with
  | nil =>
    cases needle with
    | nil => contradiction
    | cons => simp
  | cons c s ih =>
    intro within
    by_cases lead : needle <+: c :: s
    · obtain ⟨rest,same⟩ := lead
      rw [← same,breakOn?_lead] at unfound
      contradiction
    · rw [breakOn?_cons lead,Option.map_eq_none_iff] at unfound
      exact ih unfound ((List.infix_cons_iff.mp within).resolve_left lead)

private theorem exists_breakOn? (needle before after : List Char) :
    ∃ b a, breakOn? needle (before ++ needle ++ after) = some (b, a) ∧ b.length ≤ before.length := by
  induction before with
  | nil => exact ⟨[],after,breakOn?_lead needle after,Nat.le_refl 0⟩
  | cons c before ih =>
    obtain ⟨b,a,found,sooner⟩ := ih
    by_cases lead : needle <+: c :: (before ++ needle ++ after)
    · obtain ⟨rest,same⟩ := lead
      exact ⟨[],rest,by rw [List.cons_append,List.cons_append,← same,breakOn?_lead],Nat.zero_le _⟩
    · exact ⟨c :: b,a,by rw [List.cons_append,List.cons_append,breakOn?_cons lead,found]; rfl,Nat.succ_le_succ sooner⟩

/-- A search finds the first occurrence. -/
theorem breakOn?_eq_some_iff :
    breakOn? needle s = some (before, after) ↔ FirstPlace (needle <+: ·) s before (needle ++ after) := by
  constructor
  · intro found
    refine ⟨by rw [breakOn?_eq_some found,List.append_assoc],List.prefix_append needle after,?_⟩
    rintro b _ whole ⟨a,rfl⟩
    obtain ⟨_,_,same,sooner⟩ := exists_breakOn? needle b a
    rw [List.append_assoc,← whole,found] at same
    cases same
    exact sooner
  · rintro ⟨rfl,_,soonest⟩
    obtain ⟨b,a,found,sooner⟩ := exists_breakOn? needle before after
    rw [List.append_assoc] at found
    have whole := breakOn?_eq_some found
    rw [List.append_assoc] at whole
    obtain ⟨rfl,rest⟩ := List.append_inj whole (Nat.le_antisymm (soonest whole (List.prefix_append needle a)) sooner)
    rwa [← List.append_cancel_left rest] at found

theorem breakOn?_tail (other : c ≠ d) (found : breakOn? [d, d] (c :: s) = some (before, after)) :
    ∃ before, breakOn? [d, d] s = some (before, after) := by
  have elsewhere : ¬ [d, d] <+: c :: s := fun lead => other (List.cons_prefix_cons.mp lead).1.symm
  rw [breakOn?_cons elsewhere] at found
  obtain ⟨⟨b,a⟩,inner,same⟩ := Option.map_eq_some_iff.mp found
  cases same
  exact ⟨b,inner⟩

theorem breakOn?_behind (others : ∀ c ∈ t, c ≠ d) (found : breakOn? [d, d] (t ++ s) = some (before, after)) :
    ∃ before, breakOn? [d, d] s = some (before, after) := by
  induction t generalizing before with
  | nil => exact ⟨before,found⟩
  | cons c t ih =>
    obtain ⟨b,inner⟩ := breakOn?_tail (others c List.mem_cons_self) found
    exact ih (fun x member => others x (List.mem_cons_of_mem c member)) inner

end Letterpress.Text
