import Letterpress.Template.Check
import Letterpress.Template.Supplies
import Mathlib.Data.List.Nodup

/-! What a check of a template makes sure of: its id and its source are sound, and its injections have names, no two of them
the same, and options where they need them. -/
namespace Letterpress

theorem injectionsFlaw?_eq_none_iff (injections : List Injection) (earlier : List String) :
    injectionsFlaw? earlier injections = none ↔
      (∀ i ∈ injections, i.name ≠ "" ∧ i.flaw? = none) ∧ (injections.map (·.name)).Nodup ∧
        ∀ i ∈ injections, i.name ∉ earlier := by
  induction injections generalizing earlier with
  | nil => simp [injectionsFlaw?]
  | cons i rest ih =>
    rw [injectionsFlaw?]
    by_cases unnamed : i.name = ""
    · simp [unnamed]
    · by_cases repeated : i.name ∈ earlier
      · simp [unnamed,repeated]
      · rw [if_neg unnamed,if_neg (by simpa using repeated),Option.or_eq_none_iff,ih]
        simp only [List.forall_mem_cons,List.map_cons,List.nodup_cons,List.mem_map,List.mem_append,List.mem_singleton,not_or,
          not_exists,not_and]
        constructor
        · rintro ⟨own,others,distinct,later⟩
          exact ⟨⟨⟨unnamed,own⟩,others⟩,⟨fun other member same => (later other member).2 same,distinct⟩,repeated,
            fun other member => (later other member).1⟩
        · rintro ⟨⟨⟨_,own⟩,others⟩,⟨single,distinct⟩,_,later⟩
          exact ⟨own,others,distinct,fun other member => ⟨later other member,single other member⟩⟩

namespace Template
variable {t : Template} {s : Supply} {earlier : List String} {supplies more : List Supply}

theorem check_eq_ok_iff (t : Template) : t.check = .ok () ↔ t.flaw? = none := by
  unfold check
  cases t.flaw? <;> simp

theorem flaw?_eq_none_iff (t : Template) : t.flaw? = none ↔
    idFlaw? t.id = none ∧ ¬ (t.name.utf8ByteSize = 0 ∨ 256 < t.name.utf8ByteSize) ∧ staysInside t.source = true ∧
      injectionsFlaw? [] t.injections = none := by
  unfold flaw?
  cases idFlaw? t.id with
  | some flaw => simp
  | none =>
    dsimp only
    by_cases named : t.name.utf8ByteSize = 0 ∨ 256 < t.name.utf8ByteSize
    · rw [if_pos named]
      exact iff_of_false (by simp) fun all => all.2.1 named
    · rw [if_neg named]
      cases staysInside t.source with
      | false => simp
      | true => exact ⟨fun flawless => ⟨rfl,named,rfl,flawless⟩,fun all => all.2.2.2⟩

theorem idFlaw?_of_check (sound : t.check = .ok ()) : idFlaw? t.id = none :=
  (t.flaw?_eq_none_iff.mp (t.check_eq_ok_iff.mp sound)).1

theorem staysInside_of_check (sound : t.check = .ok ()) : staysInside t.source = true :=
  (t.flaw?_eq_none_iff.mp (t.check_eq_ok_iff.mp sound)).2.2.1

private theorem nodup_of_check (sound : t.check = .ok ()) : (t.injections.map (·.name)).Nodup :=
  have flawless := (t.flaw?_eq_none_iff.mp (t.check_eq_ok_iff.mp sound)).2.2.2
  ((injectionsFlaw?_eq_none_iff t.injections []).mp flawless).2.1

/-- The template asks for a value of this name and kind, and has it among its options if there are options to choose from. -/
def Suits (t : Template) (s : Supply) : Prop :=
  ∃ i, t.injection? s.name = some i ∧ i.kind = s.kind ∧ (i.kind = .radio → s.data ∈ i.options)

private theorem supplyError?_eq_none_iff : t.supplyError? earlier s = none ↔ t.Suits s ∧ s.name ∉ earlier := by
  unfold supplyError? Suits
  cases t.injection? s.name with
  | none => simp
  | some i =>
    by_cases repeated : s.name ∈ earlier
    · simp [repeated]
    · by_cases kind : i.kind = s.kind <;> simp [repeated,kind]

private theorem suppliesError?_eq_none_iff (supplies : List Supply) (earlier : List String) :
    t.suppliesError? earlier supplies = none ↔
      (∀ s ∈ supplies, t.Suits s) ∧ (supplies.map (·.name)).Nodup ∧ ∀ s ∈ supplies, s.name ∉ earlier := by
  induction supplies generalizing earlier with
  | nil => simp [suppliesError?]
  | cons s rest ih =>
    rw [suppliesError?,Option.or_eq_none_iff,supplyError?_eq_none_iff,ih]
    simp only [List.forall_mem_cons,List.map_cons,List.nodup_cons,List.mem_map,List.mem_append,List.mem_singleton,not_or,
      not_exists,not_and]
    constructor
    · rintro ⟨⟨suits,fresh⟩,others,distinct,later⟩
      exact ⟨⟨suits,others⟩,⟨fun other member same => (later other member).2 same,distinct⟩,fresh,
        fun other member => (later other member).1⟩
    · rintro ⟨⟨suits,others⟩,⟨single,distinct⟩,fresh,later⟩
      exact ⟨⟨suits,fresh⟩,others,distinct,fun other member => ⟨later other member,single other member⟩⟩

private theorem unsupplied?_eq_none_iff :
    t.unsupplied? supplies = none ↔ ∀ i ∈ t.injections, ∃ s ∈ supplies, s.name = i.name := by
  simp [unsupplied?]

theorem checkSupplies_eq_ok_iff : t.checkSupplies supplies = .ok () ↔
    (∀ s ∈ supplies, t.Suits s) ∧ (supplies.map (·.name)).Nodup ∧ ∀ i ∈ t.injections, ∃ s ∈ supplies, s.name = i.name := by
  have each := suppliesError?_eq_none_iff (t := t) supplies []
  simp only [List.not_mem_nil,not_false_eq_true,implies_true,and_true] at each
  rw [← unsupplied?_eq_none_iff,← and_assoc,← each,checkSupplies]
  cases t.suppliesError? [] supplies with
  | some e => simp
  | none => cases t.unsupplied? supplies <;> simp

theorem checkSupplies_perm (same : supplies.Perm more) :
    t.checkSupplies supplies = .ok () ↔ t.checkSupplies more = .ok () := by
  simp only [checkSupplies_eq_ok_iff,same.mem_iff,(same.map (·.name)).nodup_iff]

/-- Values with nothing wrong about any of them. There may be injections without a value. -/
def Fine (t : Template) (supplies : List Supply) : Prop := (∀ s ∈ supplies, t.Suits s) ∧ (supplies.map (·.name)).Nodup

/-- What is wrong with a value behind the values `earlier`. Its name is looked at first, then its kind, and then its data. -/
inductive Faulty (t : Template) (earlier : List Supply) (s : Supply) : InjectionError → Prop
  | undeclared (absent : ∀ i ∈ t.injections, i.name ≠ s.name) : Faulty t earlier s (.undeclared s.name)
  | repeated {i : Injection} (declared : i ∈ t.injections) (named : i.name = s.name)
      (again : ∃ other ∈ earlier, other.name = s.name) : Faulty t earlier s (.repeated s.name)
  | wrongKind {i : Injection} (declared : i ∈ t.injections) (named : i.name = s.name)
      (fresh : ∀ other ∈ earlier, other.name ≠ s.name) (differs : i.kind ≠ s.kind) :
      Faulty t earlier s (.wrongKind s.name i.kind.name s.kind.name)
  | notAnOption {i : Injection} (declared : i ∈ t.injections) (named : i.name = s.name)
      (fresh : ∀ other ∈ earlier, other.name ≠ s.name) (same : i.kind = s.kind) (radio : s.kind = .radio)
      (absent : s.data ∉ i.options) : Faulty t earlier s (.notAnOption s.name s.data i.options)

private theorem fine_iff : t.Fine supplies ↔ t.suppliesError? [] supplies = none := by
  simp [suppliesError?_eq_none_iff,Fine]

section Distinct
variable {e : InjectionError} {i : Injection} (distinct : (t.injections.map (·.name)).Nodup)
include distinct

private theorem injection?_eq_some_iff (name : String) : t.injection? name = some i ↔ i ∈ t.injections ∧ i.name = name := by
  constructor
  · exact fun found => ⟨List.mem_of_find?_eq_some found,by simpa using List.find?_some found⟩
  · rintro ⟨declared,rfl⟩
    cases found : t.injection? i.name with
    | none => exact absurd (List.find?_eq_none.mp found i declared) (by simp)
    | some other =>
      have same : other.name = i.name := by simpa using List.find?_some found
      rw [List.inj_on_of_nodup_map distinct (List.mem_of_find?_eq_some found) declared same]

private theorem suits_iff : t.Suits s ↔ (∃ i ∈ t.injections, i.name = s.name) ∧
    ∀ i ∈ t.injections, i.name = s.name → i.kind = s.kind ∧ (s.kind = .radio → s.data ∈ i.options) := by
  constructor
  · rintro ⟨i,found,kind,chosen⟩
    obtain ⟨declared,named⟩ := (injection?_eq_some_iff distinct s.name).mp found
    refine ⟨⟨i,declared,named⟩,fun other listed namedToo => ?_⟩
    obtain rfl := List.inj_on_of_nodup_map distinct listed declared (namedToo.trans named.symm)
    exact ⟨kind,kind ▸ chosen⟩
  · rintro ⟨⟨i,declared,named⟩,all⟩
    obtain ⟨kind,chosen⟩ := all i declared named
    exact ⟨i,(injection?_eq_some_iff distinct s.name).mpr ⟨declared,named⟩,kind,fun radio => chosen (kind ▸ radio)⟩

private theorem supplyError?_of_faulty {earlier : List Supply} (faulty : t.Faulty earlier s e) :
    t.supplyError? (earlier.map (·.name)) s = some e := by
  unfold supplyError?
  cases faulty with
  | undeclared absent =>
    have missing : t.injection? s.name = none := List.find?_eq_none.mpr (by simpa using absent)
    rw [missing]
  | repeated declared named again =>
    rw [(injection?_eq_some_iff distinct s.name).mpr ⟨declared,named⟩]
    exact if_pos (by simpa using again)
  | wrongKind declared named fresh differs =>
    rw [(injection?_eq_some_iff distinct s.name).mpr ⟨declared,named⟩]
    exact (if_neg (by simpa using fresh)).trans (if_pos differs)
  | notAnOption declared named fresh same radio absent =>
    rw [(injection?_eq_some_iff distinct s.name).mpr ⟨declared,named⟩]
    dsimp only
    rw [if_neg (by simpa using fresh),if_neg (not_not.mpr same),if_pos (by simpa [same,radio] using absent)]

private theorem faulty_of_supplyError? {earlier : List Supply} (found : t.supplyError? (earlier.map (·.name)) s = some e) :
    t.Faulty earlier s e := by
  unfold supplyError? at found
  cases asked : t.injection? s.name with
  | none =>
    obtain rfl := Option.some.inj (by simpa [asked] using found)
    exact .undeclared (by simpa using List.find?_eq_none.mp asked)
  | some i =>
    obtain ⟨declared,named⟩ := (injection?_eq_some_iff distinct s.name).mp asked
    simp only [asked] at found
    split at found
    next listed =>
      obtain rfl := Option.some.inj found
      exact .repeated declared named (by simpa using listed)
    next unlisted =>
      have fresh : ∀ other ∈ earlier, other.name ≠ s.name := by simpa using unlisted
      split at found
      next differs =>
        obtain rfl := Option.some.inj found
        exact .wrongKind declared named fresh differs
      next alike =>
        have same : i.kind = s.kind := not_not.mp alike
        split at found
        next chosen =>
          obtain rfl := Option.some.inj found
          exact .notAnOption declared named fresh same (same ▸ chosen.1) (by simpa using chosen.2)
        next => contradiction

/-- The error in a list of values is that of the first one at fault. -/
theorem suppliesError?_eq_some_iff (supplies earlier : List Supply) :
    t.suppliesError? (earlier.map (·.name)) supplies = some e ↔
      ∃ before s after, supplies = before ++ s :: after ∧ t.suppliesError? (earlier.map (·.name)) before = none ∧
        t.Faulty (earlier ++ before) s e := by
  induction supplies generalizing earlier with
  | nil => simp [suppliesError?]
  | cons s rest ih =>
    have next := ih (earlier ++ [s])
    rw [List.map_append,List.map_singleton] at next
    rw [suppliesError?,Option.or_eq_some_iff,next]
    constructor
    · rintro (found | ⟨fine,before,other,after,rfl,clear,faulty⟩)
      · exact ⟨[],s,rest,rfl,rfl,by simpa using faulty_of_supplyError? distinct found⟩
      · exact ⟨s :: before,other,after,rfl,by rw [suppliesError?,fine,clear]; rfl,by simpa using faulty⟩
    · rintro ⟨_ | ⟨first,before⟩,other,after,same,clear,faulty⟩
      · obtain ⟨rfl,rfl⟩ := List.cons.inj same
        exact .inl (supplyError?_of_faulty distinct (by simpa using faulty))
      · obtain ⟨rfl,rfl⟩ := List.cons.inj same
        rw [suppliesError?,Option.or_eq_none_iff] at clear
        exact .inr ⟨clear.1,before,other,after,rfl,clear.2,by simpa using faulty⟩

/-- Values that pass are an order of the injections, each with a value of its own kind. -/
theorem complete_iff : (∀ s ∈ supplies, t.Suits s) ∧ (supplies.map (·.name)).Nodup ∧
      (∀ i ∈ t.injections, ∃ s ∈ supplies, s.name = i.name) ↔
    (supplies.map (·.name)).Perm (t.injections.map (·.name)) ∧
      ∀ s ∈ supplies, ∀ i ∈ t.injections, i.name = s.name → i.kind = s.kind ∧ (s.kind = .radio → s.data ∈ i.options) := by
  simp only [suits_iff distinct]
  constructor
  · rintro ⟨suit,single,covered⟩
    refine ⟨(List.perm_ext_iff_of_nodup single distinct).mpr fun name => ?_,fun s member => (suit s member).2⟩
    constructor
    · rintro listed
      obtain ⟨s,member,rfl⟩ := List.mem_map.mp listed
      exact List.mem_map.mpr (suit s member).1
    · rintro listed
      obtain ⟨i,declared,rfl⟩ := List.mem_map.mp listed
      exact List.mem_map.mpr (covered i declared)
  · rintro ⟨same,suit⟩
    refine ⟨fun s member => ⟨?_,suit s member⟩,same.nodup_iff.mpr distinct,fun i declared => ?_⟩
    · exact List.mem_map.mp (same.mem_iff.mp (List.mem_map_of_mem member))
    · exact List.mem_map.mp (same.mem_iff.mpr (List.mem_map_of_mem declared))

end Distinct

private theorem unsupplied?_eq_some_iff {i : Injection} : t.unsupplied? supplies = some i ↔
    ∃ covered rest, t.injections = covered ++ i :: rest ∧
      (∀ other ∈ covered, ∃ s ∈ supplies, s.name = other.name) ∧ ∀ s ∈ supplies, s.name ≠ i.name := by
  simp only [unsupplied?,List.find?_eq_some_iff_append]
  constructor
  · rintro ⟨missing,covered,rest,split,before⟩
    exact ⟨covered,rest,split,by simpa using before,by simpa using missing⟩
  · rintro ⟨covered,rest,split,before,missing⟩
    exact ⟨by simpa using missing,covered,rest,split,by simpa using before⟩

private theorem checkSupplies_eq_error_iff {e : InjectionError} : t.checkSupplies supplies = .error e ↔
    t.suppliesError? [] supplies = some e ∨
      t.suppliesError? [] supplies = none ∧ ∃ i, t.unsupplied? supplies = some i ∧ e = .missing i.name := by
  unfold checkSupplies
  cases t.suppliesError? [] supplies with
  | some found => simp
  | none => cases t.unsupplied? supplies <;> simp [eq_comm]

/-- The values that pass are exactly the complete ones: they are an order of the injections of a sound template, and each is
of the kind of its injection and among its options. Of others the first one at fault is reported, and an injection without a
value only if none is: then it is the first of these. -/
theorem complete_supplies_pass (t : Template) (sound : t.check = .ok ()) (supplies : List Supply) :
    (t.checkSupplies supplies = .ok () ↔ (supplies.map (·.name)).Perm (t.injections.map (·.name)) ∧
      ∀ s ∈ supplies, ∀ i ∈ t.injections, i.name = s.name →
        i.kind = s.kind ∧ (s.kind = .radio → s.data ∈ i.options)) ∧
    ∀ e, t.checkSupplies supplies = .error e ↔
      (∃ before s after, supplies = before ++ s :: after ∧ t.Fine before ∧ t.Faulty before s e) ∨
      t.Fine supplies ∧ ∃ covered i rest, t.injections = covered ++ i :: rest ∧
        (∀ other ∈ covered, ∃ s ∈ supplies, s.name = other.name) ∧ (∀ s ∈ supplies, s.name ≠ i.name) ∧
        e = .missing i.name := by
  have distinct := nodup_of_check sound
  refine ⟨checkSupplies_eq_ok_iff.trans (complete_iff distinct),fun e => ?_⟩
  have first := suppliesError?_eq_some_iff (e := e) distinct supplies []
  simp only [List.map_nil,← fine_iff,List.nil_append] at first
  rw [← first,fine_iff,checkSupplies_eq_error_iff]
  simp only [unsupplied?_eq_some_iff]
  refine or_congr_right (and_congr_right fun _ => ?_)
  constructor
  · rintro ⟨i,⟨covered,rest,split,before,missing⟩,rfl⟩
    exact ⟨covered,i,rest,split,before,missing,rfl⟩
  · rintro ⟨covered,i,rest,split,before,missing,rfl⟩
    exact ⟨i,⟨covered,rest,split,before,missing⟩,rfl⟩

/-- A template that asks for a team and for one of two tones. -/
def moodTemplate : Template :=
  ⟨"welcome", "Welcome", "welcome.mjml", none, [⟨"team", "Team", .text, []⟩, ⟨"tone", "Tone", .radio, ["formal", "casual"]⟩]⟩

theorem complete_supplies_pass_for_mood :
    moodTemplate.check = .ok () ∧
    moodTemplate.checkSupplies [⟨"tone", none, .radio, [], "casual"⟩, ⟨"team", none, .text, [], "Ops"⟩] = .ok () ∧
    moodTemplate.checkSupplies [⟨"tone", none, .radio, [], "sour"⟩, ⟨"mood", none, .text, [], "low"⟩] =
      .error (.notAnOption "tone" "sour" ["formal", "casual"]) ∧
    moodTemplate.checkSupplies [⟨"tone", none, .radio, [], "formal"⟩] = .error (.missing "team") := by
  have sound : moodTemplate.check = .ok () := by rfl
  refine ⟨sound,(complete_supplies_pass moodTemplate sound _).1.mpr ⟨?_,?_⟩,
    ((complete_supplies_pass moodTemplate sound _).2 _).mpr (.inl ?_),
    ((complete_supplies_pass moodTemplate sound _).2 _).mpr (.inr ?_)⟩
  · exact .swap "team" "tone" []
  · decide
  · refine ⟨[],_,_,rfl,⟨by simp,by simp⟩,?_⟩
    exact .notAnOption (i := ⟨"tone", "Tone", .radio, ["formal", "casual"]⟩) (by decide) rfl (by simp) rfl rfl (by decide)
  · refine ⟨fine_iff.mpr (by decide),[],_,_,rfl,by simp,by simp,rfl⟩

end Template

end Letterpress
