import Letterpress.Proofs.Stockroom.Basic
import Letterpress.Proofs.Store.Catalog
import Mathlib.Data.List.Perm.Subperm

/-! What is kept in a stockroom. Whoever wants one template is served as if he were alone, in the move in which he gets
his reply; the shelf changes only where a sound template is put under an id that was free, and what stands under an id
stays. Whoever sweeps over the bays one by one finds, each once, all entries that were there when he began, and none that is
not there when he ends, whatever is brought in between. -/
namespace Letterpress.Stockroom
variable {w : Stockroom} {layout : Layout} {base shelf later found : Shelf} {visit : Visit} {move : Move} {id : String}
  {kind : Sweep} {bay : Nat}

/-- What has been brought to the shelf under this id, if the record is that of an insert that has succeeded. -/
def Record.brought? (id : String) : Record → Option (Template × String)
  | ⟨_, .insert t markup, .ok ()⟩ => if t.id = id then some (t, markup) else none
  | _ => none

private theorem Progress.Next.serve {progress next : Progress visit} {reply : visit.Reply}
    (moves : Next layout shelf visit progress (some reply) next later) (single : visit.sweeps = false) :
    visit.serve shelf = (reply, later) := by
  cases moves with
  | refuse flawed => simp only [Visit.serve,Store.shelve_of_flawed flawed]
  | enter sound entered => simp only [Visit.serve,Store.shelve_of_sound sound,entered]
  | repel sound repelled => simp only [Visit.serve,Store.shelve_of_sound sound,repelled]
  | define id => rfl
  | load id => rfl
  | finish kind found through => contradiction

/-- A visitor who wants one template gets the reply, and leaves the shelf, as if he had been alone in this move. -/
theorem step_serve {i : Nat} {reply : visit.Reply} (given : (w.step move).1 = some ⟨i, visit, reply⟩)
    (single : visit.sweeps = false) : visit.serve w.shelf = (reply, (w.step move).2.shelf) := by
  rcases step_cases w move with ⟨_,_,same⟩ | same | ⟨j,other,progress,answer,next,shelf,_,_,moves,same⟩
  · rw [same] at given
    contradiction
  · rw [same] at given
    contradiction
  · rw [same] at given ⊢
    obtain ⟨own,rfl,equal⟩ := Option.map_eq_some_iff.mp given
    cases equal
    exact moves.serve single

/-- A move that does not bring a template leaves the shelf alone. -/
theorem step_shelf (w : Stockroom) (move : Move) :
    ((w.step move).2.shelf = w.shelf ∧ ∀ id, (w.step move).1.bind (Record.brought? id) = none) ∨
    ∃ i t markup, (w.step move).1 = some ⟨i, .insert t markup, .ok ()⟩ ∧ t.check = .ok () ∧
      Keyed.lookup? t.id w.shelf = none ∧ (w.step move).2.shelf = Keyed.insert t.id (t, markup) w.shelf := by
  rcases step_cases w move with ⟨_,_,same⟩ | same | ⟨i,visit,progress,reply,next,shelf,_,_,moves,same⟩
  · rw [same]
    exact .inl ⟨rfl,fun _ => rfl⟩
  · rw [same]
    exact .inl ⟨rfl,fun _ => rfl⟩
  · rw [same]
    cases moves with
    | @enter t markup grown sound entered =>
      obtain ⟨absent,rfl⟩ := Store.enter_eq_ok_iff.mp entered
      exact .inr ⟨i,t,markup,rfl,sound,absent,rfl⟩
    | _ => exact .inl ⟨rfl,fun _ => rfl⟩

private theorem orderly_step (w : Stockroom) (move : Move) (orderly : Store.Orderly w.shelf) :
    Store.Orderly (w.step move).2.shelf := by
  rcases step_shelf w move with ⟨same,_⟩ | ⟨_,t,markup,_,sound,_,grown⟩
  · rw [same]
    exact orderly
  · rw [grown]
    exact orderly.insert sound markup

private theorem lookup?_step {entry : Template × String} (kept : Keyed.lookup? id w.shelf = some entry) (move : Move) :
    Keyed.lookup? id (w.step move).2.shelf = some entry := by
  rcases step_shelf w move with ⟨same,_⟩ | ⟨_,t,markup,_,_,absent,grown⟩
  · rw [same]
    exact kept
  · have different : id ≠ t.id := by
      rintro rfl
      rw [absent] at kept
      contradiction
    rw [grown,Keyed.lookup?_insert_of_ne different]
    exact kept

/-- What stands under an id, together with what is brought to it, is what stands there then. -/
theorem brought_step (w : Stockroom) (move : Move) (id : String) :
    (Keyed.lookup? id w.shelf).toList ++ ((w.step move).1.bind (Record.brought? id)).toList =
      (Keyed.lookup? id (w.step move).2.shelf).toList := by
  rcases step_shelf w move with ⟨same,nothing⟩ | ⟨_,t,markup,given,_,absent,grown⟩
  · rw [same,nothing]
    exact List.append_nil _
  · rw [given,grown,Option.bind_some,Record.brought?,Keyed.lookup?_insert]
    by_cases own : id = t.id
    · subst own
      rw [absent,if_pos rfl]
      rfl
    · rw [if_neg own,if_neg (Ne.symm own)]
      exact List.append_nil _

theorem isSome_lookup?_step {i : Nat} {t : Template} {markup : String} {outcome : Except TemplateError Unit}
    (given : (w.step move).1 = some ⟨i, .insert t markup, outcome⟩) (sound : t.check = .ok ()) :
    (Keyed.lookup? t.id (w.step move).2.shelf).isSome := by
  have grown : (Visit.serve w.shelf (.insert t markup)).2 = (w.step move).2.shelf :=
    congrArg Prod.snd (step_serve given rfl)
  rw [← grown,Visit.serve,Store.shelve_of_sound sound,Store.enter]
  cases absent : Keyed.lookup? t.id w.shelf with
  | some entry =>
    rw [absent]
    rfl
  | none =>
    rw [Keyed.lookup?_insert,if_pos rfl]
    rfl

theorem orderly_run (orderly : Store.Orderly w.shelf) (moves : List Move) : Store.Orderly (w.run moves).2.shelf :=
  @run_induction (fun w => Store.Orderly w.shelf) orderly_step w orderly moves

theorem lookup?_run {entry : Template × String} (kept : Keyed.lookup? id w.shelf = some entry) (moves : List Move) :
    Keyed.lookup? id (w.run moves).2.shelf = some entry :=
  @run_induction (fun w => Keyed.lookup? id w.shelf = some entry) (fun _ move held => lookup?_step held move) w kept moves

theorem brought_run (w : Stockroom) (moves : List Move) (id : String) :
    (Keyed.lookup? id w.shelf).toList ++ (w.run moves).1.filterMap (Record.brought? id) =
      (Keyed.lookup? id (w.run moves).2.shelf).toList := by
  induction moves generalizing w with
  | nil => exact List.append_nil _
  | cons move rest ih =>
    have first : (w.step move).1.toList.filterMap (Record.brought? id) =
        ((w.step move).1.bind (Record.brought? id)).toList := by
      cases (w.step move).1 with
      | none => rfl
      | some r => cases brought : Record.brought? id r <;> simp [brought]
    rw [run,List.filterMap_append,first,← List.append_assoc,brought_step]
    exact ih (w.step move).2

/-- A reply in a run is given in one of its moves. -/
theorem exists_of_mem_run {moves : List Move} {r : Record} (member : r ∈ (w.run moves).1) :
    ∃ before move after, moves = before ++ move :: after ∧ ((w.run before).2.step move).1 = some r := by
  induction moves generalizing w with
  | nil => contradiction
  | cons move rest ih =>
    rw [run,List.mem_append,Option.mem_toList] at member
    rcases member with now | later
    · exact ⟨[],move,rest,rfl,now⟩
    · obtain ⟨before,other,after,rfl,given⟩ := ih later
      exact ⟨move :: before,other,after,rfl,given⟩

theorem exists_serve_of_mem_run {moves : List Move} {i : Nat} {reply : visit.Reply}
    (member : ⟨i, visit, reply⟩ ∈ (w.run moves).1) (single : visit.sweeps = false) :
    ∃ before, reply = (visit.serve (w.run before).2.shelf).1 := by
  obtain ⟨before,_,_,_,given⟩ := exists_of_mem_run member
  exact ⟨before,(congrArg Prod.fst (step_serve given single)).symm⟩

private theorem Layout.mem_contents_iff (layout : Layout) (shelf : Shelf) (bay : Nat) (entry : String × Template × String) :
    entry ∈ layout.contents shelf bay ↔ entry ∈ shelf ∧ layout.bay entry.1 = bay := by
  rw [contents,(layout.arranged _).mem_iff,List.mem_filter,decide_eq_true_iff]

private theorem Layout.distinct_contents (layout : Layout) (distinct : (shelf.map (·.1)).Nodup) (bay : Nat) :
    ((layout.contents shelf bay).map (·.1)).Nodup := by
  rw [contents,((layout.arranged _).map (·.1)).nodup_iff]
  exact distinct.sublist (List.filter_sublist.map _)

/-- What has been found in the bays before `bay`, on the way over a shelf that has grown from `base`. -/
structure Walked (layout : Layout) (base shelf : Shelf) (bay : Nat) (found : Shelf) : Prop where
  distinct : (found.map (·.1)).Nodup
  behind : ∀ entry ∈ found, layout.bay entry.1 < bay
  there : ∀ entry ∈ found, entry ∈ shelf
  seen : ∀ entry ∈ base, layout.bay entry.1 < bay → entry ∈ found

/-- What has been found in all bays. -/
structure Between (base shelf found : Shelf) : Prop where
  distinct : (found.map (·.1)).Nodup
  there : ∀ entry ∈ found, entry ∈ shelf
  seen : ∀ entry ∈ base, entry ∈ found

namespace Walked

private theorem start (layout : Layout) (base shelf : Shelf) : Walked layout base shelf 0 [] where
  distinct := List.nodup_nil
  behind _ absurdly := absurd absurdly List.not_mem_nil
  there _ absurdly := absurd absurdly List.not_mem_nil
  seen _ _ below := absurd below (Nat.not_lt_zero _)

private theorem mono (walked : Walked layout base shelf bay found) (grows : ∀ entry ∈ shelf, entry ∈ later) :
    Walked layout base later bay found :=
  { walked with there := fun entry member => grows entry (walked.there entry member) }

/-- One bay further. -/
theorem step (walked : Walked layout base shelf bay found) (kept : ∀ entry ∈ base, entry ∈ shelf)
    (distinct : (shelf.map (·.1)).Nodup) :
    Walked layout base shelf (bay + 1) (found ++ layout.contents shelf bay) where
  distinct := by
    rw [List.map_append]
    refine List.nodup_append.mpr ⟨walked.distinct,layout.distinct_contents distinct bay,?_⟩
    rintro id among other amongToo rfl
    obtain ⟨entry,member,rfl⟩ := List.mem_map.mp among
    obtain ⟨twin,memberToo,same⟩ := List.mem_map.mp amongToo
    have before := walked.behind entry member
    have here := ((layout.mem_contents_iff shelf bay twin).mp memberToo).2
    rw [same] at here
    omega
  behind entry member := by
    rcases List.mem_append.mp member with before | here
    · exact Nat.lt_succ_of_lt (walked.behind entry before)
    · exact Nat.lt_succ_of_le (Nat.le_of_eq ((layout.mem_contents_iff shelf bay entry).mp here).2)
  there entry member := by
    rcases List.mem_append.mp member with before | here
    · exact walked.there entry before
    · exact ((layout.mem_contents_iff shelf bay entry).mp here).1
  seen entry member below := by
    rcases Nat.lt_succ_iff_lt_or_eq.mp below with before | here
    · exact List.mem_append_left _ (walked.seen entry member before)
    · exact List.mem_append_right _ ((layout.mem_contents_iff shelf bay entry).mpr ⟨kept entry member,here⟩)

private theorem through (walked : Walked layout base shelf bay found) (all : layout.bays ≤ bay) : Between base shelf found where
  distinct := walked.distinct
  there := walked.there
  seen entry member := walked.seen entry member (Nat.lt_of_lt_of_le (layout.bay entry.1).isLt all)

end Walked

/-- Visitor `i` sweeps over a shelf that has grown from `base`. -/
structure Sweeps (base : Shelf) (i : Nat) (kind : Sweep) (w : Stockroom) : Prop where
  orderly : Store.Orderly w.shelf
  kept : ∀ entry ∈ base, entry ∈ w.shelf
  present : ∃ progress : Progress (.sweep kind), w.visitors[i]? = some ⟨.sweep kind, progress⟩ ∧
    ∀ bay found, progress = .walking bay found → Walked w.layout base w.shelf bay found

private theorem mem_step (orderly : Store.Orderly w.shelf) (move : Move) :
    ∀ entry ∈ w.shelf, entry ∈ (w.step move).2.shelf := by
  intro entry member
  have kept := orderly.lookup?_eq_some_iff.mpr member
  exact (orderly_step w move orderly).lookup?_eq_some_iff.mp (lookup?_step kept move)

theorem mem_run (orderly : Store.Orderly w.shelf) (moves : List Move) :
    ∀ entry ∈ w.shelf, entry ∈ (w.run moves).2.shelf := by
  induction moves generalizing w with
  | nil => exact fun _ member => member
  | cons move rest ih =>
    intro entry member
    exact ih (orderly_step w move orderly) entry (mem_step orderly move entry member)

namespace Sweeps

private theorem step (sweeps : Sweeps base i kind w) (move : Move) : Sweeps base i kind (w.step move).2 := by
  obtain ⟨orderly,kept,progress,present,walking⟩ := sweeps
  have grows := mem_step orderly move
  refine ⟨orderly_step w move orderly,fun entry member => grows entry (kept entry member),?_⟩
  by_cases own : move = .advance i
  · subst own
    obtain ⟨reply,next,shelf,moves,same⟩ := step_advance present
    have inside : i < w.visitors.length := (List.getElem?_eq_some_iff.mp present).1
    rw [same]
    refine ⟨next,List.getElem?_set_self inside,?_⟩
    cases moves with
    | setOut kind =>
      rintro bay found ⟨⟩
      exact Walked.start w.layout base w.shelf
    | walk kind found ahead =>
      rintro bay found ⟨⟩
      exact (walking _ _ rfl).step kept orderly.ascending.nodup
    | finish kind found through => nofun
    | rest => nofun
  · refine ⟨progress,(visitor_step present own).1,fun bay found on => ?_⟩
    rw [layout_step]
    exact (walking bay found on).mono grows

theorem run (sweeps : Sweeps base i kind w) (moves : List Move) : Sweeps base i kind (w.run moves).2 :=
  run_induction (fun _ move held => held.step move) w sweeps moves

/-- The reply to a sweep is what comes of the entries between those at its beginning and those at its end. -/
theorem reply (sweeps : Sweeps base i kind w) {move : Move} {r : Record} (given : (w.step move).1 = some r)
    (own : r.visitor = i) : ∃ found, Between base w.shelf found ∧ r = ⟨i, .sweep kind, kind.finish found⟩ := by
  obtain ⟨orderly,kept,progress,present,walking⟩ := sweeps
  by_cases moving : move = .advance i
  · subst moving
    obtain ⟨reply,next,shelf,moves,same⟩ := step_advance present
    rw [same] at given
    cases moves with
    | finish kind found through =>
      cases given
      exact ⟨found,(walking _ _ rfl).through through,rfl⟩
    | _ => contradiction
  · exact absurd own ((visitor_step present moving).2 r given)

end Sweeps

/-- What a sweep may reply that begins when `base` is on the shelf and is over when `shelf` is. -/
def Sweep.Fits (base shelf : Shelf) : (kind : Sweep) → kind.Result → Prop
  | list, templates =>
    templates.Pairwise (fun a b => bytes a.id < bytes b.id) ∧
    (∀ id t markup, (id, t, markup) ∈ base → t ∈ templates) ∧
    (∀ t ∈ templates, ∃ markup, (t.id, t, markup) ∈ shelf) ∧
    (base = shelf → .ok templates = (Store.memory shelf).list)
  | count, n => base.length ≤ n ∧ n ≤ shelf.length

namespace Between

theorem mono (between : Between base shelf found) (grows : ∀ entry ∈ shelf, entry ∈ later) : Between base later found :=
  { between with there := fun entry member => grows entry (between.there entry member) }

private theorem nodup (between : Between base shelf found) : found.Nodup := between.distinct.of_map _

private theorem perm (between : Between shelf shelf found) (distinct : (shelf.map (·.1)).Nodup) : found.Perm shelf :=
  (List.perm_ext_iff_of_nodup between.nodup (distinct.of_map _)).mpr
    fun entry => ⟨between.there entry,between.seen entry⟩

private theorem distinct_templates (between : Between base shelf found) (orderly : Store.Orderly shelf) :
    ((Store.templatesOn found).map (·.id)).Nodup := by
  have same : (Store.templatesOn found).map (·.id) = found.map (·.1) := by
    rw [Store.templatesOn,List.map_map]
    refine List.map_congr_left fun entry member => ?_
    exact (orderly.sound _ _ _ (between.there entry member)).2
  rw [same]
  exact between.distinct

private theorem listed (between : Between base shelf found) (orderly : Store.Orderly shelf) :
    Sweep.list.Fits base shelf (Sweep.list.finish found) := by
  have ascending : (Sweep.list.finish found).Pairwise fun a b => a.id < b.id :=
    Store.ascending_sortById (between.distinct_templates orderly)
  have same : (Sweep.list.finish found).Perm (Store.templatesOn found) := Store.sortById_perm _
  have stored (t : Template) (member : t ∈ Sweep.list.finish found) :
      t.check = .ok () ∧ ∃ markup, (t.id, t, markup) ∈ shelf := by
    obtain ⟨⟨id,t,markup⟩,among,rfl⟩ := List.mem_map.mp (same.mem_iff.mp member)
    have there := between.there _ among
    obtain ⟨sound,rfl⟩ := orderly.sound _ _ _ there
    exact ⟨sound,markup,there⟩
  refine ⟨Store.pairwise_bytes (fun t member => (stored t member).1) ascending,fun id t markup member => ?_,
    fun t member => (stored t member).2,?_⟩
  · exact same.mem_iff.mpr (List.mem_map.mpr ⟨_,between.seen _ member,rfl⟩)
  · rintro rfl
    have whole : found.Perm base := between.perm orderly.ascending.nodup
    rw [Store.list_memory]
    exact congrArg Except.ok
      (Store.eq_of_ascending (same.trans (whole.map _)) ascending orderly.ascending_templates)

private theorem counted (between : Between base shelf found) (distinct : (base.map (·.1)).Nodup) :
    Sweep.count.Fits base shelf (Sweep.count.finish found) := by
  constructor
  · exact (List.subperm_of_subset (distinct.of_map _) between.seen).length_le
  · exact (List.subperm_of_subset between.nodup between.there).length_le

theorem fits (between : Between base shelf found) (orderly : Store.Orderly shelf) (distinct : (base.map (·.1)).Nodup) :
    (kind : Sweep) → kind.Fits base shelf (kind.finish found)
  | .list => between.listed orderly
  | .count => between.counted distinct

end Between

end Letterpress.Stockroom
