import Letterpress.Proofs.Stockroom.Sweeping

/-! What can be relied on in a stockroom, however the moves of any number of visitors fall between each other. Nobody has
to wait for anybody: whoever moves often enough gets his reply. -/
namespace Letterpress.Stockroom
variable {w : Stockroom} {layout : Layout} {shelf later : Shelf} {visit : Visit} {i : Nat}

/-- How many moves a visitor has to make up to his reply, at most. -/
def Progress.pending (layout : Layout) : {visit : Visit} → Progress visit → Nat
  | .insert _ _, begun => 2
  | .sweep _, begun => layout.bays + 2
  | .definition _, begun => 1
  | .load _, begun => 1
  | _, entering _ => 1
  | _, walking bay _ => layout.bays - bay + 1
  | _, left => 0

private theorem Progress.Next.pending {progress next : Progress visit} {reply : Option visit.Reply}
    (moves : Next layout shelf visit progress reply next later) (waits : 0 < progress.pending layout) :
    reply.isSome ∨ reply = none ∧ 0 < next.pending layout ∧ next.pending layout < progress.pending layout := by
  cases moves with
  | pass sound => exact .inr ⟨rfl,Nat.one_pos,Nat.one_lt_two⟩
  | setOut kind => exact .inr ⟨rfl,Nat.succ_pos _,Nat.lt_succ_self _⟩
  | walk kind found ahead =>
    refine .inr ⟨rfl,Nat.succ_pos _,?_⟩
    simp only [Progress.pending]
    omega
  | rest => simp [Progress.pending] at waits
  | _ => exact .inl rfl

def Move.isOf (i : Nat) : Move → Bool
  | arrive _ => false
  | advance j => j = i

private theorem served_of_pending {progress : Progress visit} {moves : List Move}
    (present : w.visitors[i]? = some ⟨visit, progress⟩) (waits : 0 < progress.pending w.layout)
    (enough : progress.pending w.layout ≤ moves.countP (Move.isOf i)) :
    ∃ reply, ⟨i, visit, reply⟩ ∈ (w.run moves).1 := by
  induction moves generalizing w progress with
  | nil => exact absurd enough (Nat.not_le_of_lt waits)
  | cons move rest ih =>
    simp only [run,List.mem_append,Option.mem_toList]
    by_cases own : move = .advance i
    · subst own
      rw [List.countP_cons_of_pos (by simp [Move.isOf])] at enough
      obtain ⟨reply,next,shelf,moves,same⟩ := step_advance present
      rw [same]
      rcases moves.pending waits with given | ⟨rfl,still,less⟩
      · obtain ⟨own,rfl⟩ := Option.isSome_iff_exists.mp given
        exact ⟨own,.inl rfl⟩
      · have inside : i < w.visitors.length := (List.getElem?_eq_some_iff.mp present).1
        obtain ⟨own,later⟩ := @ih { w with shelf := shelf, visitors := w.visitors.set i ⟨visit, next⟩ } next
          (List.getElem?_set_self inside) still (Nat.le_of_lt_succ (Nat.lt_of_lt_of_le less enough))
        exact ⟨own,.inr later⟩
    · have other : ¬Move.isOf i move = true := by
        cases move with
        | arrive visit => simp [Move.isOf]
        | advance j => simpa [Move.isOf] using own
      rw [List.countP_cons_of_neg other] at enough
      obtain ⟨own,later⟩ := ih (visitor_step present own).1 (by rw [layout_step]; exact waits)
        (by rw [layout_step]; exact enough)
      exact ⟨own,.inr later⟩

/-- One move. A visitor who wants one template is served as if he were alone; an insert succeeds exactly when its template
is sound and its id is free; a move in which none succeeds leaves the shelf as it is. -/
structure Fair (w : Stockroom) (move : Move) : Prop where
  alone : ∀ i visit reply, (w.step move).1 = some ⟨i, visit, reply⟩ → visit.sweeps = false →
    visit.serve w.shelf = (reply, (w.step move).2.shelf)
  succeeds : ∀ i t markup outcome, (w.step move).1 = some ⟨i, .insert t markup, outcome⟩ →
    (outcome = .ok () ↔ t.check = .ok () ∧ Keyed.lookup? t.id w.shelf = none)
  adds : ∀ i t markup, (w.step move).1 = some ⟨i, .insert t markup, .ok ()⟩ →
    (w.step move).2.shelf = Keyed.insert t.id (t, markup) w.shelf
  keeps : (∀ i t markup, (w.step move).1 ≠ some ⟨i, .insert t markup, .ok ()⟩) → (w.step move).2.shelf = w.shelf

private theorem serve_insert_eq_ok_iff (shelf : Shelf) (t : Template) (markup : String) :
    ((Visit.insert t markup).serve shelf).1 = .ok () ↔ t.check = .ok () ∧ Keyed.lookup? t.id shelf = none := by
  have shelves : (∃ grown, Store.shelve shelf t markup = .ok grown) ↔
      t.check = .ok () ∧ Keyed.lookup? t.id shelf = none := by
    simp [Store.shelve_eq_ok_iff]
  rw [← shelves,Visit.serve]
  cases Store.shelve shelf t markup with
  | ok grown => simp
  | error e => simp

private theorem fair (w : Stockroom) (move : Move) : w.Fair move where
  alone _ _ _ := step_serve
  succeeds i t markup outcome given := by
    rw [← serve_insert_eq_ok_iff w.shelf t markup,step_serve given rfl]
  adds i t markup given := by
    rcases step_shelf w move with ⟨_,nothing⟩ | ⟨j,u,text,brings,_,_,grown⟩
    · have unbrought := nothing t.id
      rw [given,Option.bind_some,Record.brought?,if_pos rfl] at unbrought
      contradiction
    · rw [brings] at given
      cases given
      exact grown
  keeps nobody := by
    rcases step_shelf w move with ⟨same,_⟩ | ⟨i,t,markup,brings,_⟩
    · exact same
    · exact absurd brings (nobody i t markup)

/-- While a template stands under an id, whoever asks for it gets it. -/
theorem read_run {id : String} {t : Template} {markup : String} (kept : Keyed.lookup? id w.shelf = some (t, markup))
    (moves : List Move) (i : Nat) :
    (∀ answer, ⟨i, .definition id, answer⟩ ∈ (w.run moves).1 → answer = .ok t) ∧
    ∀ answer, ⟨i, .load id, answer⟩ ∈ (w.run moves).1 → answer = .ok markup := by
  constructor
  · intro answer member
    obtain ⟨before,rfl⟩ := exists_serve_of_mem_run member rfl
    simp only [Visit.serve,Store.definition,lookup?_run kept before]
  · intro answer member
    obtain ⟨before,rfl⟩ := exists_serve_of_mem_run member rfl
    simp only [Visit.serve,Store.load,lookup?_run kept before]

private theorem sweeps_arrive (orderly : Store.Orderly w.shelf) (kind : Sweep) :
    Sweeps w.shelf w.visitors.length kind (w.step (.arrive (.sweep kind))).2 where
  orderly := orderly
  kept _ member := member
  present := ⟨.begun,List.getElem?_concat_length,nofun⟩

private theorem fits_of_mem_run {base : Shelf} {kind : Sweep} (sweeps : Sweeps base i kind w)
    (distinct : (base.map (·.1)).Nodup)
    {moves : List Move} {reply : kind.Result} (member : ⟨i, .sweep kind, reply⟩ ∈ (w.run moves).1) :
    kind.Fits base (w.run moves).2.shelf reply := by
  obtain ⟨before,move,after,rfl,given⟩ := exists_of_mem_run member
  obtain ⟨orderly,_,_⟩ := sweeps.run before
  obtain ⟨found,between,same⟩ := (sweeps.run before).reply given rfl
  cases same
  rw [run_append]
  exact (between.mono (mem_run orderly (move :: after))).fits (orderly_run orderly (move :: after)) distinct kind

private theorem pending_begun (layout : Layout) (visit : Visit) :
    0 < (Progress.begun : Progress visit).pending layout ∧
      (Progress.begun : Progress visit).pending layout ≤ layout.bays + 2 := by
  cases visit <;> simp [Progress.pending]

/-- A shelf that many visitors are at. Whatever they do, and however their moves fall between each other: every template
on it is sound and under its own id; each move is fair; what stands under an id stays there, and whoever asks for it from
then on gets it; for each id the inserts that have succeeded are the one whose template and markup stand there, or none,
and none only as long as no insert of a sound template with this id is through; whoever moves often enough gets his reply;
and a sweep lists each template that was there all the time, each once, in the order of the bytes of the ids, and just
these if nothing has been brought meanwhile. -/
theorem stock_is_kept (layout : Layout) (moves : List Move) :
    let opened := start layout
    let late := (opened.run moves).2
    let replies := (opened.run moves).1
    (∀ id t markup, (id, t, markup) ∈ late.shelf → t.check = .ok () ∧ t.id = id) ∧
    (∀ before move after, moves = before ++ move :: after → (opened.run before).2.Fair move) ∧
    (∀ before after, moves = before ++ after → ∀ id t markup,
      Keyed.lookup? id (opened.run before).2.shelf = some (t, markup) →
      Keyed.lookup? id late.shelf = some (t, markup) ∧ ∀ i,
        (∀ answer, ⟨i, .definition id, answer⟩ ∈ ((opened.run before).2.run after).1 → answer = .ok t) ∧
        ∀ answer, ⟨i, .load id, answer⟩ ∈ ((opened.run before).2.run after).1 → answer = .ok markup) ∧
    (∀ id, replies.filterMap (Record.brought? id) = (Keyed.lookup? id late.shelf).toList) ∧
    (∀ i t markup outcome, ⟨i, .insert t markup, outcome⟩ ∈ replies → t.check = .ok () →
      ∃ first text, replies.filterMap (Record.brought? t.id) = [(first, text)] ∧
        Keyed.lookup? t.id late.shelf = some (first, text)) ∧
    (∀ before visit after, moves = before ++ .arrive visit :: after →
      let w := (opened.run before).2
      let given := ((w.step (.arrive visit)).2.run after).1
      (layout.bays + 2 ≤ after.countP (Move.isOf w.visitors.length) → ∃ reply, ⟨w.visitors.length, visit, reply⟩ ∈ given) ∧
      ∀ kind, visit = .sweep kind → ∀ reply, ⟨w.visitors.length, .sweep kind, reply⟩ ∈ given →
        kind.Fits w.shelf late.shelf reply) := by
  intro opened late replies
  have brought (id : String) : replies.filterMap (Record.brought? id) = (Keyed.lookup? id late.shelf).toList :=
    brought_run opened moves id
  refine ⟨(orderly_run Store.orderly_nil moves).sound,fun before move _ _ => fair _ move,?_,brought,?_,?_⟩
  · rintro before after rfl id t markup kept
    refine ⟨?_,read_run kept after⟩
    simp only [late,run_append]
    exact lookup?_run kept after
  · intro i t markup outcome member sound
    obtain ⟨before,move,after,rfl,given⟩ := exists_of_mem_run member
    obtain ⟨⟨first,text⟩,there⟩ := Option.isSome_iff_exists.mp (isSome_lookup?_step given sound)
    have stays : Keyed.lookup? t.id late.shelf = some (first, text) := by
      simp only [late,run_append]
      exact lookup?_run there after
    exact ⟨first,text,by rw [brought,stays]; rfl,stays⟩
  · rintro before visit after rfl w given
    have same : late = ((w.step (.arrive visit)).2.run after).2 := by simp only [late,run_append]; rfl
    have orderly : Store.Orderly w.shelf := orderly_run Store.orderly_nil before
    constructor
    · intro enough
      obtain ⟨waits,few⟩ := pending_begun w.layout visit
      have plan : w.layout = layout := layout_run opened before
      have present : (w.step (.arrive visit)).2.visitors[w.visitors.length]? = some ⟨visit, .begun⟩ :=
        List.getElem?_concat_length
      exact served_of_pending present waits (Nat.le_trans few (plan ▸ enough))
    · rintro kind rfl reply member
      rw [same]
      exact fits_of_mem_run (sweeps_arrive orderly kind) orderly.ascending.nodup member

/-- Two bays, each found in the opposite order. -/
def twoBays : Layout := ⟨2, fun id => if id = "a" then 1 else 0, List.reverse, List.reverse_perm⟩

def sheet (id : String) : Template := ⟨id, "Sheet", id ++ ".mjml", none, []⟩

/-- Two visitors bring a template with the same id, and the second one is quicker. -/
def race : List Move :=
  [.arrive (.insert (sheet "a") "slow"), .arrive (.insert (sheet "a") "quick"),
    .advance 0, .advance 1, .advance 1, .advance 0]

example : ((start twoBays).run race).1.filterMap (Record.brought? "a") = [(sheet "a", "quick")] := by rfl

end Letterpress.Stockroom
