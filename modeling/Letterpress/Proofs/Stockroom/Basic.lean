import Letterpress.Proofs.Store.Shelf

/-! A stockroom: the shelf of a store in memory, at which many visitors are at work at once. The shelf stands in several
bays. Whoever wants one template goes to its bay and is through in one move; whoever wants all of them goes through the
bays one by one, and between two bays any other visitor may move. -/
namespace Letterpress

namespace Stockroom

abbrev Shelf := List (String × Template × String)

/-- What goes over the whole shelf. -/
inductive Sweep
  | list
  | count

namespace Sweep

abbrev Result : Sweep → Type
  | list => List Template
  | count => Nat

/-- What comes of the entries that have been found in the bays. -/
def finish (found : Shelf) : (kind : Sweep) → kind.Result
  | list => Store.sortById (Store.templatesOn found)
  | count => found.length

end Sweep

inductive Visit
  | insert (template : Template) (markup : String)
  | definition (id : String)
  | load (id : String)
  | sweep (kind : Sweep)

namespace Visit

abbrev Reply : Visit → Type
  | insert _ _ => Except TemplateError Unit
  | definition _ => Except TemplateError Template
  | load _ => Except TemplateError String
  | sweep kind => kind.Result

def sweeps : Visit → Bool
  | sweep _ => true
  | _ => false

/-- The reply to a visitor who is alone, and the shelf that he leaves. -/
def serve (shelf : Shelf) : (visit : Visit) → visit.Reply × Shelf
  | insert t markup =>
    match Store.shelve shelf t markup with
    | .ok grown => (.ok (), grown)
    | .error e => (.error e, shelf)
  | definition id => ((Store.memory shelf).definition id, shelf)
  | load id => ((Store.memory shelf).load (.empty "") id, shelf)
  | sweep kind => (kind.finish shelf, shelf)

end Visit

/-- The bays, how ids are put into them, and the order in which a bay is found to be. -/
structure Layout where
  bays : Nat
  bay : String → Fin bays
  arrange : Shelf → Shelf
  arranged : ∀ shelf, (arrange shelf).Perm shelf

def Layout.contents (layout : Layout) (shelf : Shelf) (bay : Nat) : Shelf :=
  layout.arrange (shelf.filter fun entry => layout.bay entry.1 = bay)

/-- How far a visitor has come. A template is looked at before it is brought to its bay. -/
inductive Progress : Visit → Type
  | begun {visit : Visit} : Progress visit
  | entering {t : Template} {markup : String} (sound : t.check = .ok ()) : Progress (.insert t markup)
  | walking {kind : Sweep} (bay : Nat) (found : Shelf) : Progress (.sweep kind)
  | left {visit : Visit} : Progress visit

namespace Progress

/-- What follows at once if a template turns out to be sound, or not. -/
def examine {t : Template} {markup : String} (shelf : Shelf) :
    Option (Visit.insert t markup).Reply × Progress (.insert t markup) × Shelf :=
  match sound : t.check with
  | .ok () => (none, entering sound, shelf)
  | .error e => (some (.error e), left, shelf)

/-- The reply if there is one now, the progress and the shelf after the next move. -/
def advance (layout : Layout) (shelf : Shelf) : {visit : Visit} → Progress visit →
    Option visit.Reply × Progress visit × Shelf
  | .insert _ _, begun => examine shelf
  | .definition id, begun => (some ((Store.memory shelf).definition id), left, shelf)
  | .load id, begun => (some ((Store.memory shelf).load (.empty "") id), left, shelf)
  | .sweep _, begun => (none, walking 0 [], shelf)
  | .insert t markup, entering _ =>
    match Store.enter shelf t markup with
    | .ok grown => (some (.ok ()), left, grown)
    | .error e => (some (.error e), left, shelf)
  | .sweep kind, walking bay found =>
    if bay < layout.bays then (none, walking (bay + 1) (found ++ layout.contents shelf bay), shelf)
    else (some (kind.finish found), left, shelf)
  | _, left => (none, left, shelf)

/-- The ways in which a visitor moves on, each with the reply, if there is one, and the shelf afterwards. -/
inductive Next (layout : Layout) (shelf : Shelf) : (visit : Visit) → Progress visit → Option visit.Reply →
    Progress visit → Shelf → Prop
  | refuse {t : Template} {markup : String} {e : TemplateError} (flawed : t.check = .error e) :
    Next layout shelf (.insert t markup) begun (some (.error e)) left shelf
  | pass {t : Template} {markup : String} (sound : t.check = .ok ()) :
    Next layout shelf (.insert t markup) begun none (entering sound) shelf
  | enter {t : Template} {markup : String} {grown : Shelf} (sound : t.check = .ok ())
      (entered : Store.enter shelf t markup = .ok grown) :
    Next layout shelf (.insert t markup) (entering sound) (some (.ok ())) left grown
  | repel {t : Template} {markup : String} {e : TemplateError} (sound : t.check = .ok ())
      (repelled : Store.enter shelf t markup = .error e) :
    Next layout shelf (.insert t markup) (entering sound) (some (.error e)) left shelf
  | define (id : String) :
    Next layout shelf (.definition id) begun (some ((Store.memory shelf).definition id)) left shelf
  | load (id : String) : Next layout shelf (.load id) begun (some ((Store.memory shelf).load (.empty "") id)) left shelf
  | setOut (kind : Sweep) : Next layout shelf (.sweep kind) begun none (walking 0 []) shelf
  | walk (kind : Sweep) {bay : Nat} (found : Shelf) (ahead : bay < layout.bays) :
    Next layout shelf (.sweep kind) (walking bay found) none (walking (bay + 1) (found ++ layout.contents shelf bay)) shelf
  | finish (kind : Sweep) {bay : Nat} (found : Shelf) (through : layout.bays ≤ bay) :
    Next layout shelf (.sweep kind) (walking bay found) (some (kind.finish found)) left shelf
  | rest {visit : Visit} : Next layout shelf visit left none left shelf

private theorem next_advance (layout : Layout) (shelf : Shelf) {visit : Visit} (progress : Progress visit) :
    Next layout shelf visit progress (progress.advance layout shelf).1 (progress.advance layout shelf).2.1
      (progress.advance layout shelf).2.2 := by
  cases progress with
  | begun =>
    cases visit with
    | insert t markup =>
      simp only [advance,examine]
      split
      next sound => exact .pass sound
      next e flawed => exact .refuse flawed
    | definition id => exact .define id
    | load id => exact .load id
    | sweep kind => exact .setOut kind
  | entering sound =>
    simp only [advance]
    split
    next entered => exact .enter sound entered
    next repelled => exact .repel sound repelled
  | walking bay found =>
    simp only [advance]
    split
    next ahead => exact .walk _ found ahead
    next through => exact .finish _ found (Nat.le_of_not_lt through)
  | left => cases visit <;> exact .rest

end Progress

structure Visitor where
  visit : Visit
  progress : Progress visit

/-- A reply that has been given to a visitor. -/
structure Record where
  visitor : Nat
  visit : Visit
  reply : visit.Reply

/-- What can happen next: a visitor comes in, or one moves on. -/
inductive Move
  | arrive (visit : Visit)
  | advance (visitor : Nat)

end Stockroom

structure Stockroom where
  layout : Stockroom.Layout
  shelf : Stockroom.Shelf
  visitors : List Stockroom.Visitor

namespace Stockroom

def start (layout : Layout) : Stockroom := ⟨layout, [], []⟩

/-- A move, with the reply that it gives, if it gives one. -/
def step (w : Stockroom) : Move → Option Record × Stockroom
  | .arrive visit => (none, { w with visitors := w.visitors ++ [⟨visit, .begun⟩] })
  | .advance i =>
    match w.visitors[i]? with
    | none => (none, w)
    | some ⟨visit, progress⟩ =>
      let (reply, progress, shelf) := progress.advance w.layout w.shelf
      (reply.map (⟨i, visit, ·⟩), { w with shelf := shelf, visitors := w.visitors.set i ⟨visit, progress⟩ })

/-- The moves one after the other: the replies in the order in which they are given, and the stockroom afterwards. -/
def run (w : Stockroom) : List Move → List Record × Stockroom
  | [] => ([], w)
  | move :: moves =>
    let (reply, w) := w.step move
    let (replies, w) := w.run moves
    (reply.toList ++ replies, w)

theorem run_append (w : Stockroom) (before after : List Move) :
    w.run (before ++ after) =
      ((w.run before).1 ++ ((w.run before).2.run after).1, ((w.run before).2.run after).2) := by
  induction before generalizing w with
  | nil => rfl
  | cons move rest ih => simp only [List.cons_append,run,ih,List.append_assoc]

theorem run_induction {holds : Stockroom → Prop} (kept : ∀ w move, holds w → holds (w.step move).2)
    (w : Stockroom) (initial : holds w) (moves : List Move) : holds (w.run moves).2 := by
  induction moves generalizing w with
  | nil => exact initial
  | cons move rest ih => exact ih (w.step move).2 (kept w move initial)

theorem step_advance {w : Stockroom} {i : Nat} {visit : Visit} {progress : Progress visit}
    (present : w.visitors[i]? = some ⟨visit, progress⟩) :
    ∃ reply next shelf, Progress.Next w.layout w.shelf visit progress reply next shelf ∧
      w.step (.advance i) =
        (reply.map (⟨i, visit, ·⟩), { w with shelf := shelf, visitors := w.visitors.set i ⟨visit, next⟩ }) := by
  refine ⟨_,_,_,progress.next_advance w.layout w.shelf,?_⟩
  simp only [step,present]

/-- A move brings a visitor in, is that of somebody who is not there, or moves a visitor on. -/
theorem step_cases (w : Stockroom) (move : Move) :
    (∃ visit, move = .arrive visit ∧ w.step move = (none, { w with visitors := w.visitors ++ [⟨visit, .begun⟩] })) ∨
    w.step move = (none, w) ∨
    ∃ i visit progress reply next shelf, move = .advance i ∧ w.visitors[i]? = some ⟨visit, progress⟩ ∧
      Progress.Next w.layout w.shelf visit progress reply next shelf ∧
      w.step move = (reply.map (⟨i, visit, ·⟩), { w with shelf := shelf, visitors := w.visitors.set i ⟨visit, next⟩ }) := by
  cases move with
  | arrive visit => exact .inl ⟨visit,rfl,rfl⟩
  | advance i =>
    right
    cases present : w.visitors[i]? with
    | none =>
      left
      simp only [step,present]
    | some visitor =>
      obtain ⟨visit,progress⟩ := visitor
      obtain ⟨reply,next,shelf,moves,same⟩ := step_advance present
      exact .inr ⟨i,visit,progress,reply,next,shelf,rfl,present,moves,same⟩

/-- A visitor stays as he is while others move. -/
theorem visitor_step {w : Stockroom} {i : Nat} {visitor : Visitor} (present : w.visitors[i]? = some visitor) {move : Move}
    (other : move ≠ .advance i) :
    (w.step move).2.visitors[i]? = some visitor ∧ ∀ r, (w.step move).1 = some r → r.visitor ≠ i := by
  rcases step_cases w move with ⟨visit,_,same⟩ | same | ⟨j,visit,progress,reply,next,shelf,rfl,_,_,same⟩
  · rw [same]
    exact ⟨(List.getElem?_append_left (List.getElem?_eq_some_iff.mp present).1).trans present,nofun⟩
  · rw [same]
    exact ⟨present,nofun⟩
  · have different : j ≠ i := fun equal => other (equal ▸ rfl)
    rw [same]
    refine ⟨by rw [List.getElem?_set_ne different]; exact present,fun r given => ?_⟩
    obtain ⟨_,_,rfl⟩ := Option.map_eq_some_iff.mp given
    exact different

theorem layout_step (w : Stockroom) (move : Move) : (w.step move).2.layout = w.layout := by
  rcases step_cases w move with ⟨_,_,same⟩ | same | ⟨_,_,_,_,_,_,_,_,_,same⟩ <;> rw [same]

theorem layout_run (w : Stockroom) (moves : List Move) : (w.run moves).2.layout = w.layout :=
  @run_induction (fun late => late.layout = w.layout) (fun late move same => (layout_step late move).trans same) w rfl moves

end Stockroom

end Letterpress
