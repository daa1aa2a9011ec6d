import Letterpress.Proofs.Mail.Sending
import Letterpress.Proofs.Press.Keeping
import Mathlib.Algebra.BigOperators.Group.List.Basic
import Mathlib.Algebra.GroupWithZero.Nat

/-! What the samples say. They are counted where things happen, at a press and at a mailer, and together they say how many pages
were rendered, how many plates were looked up, and how each send ended. -/
namespace Letterpress

/-- What is done, apart from what is counted of it: how many pages are rendered, how many of these by a press that keeps plates,
and how each send ends. -/
structure Work where
  renders : Nat
  lookups : Nat
  sends : List (Except SendError Nat)

namespace Work

def nothing : Work := ⟨0, 0, []⟩

/-- One thing to do, that comes to a render or not, with a press that keeps plates or not, and makes a send or not. -/
def one (renders keeps : Bool) (send : Option (Except SendError Nat)) : Work :=
  ⟨renders.toNat, (keeps && renders).toNat, send.toList⟩

theorem one_still (keeps : Bool) : one false keeps none = nothing := by
  rw [one,Bool.and_false]
  rfl

def andThen (first second : Work) : Work :=
  ⟨first.renders + second.renders, first.lookups + second.lookups, first.sends ++ second.sends⟩

/-- To how many recipients each send went that was accepted. -/
def accepted (work : Work) : List Nat := work.sends.filterMap Except.toOption

def reason? : Except SendError Nat → Option String
  | .ok _ => none
  | .error e => some e.reason

/-- Why each send failed that did. -/
def refused (work : Work) : List String := work.sends.filterMap reason?

end Work

def PressError.kinds : List String := ["not_found", "io", "compile", "injection"]

def SendError.reasons : List String := ["confirmation", "render", "transport"]

/-- The samples have grown as they have to by some work of a mailer with this transport. -/
structure Balances (grown : Sample → Nat) (transport : String) (work : Work) : Prop where
  renders : grown (.renders "success") + grown (.renders "error") = work.renders
  errors : (PressError.kinds.map fun kind => grown (.renderErrors kind)).sum = grown (.renders "error")
  noOtherErrors : ∀ kind ∉ PressError.kinds, grown (.renderErrors kind) = 0
  durations : ∀ outcome, grown (.renderDurations outcome) = grown (.renders outcome)
  lookups : grown (.cacheLookups "hit") + grown (.cacheLookups "miss") = work.lookups
  sent : ∀ name, grown (.emailsSent name) = if name = transport then work.accepted.length else 0
  count : grown .recipientsCount = work.accepted.length
  sum : grown .recipientsSum = work.accepted.sum
  failures : ∀ reason, grown (.sendFailures reason) = work.refused.count reason
  once : grown .recipientsCount + (SendError.reasons.map fun reason => grown (.sendFailures reason)).sum = work.sends.length

variable {grown more : Sample → Nat} {transport : String} {first second : Work} {before after : List Event}

private theorem balances_nothing : Balances (fun _ => 0) transport .nothing where
  renders := rfl
  errors := rfl
  noOtherErrors _ _ := rfl
  durations _ := rfl
  lookups := rfl
  sent name := by split <;> rfl
  count := rfl
  sum := rfl
  failures _ := rfl
  once := rfl

private theorem Balances.andThen (now : Balances grown transport first) (later : Balances more transport second) :
    Balances (fun sample => grown sample + more sample) transport (first.andThen second) where
  renders := by
    have left := now.renders
    have right := later.renders
    simp only [Work.andThen]
    omega
  errors := by
    rw [List.sum_map_add,now.errors,later.errors]
  noOtherErrors kind other := by
    rw [now.noOtherErrors kind other,later.noOtherErrors kind other]
  durations outcome := by
    rw [now.durations,later.durations]
  lookups := by
    have left := now.lookups
    have right := later.lookups
    simp only [Work.andThen]
    omega
  sent name := by
    rw [now.sent,later.sent,Work.accepted,Work.accepted,Work.accepted,Work.andThen,List.filterMap_append,List.length_append]
    split <;> rfl
  count := by
    rw [now.count,later.count,Work.accepted,Work.accepted,Work.accepted,Work.andThen,List.filterMap_append,List.length_append]
  sum := by
    rw [now.sum,later.sum,Work.accepted,Work.accepted,Work.accepted,Work.andThen,List.filterMap_append,List.sum_append]
  failures reason := by
    rw [now.failures,later.failures,Work.refused,Work.refused,Work.refused,Work.andThen,List.filterMap_append,List.count_append]
  once := by
    have left := now.once
    have right := later.once
    rw [List.sum_map_add]
    simp only [Work.andThen,List.length_append]
    omega

private theorem balances_append (now : Balances (total · before) transport first)
    (later : Balances (total · after) transport second) :
    Balances (total · (before ++ after)) transport (first.andThen second) := by
  have sum := now.andThen later
  simp only [← total_append] at sum
  exact sum

private theorem counted_eq_zero {sample : Sample} {marks : List (Sample × Nat)} (others : ∀ mark ∈ marks, mark.1 ≠ sample) :
    counted sample marks = 0 := by
  induction marks with
  | nil => rfl
  | cons mark marks ih =>
    rw [counted,if_neg (others mark List.mem_cons_self),ih fun other member => others other (List.mem_cons_of_mem _ member)]

private theorem total_singleton (sample : Sample) (event : Event) : total sample [event] = counted sample event.marks := by
  rw [total,List.flatMap_singleton]

/-- The buckets of a histogram are no part of what is balanced here. -/
theorem total_sent {sample : Sample} (exactly : ∀ bound, sample ≠ .recipientsUpTo bound) (transport : String) (recipients : Nat) :
    total sample [.sent transport recipients] =
      counted sample [(.emailsSent transport, 1), (.recipientsCount, 1), (.recipientsSum, recipients)] := by
  have buckets :
      counted sample ((recipientBounds.filter (recipients ≤ ·)).map fun bound => (.recipientsUpTo (some bound), 1)) = 0 := by
    apply counted_eq_zero
    intro mark member
    obtain ⟨bound,_,rfl⟩ := List.mem_map.mp member
    exact (exactly _).symm
  rw [total_singleton,Event.marks,counted_append,buckets]
  simp only [counted,if_neg (exactly none).symm,Nat.add_zero]

private theorem PressError.kind_mem (e : PressError) : e.kind ∈ kinds := by
  cases e <;> simp [kind,kinds]

private theorem balances_rendered (transport : String) (rendered : Except PressError Rendered) :
    Balances (total · [Press.outcomeEvent rendered]) transport ⟨1, 0, []⟩ := by
  cases rendered with
  | ok rendered =>
    constructor
    all_goals simp [Press.outcomeEvent,total_singleton,Event.marks,counted,Work.accepted,Work.refused]
  | error e =>
    constructor
    case errors => cases e <;> rfl
    case noOtherErrors =>
      intro kind other
      have apart : e.kind ≠ kind := by
        rintro rfl
        exact other e.kind_mem
      simp [Press.outcomeEvent,total_singleton,Event.marks,counted,apart]
    all_goals simp [Press.outcomeEvent,total_singleton,Event.marks,counted,Work.accepted,Work.refused]

private theorem balances_lookUp (transport : String) (press : Press) (id : String) :
    Balances (total · (press.lookUpEvents id)) transport ⟨0, press.kept.isSome.toNat, []⟩ := by
  obtain ⟨_ | plates⟩ := press
  · exact balances_nothing
  · simp only [Press.lookUpEvents]
    split
    · constructor
      all_goals simp [total_singleton,Event.marks,counted,Work.accepted,Work.refused]
    · constructor
      all_goals simp [total_singleton,Event.marks,counted,Work.accepted,Work.refused]

theorem balances_outcome (transport : Transport) (outcome : Except SendError Nat) :
    Balances (total · [Mailer.outcomeEvent transport outcome]) transport.name ⟨0, 0, [outcome]⟩ := by
  cases outcome with
  | ok recipients =>
    have accepted : Work.accepted ⟨0, 0, [.ok recipients]⟩ = [recipients] := rfl
    have refused : Work.refused ⟨0, 0, [.ok recipients]⟩ = [] := rfl
    constructor
    case sent =>
      intro name
      simp [Mailer.outcomeEvent,total_sent,counted,accepted,eq_comm]
    all_goals simp [Mailer.outcomeEvent,total_sent,counted,accepted,refused]
  | error e =>
    have accepted : Work.accepted ⟨0, 0, [.error e]⟩ = [] := rfl
    have refused : Work.refused ⟨0, 0, [.error e]⟩ = [e.reason] := rfl
    constructor
    case failures =>
      intro reason
      simp [Mailer.outcomeEvent,total_singleton,Event.marks,counted,refused,List.count_singleton]
    case once => cases e <;> rfl
    all_goals simp [Mailer.outcomeEvent,total_singleton,Event.marks,counted,accepted]

theorem Press.render_balances (transport : String) (press : Press) (store : Store) (disk : Disk) (request : RenderRequest) :
    Balances (total · (press.render store disk request).2.2) transport (.one true press.kept.isSome none) := by
  have both := balances_append (balances_lookUp transport press request.templateId)
    (balances_rendered transport (press.render store disk request).1)
  simp only [Work.andThen,Nat.zero_add,Nat.add_zero,List.nil_append] at both
  simp only [Work.one,Bool.and_true]
  exact both

/-- Whether a confirmation that is asked for some recipients lets a request through to its render. -/
def Confirmation.clears (confirmedFor : List Recipient) (acknowledged : Option Nat) (request : RenderRequest) : Bool :=
  match confirm confirmedFor acknowledged with
  | .ok c => c.covers request.recipients && !request.recipients.isEmpty
  | .error _ => false

theorem Confirmation.clears_eq {confirmedFor : List Recipient} {acknowledged : Option Nat} {c : Confirmation}
    (confirmed : confirm confirmedFor acknowledged = .ok c) (request : RenderRequest) :
    clears confirmedFor acknowledged request = (c.obstacle? request).isNone := by
  simp only [clears,confirmed,obstacle?]
  split
  next uncovered => simp_all
  next covered => split <;> simp_all

private theorem Mailer.deliver_balances (m : Mailer) (store : Store) (disk : Disk) (request : RenderRequest)
    (c : Confirmation) : Balances (total · (m.deliver store disk request c).2.2) m.transport.name
      (.one (c.obstacle? request).isNone m.press.kept.isSome none) := by
  have rendered := Press.render_balances m.transport.name m.press store disk request
  rcases deliver_cases m store disk request c with
    ⟨e,obstacle,result⟩ | ⟨e,press,events,clear,rendering,result⟩ | ⟨page,press,events,clear,rendering,result⟩
  · rw [result,obstacle,Option.isNone_some,Work.one_still]
    exact balances_nothing
  · rw [rendering] at rendered
    rw [result,clear]
    exact rendered
  · rw [rendering] at rendered
    rw [result,clear]
    exact rendered

theorem Mailer.send_balances (m : Mailer) (store : Store) (disk : Disk) (request : RenderRequest) (c : Confirmation) :
    Balances (total · (m.send store disk request c).2.2) m.transport.name
      (.one (c.obstacle? request).isNone m.press.kept.isSome (some (m.send store disk request c).1)) :=
  balances_append (m.deliver_balances store disk request c) (balances_outcome m.transport (m.deliver store disk request c).1)

theorem countP_cons_toNat {α : Type} (p : α → Bool) (x : α) (xs : List α) : (x :: xs).countP p = (p x).toNat + xs.countP p := by
  rw [List.countP_cons,Nat.add_comm]
  cases p x <;> rfl

/-- From some events to later ones each sample grows, as it has to by the work that is done in between. -/
def Accounts (before after : List Event) (transport : String) (work : Work) : Prop :=
  ∃ grown : Sample → Nat, (∀ sample, total sample after = total sample before + grown sample) ∧ Balances grown transport work

theorem accounts_nothing (events : List Event) (transport : String) : Accounts events events transport .nothing :=
  ⟨fun _ => 0,fun _ => rfl,balances_nothing⟩

theorem accounts_append (before : List Event) {events : List Event} {work : Work}
    (balanced : Balances (total · events) transport work) : Accounts before (before ++ events) transport work :=
  ⟨_,fun sample => total_append sample before events,balanced⟩

theorem Accounts.andThen {between : List Event} (now : Accounts before between transport first)
    (later : Accounts between after transport second) : Accounts before after transport (first.andThen second) := by
  obtain ⟨grown,grows,balanced⟩ := now
  obtain ⟨more,regrows,rebalanced⟩ := later
  refine ⟨_,fun sample => ?_,balanced.andThen rebalanced⟩
  rw [regrows,grows,Nat.add_assoc]

end Letterpress
