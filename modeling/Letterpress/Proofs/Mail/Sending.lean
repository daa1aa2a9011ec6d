import Letterpress.Mail.Mailer
import Mathlib.Data.List.Forall2

/-! What sending does. A request that is not confirmed, or goes to nobody, changes nothing; one whose render fails changes
the press at most; and of the others the transport gets exactly one mail, which it takes or refuses. A send that is accepted
so adds one mail to the outbox, to the recipients that were confirmed; a send that fails adds none. -/
namespace Letterpress

/-- The transport with more mail in its outbox, behind what is in it already. -/
def Transport.withMail (transport : Transport) (emails : List Email) : Transport :=
  match transport with
  | log => log
  | memory outbox failure => memory (outbox ++ emails) failure

namespace Transport
variable {transport : Transport} {email : Email}

theorem deliver_of_error {e : TransportError} (refused : (transport.deliver email).1 = .error e) :
    (transport.deliver email).2 = transport := by
  unfold deliver at refused ⊢
  split at refused
  next nobody => rw [if_pos nobody]
  next somebody =>
    rw [if_neg somebody]
    cases transport with
    | log => rfl
    | memory outbox failure =>
      cases failure with
      | none => contradiction
      | some reason => rfl

private theorem accepted_count {n : Nat} (accepted : (transport.deliver email).1 = .ok n) :
    n = email.recipients.length ∧ email.recipients ≠ [] := by
  unfold deliver at accepted
  split at accepted
  next => contradiction
  next somebody =>
    have nonempty : email.recipients ≠ [] := by simpa using somebody
    cases transport with
    | log => exact ⟨(Except.ok.inj accepted).symm,nonempty⟩
    | memory outbox failure =>
      cases failure with
      | none => exact ⟨(Except.ok.inj accepted).symm,nonempty⟩
      | some reason => contradiction

private theorem deliver_memory_of_ok {outbox : List Email} {failure : Option String} {n : Nat}
    (accepted : ((memory outbox failure).deliver email).1 = .ok n) :
    ((memory outbox failure).deliver email).2 = memory (outbox ++ [email]) failure := by
  unfold deliver at accepted ⊢
  split at accepted
  next => contradiction
  next somebody =>
    rw [if_neg somebody]
    cases failure with
    | none => rfl
    | some reason => contradiction

private theorem withMail_nil (transport : Transport) : transport.withMail [] = transport := by
  cases transport with
  | log => rfl
  | memory outbox failure => simp only [Transport.withMail,List.append_nil]

private theorem withMail_append (transport : Transport) (first second : List Email) :
    transport.withMail (first ++ second) = (transport.withMail first).withMail second := by
  cases transport with
  | log => rfl
  | memory outbox failure => simp only [Transport.withMail,List.append_assoc]

theorem deliver_of_ok {n : Nat}
    (accepted : (transport.deliver email).1 = .ok n) : (transport.deliver email).2 = transport.withMail [email] := by
  cases transport with
  | memory outbox failure => exact deliver_memory_of_ok accepted
  | log =>
    unfold deliver
    split <;> rfl

/-- Something that was accepted has put a mail into the outbox; what was not has left the transport as it was. -/
def Takes (before after : Transport) (accepted : Bool) (posted : Email → Prop) : Prop :=
  (accepted = true ∧ ∃ email, posted email ∧ after = before.withMail [email]) ∨ (accepted = false ∧ after = before)

theorem takes_nothing (transport : Transport) (posted : Email → Prop) : transport.Takes transport false posted :=
  .inr ⟨rfl,rfl⟩

theorem Takes.imp {before after : Transport} {accepted : Bool} {posted other : Email → Prop}
    (takes : before.Takes after accepted posted) (weaker : ∀ email, posted email → other email) :
    before.Takes after accepted other := by
  rcases takes with ⟨done,email,post,grown⟩ | refused
  · exact .inl ⟨done,email,weaker email post,grown⟩
  · exact .inr refused

theorem Takes.unchanged {before after : Transport} {accepted : Bool} {posted : Email → Prop}
    (takes : before.Takes after accepted posted) (refused : accepted = false) : after = before := by
  rcases takes with ⟨done,_⟩ | ⟨_,same⟩
  · rw [refused] at done
    contradiction
  · exact same

section
variable {α : Type} {accepted : α → Bool} {posted : α → Email → Prop}

/-- Of all that happened each accepted thing has put one mail into the outbox, in their order, and the rest none. -/
def Records (before after : Transport) (happened : List α) (accepted : α → Bool) (posted : α → Email → Prop) : Prop :=
  ∃ emails, List.Forall₂ posted (happened.filter accepted) emails ∧ after = before.withMail emails

theorem records_nil (transport : Transport) : transport.Records transport [] accepted posted :=
  ⟨[],.nil,(withMail_nil transport).symm⟩

theorem records_cons {before between after : Transport} {first : α} {rest : List α}
    (now : before.Takes between (accepted first) (posted first)) (later : between.Records after rest accepted posted) :
    before.Records after (first :: rest) accepted posted := by
  obtain ⟨emails,each,result⟩ := later
  rcases now with ⟨done,email,this,grown⟩ | ⟨refused,same⟩
  · refine ⟨email :: emails,?_,?_⟩
    · rw [List.filter_cons_of_pos done]
      exact .cons this each
    · rw [result,grown,← withMail_append]
      rfl
  · refine ⟨emails,?_,?_⟩
    · rw [List.filter_cons_of_neg (by simp [refused])]
      exact each
    · rw [result,same]

theorem Records.memory {after : Transport} {happened : List α} {outbox : List Email} {failure : Option String}
    {before : Transport} (records : before.Records after happened accepted posted)
    (same : before = .memory outbox failure) :
    ∃ emails, List.Forall₂ posted (happened.filter accepted) emails ∧ after = .memory (outbox ++ emails) failure := by
  obtain ⟨emails,each,result⟩ := records
  rw [same] at result
  exact ⟨emails,each,result⟩

end

end Transport

/-- What keeps a request from being sent, before anything is rendered for it. -/
def Confirmation.obstacle? (c : Confirmation) (request : RenderRequest) : Option SendError :=
  if !c.covers request.recipients then some (.confirmation (.countMismatch request.recipients.length c.recipients))
  else if request.recipients.isEmpty then some (.transport .noRecipients)
  else none

theorem Confirmation.obstacle?_eq_none_iff (c : Confirmation) (request : RenderRequest) :
    c.obstacle? request = none ↔ c.recipients = request.recipients.length ∧ request.recipients ≠ [] := by
  unfold obstacle? covers
  by_cases same : c.recipients = request.recipients.length
  · by_cases nobody : request.recipients = []
    · simp [same,nobody]
    · simp [same,nobody]
  · simp [same]

/-- A mail of a send that was accepted: as many as it goes to were confirmed and are reported, and there are some. -/
structure Delivered (request : RenderRequest) (confirmation : Confirmation) (accepted : Nat) (email : Email) : Prop where
  confirmed : confirmation.recipients = request.recipients.length
  somebody : 1 ≤ confirmation.recipients
  reported : accepted = confirmation.recipients
  addressed : email.recipients = request.recipients.map .ofRecipient

theorem delivered_of_ok {transport : Transport} {request : RenderRequest} {c : Confirmation} {n : Nat}
    (clear : c.obstacle? request = none) (config : MailConfig) (html : String)
    (accepted : (transport.deliver (config.compose request html)).1 = .ok n) :
    Delivered request c n (config.compose request html) := by
  obtain ⟨count,somebody⟩ := (Confirmation.obstacle?_eq_none_iff c request).mp clear
  obtain ⟨total,_⟩ := Transport.accepted_count accepted
  have size : (config.compose request html).recipients.length = request.recipients.length := List.length_map _
  have positive : 0 < request.recipients.length := List.length_pos_iff.mpr somebody
  exact ⟨count,by omega,by omega,rfl⟩

namespace Mailer
variable {m : Mailer} {store : Store} {disk : Disk} {request : RenderRequest} {confirmation : Confirmation}

theorem deliver_of_obstacle {e : SendError} (obstacle : confirmation.obstacle? request = some e)
    (m : Mailer) (store : Store) (disk : Disk) :
    m.deliver store disk request confirmation = (.error e, m, []) := by
  unfold Confirmation.obstacle? at obstacle
  unfold deliver
  split at obstacle
  next uncovered => rw [if_pos uncovered,Option.some.inj obstacle]
  next covered =>
    split at obstacle
    next nobody => rw [if_neg covered,if_pos nobody,Option.some.inj obstacle]
    next => contradiction

theorem deliver_of_clear (clear : confirmation.obstacle? request = none) (m : Mailer) (store : Store) (disk : Disk) :
    m.deliver store disk request confirmation = match m.press.render store disk request with
      | (.error e, press, events) => (.error (.render e), { m with press := press }, events)
      | (.ok rendered, press, events) =>
        ((m.transport.deliver (m.config.compose request rendered.html)).1.mapError .transport,
          ⟨press, (m.transport.deliver (m.config.compose request rendered.html)).2, m.config⟩, events) := by
  obtain ⟨count,somebody⟩ := (Confirmation.obstacle?_eq_none_iff confirmation request).mp clear
  have covered : confirmation.covers request.recipients = true := by simpa [Confirmation.covers] using count
  simp only [deliver,covered,Bool.not_true,Bool.false_eq_true,if_false,List.isEmpty_iff,somebody,preview]
  rcases m.press.render store disk request with ⟨_ | rendered,press,events⟩
  · rfl
  · rfl

/-- How a send can end: it is held up at once, its render fails, or the transport has the last word. -/
theorem deliver_cases (m : Mailer) (store : Store) (disk : Disk) (request : RenderRequest) (confirmation : Confirmation) :
    (∃ e, confirmation.obstacle? request = some e ∧
      m.deliver store disk request confirmation = (.error e, m, [])) ∨
    (∃ e press events, confirmation.obstacle? request = none ∧
      m.press.render store disk request = (.error e, press, events) ∧
      m.deliver store disk request confirmation = (.error (.render e), { m with press := press }, events)) ∨
    (∃ rendered press events, confirmation.obstacle? request = none ∧
      m.press.render store disk request = (.ok rendered, press, events) ∧
      m.deliver store disk request confirmation =
        ((m.transport.deliver (m.config.compose request rendered.html)).1.mapError .transport,
          ⟨press, (m.transport.deliver (m.config.compose request rendered.html)).2, m.config⟩, events)) := by
  cases obstacle : confirmation.obstacle? request with
  | some e => exact .inl ⟨e,rfl,deliver_of_obstacle obstacle m store disk⟩
  | none =>
    have result := deliver_of_clear obstacle m store disk
    rcases rendering : m.press.render store disk request with ⟨e | rendered,press,events⟩
    · rw [rendering] at result
      exact .inr (.inl ⟨e,press,events,rfl,rfl,result⟩)
    · rw [rendering] at result
      exact .inr (.inr ⟨rendered,press,events,rfl,rfl,result⟩)

theorem deliver_press (m : Mailer) (store : Store) (disk : Disk) (request : RenderRequest) (confirmation : Confirmation) :
    (m.deliver store disk request confirmation).2.1.press = m.press ∨
      (m.deliver store disk request confirmation).2.1.press = (m.press.plate store disk request.templateId).2 := by
  rcases deliver_cases m store disk request confirmation with
    ⟨e,_,result⟩ | ⟨e,press,events,_,rendering,result⟩ | ⟨rendered,press,events,_,rendering,result⟩
  · left
    rw [result]
  · right
    rw [result]
    exact (congrArg (·.2.1) rendering).symm
  · right
    rw [result]
    exact (congrArg (·.2.1) rendering).symm

theorem deliver_transport (m : Mailer) (store : Store) (disk : Disk) (request : RenderRequest) (c : Confirmation) :
    (∃ n email, (m.deliver store disk request c).1 = .ok n ∧ Delivered request c n email ∧
      (m.deliver store disk request c).2.1.transport = m.transport.withMail [email]) ∨
    (∃ e, (m.deliver store disk request c).1 = .error e ∧
      (m.deliver store disk request c).2.1.transport = m.transport) := by
  rcases deliver_cases m store disk request c with
    ⟨e,_,result⟩ | ⟨e,press,events,_,_,result⟩ | ⟨rendered,press,events,clear,_,result⟩
  · rw [result]
    exact .inr ⟨e,rfl,rfl⟩
  · rw [result]
    exact .inr ⟨.render e,rfl,rfl⟩
  · rw [result]
    cases outcome : (m.transport.deliver (m.config.compose request rendered.html)).1 with
    | error e => exact .inr ⟨.transport e,rfl,Transport.deliver_of_error outcome⟩
    | ok n =>
      have delivered := delivered_of_ok clear m.config rendered.html outcome
      exact .inl ⟨n,_,rfl,delivered,Transport.deliver_of_ok outcome⟩

end Mailer

end Letterpress
