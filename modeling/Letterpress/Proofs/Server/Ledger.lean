import Letterpress.Proofs.Server.Outbox
import Letterpress.Proofs.Session.Ledger

/-! The samples of a server. A request to preview or send whose body is accepted adds to them what it has done, and no other
request adds anything. So the samples add up: they are counted in five places, and after any run the counts say how much was
done, by a session of its steps and answers, by a server of its requests. -/
namespace Letterpress.Server

def Request.previews (r : Request) : Bool := r.method == "POST" && Route.ofPath? r.path == some .preview

/-- What the body of a request says, if it is accepted. -/
def Request.composition? (limit : Nat) (r : Request) : Option (RenderRequest × Option Nat) :=
  (App.allowance? limit r).bind fun allowance => (App.readComposition allowance r).toOption

def Request.renders (limit : Nat) (r : Request) : Bool :=
  match r.composition? limit with
  | some (request, acknowledged) => r.previews || r.sends && Confirmation.clears request.recipients acknowledged request
  | none => false

private theorem Request.not_sends_of_previews {r : Request} (previews : r.previews = true) : r.sends = false := by
  simp only [Request.previews,Bool.and_eq_true,beq_iff_eq] at previews
  simp [Request.sends,previews.2]

namespace App

/-- How the send of a request ends, if its body is accepted; it may end with the confirmation. -/
def send? (app : App) (r : Request) : Option (Except SendError Nat) :=
  if r.sends then (r.composition? app.settings.server.bodyLimit).map fun (request, acknowledged) =>
    match Confirmation.confirm request.recipients acknowledged with
    | .ok c => (app.mailer.send app.store app.disk request c).1
    | .error e => .error (.confirmation e)
  else none

def sends (app : App) : List Request → List (Except SendError Nat)
  | [] => []
  | r :: rest => (app.send? r).toList ++ (app.answer r).2.sends rest

/-- The ways a server changes: by a request to preview, by a request to send, or not at all. -/
theorem answer_cases (app : App) (r : Request) :
    (∃ allowance, r.previews = true ∧ allowance? app.settings.server.bodyLimit r = some allowance ∧
      (app.answer r).2 = (app.preview allowance r).2) ∨
    (∃ allowance, r.sends = true ∧ allowance? app.settings.server.bodyLimit r = some allowance ∧
      (app.answer r).2 = (app.send allowance r).2) ∨
    ((app.answer r).2 = app ∧
      (allowance? app.settings.server.bodyLimit r = none ∨ r.previews = false ∧ r.sends = false)) := by
  rw [answer_snd]
  by_cases asks : r.method = "OPTIONS"
  · rw [if_pos asks]
    exact .inr (.inr ⟨rfl,.inr (by simp [Request.previews,Request.sends,asks])⟩)
  · rw [if_neg asks]
    cases allowed : allowance? app.settings.server.bodyLimit r with
    | none =>
      simp only [answerWithin,allowed]
      exact .inr (.inr ⟨trivial,.inl trivial⟩)
    | some allowance =>
      cases there : Route.ofPath? r.path with
      | none =>
        simp only [answerWithin,allowed]
        exact .inr (.inr ⟨trivial,.inr (by simp [Request.previews,Request.sends,there])⟩)
      | some route =>
        simp only [answerWithin,allowed]
        cases answers : route.answers r.method with
        | false =>
          refine .inr (.inr ⟨rfl,.inr ?_⟩)
          have elsewhere (post : r.method = "POST") : route.takesBody = false := by
            by_contra takes
            simp [Route.answers,takes,post] at answers
          by_cases post : r.method = "POST"
          · cases route with
            | preview => exact absurd (elsewhere post) (by decide)
            | send => exact absurd (elsewhere post) (by decide)
            | _ => simp [Request.previews,Request.sends,there]
          · simp [Request.previews,Request.sends,post]
        | true =>
          cases route with
          | preview =>
            have post : r.method = "POST" := by simpa [Route.answers,Route.takesBody] using answers
            exact .inl ⟨allowance,by simp [Request.previews,post,there],rfl,rfl⟩
          | send =>
            have post : r.method = "POST" := by simpa [Route.answers,Route.takesBody] using answers
            exact .inr (.inl ⟨allowance,by simp [Request.sends,post,there],rfl,rfl⟩)
          | _ => exact .inr (.inr ⟨rfl,.inr (by simp [Request.previews,Request.sends,there])⟩)

variable {app : App} {allowance : Nat} {r : Request}

private theorem composition?_of_allowed (allowed : allowance? app.settings.server.bodyLimit r = some allowance) :
    r.composition? app.settings.server.bodyLimit = (readComposition allowance r).toOption := by
  rw [Request.composition?,allowed,Option.bind_some]

private theorem preview_accounts (app : App) (previews : r.previews = true)
    (allowed : allowance? app.settings.server.bodyLimit r = some allowance) :
    Accounts app.events (app.preview allowance r).2.events app.mailer.transport.name
      (.one (r.renders app.settings.server.bodyLimit) app.mailer.press.kept.isSome (app.send? r)) := by
  have unsent : app.send? r = none := by
    simp [send?,Request.not_sends_of_previews previews]
  rw [unsent,Request.renders,composition?_of_allowed allowed]
  rcases composition : readComposition allowance r with p | ⟨request,acknowledged⟩
  · simp only [preview,composition,Except.toOption]
    rw [Work.one_still]
    exact accounts_nothing app.events app.mailer.transport.name
  · have balanced := Press.render_balances app.mailer.transport.name app.mailer.press app.store app.disk request
    simp only [preview,composition,Except.toOption,previews,Bool.true_or,Mailer.preview]
    split
    all_goals exact accounts_append app.events balanced

private theorem send_accounts (app : App) (sends : r.sends = true)
    (allowed : allowance? app.settings.server.bodyLimit r = some allowance) :
    Accounts app.events (app.send allowance r).2.events app.mailer.transport.name
      (.one (r.renders app.settings.server.bodyLimit) app.mailer.press.kept.isSome (app.send? r)) := by
  have unseen : r.previews = false := by
    by_contra previews
    rw [Request.not_sends_of_previews (by simpa using previews)] at sends
    contradiction
  rw [send?,if_pos sends,Request.renders,composition?_of_allowed allowed]
  rcases composition : readComposition allowance r with p | ⟨request,acknowledged⟩
  · simp only [send,composition,Except.toOption,Option.map_none]
    rw [Work.one_still]
    exact accounts_nothing app.events app.mailer.transport.name
  · simp only [send,composition,Except.toOption,Option.map_some,unseen,sends,Bool.false_or,Bool.true_and]
    cases confirmed : Confirmation.confirm request.recipients acknowledged with
    | error e =>
      -- nothing is rendered, but the send has failed and is counted
      have held : Confirmation.clears request.recipients acknowledged request = false := by
        simp only [Confirmation.clears,confirmed]
      have balanced := balances_outcome app.mailer.transport (.error (.confirmation e))
      rw [held,Work.one,Bool.and_false]
      exact accounts_append app.events balanced
    | ok c =>
      have balanced := app.mailer.send_balances app.store app.disk request c
      rw [Confirmation.clears_eq confirmed]
      simp only
      rcases sent : app.mailer.send app.store app.disk request c with ⟨e | n,mailer,events⟩
      all_goals
        rw [sent] at balanced
        exact accounts_append app.events balanced

private theorem answer_accounts (app : App) (r : Request) :
    Accounts app.events (app.answer r).2.events app.mailer.transport.name
    (.one (r.renders app.settings.server.bodyLimit) app.mailer.press.kept.isSome (app.send? r)) := by
  rcases app.answer_cases r with ⟨allowance,previews,allowed,after⟩ | ⟨allowance,sends,allowed,after⟩ | ⟨after,nothing⟩
  · rw [after]
    exact app.preview_accounts previews allowed
  · rw [after]
    exact app.send_accounts sends allowed
  · have idle : r.renders app.settings.server.bodyLimit = false ∧ app.send? r = none := by
      rcases nothing with refused | ⟨unseen,unsent⟩
      · simp [Request.renders,send?,Request.composition?,refused]
      · simp only [Request.renders,send?,unseen,unsent]
        split <;> simp
    rw [after,idle.1,idle.2,Work.one_still]
    exact accounts_nothing app.events app.mailer.transport.name

private theorem answer_keeps (app : App) (r : Request) :
    (app.answer r).2.mailer.press.kept.isSome = app.mailer.press.kept.isSome := by
  rcases app.answer_cases r with ⟨allowance,_,_,after⟩ | ⟨allowance,_,_,after⟩ | ⟨after,_⟩
  · rw [after]
    simp only [preview]
    rcases readComposition allowance r with p | ⟨request,_⟩
    · rfl
    · have same := Press.isSome_kept_plate app.mailer.press app.store app.disk request.templateId
      simp only [Mailer.preview]
      split
      all_goals exact same
  · rw [after]
    rcases composition : readComposition allowance r with p | ⟨request,acknowledged⟩
    · simp only [send,composition]
      rfl
    · cases confirmed : Confirmation.confirm request.recipients acknowledged with
      | error e =>
        simp only [send,composition,confirmed]
        rfl
      | ok c =>
        have same : (app.mailer.deliver app.store app.disk request c).2.1.press.kept.isSome = app.mailer.press.kept.isSome := by
          rcases app.mailer.deliver_press app.store app.disk request c with still | asked
          · rw [still]
          · rw [asked,Press.isSome_kept_plate]
        simp only [send,composition,confirmed,Mailer.send]
        split
        all_goals exact same
  · rw [after]

/-- What a server has to have done, by its requests. -/
def workOf (app : App) (requests : List Request) : Work :=
  ⟨requests.countP (Request.renders app.settings.server.bodyLimit),
    if app.mailer.press.kept.isSome then requests.countP (Request.renders app.settings.server.bodyLimit) else 0,
    app.sends requests⟩

private theorem workOf_cons (app : App) (r : Request) (rest : List Request) : app.workOf (r :: rest) =
    (Work.one (r.renders app.settings.server.bodyLimit) app.mailer.press.kept.isSome (app.send? r)).andThen
      ((app.answer r).2.workOf rest) := by
  rw [workOf,workOf,countP_cons_toNat,answer_settings,answer_keeps,sends,Work.andThen,Work.one]
  cases app.mailer.press.kept.isSome
  all_goals simp

private theorem answerAll_accounts (app : App) (requests : List Request) :
    Accounts app.events (app.answerAll requests).2.events app.mailer.transport.name (app.workOf requests) := by
  induction requests generalizing app with
  | nil =>
    have nothing : app.workOf [] = .nothing := by
      rw [workOf]
      split <;> rfl
    rw [nothing]
    exact accounts_nothing app.events app.mailer.transport.name
  | cons r rest ih =>
    have later := ih (app.answer r).2
    rw [(answer_transport app r).name] at later
    have both := (app.answer_accounts r).andThen later
    rw [← workOf_cons] at both
    exact both

private theorem problem_status_ne_ok (app : App) (p : Problem) : (app.problem p).1.status ≠ 200 := p.status_ne_ok

/-- A send is accepted if and only if its request is answered with success. -/
theorem isAccepted_iff (app : App) (r : Request) :
    isAccepted (r, (app.answer r).1) = true ↔ ∃ recipients, app.send? r = some (.ok recipients) := by
  cases sends : r.sends with
  | false => simp [isAccepted,send?,sends]
  | true =>
    obtain ⟨post,route⟩ : r.method = "POST" ∧ Route.ofPath? r.path = some .send := by simpa [Request.sends] using sends
    have answers : Route.send.answers "POST" = true := rfl
    rw [isAccepted,sends,Bool.true_and,beq_iff_eq,answer_status post,route,send?,if_pos sends]
    cases allowed : allowance? app.settings.server.bodyLimit r with
    | none => simp [answerWithin,allowed,Request.composition?,Response.ofText]
    | some allowance =>
      rw [composition?_of_allowed allowed]
      simp only [answerWithin,allowed,post,answers,if_true,answerAt]
      rcases composition : readComposition allowance r with p | ⟨request,acknowledged⟩
      · simpa [send,composition,Except.toOption] using app.problem_status_ne_ok p
      · cases confirmed : Confirmation.confirm request.recipients acknowledged with
        | error e => simpa [send,composition,confirmed,Except.toOption] using problem_status_ne_ok _ (.confirmation e)
        | ok c =>
          simp only [send,composition,confirmed,Except.toOption,Option.map_some]
          rcases sent : app.mailer.send app.store app.disk request c with ⟨e | n,mailer,events⟩
          · simpa using problem_status_ne_ok _ (.ofSendError e)
          · simp [Response.ofJson]

private theorem countP_isAccepted (app : App) (requests : List Request) :
    (requests.zip (app.answerAll requests).1).countP isAccepted = (app.workOf requests).accepted.length := by
  induction requests generalizing app with
  | nil => rfl
  | cons r rest ih =>
    have one : (if isAccepted (r, (app.answer r).1) then 1 else 0) = ((app.send? r).toList.filterMap Except.toOption).length := by
      have iff := app.isAccepted_iff r
      rcases send : app.send? r with _ | e | n
      · rw [if_neg (by simp [iff,send])]
        rfl
      · rw [if_neg (by simp [iff,send])]
        rfl
      · rw [if_pos (by simp [iff,send])]
        rfl
    have later := ih (app.answer r).2
    rw [answerAll,List.zip_cons_cons,List.countP_cons,later,one,workOf_cons]
    simp only [Work.accepted,Work.andThen,Work.one,List.filterMap_append,List.length_append,Nat.add_comm]

private theorem length_sends (app : App) (requests : List Request) : (app.sends requests).length =
    requests.countP fun r => r.sends && (r.composition? app.settings.server.bodyLimit).isSome := by
  induction requests generalizing app with
  | nil => rfl
  | cons r rest ih =>
    have one : (app.send? r).toList.length = if r.sends && (r.composition? app.settings.server.bodyLimit).isSome then 1 else 0 := by
      rw [send?]
      cases r.sends
      · rfl
      · cases r.composition? app.settings.server.bodyLimit <;> rfl
    rw [sends,List.length_append,ih,answer_settings,one,List.countP_cons,Nat.add_comm]

end App

end Letterpress.Server

namespace Letterpress

/-- Whatever is done and whatever fails, the samples grow by what was done: each render is counted once as a success or an error
and each error once under its kind, each lookup of a press that keeps plates once as a hit or a miss, and each send once as sent
or under the reason of its failure. A request to send whose body is accepted is one send, also where its confirmation is
refused. -/
theorem samples_balance :
    (∀ (s : Session) (steps : List Step), Accounts s.events (s.run steps).2.events s.mailer.transport.name
      (Session.workOf s.mailer.press.kept.isSome steps (s.run steps).1)) ∧
    ∀ (app : Server.App) (requests : List Server.Request),
      Accounts app.events (app.answerAll requests).2.events app.mailer.transport.name (app.workOf requests) ∧
      (app.workOf requests).sends.length =
        (requests.countP fun r => r.sends && (r.composition? app.settings.server.bodyLimit).isSome) ∧
      (app.workOf requests).accepted.length = (requests.zip (app.answerAll requests).1).countP Server.isAccepted := by
  constructor
  · intro s steps
    exact s.run_accounts steps
  · intro app requests
    exact ⟨app.answerAll_accounts requests,app.length_sends requests,(app.countP_isAccepted requests).symm⟩

end Letterpress
