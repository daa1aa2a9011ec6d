import Letterpress.Proofs.Mail.Redaction
import Letterpress.Proofs.Server.Headers
import Letterpress.Proofs.Server.Ledger

/-! What a server in production says of failures inside. Its response to a problem is that to the problem without what it tells
of the inside: what a store says of its files, its catalog or its templates, and what a transport says of the mail that it
rejects. So servers that differ in nothing else fail alike, and go on alike from there. -/
namespace Letterpress.Server

namespace Problem

/-- The problem without what is kept from clients in production. -/
def redacted : Problem → Problem
  | config _ => config ""
  | internal _ => internal ""
  | render e => render e.redacted
  | transport e => transport e.redacted
  | p => p

private theorem redacted_ofTemplateError (e : TemplateError) :
    (ofTemplateError e).redacted = (ofTemplateError e.redacted).redacted := by
  cases e <;> rfl

private theorem redacted_ofSendError (e : SendError) : (ofSendError e).redacted = ofSendError e.redacted := by
  cases e <;> rfl

/-- In production nothing is said that could have been left out. -/
theorem response_redacted (p : Problem) : p.redacted.response true = p.response true := by
  cases p with
  | render e => cases e <;> rfl
  | transport e => cases e <;> rfl
  | _ => rfl

private theorem response_of_redacted {p q : Problem} (same : p.redacted = q.redacted) : p.response true = q.response true := by
  rw [← response_redacted p,← response_redacted q,same]

end Problem

/-- Two responses with the same status, which are the same where the server has failed. -/
def Response.FailsLike (response other : Response) : Prop :=
  response.status = other.status ∧ (500 ≤ response.status → response = other)

namespace Response
variable {response other : Response}

private theorem FailsLike.refl (response : Response) : response.FailsLike response := ⟨rfl,fun _ => rfl⟩

private theorem status_withoutBody (response : Response) : response.withoutBody.status = response.status := rfl

private theorem failsLike_of_ok (ok : response.status = 200) (okToo : other.status = 200) : response.FailsLike other :=
  ⟨ok.trans okToo.symm,fun failed => by omega⟩

private theorem FailsLike.map (like : response.FailsLike other) {change : Response → Response}
    (status : ∀ response, (change response).status = response.status) : (change response).FailsLike (change other) := by
  refine ⟨by rw [status,status,like.1],fun failed => ?_⟩
  rw [status] at failed
  rw [like.2 failed]

end Response

namespace App

/-- Two servers that differ at most in what their errors tell of the inside, and in what the moment decides. -/
structure Resembles (app other : App) : Prop where
  settings : app.settings = other.settings
  production : app.production = other.production
  store : app.store.Resembles app.disk other.store other.disk
  mailer : app.mailer.Resembles other.mailer

/-- A response with the server that is left by it, from one server and the other. -/
structure AnswersLike (answered other : Response × App) : Prop where
  response : answered.1.FailsLike other.1
  after : answered.2.Resembles other.2

variable {app other : App}

private theorem Resembles.problem (resembles : app.Resembles other) (production : app.production = true) {p q : Problem}
    (same : p.redacted = q.redacted) : AnswersLike (app.problem p) (other.problem q) := by
  refine ⟨?_,resembles⟩
  simp only [App.problem,← resembles.production,production,Problem.response_of_redacted same]
  exact .refl _

private theorem Resembles.withMailer (resembles : app.Resembles other) {m n : Mailer} (mailers : m.Resembles n)
    (events events' : List Event) :
    Resembles { app with mailer := m, events := events } { other with mailer := n, events := events' } :=
  ⟨resembles.settings,resembles.production,resembles.store,mailers⟩

private theorem Resembles.preview (resembles : app.Resembles other) (production : app.production = true) (allowance : Nat)
    (r : Request) : AnswersLike (app.preview allowance r) (other.preview allowance r) := by
  rcases composition : readComposition allowance r with p | ⟨request,acknowledged⟩
  · simp only [App.preview,composition]
    exact resembles.problem production rfl
  · obtain ⟨outcome,after⟩ := resembles.mailer.preview resembles.store request
    have left := resembles.withMailer after (app.events ++ (app.mailer.preview app.store app.disk request).2.2)
      (other.events ++ (other.mailer.preview other.store other.disk request).2.2)
    simp only [App.preview,composition]
    rcases cases_of_mapError outcome with ⟨rendered,done,doneToo⟩ | ⟨e,e',failed,failedToo,same⟩
    · rw [done,doneToo]
      exact ⟨Response.failsLike_of_ok rfl rfl,left⟩
    · rw [failed,failedToo]
      exact left.problem production (congrArg Problem.render same)

private theorem Resembles.send (resembles : app.Resembles other) (production : app.production = true) (allowance : Nat)
    (r : Request) : AnswersLike (app.send allowance r) (other.send allowance r) := by
  rcases composition : readComposition allowance r with p | ⟨request,acknowledged⟩
  · simp only [App.send,composition]
    exact resembles.problem production rfl
  · cases confirmed : Confirmation.confirm request.recipients acknowledged with
    | error e =>
      simp only [App.send,composition,confirmed]
      have left := resembles.withMailer resembles.mailer (app.events ++ [Event.sendFailed (SendError.confirmation e).reason])
        (other.events ++ [Event.sendFailed (SendError.confirmation e).reason])
      exact left.problem production rfl
    | ok c =>
      obtain ⟨outcome,after⟩ := resembles.mailer.send resembles.store request c
      have left := resembles.withMailer after (app.events ++ (app.mailer.send app.store app.disk request c).2.2)
        (other.events ++ (other.mailer.send other.store other.disk request c).2.2)
      simp only [App.send,composition,confirmed]
      rcases cases_of_mapError outcome with ⟨accepted,done,doneToo⟩ | ⟨e,e',failed,failedToo,same⟩
      · rw [done,doneToo]
        exact ⟨Response.failsLike_of_ok rfl rfl,left⟩
      · rw [failed,failedToo]
        refine left.problem production ?_
        rw [Problem.redacted_ofSendError,Problem.redacted_ofSendError,same]

private theorem Resembles.told (resembles : app.Resembles other) (production : app.production = true) {α : Type}
    {x y : Except TemplateError α} (same : x.mapError TemplateError.redacted = y.mapError TemplateError.redacted) :
    (∃ a, x = .ok a ∧ y = .ok a) ∨ ∃ e e', x = .error e ∧ y = .error e' ∧
      (Problem.ofTemplateError e).response app.production = (Problem.ofTemplateError e').response other.production := by
  rcases cases_of_mapError same with both | ⟨e,e',failed,failedToo,alike⟩
  · exact .inl both
  · refine .inr ⟨e,e',failed,failedToo,?_⟩
    rw [← resembles.production,production]
    apply Problem.response_of_redacted
    rw [Problem.redacted_ofTemplateError e,Problem.redacted_ofTemplateError e',alike]

private theorem Resembles.templates (resembles : app.Resembles other) (production : app.production = true) :
    app.templates = other.templates := by
  unfold App.templates
  rcases resembles.told production resembles.store.list with ⟨listed,done,doneToo⟩ | ⟨e,e',failed,failedToo,same⟩
  · rw [done,doneToo]
  · rw [failed,failedToo]
    exact same

private theorem Resembles.template (resembles : app.Resembles other) (production : app.production = true) (id : String) :
    app.template id = other.template id := by
  unfold App.template
  split
  next => rfl
  next id _ =>
    rcases resembles.told production (resembles.store.definition id) with ⟨t,done,doneToo⟩ | ⟨e,e',failed,failedToo,same⟩
    · rw [done,doneToo]
    · rw [failed,failedToo]
      exact same

private theorem Resembles.answerAt (resembles : app.Resembles other) (production : app.production = true) (route : Route)
    (allowance : Nat) (r : Request) : AnswersLike (app.answerAt route allowance r) (other.answerAt route allowance r) := by
  cases route with
  | health => exact ⟨Response.failsLike_of_ok rfl rfl,resembles⟩
  | metrics => exact ⟨Response.failsLike_of_ok rfl rfl,resembles⟩
  | templates =>
    refine ⟨?_,resembles⟩
    simp only [App.answerAt,resembles.templates production]
    exact .refl _
  | template id =>
    refine ⟨?_,resembles⟩
    simp only [App.answerAt,resembles.template production]
    exact .refl _
  | preview => exact resembles.preview production allowance r
  | send => exact resembles.send production allowance r

private theorem Resembles.answerWithin (resembles : app.Resembles other) (production : app.production = true)
    (route : Option Route) (r : Request) : AnswersLike (app.answerWithin route r) (other.answerWithin route r) := by
  unfold App.answerWithin
  rw [← resembles.settings]
  split
  next => exact ⟨.refl _,resembles⟩
  next allowance _ =>
    split
    next => exact ⟨.refl _,resembles⟩
    next route =>
      split
      next => exact resembles.answerAt production route allowance r
      next => exact ⟨.refl _,resembles⟩

/-- What is put around a response to a request. -/
def dressed (config : ServerConfig) (r : Request) (response : Response) : Response :=
  let response := withOrigin config r response
  let response := match Route.ofPath? r.path with
    | some route => if route.answers r.method then response else response.withHeader "allow" route.methods
    | none => response
  if r.method = "HEAD" then response.withoutBody else response

private theorem status_dressed (config : ServerConfig) (r : Request) (response : Response) :
    (dressed config r response).status = response.status := by
  have listing : (match Route.ofPath? r.path with
      | some route => if route.answers r.method then withOrigin config r response
        else (withOrigin config r response).withHeader "allow" route.methods
      | none => withOrigin config r response).status = response.status := by
    split
    · split
      · exact withOrigin_status config r response
      · exact withOrigin_status config r response
    · exact withOrigin_status config r response
  simp only [dressed]
  split
  · rw [Response.status_withoutBody,← listing]
  · rw [← listing]

private theorem answer_fst (app : App) (r : Request) : (app.answer r).1 = dressed app.settings.server r
    (if r.method = "OPTIONS" then preflight else (app.answerWithin (Route.ofPath? r.path) r).1) := by
  have first : (if r.method = "OPTIONS" then (preflight,app) else app.answerWithin (Route.ofPath? r.path) r).1 =
      if r.method = "OPTIONS" then preflight else (app.answerWithin (Route.ofPath? r.path) r).1 := apply_ite Prod.fst _ _ _
  exact congrArg (dressed app.settings.server r) first

/-- One request leaves two such servers as like as they were. What is put around a response depends on the settings only. -/
theorem Resembles.answer (resembles : app.Resembles other) (production : app.production = true) (r : Request) :
    AnswersLike (app.answer r) (other.answer r) := by
  obtain ⟨like,after⟩ := resembles.answerWithin production (Route.ofPath? r.path) r
  constructor
  · rw [answer_fst,answer_fst,← resembles.settings]
    refine Response.FailsLike.map ?_ (status_dressed _ r)
    split
    next => exact .refl _
    next => exact like
  · rw [answer_snd,answer_snd]
    split
    next => exact resembles
    next => exact after

/-- A request changes nothing of a server but its mailer, and adds to what happened. -/
theorem answer_frame (app : App) (r : Request) :
    ∃ mailer events, (app.answer r).2 = { app with mailer := mailer, events := events } := by
  rcases app.answer_cases r with ⟨allowance,_,_,after⟩ | ⟨allowance,_,_,after⟩ | ⟨after,_⟩
  · rw [after]
    rcases composition : readComposition allowance r with p | ⟨request,acknowledged⟩
    · simp only [preview,composition]
      exact ⟨_,_,rfl⟩
    · simp only [preview,composition]
      split
      all_goals exact ⟨_,_,rfl⟩
  · rw [after]
    rcases composition : readComposition allowance r with p | ⟨request,acknowledged⟩
    · simp only [send,composition]
      exact ⟨_,_,rfl⟩
    · cases confirmed : Confirmation.confirm request.recipients acknowledged with
      | error e =>
        simp only [send,composition,confirmed]
        exact ⟨_,_,rfl⟩
      | ok c =>
        simp only [send,composition,confirmed]
        split
        all_goals exact ⟨_,_,rfl⟩
  · exact ⟨_,_,after⟩

private theorem answer_production (app : App) (r : Request) : (app.answer r).2.production = app.production := by
  obtain ⟨mailer,events,after⟩ := app.answer_frame r
  rw [after]

private theorem answerAll_production (app : App) (requests : List Request) :
    (app.answerAll requests).2.production = app.production := by
  induction requests generalizing app with
  | nil => rfl
  | cons r rest ih => exact (ih (app.answer r).2).trans (answer_production app r)

/-- However many requests two such servers are asked, they stay as like as they were. -/
theorem Resembles.answerAll {app other : App} (resembles : app.Resembles other) (production : app.production = true)
    (requests : List Request) : (app.answerAll requests).2.Resembles (other.answerAll requests).2 := by
  induction requests generalizing app other with
  | nil => exact resembles
  | cons r rest ih => exact ih (resembles.answer production r).after ((answer_production app r).trans production)

end App

/-- In production a problem is answered the same whatever it tells of the inside. So two servers whose stores and transports
differ only in what their errors tell of it, and which have been asked the same requests, give the next one responses of the
same status; and where that says that the server has failed, the responses are the same, headers and body included. -/
theorem failures_tell_nothing (mode : String) (live : mode = "production" ∨ mode = "prod") :
    (∀ p q : Problem, p.redacted = q.redacted → p.response (isProduction (some mode)) = q.response (isProduction (some mode))) ∧
    ∀ app other : App, app.Resembles other → app.production = isProduction (some mode) →
      ∀ (earlier : List Request) (r : Request),
        let response := ((app.answerAll earlier).2.answer r).1
        let otherResponse := ((other.answerAll earlier).2.answer r).1
        response.status = otherResponse.status ∧ (500 ≤ response.status → response = otherResponse) := by
  have hides : isProduction (some mode) = true := by
    rcases live with rfl | rfl
    · rfl
    · rfl
  refine ⟨fun p q same => ?_,fun app other resembles production earlier r => ?_⟩
  · rw [hides]
    exact Problem.response_of_redacted same
  · have inProduction := production.trans hides
    have still := (app.answerAll_production earlier).trans inProduction
    exact ((resembles.answerAll inProduction earlier).answer still r).response

/-- A server in production that can neither read its templates nor deliver mail, for these reasons. -/
def App.failing (storeReason transportReason : String) : App :=
  .ofParts {} (isProduction (some "prod")) ⟨.null, "", ""⟩ (.empty "") (.refusing fun id => .unreadable id storeReason)
    (.memory [] (some transportReason))

private theorem resembles_failing (storeReason transportReason otherStoreReason otherTransportReason : String) :
    (App.failing storeReason transportReason).Resembles (App.failing otherStoreReason otherTransportReason) where
  settings := rfl
  production := rfl
  store := ⟨fun _ => rfl,fun _ => rfl,rfl⟩
  mailer := ⟨rfl,rfl,rfl⟩

def listRequest : Request := ⟨"GET", "/api/templates", [], ""⟩

theorem failures_tell_nothing_of_disks :
    (App.failing "disk a is full" "relay a is down").Resembles (App.failing "disk b is broken" "relay b says no") ∧
    ((App.failing "disk a is full" "relay a is down").answer listRequest).1.status = 500 ∧
    ((App.failing "disk a is full" "relay a is down").answer listRequest).1 =
      ((App.failing "disk b is broken" "relay b says no").answer listRequest).1 := by
  have resembles := resembles_failing "disk a is full" "relay a is down" "disk b is broken" "relay b says no"
  have failed : ((App.failing "disk a is full" "relay a is down").answer listRequest).1.status = 500 := by decide +kernel
  have same := (failures_tell_nothing "prod" (.inr rfl)).2 _ _ resembles rfl [] listRequest
  exact ⟨resembles,failed,same.2 (Nat.le_of_eq failed.symm)⟩

end Letterpress.Server
