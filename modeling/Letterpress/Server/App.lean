import Letterpress.Decimal.Reader
import Letterpress.Server.Compose
import Letterpress.Server.Origin
import Letterpress.Server.Route

/-! The server: its state, and how it answers one request after another. -/
namespace Letterpress.Server

/-- What only the moment decides: how long the server has been up, and how a mail that is sent now is called and dated. -/
structure Moment where
  uptime : Json
  messageId : String
  sentAt : String

structure App where
  settings : Settings
  production : Bool
  moment : Moment
  disk : Disk
  store : Store
  mailer : Mailer
  events : List Event

namespace App

def version : String := "1.0.0"

/-- A server around a store and a transport, before any request. -/
def ofParts (settings : Settings) (production : Bool) (moment : Moment) (disk : Disk) (store : Store)
    (transport : Transport) : App :=
  ⟨settings, production, moment, disk, store,
    ⟨.ofCaching settings.templates.cacheCompiled, transport, settings.mail⟩, []⟩

def ofSettings (settings : Settings) (production : Bool) (moment : Moment) (disk : Disk) :
    Except TemplateError App := do
  let store ← Store.ofBackend settings.templates.backend disk
  return ofParts settings production moment disk store (.ofName settings.mail.transport)

/-- Whether the server starts. It does not with a list of origins that cannot be one. -/
def starts (app : App) : Bool := isOriginList app.settings.server.corsOrigins

def problem (app : App) (p : Problem) : Response × App := (p.response app.production, app)

def health (app : App) : Response :=
  let (available, count) := match app.store.list with
    | .ok templates => (true, templates.length)
    | .error _ => (false, 0)
  .ofJson 200 (.mk [
    ("status", .string (if available then "healthy" else "degraded")),
    ("version", .string version),
    ("uptime_seconds", app.moment.uptime),
    ("templates", .mk [("backend", .string app.store.backend), ("available", .bool available), ("count", .nat count),
      ("cached", .nat app.mailer.press.cached)]),
    ("transport", .string app.mailer.transport.name)])

def metrics (app : App) : Response :=
  ⟨200, [("content-type", "text/plain; version=0.0.4; charset=utf-8")], .samples (totals app.events)⟩

def templates (app : App) : Response :=
  match app.store.list with
  | .ok templates =>
    .ofJson 200 (.mk [("templates", .array (templates.map Template.toJson)), ("total", .nat templates.length)])
  | .error e => (Problem.ofTemplateError e).response app.production

def template (app : App) (id : String) : Response :=
  match percentDecoded? id with
  | none => .ofText 400 "Invalid URL: Invalid UTF-8 in `id`"
  | some id =>
    match app.store.definition id with
    | .ok t => .ofJson 200 t.toJson
    | .error e => (Problem.ofTemplateError e).response app.production

def readComposition (allowance : Nat) (r : Request) : Except Problem (RenderRequest × Option Nat) := do
  let composition ← readBody Composition.reader allowance r
  let request ← composition.request
  return (request, composition.acknowledged)

def preview (app : App) (allowance : Nat) (r : Request) : Response × App :=
  match readComposition allowance r with
  | .error p => app.problem p
  | .ok (request, _) =>
    let (rendered, mailer, events) := app.mailer.preview app.store app.disk request
    let app := { app with mailer := mailer, events := app.events ++ events }
    match rendered with
    | .ok rendered => (.ofJson 200 (.mk [("html", .string rendered.html)]), app)
    | .error e => app.problem (.render e)

def receipt (app : App) (accepted : Nat) : Json :=
  .mk [("message", .string ("Email sent to " ++ toString accepted ++ " recipients")),
    ("data", .mk [("messageId", .string app.moment.messageId), ("accepted", .nat accepted),
      ("sentAt", .string app.moment.sentAt)])]

def send (app : App) (allowance : Nat) (r : Request) : Response × App :=
  match readComposition allowance r with
  | .error p => app.problem p
  | .ok (request, acknowledged) =>
    match Confirmation.confirm request.recipients acknowledged with
    | .error e =>
      let app := { app with events := app.events ++ [Event.sendFailed (SendError.confirmation e).reason] }
      app.problem (.confirmation e)
    | .ok confirmation =>
      let (accepted, mailer, events) := app.mailer.send app.store app.disk request confirmation
      let app := { app with mailer := mailer, events := app.events ++ events }
      match accepted with
      | .ok n => (.ofJson 200 (app.receipt n), app)
      | .error e => app.problem (.ofSendError e)

/-- Answers at a route, to a method that the route answers to. -/
def answerAt (app : App) (route : Route) (allowance : Nat) (r : Request) : Response × App :=
  match route with
  | .health => (app.health, app)
  | .metrics => (app.metrics, app)
  | .templates => (app.templates, app)
  | .template id => (app.template id, app)
  | .preview => app.preview allowance r
  | .send => app.send allowance r

def statedLength? (r : Request) : Option Nat :=
  match r.header? "content-length" with
  | none => none
  | some s => Decimal.word? s.toList

/-- How many bytes of a body are let through; nothing for a request that states too many. -/
def allowance? (limit : Nat) (r : Request) : Option Nat :=
  match statedLength? r with
  | none => some limit
  | some n => if limit < n then none else some n

def answerWithin (app : App) (route : Option Route) (r : Request) : Response × App :=
  match allowance? app.settings.server.bodyLimit r with
  | none => (.ofText 413 "length limit exceeded", app)
  | some allowance =>
    match route with
    | none => (.bare 404, app)
    | some route => if route.answers r.method then app.answerAt route allowance r else (.bare 405, app)

def answer (app : App) (r : Request) : Response × App :=
  let route := Route.ofPath? r.path
  let (response, after) := if r.method = "OPTIONS" then (preflight, app) else app.answerWithin route r
  let response := withOrigin app.settings.server r response
  let response := match route with
    | some route => if route.answers r.method then response else response.withHeader "allow" route.methods
    | none => response
  (if r.method = "HEAD" then response.withoutBody else response, after)

def answerAll (app : App) : List Request → List Response × App
  | [] => ([], app)
  | r :: rest =>
    let (response, app) := app.answer r
    let (responses, app) := app.answerAll rest
    (response :: responses, app)

end App

end Letterpress.Server
