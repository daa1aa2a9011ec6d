import Letterpress.Mail.Mailer

/-! A session: a store, a mailer and what has happened so far. Steps are taken one after the other, and one that fails
does not end it. -/
namespace Letterpress

/-- Templates can be added only where the shelf of the store is at hand. -/
structure Session where
  disk : Disk
  store : Store
  shelfAtHand : Bool
  mailer : Mailer
  events : List Event

inductive Step
  | insert (template : Template) (markup : String)
  | definition (id : String)
  | load (id : String)
  | list
  | count
  | write (files : List (String × Entry))
  | remove (path : String)
  | render (request : RenderRequest)
  | preview (request : RenderRequest)
  | send (request : RenderRequest) (confirmedFor : List Recipient) (acknowledged : Option Nat)
  | outbox
  | cached
  | replacePress (caches : Bool) (config : MailConfig)
  | samples

inductive StepError
  | noShelf
  | template (error : TemplateError)
  | render (error : PressError)
  | confirmation (error : ConfirmationError)
  | send (error : SendError)

inductive Answer
  | count (count : Option Nat)
  | template (template : Template)
  | markup (markup : String)
  | templates (templates : List Template) (backend : String)
  | written
  | removed (done : Bool)
  | rendered (rendered : Rendered)
  | previewed (html : String)
  | accepted (recipients : Nat) (transport : String)
  | outbox (emails : Option (List Email))
  | cached (plates : Nat)
  | samples (values : List (String × Nat))
  | failed (error : StepError)

namespace Session

/-- A session over a store, before anything has happened. -/
def start (disk : Disk) (store : Store) (shelfAtHand caches : Bool) (transport : Transport) (config : MailConfig) :
    Session :=
  ⟨disk, store, shelfAtHand, ⟨.ofCaching caches, transport, config⟩, []⟩

def shelf? (s : Session) : Option (List (String × Template × String)) :=
  match s.store with
  | .memory shelf => if s.shelfAtHand then some shelf else none
  | _ => none

def insert (s : Session) (t : Template) (markup : String) : Answer × Session :=
  match s.shelf? with
  | none => (.failed .noShelf, s)
  | some shelf =>
    match Store.shelve shelf t markup with
    | .ok shelf => (.count (some shelf.length), { s with store := .memory shelf })
    | .error e => (.failed (.template e), s)

def ofTemplate {α : Type} (answer : α → Answer) (x : Except TemplateError α) : Answer :=
  match x with
  | .ok value => answer value
  | .error e => .failed (.template e)

def render (s : Session) (request : RenderRequest) : Except PressError Rendered × Session :=
  let (rendered, mailer, events) := s.mailer.preview s.store s.disk request
  (rendered, { s with mailer := mailer, events := s.events ++ events })

/-- Confirms a request for some recipients, and sends it if they are as many as were acknowledged. -/
def send (s : Session) (request : RenderRequest) (confirmedFor : List Recipient) (acknowledged : Option Nat) :
    Answer × Session :=
  match Confirmation.confirm confirmedFor acknowledged with
  | .error e => (.failed (.confirmation e), s)
  | .ok confirmation =>
    let (accepted, mailer, events) := s.mailer.send s.store s.disk request confirmation
    let after := { s with mailer := mailer, events := s.events ++ events }
    match accepted with
    | .ok n => (.accepted n s.mailer.transport.name, after)
    | .error e => (.failed (.send e), after)

def step (s : Session) : Step → Answer × Session
  | .insert t markup => s.insert t markup
  | .definition id => (ofTemplate .template (s.store.definition id), s)
  | .load id => (ofTemplate .markup (s.store.load s.disk id), s)
  | .list => (ofTemplate (.templates · s.store.backend) s.store.list, s)
  | .count => (.count (s.shelf?.map (·.length)), s)
  | .write files => (.written, { s with disk := files.foldl (fun disk (path, entry) => disk.write path entry) s.disk })
  | .remove path =>
    match s.disk.remove? path with
    | some disk => (.removed true, { s with disk := disk })
    | none => (.removed false, s)
  | .render request =>
    match s.render request with
    | (.ok rendered, s) => (.rendered rendered, s)
    | (.error e, s) => (.failed (.render e), s)
  | .preview request =>
    match s.render request with
    | (.ok rendered, s) => (.previewed rendered.html, s)
    | (.error e, s) => (.failed (.render e), s)
  | .send request confirmedFor acknowledged => s.send request confirmedFor acknowledged
  | .outbox => (.outbox s.mailer.transport.outbox?, s)
  | .cached => (.cached s.mailer.press.cached, s)
  | .replacePress caches config =>
    (.cached 0, { s with mailer := ⟨.ofCaching caches, s.mailer.transport, config⟩ })
  | .samples => (.samples (totals s.events), s)

def run (s : Session) : List Step → List Answer × Session
  | [] => ([], s)
  | step :: steps =>
    let (answer, s) := s.step step
    let (answers, s) := s.run steps
    (answer :: answers, s)

end Session

end Letterpress
