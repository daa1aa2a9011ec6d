import Letterpress.Mail.Mailer
import Letterpress.Server.Exchange

/-! Problems: what a client is told when a request fails. In production the client is not told about failures inside. -/
namespace Letterpress.Server

inductive Problem
  | config (reason : String)
  | validation (reason : String)
  | notFound (reason : String)
  | render (error : PressError)
  | confirmation (error : ConfirmationError)
  | transport (error : TransportError)
  | internal (reason : String)
  deriving DecidableEq, Repr

namespace Problem

def message : Problem → String
  | config reason => "Configuration error: " ++ reason
  | validation reason => "Validation error: " ++ reason
  | notFound reason => "Not found: " ++ reason
  | render e => e.message
  | confirmation e => e.message
  | transport e => e.message
  | internal reason => "Internal error: " ++ reason

def ofSendError : SendError → Problem
  | .confirmation e => confirmation e
  | .render e => render e
  | .transport e => transport e

def ofTemplateError : TemplateError → Problem
  | .notFound id => notFound ("Template not found: " ++ id)
  | .invalidId reason => validation reason
  | e => internal e.message

def status : Problem → Nat
  | config _ | internal _ | render (.unreadable _ _) => 500
  | validation _ | confirmation _ | transport .noRecipients => 400
  | notFound _ | render (.notFound _) => 404
  | render (.misset _) | render (.injection _) => 422
  | transport (.rejected _) => 502

def code : Problem → String
  | config _ => "CONFIG_ERROR"
  | validation _ => "VALIDATION_ERROR"
  | notFound _ => "NOT_FOUND"
  | render (.notFound _) => "TEMPLATE_NOT_FOUND"
  | render (.unreadable _ _) => "TEMPLATE_IO_ERROR"
  | render (.misset _) => "MARKUP_COMPILE_ERROR"
  | render (.injection _) => "INJECTION_ERROR"
  | confirmation _ => "CONFIRMATION_REQUIRED"
  | transport .noRecipients => "NO_RECIPIENTS"
  | transport (.rejected _) => "TRANSPORT_ERROR"
  | internal _ => "INTERNAL_ERROR"

/-- What stands in for the message in production, if the problem is one inside. -/
def publicText? : Problem → Option String
  | config _ => some "Configuration error"
  | render (.unreadable _ _) => some "Template could not be read"
  | transport (.rejected _) => some "Email could not be delivered"
  | internal _ => some "Internal server error"
  | _ => none

/-- The message for clients where nothing is kept from them. -/
def openText : Problem → String
  | validation reason => reason
  | notFound reason => reason
  | render (.misset e) => e.text
  | p => p.message

def clientText (production : Bool) (p : Problem) : String :=
  if production then p.publicText?.getD p.openText else p.openText

def injectionData? : InjectionError → Option Json
  | .malformed _ | .unfilled _ => none
  | .missing name | .undeclared name | .repeated name | .wrongKind name _ _ => some (.mk [("injection", .string name)])
  | .notAnOption name _ options =>
    some (.mk [("injection", .string name), ("options", .array (options.map .string))])

def data? : Problem → Option Json
  | render (.misset e) => some (.mk [("line", .nat e.place.line), ("column", .nat e.place.column)])
  | render (.injection e) => injectionData? e
  | _ => none

def response (production : Bool) (p : Problem) : Response :=
  let text := Json.string (p.clientText production)
  .ofJson p.status (.mk ([("message", text), ("err", .mk [("code", .string p.code), ("detail", text)])] ++
    match p.data? with
    | some data => [("data", data)]
    | none => []))

end Problem

def isProduction (runMode : Option String) : Bool := runMode == some "production" || runMode == some "prod"

end Letterpress.Server
