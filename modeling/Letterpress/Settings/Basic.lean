import Letterpress.Mail.Mailer

/-! Settings, in sections. Every setting has a built-in value. -/
namespace Letterpress

/-- Where requests come in. No origins in the list means that all are allowed. -/
structure ServerConfig where
  host : String := "0.0.0.0"
  port : Nat := 8080
  corsOrigins : List String := []
  bodyLimit : Nat := 1048576
  deriving DecidableEq, Repr

structure TemplatesConfig where
  backend : String := "file"
  root : String := "templates"
  cacheCompiled : Bool := true
  deriving DecidableEq, Repr

structure TracingConfig where
  enabled : Bool := false
  endpoint : String := "http://localhost:4317"
  serviceName : String := "mail-composer"
  samplingRatio : Float := 1.0

structure Settings where
  server : ServerConfig := {}
  templates : TemplatesConfig := {}
  mail : MailConfig := {}
  tracing : TracingConfig := {}

def Settings.address (s : Settings) : String := s.server.host ++ ":" ++ toString s.server.port

end Letterpress
