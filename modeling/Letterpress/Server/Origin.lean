import Letterpress.Server.Exchange
import Letterpress.Settings.Basic

/-! Which other sites may call the server, and what a browser is told about it. -/
namespace Letterpress.Server

/-- Whether a text can be the value of a header: no control character but tabs. -/
def isHeaderText (s : String) : Bool := s.toList.all fun c => (32 ≤ c.toNat && c.toNat != 127) || c == '\t'

/-- The origin that is let in for a request. Entries of the list that can be no header are passed over, and a list that
is empty then lets in all. -/
def allowedOrigin? (origins : List String) (origin : Option String) : Option String :=
  let known := origins.filter isHeaderText
  if known.isEmpty then some "*" else origin.filter known.contains

/-- Whether origins can be listed so. A star would stand for all of them, and no list may have it. -/
def isOriginList (origins : List String) : Bool := !origins.contains "*"

def withOrigin (config : ServerConfig) (request : Request) (r : Response) : Response :=
  let r := match allowedOrigin? config.corsOrigins (request.header? "origin") with
    | some origin => r.withHeader "access-control-allow-origin" origin
    | none => r
  r.withHeader "vary" "origin, access-control-request-method, access-control-request-headers"

def preflight : Response :=
  ((Response.bare 200).withHeader "access-control-allow-methods" "*").withHeader "access-control-allow-headers" "*"

end Letterpress.Server
