import Letterpress.Json.Basic

/-! Requests and the responses to them. -/
namespace Letterpress.Server

structure Request where
  method : String
  uri : String
  headers : List (String × String)
  body : String
  deriving DecidableEq, Repr

/-- The values of samples stand for themselves, not for the text that they are reported in. -/
inductive Body
  | json (value : Json)
  | text (text : String)
  | samples (values : List (String × Nat))

structure Response where
  status : Nat
  headers : List (String × String)
  body : Body

/-- Whether the value of a header can be read as text: visible ASCII, blanks and tabs. -/
def isReadable (value : String) : Bool := value.toList.all fun c => (32 ≤ c.toNat && c.toNat < 127) || c == '\t'

namespace Request

def lowered (s : String) : String := String.ofList (s.toList.map Char.toLower)

/-- The value of a header, whose name may be in any case. -/
def header? (r : Request) (name : String) : Option String :=
  (r.headers.find? fun (key, _) => lowered key == name).map (·.2)

/-- The path of the address: without the host before it, and the query and the fragment behind it. -/
def path (r : Request) : String :=
  let s := r.uri.toList.takeWhile fun c => c != '?' && c != '#'
  match s with
  | '/' :: _ => String.ofList s
  | s =>
    match (s.dropWhile (· != ':')).drop 3 |>.dropWhile (· != '/') with
    | [] => "/"
    | path => String.ofList path

end Request

namespace Response

def jsonType : String := "application/json"

def textType : String := "text/plain; charset=utf-8"

def ofJson (status : Nat) (value : Json) : Response := ⟨status, [("content-type", jsonType)], .json value⟩

def ofText (status : Nat) (text : String) : Response := ⟨status, [("content-type", textType)], .text text⟩

def bare (status : Nat) : Response := ⟨status, [], .text ""⟩

def withHeader (name value : String) (r : Response) : Response := { r with headers := r.headers ++ [(name, value)] }

def withoutBody (r : Response) : Response := { r with body := .text "" }

end Response

end Letterpress.Server
