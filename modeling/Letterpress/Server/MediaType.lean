import Letterpress.Server.Exchange

/-! Media types, as far as it matters whether one is JSON. A media type is two tokens with a slash between them, and
parameters behind semicolons. -/
namespace Letterpress.Server

def isToken (c : Char) : Bool :=
  c.isAlphanum || ['!', '#', '$', '%', '&', '\'', '*', '+', '-', '.', '^', '_', Char.ofNat 0x60, '|', '~'].contains c

/-- Whether a character can be between quotes. That a quote can, too, matters where a value begins with one. -/
def isQuotable (c : Char) : Bool := 31 < c.toNat && c.toNat != 127

/-- The text behind a quoted value, given the text behind the quote that opens it. A value is never empty, so a quote
that comes first belongs to it. -/
def afterValue? : List Char → Option (List Char)
  | [] => none
  | c :: s =>
    let value := s.takeWhile fun c => isQuotable c && c != '"'
    match isQuotable c, s.drop value.length with
    | true, '"' :: rest => some rest
    | _, _ => none

/-- Drops blanks behind a quoted value, up to a semicolon or the end. -/
def afterQuoted? : List Char → Option (List Char)
  | [] => some []
  | ';' :: s => some s
  | ' ' :: s => afterQuoted? s
  | _ => none

/-- Whether all parameters are well formed, given the text behind a semicolon. -/
def areParameters : Nat → List Char → Bool
  | 0, _ => false
  | fuel + 1, s =>
    match s with
    | [] => true
    | ' ' :: s => areParameters fuel s
    | s =>
      let name := s.takeWhile isToken
      match name.isEmpty, s.drop name.length with
      | false, '=' :: '"' :: value =>
        match (afterValue? value).bind afterQuoted? with
        | some rest => areParameters fuel rest
        | none => false
      | false, '=' :: value =>
        let plain := value.takeWhile isToken
        match value.drop plain.length with
        | [] => true
        | ';' :: rest => !plain.isEmpty && areParameters fuel rest
        | _ => false
      | _, _ => false

/-- What kind of thing is meant, what in particular, and how that is written down if a suffix says so. -/
structure MediaType where
  kind : String
  subtype : String
  suffix : Option String
  deriving DecidableEq, Repr

/-- A second token as a subtype and a suffix, which is behind the last plus. A plus at the beginning sets nothing off. -/
def splitSubtype (token : List Char) : List Char × Option (List Char) :=
  match token.reverse.span (· != '+') with
  | (suffix, '+' :: c :: before) => ((c :: before).reverse, some suffix.reverse)
  | _ => (token, none)

/-- Reads a media type; case does not matter. -/
def MediaType.ofText? (s : String) : Option MediaType :=
  let s := s.toList
  let kind := s.takeWhile isToken
  match kind.isEmpty, s.drop kind.length with
  | false, '/' :: rest =>
    let token := rest.takeWhile isToken
    let lower := fun (cs : List Char) => String.ofList (cs.map Char.toLower)
    let (subtype, suffix) := splitSubtype token
    let found : MediaType := ⟨lower kind, lower subtype, suffix.map lower⟩
    match rest.drop token.length with
    | [] => some found
    | ';' :: parameters =>
      if !token.isEmpty && areParameters (parameters.length + 1) parameters then some found else none
    | _ => none
  | _, _ => none

def MediaType.isJson (t : MediaType) : Bool :=
  t.kind == "application" && (t.subtype == "json" || t.suffix == some "json")

def saysJson (r : Request) : Bool :=
  match ((r.header? "content-type").filter isReadable).bind MediaType.ofText? with
  | some t => t.isJson
  | none => false

end Letterpress.Server
