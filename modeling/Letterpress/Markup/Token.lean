import Letterpress.Text.Search
import Letterpress.Text.Position

/-! The tokens of a document. A source is cut into lexemes without a look at their meaning: the text up to the next
`<`, then what that `<` opens. Lexemes keep their raw text, so together they are the source again; where no lexeme
can be cut, the flaw that stands in its place ends the list. -/
namespace Letterpress.Markup
open Letterpress.Text

def isTagBlank (c : Char) : Bool := c == ' ' || c == '\t' || c == '\n' || c == '\r'

/-- What can be left open at the end of the source. -/
inductive Unclosed
  | tag | comment | characterData | doctype | instruction
  deriving DecidableEq, Repr

inductive Flaw
  | unclosed (what : Unclosed)
  | unknownMark
  | namelessDoctype
  | unmatchedClosing (name : String)
  | missingClosing (name : String)
  deriving DecidableEq, Repr

def Unclosed.message : Unclosed → String
  | tag => "tag not closed: `>` not found before end of input"
  | comment => "comment not closed: `-->` not found before end of input"
  | characterData => "CDATA not closed: `]]>` not found before end of input"
  | doctype => "DOCTYPE not closed: `>` not found before end of input"
  | instruction => "processing instruction or xml declaration not closed: `?>` not found before end of input"

def Flaw.message : Flaw → String
  | unclosed what => "syntax error: " ++ what.message
  | unknownMark => "syntax error: unknown or missed symbol in markup"
  | namelessDoctype => "ill-formed document: `<!DOCTYPE>` declaration does not contain a name of a document type"
  | unmatchedClosing name => "ill-formed document: close tag `</" ++ name ++ ">` does not match any open tag"
  | missingClosing name =>
    "ill-formed document: start tag not closed: `</" ++ name ++ ">` not found before end of input"

/-- A tag is known by its inside: the characters between `<` and `>`, without the slash of a standalone tag. A closing
tag is known by its name. Comments, declarations and instructions carry nothing and are passed over. -/
inductive Token
  | text (chars : List Char)
  | opening (inside : List Char)
  | standalone (inside : List Char)
  | closing (name : List Char)
  | characterData
  | passing
  deriving DecidableEq, Repr

def tagName (inside : List Char) : List Char := inside.takeWhile (!isTagBlank ·)

/-- The characters before the first `>` that is in no quotes. -/
def untilTagEnd? : Option Char → List Char → Option (List Char)
  | _, [] => none
  | none, c :: s =>
    if c = '>' then some []
    else (untilTagEnd? (if c = '"' || c = '\'' then some c else none) s).map (c :: ·)
  | some quote, c :: s => (untilTagEnd? (if c = quote then none else some quote) s).map (c :: ·)

/-- The characters before the first `>` with as many `<` as `>` before it. -/
def untilBalanced? : Int → List Char → Option (List Char)
  | _, [] => none
  | depth, c :: s =>
    if c = '>' then
      if depth = 0 then some [] else (untilBalanced? (depth - 1) s).map (c :: ·)
    else (untilBalanced? (if c = '<' then depth + 1 else depth) s).map (c :: ·)

/-- The name in a closing tag, without the blanks behind it; a name of blanks alone is kept. -/
def closingName (inside : List Char) : List Char :=
  let name := (inside.reverse.dropWhile isTagBlank).reverse
  if name.isEmpty then inside else name

/-- The token of a tag with this inside, slash included. -/
def Token.ofTag (inside : List Char) : Token :=
  match inside with
  | '/' :: name => .closing (closingName name)
  | inside => if inside.getLast? = some '/' then .standalone inside.dropLast else .opening inside

/-- The flaw at a `<` and its distance from it in bytes. -/
abbrev Misfit := Flaw × Nat

/-- Reads behind `<!`. A comment, character data or a doctype is recognised by its first character, and then has to
begin in full. -/
def scanDeclaration (s : List Char) : Except Misfit (Token × Nat) :=
  match s with
  | '-' :: s =>
    match (stripLead? ['-'] s).bind (breakOn? "-->".toList) with
    | some (comment, _) => .ok (.passing, comment.length + 6)
    | none => .error (.unclosed .comment, 0)
  | '[' :: s =>
    match (stripLead? "CDATA[".toList s).bind (breakOn? "]]>".toList) with
    | some (data, _) => .ok (.characterData, data.length + 11)
    | none => .error (.unclosed .characterData, 0)
  | c :: s =>
    if c = 'D' || c = 'd' then
      match untilBalanced? 0 s with
      | some inside =>
        if (inside.take 6).map Char.toUpper = "OCTYPE".toList then
          if (inside.drop 6).all isTagBlank then .error (.namelessDoctype, byteLength inside + 3)
          else .ok (.passing, inside.length + 3)
        else .error (.unclosed .doctype, 0)
      | none => .error (.unclosed .doctype, 0)
    else .error (.unknownMark, 0)
  | [] => .error (.unknownMark, 0)

/-- Reads behind a `<`: the token, and how many characters belong to it besides the `<`. -/
def scanMarkup (s : List Char) : Except Misfit (Token × Nat) :=
  match s with
  | [] => .error (.unclosed .tag, 0)
  | '!' :: s => scanDeclaration s
  | '?' :: s =>
    match s with
    | '>' :: _ => .error (.unclosed .instruction, 0)
    | s =>
      match breakOn? "?>".toList s with
      | some (inside, _) => .ok (.passing, inside.length + 3)
      | none => .error (.unclosed .instruction, 0)
  | s =>
    match untilTagEnd? none s with
    | some inside => .ok (.ofTag inside, inside.length + 1)
    | none => .error (.unclosed .tag, 0)

/-- Reads at `c`, which begins what is left of the source: the token, and how many characters of `s` belong to it. -/
def scan (c : Char) (s : List Char) : Except Misfit (Token × Nat) :=
  if c = '<' then scanMarkup s
  else
    let more := s.takeWhile (· != '<')
    .ok (.text (c :: more), more.length)

/-- A token with its raw text and the byte offset at which it begins. -/
structure Lexeme where
  token : Token
  raw : List Char
  offset : Nat
  deriving DecidableEq, Repr

/-- The lexemes of a source, and the flaw behind them, if any, with its byte offset. -/
structure Lexemes where
  lexemes : List Lexeme
  flaw : Option (Flaw × Nat)

def Lexemes.cons (lexeme : Lexeme) (rest : Lexemes) : Lexemes := { rest with lexemes := lexeme :: rest.lexemes }

/-- How many tags are open after a token; none if it closes one when none is open. -/
def Token.opened? (opened : Nat) : Token → Option Nat
  | opening _ => some (opened + 1)
  | closing _ => if opened = 0 then none else some (opened - 1)
  | _ => some opened

/-- Cuts a source that begins at byte `offset`, with `opened` tags open. Every closing tag closes one, whatever the two
names are. -/
def lexemesFrom (offset opened : Nat) (source : List Char) : Lexemes :=
  match source with
  | [] => ⟨[], none⟩
  | c :: s =>
    match scan c s with
    | .error (flaw, distance) => ⟨[], some (flaw, offset + distance)⟩
    | .ok (token, more) =>
      match token.opened? opened with
      | none =>
        let name := match token with
          | .closing name => name
          | _ => []
        ⟨[], some (.unmatchedClosing (String.ofList name), offset)⟩
      | some opened =>
        let raw := c :: s.take more
        (lexemesFrom (offset + byteLength raw) opened (s.drop more)).cons ⟨token, raw, offset⟩
termination_by source.length
decreasing_by simp only [List.length_drop,List.length_cons]; omega

def lexemes (source : List Char) : Lexemes := lexemesFrom 0 0 source

/-- The raw texts of the lexemes make up the source, as far as it could be cut. -/
theorem raw_isPrefixOf_source (offset opened : Nat) (source : List Char) :
    ((lexemesFrom offset opened source).lexemes.flatMap (·.raw)) <+: source := by
  fun_induction lexemesFrom offset opened source with
  | case1 => simp
  | case2 => simp
  | case3 => simp
  | case4 offset opened c s token more _ opened' _ raw ih =>
    obtain ⟨rest, whole⟩ := ih
    refine ⟨rest, ?_⟩
    simp only [Lexemes.cons,List.flatMap_cons,List.append_assoc,whole,raw]
    simp

end Letterpress.Markup
