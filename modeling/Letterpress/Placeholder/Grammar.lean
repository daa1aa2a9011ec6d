import Letterpress.Json.Value
import Letterpress.Placeholder.Syntax
import Letterpress.Text.Search

/-! Reading a tag. Each rule takes what is left of the source and gives what it read with what is left then, or nothing
if it does not apply. Of several rules the first that applies is taken for good. Blanks may stand between the parts of a
tag, but not inside names, paths, numbers and texts. -/
namespace Letterpress.Placeholder
open Letterpress.Text

/-- The blanks that may stand between the parts of a tag. -/
def isGap (c : Char) : Bool := c == ' ' || c == '\t' || c == '\n' || c == '\r'

def skipGap (s : List Char) : List Char := s.dropWhile isGap

def isSymbol (c : Char) : Bool :=
  c.isAlphanum || c == '_' || c == '-' || c == '$' || c == ':' || 0x80 ≤ c.toNat

def identifier? (s : List Char) : Option (String × List Char) :=
  if (s.takeWhile isSymbol).isEmpty then none else some (String.ofList (s.takeWhile isSymbol), s.dropWhile isSymbol)

def token? (token s : List Char) : Option (List Char) := stripLead? token (skipGap s)

def isSeparator (c : Char) : Bool := c == '.' || c == '/'

def skipCurrent (s : List Char) : List Char :=
  match stripLead? "this".toList s with
  | some (c :: rest) => if isSeparator c then rest else s
  | _ => (stripLead? "./".toList s).getD s

def takeRoot (s : List Char) : Bool × List Char :=
  match stripLead? "@root".toList s with
  | some (c :: rest) => if isSeparator c then (true, rest) else (false, s)
  | _ => (false, s)

def takeLoop (s : List Char) : Bool × List Char :=
  match s with
  | '@' :: rest => (true, rest)
  | s => (false, s)

def takeUps : List Char → Nat × List Char
  | '.' :: '.' :: c :: rest =>
    if isSeparator c then
      let (ups, rest) := takeUps rest
      (ups + 1, rest)
    else (0, '.' :: '.' :: c :: rest)
  | s => (0, s)

/-- One step of a path: a name, or anything at all in square brackets. -/
def step? (s : List Char) : Option (String × List Char) :=
  match s with
  | '[' :: inside =>
    match inside.dropWhile (· != ']') with
    | _ :: rest => some (String.ofList (inside.takeWhile (· != ']')), rest)
    | [] => none
  | s => identifier? s

def takeSteps : Nat → List Char → List String × List Char
  | 0, s => ([], s)
  | fuel + 1, s =>
    match s with
    | c :: behind =>
      if isSeparator c then
        match step? behind with
        | some (name, rest) =>
          let (names, rest) := takeSteps fuel rest
          (name :: names, rest)
        | none => ([], s)
      else ([], s)
    | [] => ([], [])

def readPart (s rest : List Char) : List Char := s.take (s.length - rest.length)

def path? (s : List Char) : Option (Path × List Char) :=
  let (fromRoot, rest) := takeRoot (skipCurrent s)
  let (ofLoop, rest) := takeLoop rest
  let (ups, rest) := takeUps rest
  match step? rest with
  | none => none
  | some (first, rest) =>
    let (others, rest) := takeSteps rest.length rest
    some (⟨String.ofList (readPart s rest), fromRoot, ofLoop, ups, (first :: others).filter (· != "this")⟩, rest)

/-- The rest behind a text in `quote`s whose opening one has been read. -/
def afterText? (quote : Char) : List Char → Option (List Char)
  | [] => none
  | c :: s =>
    if c = quote then some s
    else if c = '\\' then
      match s with
      | 'u' :: a :: b :: d :: e :: rest =>
        if [a, b, d, e].all fun x => (Text.hexValue? x).isSome then afterText? quote rest else none
      | x :: rest => if x = quote || "\\/bfnrt".toList.contains x then afterText? quote rest else none
      | [] => none
    else afterText? quote s

/-- The rest behind a number: digits with an optional sign, point and exponent, and no name right behind. -/
def afterNumber? (s : List Char) : Option (List Char) :=
  let unsigned := (stripLead? ['-'] s).getD s
  match unsigned with
  | c :: _ =>
    if !c.isDigit then none
    else
      let whole := unsigned.dropWhile Char.isDigit
      let fraction := ((stripLead? ['.'] whole).getD whole).dropWhile Char.isDigit
      let rest := match fraction with
        | 'E' :: power =>
          match (stripLead? ['-'] power).getD power with
          | d :: more => if d.isDigit then more.dropWhile Char.isDigit else fraction
          | [] => fraction
        | _ => fraction
      match rest with
      | d :: _ => if isSymbol d then none else some rest
      | [] => some rest
  | [] => none

def afterWord? (word s : List Char) : Option (List Char) :=
  match stripLead? word s with
  | some (c :: rest) => if isSymbol c then none else some (c :: rest)
  | rest => rest

mutual
def afterLiteral? : Nat → List Char → Option (List Char)
  | 0, _ => none
  | fuel + 1, s =>
    match s with
    | '"' :: rest => afterText? '"' rest
    | '\'' :: rest => afterText? '\'' rest
    | '[' :: rest => afterItems? fuel false true rest
    | '\x7b' :: rest => afterItems? fuel true true rest
    | s =>
      (afterNumber? s).or <| (afterWord? "null".toList s).or <|
        (afterWord? "true".toList s).or (afterWord? "false".toList s)

/-- The rest behind the items of a list or the members of an object, its end included. The first may be missing. -/
def afterItems? : Nat → Bool → Bool → List Char → Option (List Char)
  | 0, _, _, _ => none
  | fuel + 1, keyed, first, s =>
    let item := fun (s : List Char) =>
      if keyed then
        match skipGap s with
        | '"' :: rest => ((afterText? '"' rest).bind (token? [':'])).bind fun rest => afterLiteral? fuel (skipGap rest)
        | '\'' :: rest =>
          ((afterText? '\'' rest).bind (token? [':'])).bind fun rest => afterLiteral? fuel (skipGap rest)
        | _ => none
      else afterLiteral? fuel (skipGap s)
    let ending := if keyed then '\x7d' else ']'
    let next := if first then (item s).or ((token? [','] s).bind item) else (token? [','] s).bind item
    match next with
    | some rest => afterItems? fuel keyed false rest
    | none => token? [ending] s
end

/-- A text in single quotes, requoted in double quotes. -/
def requote (inside : List Char) : List Char :=
  let rec plain : List Char → List Char
    | '\\' :: '\'' :: s => '\'' :: plain s
    | c :: s => c :: plain s
    | [] => []
  '"' :: replaceChar '"' ['\\', '"'] (plain inside) ++ ['"']

def literal? (s : List Char) : Option (Term × List Char) :=
  (afterLiteral? (s.length + 1) s).map fun rest =>
    let source := readPart s rest
    let json := match source with
      | '\'' :: inside => requote inside.dropLast
      | source => source
    (.literal (String.ofList source) (Json.ofText (String.ofList json)).toOption, rest)

/-- Whether a word that has a meaning of its own comes next. -/
def atKeyword (s : List Char) : Bool :=
  ["as".toList, "else".toList].any fun word =>
    match stripLead? word s with
    | some rest =>
      match skipGap rest with
      | c :: _ => !isSymbol c
      | [] => true
    | none => false

mutual
def term? : Nat → List Char → Option (Term × List Char)
  | 0, _ => none
  | fuel + 1, s =>
    if atKeyword s then none
    else
      match literal? s with
      | some found => some found
      | none =>
        match path? s with
        | some (path, rest) => some (.path path, rest)
        | none => subterm? fuel s

/-- A call in parentheses, or a name in parentheses. -/
def subterm? : Nat → List Char → Option (Term × List Char)
  | 0, _ => none
  | fuel + 1, s =>
    match s with
    | '(' :: inside =>
      let inside := skipGap inside
      let read : Option (Term × List Char) := match identifier? inside with
        | some (name, rest) =>
          match arguments fuel rest with
          | ([], _) => (path? inside).map fun (path, rest) => (Term.call (.path path) [], rest)
          | (found, rest) => some (Term.call (.word name) found, rest)
        | none => (path? inside).map fun (path, rest) => (Term.call (.path path) [], rest)
      read.bind fun (term, rest) => (token? [')'] rest).map fun rest => (term, rest)
    | _ => none

def arguments : Nat → List Char → List Argument × List Char
  | 0, s => ([], s)
  | fuel + 1, s =>
    let start := skipGap s
    let keyed := (identifier? start).bind fun (key, rest) =>
      (token? ['='] rest).bind fun rest =>
        (term? fuel (skipGap rest)).map fun (value, rest) => (Argument.mk (some key) value, rest)
    match keyed.or ((term? fuel start).map fun (value, rest) => (Argument.mk none value, rest)) with
    | some (argument, rest) =>
      let (more, rest) := arguments fuel rest
      (argument :: more, rest)
    | none => ([], s)
end

/-- The names that a block gives to its loop variables: `as |name name|`. -/
def takeLocals (s : List Char) : List String × List Char :=
  let read : Option (List String × List Char) := do
    let rest ← token? "as".toList s
    let rest ← token? ['|'] rest
    let (first, rest) ← identifier? (skipGap rest)
    match identifier? (skipGap rest) with
    | some (second, behind) =>
      let rest ← token? ['|'] behind
      return ([first, second], rest)
    | none =>
      let rest ← token? ['|'] rest
      return ([first], rest)
  read.getD ([], s)

def line? (s : List Char) : Option ((Call × List String) × List Char) :=
  (identifier? (skipGap s)).map fun (name, rest) =>
    let (found, rest) := arguments (2 * rest.length + 2) rest
    let (locals, rest) := takeLocals rest
    ((⟨.word name, found⟩, locals), rest)

/-- A name alone: a path, or a call in parentheses. -/
def bareName? (s : List Char) : Option (Call × List Char) :=
  match subterm? (2 * s.length + 2) (skipGap s) with
  | some (term, rest) => some (⟨term, []⟩, rest)
  | none => (path? (skipGap s)).map fun (path, rest) => (⟨.path path, []⟩, rest)

def value? (s : List Char) : Option (Call × List Char) :=
  match identifier? (skipGap s) with
  | some (name, rest) =>
    match arguments (2 * rest.length + 2) rest with
    | ([], _) => bareName? s
    | (found, rest) => some (⟨.word name, found⟩, rest)
  | none => bareName? s

def isPartSymbol (c : Char) : Bool :=
  c.isAlphanum || c == '_' || c == '-' || c == '@' || isSeparator c || 0x80 ≤ c.toNat

/-- The rest behind a quoted name whose opening quote has been read. A quote inside follows a backslash. -/
def afterQuotedName? : List Char → Option (List Char)
  | [] => none
  | '\\' :: '\'' :: s => afterQuotedName? s
  | c :: s => if c = '\'' then some s else afterQuotedName? s

/-- The name of a part. Quotes around a name belong to it. -/
def partName? (s : List Char) : Option (String × List Char) :=
  match s with
  | '\'' :: c :: inside =>
    if c = '\'' then none
    else (afterQuotedName? (c :: inside)).map fun rest => (String.ofList (readPart s rest), rest)
  | s =>
    if (s.takeWhile isPartSymbol).isEmpty then none
    else some (String.ofList (s.takeWhile isPartSymbol), s.dropWhile isPartSymbol)

def partLine? (s : List Char) : Option (Call × List Char) :=
  let named : Option (Term × List Char) := match partName? (skipGap s) with
    | some (name, rest) => some (Term.word name, rest)
    | none => (bareName? s).map fun (call, rest) => (call.name, rest)
  named.map fun (name, rest) =>
    let (found, rest) := arguments (2 * rest.length + 2) rest
    (⟨name, found⟩, rest)

def doubleOpen : List Char := ['\x7b', '\x7b']

def doubleClose : List Char := ['\x7d', '\x7d']

def takeTrim (s : List Char) : Bool × List Char :=
  match token? ['~'] s with
  | some rest => (true, rest)
  | none => (false, s)

def finish? (ending : List Char) (tag : Tag) (trimsBefore : Bool) (s : List Char) : Option (Mark × List Char) :=
  let (trimsAfter, rest) := takeTrim s
  (token? ending rest).map fun rest => (⟨tag, trimsBefore, trimsAfter⟩, rest)

/-- A tag that begins with `lead` after its braces. -/
def sigil? (lead : List (List Char)) (body : List Char → Option (Tag × List Char)) (s : List Char) : Option (Mark × List Char) := do
  let rest ← stripLead? doubleOpen s
  let (trimsBefore, rest) := takeTrim rest
  let rest ← lead.foldlM (fun rest token => token? token rest) rest
  let (tag, rest) ← body rest
  finish? doubleClose tag trimsBefore rest

def orElse? (s : List Char) : Option (Mark × List Char) :=
  let nothing := fun (rest : List Char) => some (Tag.orElse, rest)
  (sigil? ["else".toList] nothing s).or (sigil? [['^']] nothing s)

def orElseCall? (s : List Char) : Option (Mark × List Char) :=
  let body := fun (rest : List Char) => (line? rest).map fun ((call, locals), rest) => (Tag.orElseCall call locals, rest)
  (sigil? ["else".toList] body s).or (sigil? [['^']] body s)

/-- A closing tag, whose name is read for what it may close later. -/
def close? (s : List Char) : Option (Mark × List Char) :=
  sigil? [['/']] (fun rest =>
    match (partName? (skipGap rest)).or (identifier? (skipGap rest)) with
    | some (name, behind) =>
      let more := behind.takeWhile fun c => isSymbol c || isPartSymbol c
      some (.close (name ++ String.ofList more), behind.drop more.length)
    | none => some (.close "", rest)) s

def print? (s : List Char) : Option (Mark × List Char) :=
  sigil? [] (fun rest => (value? rest).map fun (call, rest) => (.print true call, rest)) s

/-- A value that is not escaped, in triple braces or behind an ampersand. -/
def printRaw? (s : List Char) : Option (Mark × List Char) :=
  let triple : Option (Mark × List Char) := do
    let rest ← stripLead? ['\x7b', '\x7b', '\x7b'] s
    let (trimsBefore, rest) := takeTrim rest
    let (call, rest) ← value? rest
    finish? ['\x7d', '\x7d', '\x7d'] (.print false call) trimsBefore rest
  let inner := sigil? [['\x7b']] (fun rest => do
    let (call, rest) ← value? rest
    let rest ← token? ['\x7d'] rest
    return (.print false call, rest)) s
  let ampersand := sigil? [['&']] (fun rest =>
    (bareName? rest).map fun (call, rest) => (.print false call, rest)) s
  triple.or (inner.or ampersand)

def openBlock? (s : List Char) : Option (Mark × List Char) :=
  sigil? [['#']] (fun rest => (line? rest).map fun ((call, locals), rest) => (.openBlock call locals, rest)) s

def quadrupleOpen : List Char := doubleOpen ++ doubleOpen

def quadrupleClose : List Char := doubleClose ++ doubleClose

def openVerbatim? (s : List Char) : Option (Mark × List Char) := do
  let rest ← stripLead? quadrupleOpen s
  let (trimsBefore, rest) := takeTrim rest
  let ((call, locals), rest) ← line? rest
  finish? quadrupleClose (.openVerbatim call locals) trimsBefore rest

def closeVerbatim? (s : List Char) : Option (Mark × List Char) := do
  let rest ← stripLead? quadrupleOpen s
  let (trimsBefore, rest) := takeTrim rest
  let rest ← token? ['/'] rest
  let (name, rest) ← identifier? (skipGap rest)
  finish? quadrupleClose (.closeVerbatim name) trimsBefore rest

/-- A comment. One that begins with two dashes ends with two dashes, if they come at all. -/
def comment? (s : List Char) : Option (Mark × List Char) := do
  let inside ← stripLead? (doubleOpen ++ ['!']) s
  let long := (token? ['-', '-'] inside).bind (breakOn? (['-', '-'] ++ doubleClose))
  let (_, rest) ← long.or (breakOn? doubleClose inside)
  return (⟨.comment, false, false⟩, rest)

def decorate? (s : List Char) : Option (Mark × List Char) :=
  sigil? [['*']] (fun rest => (line? rest).map fun ((call, _), rest) => (.decorate call, rest)) s

def openDecoration? (s : List Char) : Option (Mark × List Char) :=
  sigil? [['#'], ['*']] (fun rest => (line? rest).map fun ((call, _), rest) => (.openDecoration call, rest)) s

def include? (s : List Char) : Option (Mark × List Char) :=
  sigil? [['>']] (fun rest => (partLine? rest).map fun (call, rest) => (.«include» call, rest)) s

def openInclusion? (s : List Char) : Option (Mark × List Char) :=
  sigil? [['#'], ['>']] (fun rest => (partLine? rest).map fun (call, rest) => (.openInclusion call, rest)) s

/-- The tag that `s` begins with. A tag between the branches of a block is never taken for a value. -/
def mark? (s : List Char) : Option (Mark × List Char) :=
  (orElse? s).or <| (orElseCall? s).or <| (print? s).or <| (printRaw? s).or <| (openBlock? s).or <|
  (openVerbatim? s).or <| (comment? s).or <| (decorate? s).or <| (openDecoration? s).or <| (include? s).or <|
  (openInclusion? s).or (close? s)

end Letterpress.Placeholder
