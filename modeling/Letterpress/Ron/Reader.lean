import Letterpress.Decimal.Reader
import Letterpress.Json.Basic
import Letterpress.Ron.Quotation

/-! Reading RON, the notation for records. What has named fields is an object, what has fields without names a list; the
names of records do not count, and neither does what says that an optional value is there. -/
namespace Letterpress.Ron
open Letterpress.Text

def isGap (c : Char) : Bool := c == ' ' || c == '\t' || c == '\n' || c == '\r'

/-- The rest behind a comment that has been opened so many times. Comments lie in each other. -/
def afterComment? : Nat → List Char → Option (List Char)
  | 0, s => some s
  | _ + 1, [] => none
  | depth + 1, '/' :: '*' :: s => afterComment? (depth + 2) s
  | depth + 1, '*' :: '/' :: s => afterComment? depth s
  | depth + 1, _ :: s => afterComment? (depth + 1) s

def skipGap? : Nat → List Char → Option (List Char)
  | 0, _ => none
  | fuel + 1, s =>
    match s with
    | '/' :: '/' :: comment => skipGap? fuel (comment.dropWhile (· != '\n'))
    | '/' :: '*' :: comment => (afterComment? 1 comment).bind (skipGap? fuel)
    | '/' :: _ => none
    | c :: rest => if isGap c then skipGap? fuel rest else some s
    | [] => some []

def afterGap? (s : List Char) : Option (List Char) := skipGap? (s.length + 1) s

/-- Skips a comma with the blanks around it, and tells whether there is one. -/
def comma? (s : List Char) : Option (Bool × List Char) := do
  match ← afterGap? s with
  | ',' :: rest => return (true, ← afterGap? rest)
  | rest => return (false, rest)

def isNameStart (c : Char) : Bool := c.isAlpha || c == '_'

def isNamePart (c : Char) : Bool := isNameStart c || c.isDigit

/-- The characters of names that are marked by `r#`. -/
def isMarkedPart (c : Char) : Bool := isNamePart c || c == '.' || c == '+' || c == '-'

def name? (s : List Char) : Option (String × List Char) :=
  match s with
  | 'r' :: '"' :: _ => none
  | 'r' :: '#' :: marked =>
    if (marked.takeWhile isMarkedPart).isEmpty then none
    else some (String.ofList (marked.takeWhile isMarkedPart), marked.dropWhile isMarkedPart)
  | c :: _ =>
    let rest := s.dropWhile isNamePart
    if isNameStart c ∧ !(rest.head?.any isMarkedPart) then some (String.ofList (s.takeWhile isNamePart), rest) else none
  | [] => none

def afterWord? (word : String) (s : List Char) : Option (List Char) :=
  (stripLead? word.toList s).filter fun rest => !(rest.head?.any isNamePart)

def isWholePart (c : Char) : Bool := (hexValue? c).isSome || c == '_'

def isFloatPart (c : Char) : Bool := c.isDigit || c == '.' || c == 'e' || c == 'E' || c == '+' || c == '-' || c == '_'

/-- A whole number without a sign, in base ten or in the base that its first two characters name. Underscores may stand
between digits. -/
def whole? (s : List Char) : Option (Nat × List Char) :=
  let (base, s) := match s with
    | '0' :: 'x' :: s => (16, s)
    | '0' :: 'o' :: s => (8, s)
    | '0' :: 'b' :: s => (2, s)
    | s => (10, s)
  let digits := s.takeWhile isWholePart
  let rest := s.dropWhile isWholePart
  if digits.isEmpty ∨ digits.head? = some '_' then none
  else
    let value := (digits.filter (· != '_')).foldlM
      (fun n c => ((hexValue? c).filter (· < base)).map (base * n + ·)) 0
    value.map (·, rest)

def float? (s : List Char) : Option (Float × List Char) :=
  match (afterWord? "+inf" s).or (afterWord? "inf" s), afterWord? "-inf" s with
  | some rest, _ => some (1.0 / 0.0, rest)
  | none, some rest => some (-1.0 / 0.0, rest)
  | none, none =>
    match (afterWord? "NaN" s).or ((afterWord? "+NaN" s).or (afterWord? "-NaN" s)) with
    | some rest => some (0.0 / 0.0, rest)
    | none =>
      (Decimal.float? (s.takeWhile isFloatPart)).map fun x => (x, s.dropWhile isFloatPart)

/-- A whole number as a signed word. Beyond those without a sign the words go on from the least. -/
def wrapped (n : Nat) : Int := if Decimal.fitsSigned n then n else (n : Int) - Decimal.twoTo 64

/-- A number is whole if it reads as one that fits into a word, and is a double otherwise. -/
def number? (s : List Char) : Option (Json.Number × List Char) :=
  let unsigned := match s with
    | '+' :: rest => rest
    | '-' :: rest => rest
    | rest => rest
  let signed := unsigned.length < s.length
  let negative := s.head? == some '-'
  let read : Option (Json.Number × List Char) :=
    if (unsigned.takeWhile isWholePart).length < (unsigned.takeWhile isFloatPart).length then none
    else do
      let (n, rest) ← whole? unsigned
      if signed then
        let value : Int := if negative then -n else n
        if Decimal.fitsSigned value then return (.int value, rest) else none
      else if Decimal.fitsWord n then return (.int (wrapped n), rest) else none
  read.or ((float? s).map fun (x, rest) => (.float x, rest))

/-- Whether what stands in parentheses has named fields. -/
def hasNames? (inside : List Char) : Option Bool :=
  match name? inside with
  | none => some false
  | some (_, rest) => do
    match ← afterGap? rest with
    | ':' :: _ => return true
    | _ :: _ => return false
    | [] => none

def keyOf? : Json → Option String
  | .string s => some s
  | _ => none

mutual
def value? : Nat → Nat → List Char → Option (Json × List Char)
  | 0, _, _ => none
  | fuel + 1, depth, s =>
    match s with
    | '(' :: ')' :: rest => some (.null, rest)
    | '(' :: _ => record? fuel depth s
    | '[' :: rest =>
      match depth with
      | 0 => none
      | depth + 1 => (items? fuel depth ']' rest).map fun (items, rest) => (.array items, rest)
    | '\x7b' :: rest =>
      match depth with
      | 0 => none
      | depth + 1 => (entries? fuel depth rest).map fun (members, rest) => (.mk members, rest)
    | '"' :: _ => (text? s).map fun (text, rest) => (.string text, rest)
    | '\'' :: _ => (character? s).map fun (c, rest) => (.string c.toString, rest)
    | s =>
      match (afterWord? "true" s).map ((.bool true : Json), ·) |>.or ((afterWord? "false" s).map (.bool false, ·)) with
      | some read => some read
      | none =>
        match afterWord? "Some" s, depth with
        | some rest, depth + 1 => do
          let rest ← stripLead? ['('] (← afterGap? rest)
          let (value, rest) ← value? fuel depth (← afterGap? rest)
          return (value, ← stripLead? [')'] (← afterGap? rest))
        | some _, 0 => none
        | none, _ =>
          match (afterWord? "None" s).map ((.null : Json), ·) with
          | some read => some read
          | none =>
            match if (afterWord? "inf" s).isSome || (afterWord? "NaN" s).isSome then none else name? s with
            | some (_, rest) => do record? fuel depth (← afterGap? rest)
            | none => ((text? s).map fun (text, rest) => ((.string text : Json), rest)).or
                ((number? s).map fun (n, rest) => (.number n, rest))

/-- What is behind the name of a record: fields in parentheses, or nothing. -/
def record? : Nat → Nat → List Char → Option (Json × List Char)
  | 0, _, _ => none
  | fuel + 1, depth, s =>
    match s, depth with
    | '(' :: inside, depth => do
      let named ← hasNames? (← afterGap? inside)
      match named, depth with
      | _, 0 => none
      | true, depth + 1 =>
        let (members, rest) ← fields? fuel depth inside
        return (.mk members, rest)
      | false, depth + 1 =>
        let (items, rest) ← items? fuel depth ')' inside
        return (.array items, rest)
    | s, _ => some (.null, s)

/-- The items of a list up to its end. A comma may follow the last. -/
def items? : Nat → Nat → Char → List Char → Option (List Json × List Char)
  | 0, _, _, _ => none
  | fuel + 1, depth, ending, s => do
    let s ← afterGap? s
    if s.head? = some ending then return ([], s.drop 1)
    else
      let (item, rest) ← value? fuel depth s
      let (more, rest) ← comma? rest
      if more then
        let (items, rest) ← items? fuel depth ending rest
        return (item :: items, rest)
      else return ([item], ← stripLead? [ending] rest)

/-- The entries of a map up to its end. Their keys are texts. -/
def entries? : Nat → Nat → List Char → Option (List (String × Json) × List Char)
  | 0, _, _ => none
  | fuel + 1, depth, s => do
    let s ← afterGap? s
    if s.head? = some '\x7d' then return ([], s.drop 1)
    else
      let (key, rest) ← value? fuel depth s
      let key ← keyOf? key
      let rest ← stripLead? [':'] (← afterGap? rest)
      let (value, rest) ← value? fuel depth (← afterGap? rest)
      let (more, rest) ← comma? rest
      if more then
        let (entries, rest) ← entries? fuel depth rest
        return ((key, value) :: entries, rest)
      else return ([(key, value)], ← stripLead? ['\x7d'] rest)

def fields? : Nat → Nat → List Char → Option (List (String × Json) × List Char)
  | 0, _, _ => none
  | fuel + 1, depth, s => do
    let s ← afterGap? s
    if s.head? = some ')' then return ([], s.drop 1)
    else
      let (key, rest) ← name? s
      let rest ← stripLead? [':'] (← afterGap? rest)
      let (value, rest) ← value? fuel depth (← afterGap? rest)
      let (more, rest) ← comma? rest
      if more then
        let (fields, rest) ← fields? fuel depth rest
        return ((key, value) :: fields, rest)
      else return ([(key, value)], ← stripLead? [')'] rest)
end

def greatestDepth : Nat := 128

def extensions : List String := ["unwrap_newtypes", "implicit_some", "unwrap_variant_newtypes"]

/-- The names of extensions up to the parenthesis behind them. -/
def extensionNames? : Nat → List Char → Option (List Char)
  | 0, _ => none
  | fuel + 1, s => do
    let (name, rest) ← name? s
    if !extensions.contains name then none
    else
      match ← comma? rest with
      | (true, rest) => if rest.head?.any isNamePart then extensionNames? fuel rest else some rest
      | (false, rest) => some rest

/-- Skips the attributes at the start of a document, each of which enables extensions. -/
def afterAttributes? : Nat → List Char → Option (List Char)
  | 0, _ => none
  | fuel + 1, s => do
    match ← afterGap? s with
    | '#' :: rest =>
      let open_ := fun (s : List Char) (token : String) => (stripLead? token.toList s).bind afterGap?
      let rest ← ["!", "[", "enable", "("].foldlM open_ (← afterGap? rest)
      let rest ← extensionNames? (rest.length + 1) rest
      let rest ← [")", "]"].foldlM open_ rest
      afterAttributes? fuel rest
    | s => return s

def ofText? (text : String) : Option Json := do
  let s ← afterAttributes? (text.toList.length + 1) text.toList
  let (value, rest) ← value? (2 * s.length + 2) greatestDepth s
  if (← afterGap? rest).isEmpty then return value else none

end Letterpress.Ron
