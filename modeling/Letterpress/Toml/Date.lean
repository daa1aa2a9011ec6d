/-! Dates and times of day, as they are written: a date, a time, or both with or without an offset. They are brought into
one form: a `T` between date and time, a `Z` for no offset, and nine decimals of a second at most without zeros at the
end. -/
namespace Letterpress.Toml

/-- A number of two digits within bounds, and the rest. -/
def pair? (least greatest : Nat) : List Char → Option (Nat × List Char)
  | a :: b :: rest =>
    let n := 10 * (a.toNat - '0'.toNat) + (b.toNat - '0'.toNat)
    if a.isDigit && b.isDigit && least ≤ n && n ≤ greatest then some (n, rest) else none
  | _ => none

def mark? (mark : Char) : List Char → Option (List Char)
  | c :: rest => if c = mark then some rest else none
  | [] => none

def monthLength (year month : Nat) : Nat :=
  if month = 2 then if year % 4 = 0 ∧ (year % 100 ≠ 0 ∨ year % 400 = 0) then 29 else 28
  else if month = 4 ∨ month = 6 ∨ month = 9 ∨ month = 11 then 30
  else 31

def twoDigits (n : Nat) : List Char := [Char.ofNat (48 + n / 10), Char.ofNat (48 + n % 10)]

def day? (s : List Char) : Option (List Char × List Char) := do
  let (century, rest) ← pair? 0 99 s
  let (year, rest) ← pair? 0 99 rest
  let (month, rest) ← pair? 1 12 (← mark? '-' rest)
  let (day, rest) ← pair? 1 31 (← mark? '-' rest)
  if day ≤ monthLength (100 * century + year) month then
    return (twoDigits century ++ twoDigits year ++ '-' :: twoDigits month ++ '-' :: twoDigits day, rest)
  else none

def decimals (s : List Char) : List Char × List Char :=
  match s with
  | '.' :: rest =>
    let digits := rest.takeWhile Char.isDigit
    if digits.isEmpty then ([], s)
    else
      let kept := ((digits.take 9).reverse.dropWhile (· == '0')).reverse
      (if kept.isEmpty then [] else '.' :: kept, rest.dropWhile Char.isDigit)
  | _ => ([], s)

def time? (s : List Char) : Option (List Char × List Char) := do
  let (hour, rest) ← pair? 0 23 s
  let (minute, rest) ← pair? 0 59 (← mark? ':' rest)
  let (second, rest) ← pair? 0 60 (← mark? ':' rest)
  let (decimals, rest) := decimals rest
  return (twoDigits hour ++ ':' :: twoDigits minute ++ ':' :: twoDigits second ++ decimals, rest)

def offset? (s : List Char) : Option (List Char × List Char) :=
  let away := fun (west : Bool) (s : List Char) => do
    let (hours, rest) ← pair? 0 23 s
    let (minutes, rest) ← pair? 0 59 (← mark? ':' rest)
    let sign := if west && (hours, minutes) ≠ (0, 0) then '-' else '+'
    return (sign :: twoDigits hours ++ ':' :: twoDigits minutes, rest)
  match s with
  | 'Z' :: rest => some (['Z'], rest)
  | 'z' :: rest => some (['Z'], rest)
  | '+' :: rest => away false rest
  | '-' :: rest => away true rest
  | s => some ([], s)

/-- The time and the offset behind a date. What only looks like a time is left alone. -/
def timeOfDay? (s : List Char) : Option (List Char × List Char) :=
  match s with
  | c :: behind =>
    match if c = 'T' ∨ c = 't' ∨ c = ' ' then time? behind else none with
    | some (time, rest) => (offset? rest).map fun (offset, rest) => ('T' :: time ++ offset, rest)
    | none => some ([], s)
  | [] => some ([], [])

def date? (s : List Char) : Option (String × List Char) :=
  match day? s with
  | some (day, rest) => (timeOfDay? rest).map fun (time, rest) => (String.ofList (day ++ time), rest)
  | none => (time? s).map fun (time, rest) => (String.ofList time, rest)

end Letterpress.Toml
