import Letterpress.Markup.Token

/-! The attributes of a tag: a key, `=` and a value in quotes, over and over. Positions count bytes of the tag's inside.
The list ends at the first flaw, so that what stands before it can still be judged first. -/
namespace Letterpress.Markup
open Letterpress.Text

structure Attribute where
  key : String
  value : String
  deriving DecidableEq, Repr

inductive AttributeFlaw
  | noEquals (at_ : Nat)
  | noValue (at_ : Nat)
  | unquoted (at_ : Nat)
  | noClosingQuote (at_ : Nat) (quote : Char)
  | duplicate (at_ previous : Nat)
  deriving DecidableEq, Repr

def AttributeFlaw.message : AttributeFlaw → String
  | noEquals at_ =>
    "position " ++ toString at_ ++ ": attribute key must be directly followed by `=` or space"
  | noValue at_ => "position " ++ toString at_ ++ ": `=` must be followed by an attribute value"
  | unquoted at_ => "position " ++ toString at_ ++ ": attribute value must be enclosed in `\"` or `'`"
  | noClosingQuote at_ quote =>
    "position " ++ toString at_ ++ ": missing closing quote `" ++ quote.toString ++ "` in attribute value"
  | duplicate at_ previous =>
    "position " ++ toString at_ ++ ": duplicated attribute, previous declaration at position " ++ toString previous

structure Attributes where
  attributes : List Attribute
  flaw : Option AttributeFlaw

def quotedValue (total : Nat) (s : List Char) : Except AttributeFlaw (List Char × List Char) :=
  match s.dropWhile isTagBlank with
  | [] => .error (.noValue total)
  | quote :: s =>
    if quote = '"' || quote = '\'' then
      match s.dropWhile (· != quote) with
      | [] => .error (.noClosingQuote total quote)
      | _ :: rest => .ok (s.takeWhile (· != quote), rest)
    else .error (.unquoted (total - byteLength (quote :: s)))

private theorem length_of_quotedValue {total : Nat} {s value rest : List Char}
    (h : quotedValue total s = .ok (value, rest)) : rest.length < s.length := by
  unfold quotedValue at h
  split at h
  · simp at h
  · next quote tail found =>
    have outer := (List.dropWhile_suffix isTagBlank (l := s)).length_le
    rw [found] at outer
    split at h
    · split at h
      · simp at h
      · next last more closed =>
        have inner := (List.dropWhile_suffix (· != quote) (l := tail)).length_le
        rw [closed] at inner
        simp only [Except.ok.injEq,Prod.mk.injEq] at h
        obtain ⟨-, rfl⟩ := h
        simp only [List.length_cons] at outer inner
        omega
    · simp at h

/-- Reads the attributes in `s`, which ends a tag's inside of `total` bytes; `seen` holds the keys before it with their
positions. -/
def attributesFrom (total : Nat) (seen : List (List Char × Nat)) (s : List Char) : Attributes :=
  match _begun : s.dropWhile isTagBlank with
  | [] => ⟨[], none⟩
  | first :: tail =>
    let ends := fun c => c == '=' || isTagBlank c
    let key := first :: tail.takeWhile (!ends ·)
    let at_ := total - byteLength (first :: tail)
    match _behind : (tail.dropWhile (!ends ·)).dropWhile isTagBlank with
    | [] => ⟨[], some (.noEquals total)⟩
    | mark :: rest =>
      if mark ≠ '=' then ⟨[], some (.noEquals (total - byteLength (mark :: rest)))⟩
      else
        match seen.find? (·.1 == key) with
        | some (_, previous) => ⟨[], some (.duplicate at_ previous)⟩
        | none =>
          match _valued : quotedValue total rest with
          | .error flaw => ⟨[], some flaw⟩
          | .ok (value, rest) =>
            let others := attributesFrom total ((key, at_) :: seen) rest
            ⟨⟨String.ofList key, String.ofList value⟩ :: others.attributes, others.flaw⟩
termination_by s.length
decreasing_by
  have start := (List.dropWhile_suffix isTagBlank (l := s)).length_le
  have inner := (List.dropWhile_suffix isTagBlank (l := tail.dropWhile (!ends ·))).length_le
  have outer := (List.dropWhile_suffix (!ends ·) (l := tail)).length_le
  have last := length_of_quotedValue _valued
  rw [_begun] at start
  rw [_behind] at inner
  simp only [List.length_cons] at start inner
  omega

def attributes (inside : List Char) : Attributes :=
  attributesFrom (byteLength inside) [] (inside.dropWhile (!isTagBlank ·))

end Letterpress.Markup
