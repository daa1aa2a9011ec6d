import Letterpress.Css.Length
import Letterpress.Markup.Misprint
import Letterpress.Text.Blank

/-! Assembling the lexemes of a document into its tree. The elements still open lie in a pile; a lexeme opens one on top
of it, closes the top one into the element below, or is refused. While a verbatim element is open, lexemes only add
to its content until its own closing tag. -/
namespace Letterpress.Markup
open Letterpress.Text

/-- A verbatim element that is being read: its name, how many elements of the same name are open inside it, and what has
been read. -/
structure Verbatim where
  element : Element
  name : List Char
  nested : Nat
  content : List Char

/-- The state of an assembly. `pile` has the innermost open element first. -/
structure Assembly where
  pile : List Element
  verbatim : Option Verbatim
  root : Option Element

namespace Assembly

def empty : Assembly := ⟨[], none, none⟩

def attach (a : Assembly) (element : Element) : Assembly :=
  match a.pile with
  | parent :: others => { a with pile := parent.attach element :: others }
  | [] => { a with root := some element }

def checkPlace (a : Assembly) (tag : Tag) : Except Fault Unit :=
  match a.pile with
  | parent :: _ => if parent.tag.children.contains tag then .ok () else .error (.misplaced tag.name parent.tag.name)
  | [] =>
    if a.root.isSome then .error (.secondRoot tag.name)
    else if tag ≠ .document then .error (.wrongRoot tag.name)
    else .ok ()

/-- Whether the innermost open element is a block of defaults, whose entries need no attributes. -/
def declaresDefaults (a : Assembly) : Bool :=
  match a.pile with
  | parent :: _ => parent.tag == .defaults
  | [] => false

end Assembly

/-- The attributes of an element, each known to its tag. -/
def checkAttributes (tag : Tag) (inside : List Char) : Except Fault (List Attribute) :=
  let read := attributes inside
  match read.attributes.find? (!tag.accepts ·.key) with
  | some unknown => .error (.unknownAttribute unknown.key tag.name)
  | none =>
    match read.flaw with
    | some flaw => .error (.attributeFlaw tag.name flaw)
    | none => .ok read.attributes

/-- A width of a column has to be readable, unless it is blank. -/
def checkWidth (element : Element) : Except Fault Unit :=
  match element.tag, element.attribute? "width" with
  | .column, some width =>
    if isBlankText width || (Css.Width.ofString? width).isSome then .ok ()
    else .error (.unreadableWidth element.tag.name width)
  | _, _ => .ok ()

def checkRequired (element : Element) : Except Fault Unit :=
  match element.tag.required.find? fun key => !(element.attributes.any (·.key == key)) with
  | some key => .error (.missingAttribute element.tag.name key)
  | none => .ok ()

/-- The element that a tag with this inside opens at `offset`, still without children and content. -/
def Assembly.element (a : Assembly) (inside : List Char) (offset : Nat) : Except Fault Element := do
  let name := String.ofList (tagName inside)
  let tag ← match Tag.ofName? name with
    | some tag => pure tag
    | none => throw (.unknownTag name)
  a.checkPlace tag
  let attributes ← checkAttributes tag inside
  let element : Element := ⟨tag, attributes, [], "", offset⟩
  checkWidth element
  if !a.declaresDefaults then checkRequired element
  return element

/-- Reads a lexeme inside a verbatim element. Only tags of its own name matter. -/
def Verbatim.step (v : Verbatim) (lexeme : Lexeme) : Verbatim ⊕ Element :=
  let more : Verbatim := { v with content := v.content ++ lexeme.raw }
  match lexeme.token with
  | .opening inside => .inl (if tagName inside = v.name then { more with nested := v.nested + 1 } else more)
  | .closing name =>
    if name = v.name then
      if v.nested = 0 then .inr { v.element with content := String.ofList (trimChars v.content) }
      else .inl { more with nested := v.nested - 1 }
    else .inl more
  | _ => .inl more

/-- Closes the innermost open element, which has to have this name. -/
def Assembly.close (a : Assembly) (name : String) : Except Fault Assembly :=
  match a.pile with
  | [] => .error (.strayClosing name)
  | element :: others =>
    if element.tag.name == name then .ok (attach { a with pile := others } element)
    else .error (.wrongClosing name element.tag.name)

/-- Reads a lexeme whose tag, if it is one, begins at `offset`. -/
def Assembly.step (a : Assembly) (lexeme : Lexeme) (offset : Nat) : Except Misprint Assembly :=
  match a.verbatim with
  | some v =>
    match v.step lexeme with
    | .inl v => .ok { a with verbatim := some v }
    | .inr element => .ok (attach { a with verbatim := none } element)
  | none =>
    let refuse : Fault → Misprint := fun fault => ⟨offset, fault⟩
    match lexeme.token with
    | .opening inside => do
      let element ← (a.element inside offset).mapError refuse
      if element.tag.isVerbatim then return { a with verbatim := some ⟨element, tagName inside, 0, []⟩ }
      else return { a with pile := element :: a.pile }
    | .standalone inside => do
      let element ← (a.element inside offset).mapError refuse
      return a.attach element
    | .closing name => (a.close (String.ofList name)).mapError refuse
    | .text chars =>
      let stray := chars.dropWhile isAsciiBlank
      if stray.isEmpty then .ok a
      else .error ⟨lexeme.offset + (byteLength chars - byteLength stray),
        .strayText ((a.pile.head?).map (·.tag.name))⟩
    | .characterData => .error ⟨lexeme.offset, .strayCharacterData⟩
    | .passing => .ok a

def Assembly.finish (a : Assembly) (flaw : Option (Flaw × Nat)) : Except Misprint Element :=
  match a.verbatim, flaw with
  | some v, some (flaw, _) => .error ⟨v.element.offset, .unclosedContent v.element.tag.name flaw⟩
  | some v, none =>
    .error ⟨v.element.offset, .unclosedContent v.element.tag.name (.missingClosing (String.ofList v.name))⟩
  | none, some (flaw, offset) => .error ⟨offset, .flaw flaw⟩
  | none, none =>
    match a.pile with
    | open_ :: _ => .error ⟨open_.offset, .unclosedTag open_.tag.name⟩
    | [] =>
      match a.root with
      | some root => .ok root
      | none => .error ⟨0, .noRoot⟩

def charAt? : List Char → Nat → Option Char
  | [], _ => none
  | c :: s, offset =>
    if offset = 0 then some c else if offset < c.utf8Size then none else charAt? s (offset - c.utf8Size)

/-- The `<` of a tag that was found at `offset`, or just before it. -/
def tagStart (source : List Char) (offset : Nat) : Nat :=
  if charAt? source offset = some '<' then offset
  else if 0 < offset ∧ charAt? source (offset - 1) = some '<' then offset - 1
  else offset

/-- A byte order mark in front of a source is no part of it, and offsets are counted from behind it. -/
def withoutMark (source : List Char) : List Char := (stripLead? ['\ufeff'] source).getD source

def Element.ofSource (source : List Char) : Except Misprint Element := do
  let cut := lexemes (withoutMark source)
  let assembly ← cut.lexemes.foldlM
    (fun (a : Assembly) lexeme =>
      let offset := match lexeme.token with
        | .opening _ | .standalone _ | .closing _ => tagStart source lexeme.offset
        | _ => lexeme.offset
      a.step lexeme offset)
    Assembly.empty
  assembly.finish cut.flaw

end Letterpress.Markup
