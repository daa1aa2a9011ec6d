import Letterpress.Placeholder.Trim
import Letterpress.Text.Quoted

/-! A source with placeholders as a tree: text, printed values, and blocks around other nodes. -/
namespace Letterpress.Placeholder

/-- A node knows where its tag begins, and whether that tag stands alone on its line. A branch `else if` is a block of
its own, which has no place. -/
inductive Node
  | text (text : String)
  | print (place : Position) (escaped : Bool) (call : Call)
  | block (place : Option Position) (call : Call) (locals : List String) (alone : Bool) (body : List Node)
      (inverse : Option (List Node))
  | decorate (place : Position) (call : Call) (body : Option (List Node))
  | «include» (place : Position) (call : Call) (indent : Option String) (alone : Bool) (body : Option (List Node))

inductive SyntaxError
  | unreadable
  | invalidLiteral (source : String)
  | wrongClosing (what opened closing : String)
  deriving DecidableEq, Repr

def SyntaxError.message : SyntaxError → String
  | unreadable => "Template error: invalid handlebars syntax"
  | invalidLiteral source => "invalid parameter " ++ Text.quoted source
  | wrongClosing what opened closing =>
    "Template error: " ++ what ++ " " ++ Text.quoted opened ++ " was opened, but " ++ Text.quoted closing ++
      " is closing"

/-- What can be open. A block may have branches until its plain `else`. -/
inductive Level
  | block (branching : Bool)
  | decoration
  | inclusion
  | verbatim
  deriving DecidableEq, Repr

/-- Whether a closing tag of that name may close an inclusion. -/
def isPartName (name : String) : Bool :=
  match name.toList with
  | '\'' :: inside => afterQuotedName? inside == some []
  | s => s.all isPartSymbol

/-- The levels that are open after a tag, innermost first; none if the tag may not stand there. -/
def Tag.nest? (tag : Tag) (levels : List Level) : Option (List Level) :=
  match tag, levels with
  | openBlock .., levels => some (.block true :: levels)
  | openDecoration _, levels => some (.decoration :: levels)
  | openInclusion _, levels => some (.inclusion :: levels)
  | openVerbatim .., levels => some (.verbatim :: levels)
  | orElse, .block true :: levels => some (.block false :: levels)
  | orElseCall .., .block true :: levels => some (.block true :: levels)
  | orElse, _ => none
  | orElseCall .., _ => none
  | close name, .block _ :: levels => if name.toList.all isSymbol then some levels else none
  | close name, .decoration :: levels => if name.toList.all isSymbol then some levels else none
  | close name, .inclusion :: levels => if isPartName name then some levels else none
  | close _, _ => none
  | closeVerbatim _, .verbatim :: levels => some levels
  | closeVerbatim _, _ => none
  | _, levels => some levels

/-- Whether every tag may stand where it does and all that is opened is closed. -/
def isNested (tags : List Tag) : Bool := tags.foldlM (fun levels tag => tag.nest? levels) ([] : List Level) == some []

inductive Head
  | first
  | orElseCall (call : Call) (locals : List String) (alone : Bool)
  | orElse

/-- What is open: its tag, the finished branches, the last one first, and the branch that is being filled, whose nodes
are reversed. -/
structure Opened where
  tag : Trimmed
  finished : List (Head × List Node)
  head : Head
  nodes : List Node

def Opened.ofTag (tag : Trimmed) : Opened := ⟨tag, [], .first, []⟩

def Opened.add (o : Opened) (node : Node) : Opened := { o with nodes := node :: o.nodes }

/-- Ends the branch that is being filled and begins another. -/
def Opened.branch (o : Opened) (head : Head) : Opened :=
  { o with finished := (o.head, o.nodes.reverse) :: o.finished, head := head, nodes := [] }

def Opened.branches (o : Opened) : List (Head × List Node) := (o.head, o.nodes.reverse) :: o.finished

/-- The body of a block and what stands in for it. Branches are given the last one first. -/
def gather (inverse : Option (List Node)) : List (Head × List Node) → List Node × Option (List Node)
  | [] => ([], inverse)
  | (.first, nodes) :: _ => (nodes, inverse)
  | (.orElse, nodes) :: others => gather (some nodes) others
  | (.orElseCall call locals alone, nodes) :: others =>
    gather (some [.block none call locals alone nodes inverse]) others

def Opened.name (o : Opened) : String := ((o.tag.tag.call?).bind (·.name.name?)).getD ""

/-- The node of a construct that has just been closed. -/
def Opened.node (o : Opened) : Node :=
  let (body, inverse) := gather none o.branches
  match o.tag.tag with
  | .openDecoration call => .decorate o.tag.place call (some body)
  | .openInclusion call => .«include» o.tag.place call none o.tag.alone (some body)
  | .openBlock call locals | .openVerbatim call locals =>
    .block (some o.tag.place) call locals o.tag.alone body inverse
  | _ => .text ""

def Opened.isDecorator (o : Opened) : Bool :=
  match o.tag.tag with
  | .openDecoration _ | .openInclusion _ => true
  | _ => false

/-- The state of building a tree: what is open, innermost first, and the nodes at the outermost level, reversed. -/
structure Building where
  opened : List Opened
  nodes : List Node

def Building.add (b : Building) (node : Node) : Building :=
  match b.opened with
  | o :: others => { b with opened := o.add node :: others }
  | [] => { b with nodes := node :: b.nodes }

def Building.addText (b : Building) (text : Option (List Char)) : Building :=
  match text with
  | some text => b.add (.text (String.ofList text))
  | none => b

/-- Closes what was opened last, which has to have this name; only the name of a block has to be repeated. -/
def Building.close (b : Building) (name : String) : Except SyntaxError Building :=
  match b.opened with
  | [] => .error .unreadable
  | o :: others =>
    if o.name = name ∨ (o.isDecorator ∧ name.isEmpty) then .ok (Building.add { b with opened := others } o.node)
    else .error (.wrongClosing (if o.isDecorator then "decorator" else "helper") o.name name)

def Building.branch (b : Building) (head : Head) : Except SyntaxError Building :=
  match b.opened with
  | o :: others => .ok { b with opened := o.branch head :: others }
  | [] => .error .unreadable

def Building.step (b : Building) (t : Trimmed) : Except SyntaxError Building := do
  let b := b.addText t.text
  match (t.tag.call?).bind (·.invalid?) with
  | some source => throw (.invalidLiteral source)
  | none => pure ()
  match t.tag with
  | .comment => return b
  | .print escaped call => return b.add (.print t.place escaped call)
  | .decorate call => return b.add (.decorate t.place call none)
  | .«include» call => return b.add (.«include» t.place call (t.indent.map String.ofList) t.alone none)
  | .openBlock .. | .openDecoration _ | .openInclusion _ | .openVerbatim .. =>
    return { b with opened := .ofTag t :: b.opened }
  | .orElse => b.branch .orElse
  | .orElseCall call locals => b.branch (.orElseCall call locals t.alone)
  | .close name | .closeVerbatim name => b.close name

structure Template where
  nodes : List Node

/-- Reads a source. That every tag can be read and stands in its place is checked first, over the whole of it. -/
def Template.ofSource (source : String) : Except SyntaxError Template :=
  match pieces? source.toList with
  | none => .error .unreadable
  | some pieces =>
    if !isNested (pieces.pieces.map (·.mark.tag)) then .error .unreadable
    else do
      let (trimmed, last) := pieces.trim
      let building ← trimmed.foldlM Building.step (⟨[], []⟩ : Building)
      return ⟨(building.addText last).nodes.reverse⟩

end Letterpress.Placeholder
