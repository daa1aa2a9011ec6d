import Letterpress.Placeholder.Helper
import Letterpress.Placeholder.Template

/-! Filling a template with data. Nodes write one after the other; what a block does is settled before any of its
nodes is written, as a course. Parts include each other, so they are written under a bound on their nesting. -/
namespace Letterpress.Placeholder

/-- A reason, and the place of the innermost tag that it stopped. -/
structure RenderError where
  place : Option Position
  reason : Reason
  deriving DecidableEq, Repr

def RenderError.message (e : RenderError) : String :=
  let at_ := match e.place with
    | some place => " line " ++ toString place.line ++ ", col " ++ toString place.column
    | none => ""
  "Error rendering \"document\"" ++ at_ ++ ": " ++ e.reason.message

/-- A part that is being written: what is written so far, what names mean (innermost scope first), the named parts (the
latest first), and the text of the body that the part was included with. An indent is due before the next text after a
line break; whether anything was written is asked of each tag. -/
structure Filling where
  written : String
  scopes : List Scope
  parts : List (String × List Node)
  body : Option String
  atDocument : Bool
  indent : Option String
  indentDue : Bool
  wrote : Bool
  endsLine : Bool

def Filling.start : Filling := ⟨"", [.root], [], none, true, none, false, false, true⟩

def beginsWithBreak (s : List Char) : Bool :=
  match s with
  | '\n' :: _ | '\r' :: _ => true
  | _ => false

def endsWithBreak (s : List Char) : Bool := beginsWithBreak s.reverse

/-- The text with `indent` behind every line feed that is not its last character. -/
def indented (indent : List Char) : List Char → List Char
  | [] => []
  | [c] => [c]
  | c :: s => if c = '\n' then '\n' :: (indent ++ indented indent s) else c :: indented indent s

def Filling.append (f : Filling) (text : String) : Filling := { f with written := f.written ++ text }

/-- Writes text under the indent of the inclusion around it. -/
def Filling.write (f : Filling) (text : String) : Filling :=
  if text.isEmpty then f
  else
    let s := text.toList
    let lead := match f.indent with
      | some indent => if f.indentDue && !beginsWithBreak s then indent else ""
      | none => ""
    let body := match f.indent with
      | some indent => String.ofList (indented indent.toList s)
      | none => text
    { f with
      written := f.written ++ lead ++ body
      wrote := true
      indentDue := endsWithBreak s
      endsLine := endsWithBreak s }

/-- Writes what one tag stands for. An indent is due at its beginning only if the tag stands alone on its line; a tag
that writes nothing leaves it due as it was. -/
def Filling.aside {ε : Type} (f : Filling) (alone : Bool) (fill : Filling → Except ε Filling) : Except ε Filling := do
  let after ← fill { f with wrote := false, indentDue := alone && (f.endsLine || f.indentDue) }
  return { after with
    wrote := f.wrote || after.wrote
    indentDue := if after.wrote then after.endsLine else f.indentDue }

def Filling.say (f : Filling) (escaped : Bool) : Answer → Filling
  | .value json => f.write (if escaped then escapeHtml (printed json) else printed json)
  | .truth holds => f.append (printed (.bool holds))
  | .text text => f.append text

/-- A filling whose next nodes lie in a block, so no longer at the outermost level of the document. -/
def Filling.nested (f : Filling) : Filling := { f with atDocument := false }

def Filling.push (f : Filling) (scope : Scope) : Filling := { f with scopes := scope :: f.scopes }

mutual
def Term.evaluate (data : Json) (scopes : List Scope) : Term → Except Reason Value
  | .word _ => .ok .missing
  | .path p => p.look data scopes
  | .literal _ value => .ok ⟨value.getD .null, none⟩
  | .call name arguments => do
    let values ← valuesOf data scopes arguments
    let options ← optionsOf data scopes arguments
    let name ← name.nameIn data scopes
    match Helper.ofName? name with
    | some helper => return ⟨(← helper.answer ⟨values, options⟩).json, none⟩
    | none => throw (.noHelper name)

/-- The name that a term stands for at the head of a call. -/
def Term.nameIn (data : Json) (scopes : List Scope) : Term → Except Reason String
  | .word name => .ok name
  | .path p => .ok p.raw
  | .literal _ value => .ok (printed (value.getD .null))
  | .call name arguments => do
    let values ← valuesOf data scopes arguments
    let options ← optionsOf data scopes arguments
    let name ← name.nameIn data scopes
    match Helper.ofName? name with
    | some helper => return printed (← helper.answer ⟨values, options⟩).json
    | none => throw (.noHelper name)

def valuesOf (data : Json) (scopes : List Scope) : List Argument → Except Reason (List Value)
  | [] => .ok []
  | .mk none term :: arguments => do
    let value ← term.evaluate data scopes
    let values ← valuesOf data scopes arguments
    return value :: values
  | .mk (some _) _ :: arguments => valuesOf data scopes arguments

/-- The arguments that have a key. Of two with one key the later counts, and the other is not evaluated. -/
def optionsOf (data : Json) (scopes : List Scope) : List Argument → Except Reason (List (String × Value))
  | [] => .ok []
  | .mk (some key) term :: arguments =>
    if arguments.any (·.key? == some key) then optionsOf data scopes arguments
    else do
      let value ← term.evaluate data scopes
      let options ← optionsOf data scopes arguments
      return (key, value) :: options
  | .mk none _ :: arguments => optionsOf data scopes arguments
end

def argumentsIn (data : Json) (scopes : List Scope) (arguments : List Argument) : Except Reason Arguments := do
  let values ← valuesOf data scopes arguments
  let options ← optionsOf data scopes arguments
  return ⟨values, options⟩

/-- What a tag prints, and whether a helper has given it. A name on its own is a value unless it is that of a helper. -/
def Call.answer (call : Call) (data : Json) (scopes : List Scope) : Except Reason (Answer × Bool) := do
  let name ← call.name.nameIn data scopes
  if call.arguments.isEmpty then
    match Helper.ofName? name with
    | some helper => return (← helper.answer ⟨[], []⟩, true)
    | none => return (.value (← call.name.evaluate data scopes).json, false)
  else
    let arguments ← argumentsIn data scopes call.arguments
    match Helper.ofName? name with
    | some helper => return (← helper.answer arguments, true)
    | none => throw (.noHelper name)

/-- What a block comes to: its body, what stands in for it, its body once in each of some scopes, or an answer. -/
inductive Course
  | body
  | inverse
  | over (scopes : List Scope)
  | say (answer : Answer)

/-- The scope of one turn of a loop. The first local name is that of the value, the second that of its key. -/
def turn (keys : Option (List String)) (locals : List String) (loop : List (String × Json)) (step : String)
    (key value : Json) : Scope :=
  let base := match keys with
    | some keys => Base.place (keys ++ [step])
    | none => .value value
  let given := match keys with
    | some _ => Given.place
    | none => .value value
  let locals := match locals with
    | [v] => [(v, given)]
    | [v, k] => [(k, .value key), (v, given)]
    | _ => []
  ⟨base, loop, locals⟩

def loopFlags (index count : Nat) : List (String × Json) :=
  [("first", .bool (index == 0)), ("last", .bool (index + 1 == count)), ("index", .nat index)]

/-- The scopes of the turns over a collection; nothing else has any. -/
def turns? (value : Value) (locals : List String) : Option (List Scope) :=
  match value.json with
  | .array items => some (items.zipIdx.map fun (item, i) =>
      turn value.keys locals (loopFlags i items.length) (toString i) (.nat i) item)
  | .object members => some (members.zipIdx.map fun ((key, item), i) =>
      turn value.keys locals (("key", .string key) :: loopFlags i members.length) key (.string key) item)
  | _ => none

def Value.scope (value : Value) (locals : List String) : Scope :=
  match value.keys with
  | some keys => ⟨.place keys, [], match locals with | [v] => [(v, .place)] | _ => []⟩
  | none => ⟨.value value.json, [], match locals with | [v] => [(v, .value value.json)] | _ => []⟩

/-- The course of a block. A loop over an empty collection has no turns and takes its inverse, if there is one. -/
def Helper.course (helper : Helper) (a : Arguments) (locals : List String) : Except Reason Course :=
  match helper.truth? a with
  | some truth => truth.map fun b => if b then .body else .inverse
  | none =>
    match helper, a.values with
    | .each, [] => .error (.missingArgument "each" 0)
    | .each, value :: _ =>
      match turns? value locals with
      | some [] => .ok .inverse
      | some scopes => .ok (.over scopes)
      | none => .ok .inverse
    | .within, [] => .error (.missingArgument "with" 0)
    | .within, value :: _ =>
      if isTruthy false value.json then .ok (.over [value.scope locals]) else .ok .inverse
    | .raw, _ => .ok .body
    | helper, _ => (helper.answer a).map .say

def Call.course (call : Call) (locals : List String) (data : Json) (scopes : List Scope) : Except Reason Course := do
  let name ← call.name.nameIn data scopes
  let arguments ← argumentsIn data scopes call.arguments
  match Helper.ofName? name with
  | some helper => helper.course arguments locals
  | none => throw (.noHelper name)

def Call.decorate (call : Call) (body : Option (List Node)) (data : Json) (f : Filling) : Except Reason Filling := do
  let name ← call.name.nameIn data f.scopes
  let arguments ← argumentsIn data f.scopes call.arguments
  if name ≠ "inline" then throw (.noDecorator name)
  match arguments.values, body with
  | [], _ => throw (.missingArgument "inline" 0)
  | ⟨.string part, _⟩ :: _, some body => return { f with parts := (part, body) :: f.parts }
  | ⟨.string _, _⟩ :: _, none => throw .bodyRequired
  | _ :: _, _ => throw (.wrongKind "String")

/-- Gives an error the place of the tag around it, unless it knows a place further inside. -/
def located {α : Type} (place : Option Position) (x : Except RenderError α) : Except RenderError α :=
  x.mapError fun e => { e with place := e.place.or place }

def because {α : Type} (x : Except Reason α) : Except RenderError α := x.mapError (⟨none, ·⟩)

def ownName : String := "document"

def bodyName : String := "@partial-block"

/-- The nodes that are included under a name. Where there are none, the body of the inclusion stands in. -/
def Filling.part? (f : Filling) (name : String) (root : List Node) (body : Option (List Node)) : Option (List Node) :=
  if name = bodyName then body
  else ((Keyed.lookup? name f.parts).or (if name = ownName then some root else none)).or body

/-- The members of a value: those of an object, or the items of a list or the characters of a text under their
indexes. -/
def membersOf : Json → List (String × Json)
  | .object members => members
  | .array items => items.zipIdx.foldl (fun members (item, i) => Keyed.insert (toString i) item members) []
  | .string s =>
    s.toList.zipIdx.foldl (fun members (c, i) => Keyed.insert (toString i) (.string c.toString) members) []
  | _ => []

/-- The scope of an included part. It stands on the first argument, or else where the inclusion stands; options are
added to the members of that, and give names as well. -/
def partScope (a : Arguments) (data : Json) (scopes : List Scope) : Except Reason Scope := do
  let value ← match a.values with
    | value :: _ => pure value
    | [] => (scopes.headD .root).look data []
  if a.options.isEmpty then
    let base := match a.values with
      | value :: _ => value.base
      | [] => (scopes.headD .root).base
    return ⟨base, [], []⟩
  else
    let merged := a.options.foldl (fun members (key, value) => Keyed.insert key value.json members) (membersOf value.json)
    return ⟨.value (.object merged), [], a.options.map fun (key, value) => (key, .value value.json)⟩

abbrev Expansion := List Node → Filling → Except RenderError Filling

/-- The indent of lines that are indented by an inclusion inside of an indented one. -/
def deeperIndent (outer inner : Option String) : Option String :=
  match outer, inner with
  | some outer, some inner => some (outer ++ inner)
  | outer, inner => outer.or inner

/-- Writes an included part, of which only its text stays. The body of the inclusion is filled first, in the scope of
the part but with the names of the place that it is written at; parts named in it are known to the part. -/
def Call.includePart (call : Call) (indent : Option String) (body : Option (List Node)) (data : Json)
    (root : List Node) (expand : Expansion) (f : Filling) : Except RenderError Filling := do
  let name ← because (call.name.nameIn data f.scopes)
  let arguments ← because (argumentsIn data f.scopes call.arguments)
  if f.atDocument && name == ownName then throw ⟨none, .ownPart⟩
  let indent := deeperIndent f.indent indent
  match if name = bodyName then f.body else none with
  | some text => return { f with indent := indent }.write text
  | none =>
    match f.part? name root body with
    | none => throw ⟨none, if name = bodyName then .noBody else .noPart name⟩
    | some nodes =>
      let scope ← because (partScope arguments data f.scopes)
      let inside := { f.push scope with atDocument := name == ownName && (Keyed.lookup? name f.parts).isNone }
      let inside ← match body with
        | none => pure { inside with body := none }
        | some body =>
          let filled ← expand body { inside with written := "", atDocument := false, indent := none, indentDue := false }
          pure { inside with parts := filled.parts, body := some filled.written }
      expand nodes { inside with indent := indent }

def Filling.inside (fill : Filling → Except RenderError Filling) (f : Filling) (scope : Scope) :
    Except RenderError Filling := do
  let after ← fill (f.nested.push scope)
  return { after with scopes := f.scopes }

/-- Writes what a block comes to, given how its body is written and what is done where it is not. -/
def Course.fill (course : Course) (body otherwise : Filling → Except RenderError Filling) (f : Filling) :
    Except RenderError Filling :=
  match course with
  | .body => body f.nested
  | .inverse => otherwise f
  | .over scopes => do
    let after ← scopes.foldlM (Filling.inside body) f
    return { after with parts := f.parts }
  | .say answer => .ok (f.say true answer)

def Filling.leave (f after : Filling) : Filling :=
  { f with written := after.written, wrote := after.wrote, endsLine := after.endsLine }

mutual
def Node.fill (data : Json) (root : List Node) (expand : Expansion) : Node → Filling → Except RenderError Filling
  | .text text, f => .ok (f.write text)
  | .print place escaped call, f =>
    located (some place) do
      match ← because (call.answer data f.scopes) with
      | (answer, true) => f.aside false fun f => .ok (f.say escaped answer)
      | (answer, false) => return f.say escaped answer
  | .decorate place call body, f => located (some place) (because (call.decorate body data f))
  | .«include» place call indent alone body, f =>
    located (some place) (f.aside alone fun f => return f.leave (← call.includePart indent body data root expand f))
  | .block place call locals alone body inverse, f =>
    located place do
      let course ← because (call.course locals data f.scopes)
      let otherwise := match inverse with
        | some inverse => fun f => fillAll data root expand inverse (Filling.nested f)
        | none => .ok
      f.aside alone (course.fill (fillAll data root expand body) otherwise)

def fillAll (data : Json) (root : List Node) (expand : Expansion) : List Node → Filling → Except RenderError Filling
  | [], f => .ok f
  | node :: nodes, f => do
    let f ← node.fill data root expand f
    fillAll data root expand nodes f
end

def greatestNesting : Nat := 1000

/-- Writes nodes whose inclusions lie at most so deep. -/
def fillUnder (data : Json) (root : List Node) : Nat → Expansion
  | 0, _, _ => .error ⟨none, .tooDeep⟩
  | depth + 1, nodes, f => fillAll data root (fillUnder data root depth) nodes f

def Template.fill (template : Template) (data : Json) : Except RenderError String :=
  (fillUnder data template.nodes greatestNesting template.nodes .start).map (·.written)

end Letterpress.Placeholder
