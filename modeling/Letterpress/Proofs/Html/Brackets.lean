import Letterpress.Proofs.Html.Tags
import Letterpress.Proofs.Html.Writer

/-! Lines in brackets. A reader keeps the tags that stand open, each with whether it stands in a conditional comment, and a tag
may only be closed where it was opened last. Where the calls of a page are read to the end and every opening and closing line
has one tag, the depth of the writer is the number of tags that stand open outside of comments. -/
namespace Letterpress.Html

/-- A tag that stands open. It is hidden in a conditional comment from all readers but one. -/
structure Bracket where
  hidden : Bool
  name : String
  deriving DecidableEq

def isConditional (html : String) : Bool := conditional.toList.isPrefixOf html.toList

/-- The tags of a call, each with whether it is hidden. A line that is no conditional comment is whole in itself. -/
def Call.marks : Call → List (Bool × Mark)
  | opening html => (tagsIn html).map (false, ·)
  | closing html => (tagsIn html).map (false, ·)
  | line html => if isConditional html then (tagsIn html).map (true, ·) else []
  | content _ => []

/-- An opening line opens one tag, a closing line closes one. -/
def Call.Single : Call → Prop
  | opening html => ∃ name, tagsIn html = [.opens name]
  | closing html => ∃ name, tagsIn html = [.closes name]
  | _ => True

/-- Meets a tag where others stand open, the last one first. -/
def meet? (standing : List Bracket) : Bool × Mark → Option (List Bracket)
  | (hidden, .opens name) => some (⟨hidden, name⟩ :: standing)
  | (hidden, .closes name) =>
    match standing with
    | [] => none
    | last :: below => if last = ⟨hidden, name⟩ then some below else none

/-- What stands open behind the marks, or nothing if some tag is closed that was not the last one. -/
def read? (standing : List Bracket) (marks : List (Bool × Mark)) : Option (List Bracket) := marks.foldlM meet? standing

/-- How many tags stand open outside of comments. -/
def height (standing : List Bracket) : Nat := standing.countP (!·.hidden)

/-- However the text goes on, it is no conditional comment. -/
def Otherwise (a : String) : Prop := ∀ rest, isConditional (a ++ rest) = false

variable {standing after : List Bracket} {marks more : List (Bool × Mark)} {calls : List Call} {name : String}
  {w : Writer} {base : Nat}

private theorem read?_append (standing : List Bracket) (marks more : List (Bool × Mark)) :
    read? standing (marks ++ more) = (read? standing marks).bind (read? · more) := List.foldlM_append

private theorem eq_cons_of_meet?_closes {hidden : Bool} (met : meet? standing (hidden, .closes name) = some after) :
    standing = ⟨hidden, name⟩ :: after := by
  cases standing with
  | nil => contradiction
  | cons last below =>
    simp only [meet?,Option.ite_none_right_eq_some,Option.some.injEq] at met
    rw [met.1,met.2]

theorem Otherwise.append {a : String} (otherwise : Otherwise a) (b : String) : Otherwise (a ++ b) := fun rest => by
  rw [String.append_assoc]
  exact otherwise (b ++ rest)

theorem Otherwise.plain {a : String} (otherwise : Otherwise a) : isConditional a = false := by
  have whole := otherwise ""
  rwa [String.append_empty] at whole

theorem otherwise_ofList (s : List Char)
    (checked : (conditional.toList.isPrefixOf s || s.isPrefixOf conditional.toList) = false) : Otherwise (String.ofList s) := by
  obtain ⟨longer,shorter⟩ := Bool.or_eq_false_iff.mp checked
  intro rest
  rw [isConditional,String.toList_append,String.toList_ofList,Bool.eq_false_iff,ne_eq,List.isPrefixOf_iff_prefix]
  intro begins
  rcases List.prefix_or_prefix_of_prefix begins (List.prefix_append s rest.toList) with lead | lead
  · rw [List.isPrefixOf_iff_prefix.mpr lead] at longer
    contradiction
  · rw [List.isPrefixOf_iff_prefix.mpr lead] at shorter
    contradiction

theorem Begun.isConditional {html : String} (begun : Begun conditional name html) (rest : String) :
    isConditional (html ++ rest) = true := by
  obtain ⟨attributes,_,spelled⟩ := begun
  rw [Html.isConditional,List.isPrefixOf_iff_prefix,String.toList_append,spelled,List.append_assoc]
  exact List.prefix_append _ _

/-- Whatever stands open before, these marks close what they open and nothing else. -/
def Matched (marks : List (Bool × Mark)) : Prop := ∀ standing, read? standing marks = some standing

theorem matched_nil : Matched [] := fun _ => rfl

private theorem Matched.append (first : Matched marks) (second : Matched more) : Matched (marks ++ more) := by
  intro standing
  rw [read?_append,first,Option.bind_some,second]

private theorem Matched.within (hidden : Bool) (name : String) (matched : Matched marks) :
    Matched ((hidden, .opens name) :: marks ++ [(hidden, .closes name)]) := by
  intro standing
  have opened : read? standing ((hidden, .opens name) :: marks) = some (⟨hidden, name⟩ :: standing) := matched _
  have closed : read? (⟨hidden, name⟩ :: standing) [(hidden, .closes name)] = some standing := by simp [read?,meet?]
  rw [read?_append,opened,Option.bind_some,closed]

/-- Tags opened one after the other and closed the other way around. -/
theorem Matched.around (hidden : Bool) (names : List String) (matched : Matched marks) :
    Matched ((names.map fun name => (hidden, .opens name)) ++ marks ++
      names.reverse.map fun name => (hidden, .closes name)) := by
  induction names with
  | nil => simpa using matched
  | cons name names ih =>
    have whole := ih.within hidden name
    simpa using whole

private theorem meet?_visible {mark : Bool × Mark} (met : meet? standing mark = some after) :
    read? (standing.filter (!·.hidden)) ([mark].filter (!·.1)) = some (after.filter (!·.hidden)) := by
  obtain ⟨hidden,mark⟩ := mark
  cases mark with
  | opens name =>
    cases met
    cases hidden <;> rfl
  | closes name =>
    cases eq_cons_of_meet?_closes met
    cases hidden <;> simp [read?,meet?]

/-- A reader who does not see what is hidden meets the other tags in the same order. -/
theorem read?_visible (read : read? standing marks = some after) :
    read? (standing.filter (!·.hidden)) (marks.filter (!·.1)) = some (after.filter (!·.hidden)) := by
  induction marks generalizing standing with
  | nil =>
    cases read
    rfl
  | cons mark marks ih =>
    obtain ⟨next,met,rest⟩ := Option.bind_eq_some_iff.mp read
    have parts : (mark :: marks).filter (!·.1) = [mark].filter (!·.1) ++ marks.filter (!·.1) :=
      List.filter_append (p := fun mark => !mark.1) [mark] marks
    rw [parts,read?_append,meet?_visible met,Option.bind_some,ih rest]

private theorem height_of_hidden (hidden : ∀ mark ∈ marks, mark.1 = true) (read : read? standing marks = some after) :
    height after = height standing := by
  have visible := read?_visible read
  have unseen : marks.filter (!·.1) = [] := by
    rw [List.filter_eq_nil_iff]
    intro mark member
    simp [hidden mark member]
  rw [unseen] at visible
  have same : standing.filter (!·.hidden) = after.filter (!·.hidden) := Option.some.inj visible
  rw [height,height,List.countP_eq_length_filter,List.countP_eq_length_filter,same]

/-- A closing line that is read has a tag to close, so there the depth is not at the bottom. -/
theorem height_closing {html : String} (single : (Call.closing html).Single)
    (read : read? standing (Call.closing html).marks = some after) : height standing = height after + 1 := by
  obtain ⟨name,tags⟩ := single
  obtain ⟨next,met,rest⟩ : ∃ next, meet? standing (false, .closes name) = some next ∧ some next = some after := by
    rw [Call.marks,tags] at read
    exact Option.bind_eq_some_iff.mp read
  cases rest
  rw [eq_cons_of_meet?_closes met]
  simp [height]

private theorem Writer.step_depth {call : Call} (single : call.Single) (level : w.depth = base + height standing)
    (read : read? standing call.marks = some after) : (w.step call).depth = base + height after := by
  cases call with
  | line html =>
    have hidden : ∀ mark ∈ (Call.line html).marks, mark.1 = true := by
      rw [Call.marks]
      split
      · simp
      · exact List.forall_mem_nil _
    rw [step,line_depth,level,height_of_hidden hidden read]
  | content raw =>
    cases read
    rw [step,content_depth,level]
  | opening html =>
    obtain ⟨name,tags⟩ := single
    rw [Call.marks,tags] at read
    cases read
    rw [step,opening_depth,level]
    simp [height,Nat.add_assoc]
  | closing html =>
    have above := height_closing single read
    rw [step,closing_depth,level,above]
    omega

private theorem Writer.run_depth (base : Nat) (single : ∀ call ∈ calls, call.Single) (level : w.depth = base + height standing)
    (read : read? standing (calls.flatMap Call.marks) = some after) : (w.run calls).depth = base + height after := by
  induction calls generalizing w standing with
  | nil =>
    cases read
    exact level
  | cons call calls ih =>
    obtain ⟨own,others⟩ := List.forall_mem_cons.mp single
    rw [List.flatMap_cons,read?_append] at read
    obtain ⟨next,first,rest⟩ := Option.bind_eq_some_iff.mp read
    exact ih others (step_depth own level first) rest

/-- Every line that opens something opens one tag, every line that closes something closes one, and they match. -/
structure Bracketed (calls : List Call) : Prop where
  single : ∀ call ∈ calls, call.Single
  matched : Matched (calls.flatMap Call.marks)

/-- The two lines around some calls open and close the same element. -/
def Frames (name : String) (frame : String × String) : Prop :=
  tagsIn frame.1 = [.opens name] ∧ tagsIn frame.2 = [.closes name]

/-- Calls between two conditional comments. The one opens some elements, and the other closes them, the last one first. -/
inductive Enclosed (names : List String) : List Call → Prop
  | between {opening closing : String} {inside : List Call} (begins : isConditional opening = true)
      (ends : isConditional closing = true) (opens : tagsIn opening = names.map .opens)
      (closes : tagsIn closing = names.reverse.map .closes) (bracketed : Bracketed inside) :
      Enclosed names ([.line opening] ++ inside ++ [.line closing])

/-- Frames that are opened one after the other and closed the other way around, with calls between two conditional comments
inside of them. -/
inductive Housed (names : List String) : List Call → Prop
  | within {frames : List (String × String)} {boxes : List Call}
      (framed : ∀ frame ∈ frames, ∃ name, Frames name frame) (enclosed : Enclosed names boxes) :
      Housed names ((frames.map fun frame => .opening frame.1) ++ boxes ++ frames.reverse.map fun frame => .closing frame.2)

section Calls
variable {α : Type} {html opening closing : String} {inside rest : List Call} {frames : List (String × String)}
  {f : α → List Call} {xs : List α}

namespace Bracketed

theorem matched_visible (bracketed : Bracketed calls) :
    read? [] ((calls.flatMap Call.marks).filter (!·.1)) = some [] := read?_visible (bracketed.matched [])

theorem run_depth (bracketed : Bracketed calls) (w : Writer) : (w.run calls).depth = w.depth :=
  Writer.run_depth w.depth bracketed.single rfl (bracketed.matched [])

/-- Wherever a line closes, something stands open that was opened here. -/
theorem lt_depth (bracketed : Bracketed calls) {before after : List Call}
    (parts : calls = before ++ .closing html :: after) (w : Writer) : w.depth < (w.run before).depth := by
  have single := bracketed.single
  have matched := bracketed.matched []
  rw [parts,List.flatMap_append,List.flatMap_cons,read?_append] at matched
  rw [parts] at single
  obtain ⟨sooner,own⟩ := List.forall_mem_append.mp single
  obtain ⟨standing,first,rest⟩ := Option.bind_eq_some_iff.mp matched
  rw [read?_append] at rest
  obtain ⟨below,closed,_⟩ := Option.bind_eq_some_iff.mp rest
  have level := Writer.run_depth w.depth sooner rfl first
  have above := height_closing (own _ List.mem_cons_self) closed
  omega

theorem append (first : Bracketed inside) (second : Bracketed rest) : Bracketed (inside ++ rest) := by
  constructor
  · exact List.forall_mem_append.mpr ⟨first.single,second.single⟩
  · rw [List.flatMap_append]
    exact first.matched.append second.matched

theorem within (bracketed : Bracketed inside) (frames : Frames name (opening, closing)) :
    Bracketed (.opening opening :: inside ++ [.closing closing]) := by
  obtain ⟨opens,closes⟩ := frames
  constructor
  · simp only [List.forall_mem_append,List.forall_mem_cons]
    exact ⟨⟨⟨name,opens⟩,bracketed.single⟩,⟨name,closes⟩,List.forall_mem_nil _⟩
  · have whole := bracketed.matched.within false name
    simpa [Call.marks,opens,closes] using whole

/-- Frames around calls, the first one outermost. -/
theorem around (bracketed : Bracketed inside) (framed : ∀ frame ∈ frames, ∃ name, Frames name frame) :
    Bracketed ((frames.map fun frame => .opening frame.1) ++ inside ++ frames.reverse.map fun frame => .closing frame.2) := by
  induction frames with
  | nil => simpa using bracketed
  | cons frame frames ih =>
    obtain ⟨⟨name,own⟩,others⟩ := List.forall_mem_cons.mp framed
    have whole := (ih others).within own
    simpa using whole

end Bracketed

theorem bracketed_nil : Bracketed [] := ⟨List.forall_mem_nil _,matched_nil⟩

theorem bracketed_flatMap (each : ∀ x ∈ xs, Bracketed (f x)) : Bracketed (xs.flatMap f) := by
  induction xs with
  | nil => exact bracketed_nil
  | cons x xs ih =>
    obtain ⟨first,others⟩ := List.forall_mem_cons.mp each
    exact first.append (ih others)

theorem bracketed_of_each (each : ∀ call ∈ calls, Bracketed [call]) : Bracketed calls := by
  have parts : calls.flatMap (fun call => [call]) = calls := by simp
  exact parts ▸ bracketed_flatMap each

theorem bracketed_content (raw : String) : Bracketed [.content raw] := ⟨by simp [Call.Single],matched_nil⟩

theorem bracketed_line (plain : isConditional html = false) : Bracketed [.line html] := by
  have unmarked : [Call.line html].flatMap Call.marks = [] := by simp [Call.marks,plain]
  exact ⟨by simp [Call.Single],unmarked ▸ matched_nil⟩

theorem bracketed_comment (begins : isConditional html = true) (matched : Matched ((tagsIn html).map (true, ·))) :
    Bracketed [.line html] := by
  have marks : [Call.line html].flatMap Call.marks = (tagsIn html).map (true, ·) := by simp [Call.marks,begins]
  exact ⟨by simp [Call.Single],marks ▸ matched⟩

theorem Enclosed.bracketed {names : List String} (enclosed : Enclosed names calls) : Bracketed calls := by
  cases enclosed with
  | between begins ends opens closes bracketed =>
    constructor
    · simp only [List.forall_mem_append]
      exact ⟨⟨by simp [Call.Single],bracketed.single⟩,by simp [Call.Single]⟩
    · have whole := bracketed.matched.around true names
      simpa [Call.marks,begins,ends,opens,closes,Function.comp_def] using whole

theorem Housed.bracketed {names : List String} (housed : Housed names calls) : Bracketed calls := by
  cases housed with
  | within framed enclosed => exact enclosed.bracketed.around framed

end Calls
end Letterpress.Html
