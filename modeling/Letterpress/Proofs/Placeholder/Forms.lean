import Letterpress.Proofs.Placeholder.Slots
import Mathlib.Data.List.TakeWhile

/-! Forms: sources that have no other placeholders than slots. A form can be read, and whatever data it is filled with, the
result has the angle brackets and double quotes of the texts around its slots and no others. -/
namespace Letterpress.Placeholder
open Letterpress.Text

/-- Each slot of a source with the text before it, and the text behind the last one. -/
structure Form where
  fields : List (String × Slot)
  last : String

namespace Form

def source (form : Form) : List Char :=
  form.fields.flatMap (fun field => field.1.toList ++ field.2.source) ++ form.last.toList

def texts (form : Form) : List String := form.fields.map (·.1) ++ [form.last]

end Form

/-- A tag may follow a text in which none is opened, unless a brace or a backslash touches it. -/
structure Leads (s : List Char) : Prop where
  plain : ¬ doubleOpen <:+: s ++ ['\x7b']
  stops : s.getLast? ≠ some '\\'

structure Form.IsSound (form : Form) : Prop where
  slots : ∀ field ∈ form.fields, field.2.isSound = true
  texts : ∀ field ∈ form.fields, Leads field.1.toList
  last : ¬ doubleOpen <:+: form.last.toList

/-- What tags and quoted attributes are made of. -/
def isEdge (c : Char) : Bool := c == '<' || c == '>' || c == '"'

def edges (s : List Char) : List Char := s.filter isEdge

variable {s t rest : List Char} {fuel : Nat} {place : Position}

private theorem stripLead?_of_leads (filled : s ≠ []) (plain : ¬ doubleOpen <:+: s ++ ['\x7b']) :
    stripLead? doubleOpen (s ++ (doubleOpen ++ rest)) = none := by
  apply stripLead?_eq_none
  rintro ⟨t,same⟩
  obtain ⟨c,s,rfl⟩ := List.exists_cons_of_ne_nil filled
  apply plain
  cases s with
  | nil =>
    obtain rfl : '\x7b' = c := (List.cons.inj same).1
    exact List.infix_rfl
  | cons d s =>
    obtain ⟨rfl,behind⟩ : '\x7b' = c ∧ _ := List.cons.inj same
    obtain rfl : '\x7b' = d := (List.cons.inj behind).1
    exact (List.prefix_append doubleOpen (s ++ ['\x7b'])).isInfix

private theorem Leads.tail {c : Char} (leads : Leads (c :: s)) : Leads s where
  plain within := leads.plain (within.trans (List.suffix_cons c _).isInfix)
  stops ends := leads.stops (by rw [List.getLast?_cons,ends]; rfl)

/-- A backslash takes no tag away that it does not touch. -/
theorem stripLead?_behind_backslashes (leads : Leads ('\\' :: s)) :
    stripLead? doubleOpen ((s ++ (doubleOpen ++ rest)).dropWhile (· == '\\')) = none := by
  have left : s.dropWhile (· == '\\') ≠ [] := by
    intro slashes
    have all := List.dropWhile_eq_nil_iff.mp slashes
    apply leads.stops
    cases ends : s.getLast? with
    | none =>
      rw [List.getLast?_eq_none_iff.mp ends]
      rfl
    | some d =>
      have same : d = '\\' := by simpa using all d (List.mem_of_getLast? ends)
      rw [List.getLast?_cons,ends,same]
      rfl
  have cut : (s ++ (doubleOpen ++ rest)).dropWhile (· == '\\') = s.dropWhile (· == '\\') ++ (doubleOpen ++ rest) := by
    rw [List.dropWhile_append,if_neg (by simpa using left)]
  have trailing : s.dropWhile (· == '\\') ++ ['\x7b'] <:+ s ++ ['\x7b'] :=
    ⟨s.takeWhile (· == '\\'),by rw [← List.append_assoc,List.takeWhile_append_dropWhile]⟩
  rw [cut]
  exact stripLead?_of_leads left fun within => leads.tail.plain (within.trans trailing.isInfix)

/-- The text before a tag ends where the tag begins. -/
theorem scanRun_of_leads (leads : Leads s) : scanRun doubleOpen (s ++ (doubleOpen ++ rest)) = (s, s, doubleOpen ++ rest) := by
  induction s with
  | nil =>
    rw [List.nil_append,doubleOpen,List.cons_append,scanRun]
    simp [stripLead?]
  | cons c s ih =>
    have here : stripLead? doubleOpen (c :: s ++ (doubleOpen ++ rest)) = none :=
      stripLead?_of_leads (List.cons_ne_nil c s) leads.plain
    have later := ih leads.tail
    rw [List.cons_append] at here ⊢
    rw [scanRun]
    by_cases backslash : c = '\\'
    · subst backslash
      simp [here,stripLead?_behind_backslashes leads,later]
    · simp [here,backslash,later]

/-- A text between tags that reads as it stands. -/
def Run.ofText (text : String) : Run := ⟨text.toList, text.toList, text.toList.all isGap⟩

/-- A tag is cut off with the text before it. -/
theorem piecesFrom?_tag {text : String} (leads : Leads text.toList) {tag : List Char} {mark : Mark}
    (read : mark? (doubleOpen ++ tag) = some (mark, rest)) (fuel : Nat) (place : Position) :
    ∃ next, piecesFrom? (fuel + 1) false place (text.toList ++ (doubleOpen ++ tag)) =
      (piecesFrom? fuel mark.tag.opensVerbatim next rest).map fun others =>
        { others with pieces := ⟨.ofText text, mark, text.toList.foldl Position.advance place⟩ :: others.pieces } := by
  have scanned : Run.scan false (text.toList ++ (doubleOpen ++ tag)) = (.ofText text, doubleOpen ++ tag) := by
    simp only [Run.scan,Bool.false_eq_true,if_false,scanRun_of_leads leads]
    rfl
  have remains : (doubleOpen ++ tag).isEmpty = false := rfl
  refine ⟨(readPart (doubleOpen ++ tag) rest).foldl Position.advance (text.toList.foldl Position.advance place),?_⟩
  rw [piecesFrom?,scanned]
  simp only [remains,Bool.false_eq_true,if_false,read,Option.bind_eq_bind,Option.bind_some,Option.map_eq_bind]
  rfl

theorem piecesFrom?_text {text : String} (plain : ¬ doubleOpen <:+: text.toList) (fuel : Nat) (place : Position) :
    piecesFrom? (fuel + 1) false place text.toList = some ⟨[], .ofText text⟩ := by
  simp [piecesFrom?,Run.scan,scanRun_of_plain plain,Run.ofText]

/-- A tag that prints something harmless, and the text before it. -/
structure Piece.IsSlot (piece : Piece) (text : String) : Prop where
  run : piece.run = .ofText text
  mark : ∃ call : Call, call.IsHarmless ∧ piece.mark = ⟨.print true call, false, false⟩

private theorem pieces_of_form {last : String} (plain : ¬ doubleOpen <:+: last.toList) {fields : List (String × Slot)}
    (sound : ∀ field ∈ fields, field.2.isSound = true) (leads : ∀ field ∈ fields, Leads field.1.toList)
    (enough : fields.length < fuel) (place : Position) :
    ∃ pieces, piecesFrom? fuel false place (Form.source ⟨fields, last⟩) = some ⟨pieces, .ofText last⟩ ∧
      List.Forall₂ Piece.IsSlot pieces (fields.map (·.1)) := by
  obtain ⟨fuel,rfl⟩ : ∃ less, fuel = less + 1 := ⟨fuel - 1,by omega⟩
  induction fields generalizing fuel place with
  | nil =>
    refine ⟨[],?_,.nil⟩
    rw [Form.source,List.flatMap_nil,List.nil_append]
    exact piecesFrom?_text plain fuel place
  | cons field fields ih =>
    -- one unit of fuel for each slot, and the last one for the text behind them
    obtain ⟨fuel,rfl⟩ : ∃ less, fuel = less + 1 := ⟨fuel - 1,by simp at enough; omega⟩
    obtain ⟨call,harmless,read⟩ := mark?_slot (sound field List.mem_cons_self) (Form.source ⟨fields, last⟩)
    rw [Slot.source,List.append_assoc] at read
    obtain ⟨next,cut⟩ := piecesFrom?_tag (leads field List.mem_cons_self) read (fuel + 1) place
    have split : Form.source ⟨field :: fields, last⟩ =
        field.1.toList ++ (doubleOpen ++ (field.2.body ++ doubleClose ++ Form.source ⟨fields, last⟩)) := by
      simp [Form.source,Slot.source]
    have shorter : fields.length < fuel + 1 := by simpa using enough
    obtain ⟨pieces,found,slots⟩ := ih (fun f member => sound f (List.mem_cons_of_mem _ member))
      (fun f member => leads f (List.mem_cons_of_mem _ member)) next fuel shorter
    refine ⟨⟨.ofText field.1, ⟨.print true call, false, false⟩, field.1.toList.foldl Position.advance place⟩ :: pieces,?_,
      .cons ⟨rfl,call,harmless,rfl⟩ slots⟩
    rw [split,cut]
    change (piecesFrom? (fuel + 1) false next _).map _ = _
    rw [found]
    rfl

private theorem isNested_of_slots {pieces : List Piece} {texts : List String} (slots : List.Forall₂ Piece.IsSlot pieces texts) :
    isNested (pieces.map (·.mark.tag)) = true := by
  have level : (pieces.map (·.mark.tag)).foldlM (fun levels tag => tag.nest? levels) ([] : List Level) = some [] := by
    induction slots with
    | nil => rfl
    | cons slot _ ih =>
      obtain ⟨call,-,mark⟩ := slot.mark
      rw [List.map_cons,List.foldlM_cons,mark]
      exact ih
  rw [isNested,level]
  rfl

/-- The tag of a slot with what is left of the text before it, which is all of it. -/
structure Trimmed.IsSlot (trimmed : Trimmed) (text : String) : Prop where
  text : trimmed.text = if text = "" then none else some text.toList
  tag : ∃ call : Call, call.IsHarmless ∧ trimmed.tag = .print true call

theorem after_ofText (text : String) :
    (Run.ofText text).after ⟨false, false⟩ = (if text = "" then none else some text.toList, ⟨false, false⟩) := by
  by_cases empty : text = ""
  · subst empty
    rfl
  · simp [Run.after,Run.ofText,empty]

/-- What prints a value takes nothing from the texts around it. -/
theorem trimFrom_of_slots {pieces : List Piece} {texts : List String} (slots : List.Forall₂ Piece.IsSlot pieces texts)
    (first : Bool) (last : Run) : ∃ trimmed, trimFrom first ⟨false, false⟩ last pieces = (trimmed, ⟨false, false⟩) ∧
      List.Forall₂ Trimmed.IsSlot trimmed texts := by
  induction slots generalizing first with
  | nil => exact ⟨[],rfl,.nil⟩
  | @cons piece text pieces texts slot _ ih =>
    obtain ⟨trimmed,found,slots⟩ := ih false
    obtain ⟨call,harmless,mark⟩ := slot.mark
    have step : ∃ indent, trimFrom first ⟨false, false⟩ last (piece :: pieces) =
        (⟨if text = "" then none else some text.toList, .print true call, piece.place, false, indent⟩ :: trimmed,
          ⟨false, false⟩) := by
      unfold trimFrom
      simp only [slot.run,after_ofText,mark,Tag.takesLines,Tag.isComment,Bool.false_and,Bool.false_eq_true,if_false,found]
      exact ⟨_,rfl⟩
    obtain ⟨indent,step⟩ := step
    exact ⟨_,step,.cons ⟨rfl,call,harmless,rfl⟩ slots⟩

private theorem edges_append : edges (s ++ t) = edges s ++ edges t := List.filter_append ..

private theorem edges_escapeHtml (text : String) : edges (escapeHtml text).toList = [] := by
  have escaped (c : Char) : edges (escapedChar c) = [] := by
    unfold escapedChar
    split
    all_goals try (first | rfl | decide)
    simp_all [edges,isEdge]
  rw [escapeHtml,String.toList_ofList,edges,List.filter_flatMap]
  exact List.flatMap_eq_nil_iff.mpr fun c _ => escaped c

/-- Where slots are filled: outside of all blocks and inclusions. -/
structure Filling.IsOpen (f : Filling) : Prop where
  scopes : f.scopes = [.root]
  indent : f.indent = none

private theorem Filling.IsOpen.write {f : Filling} (ready : f.IsOpen) (text : String) :
    (f.write text).IsOpen ∧ edges (f.write text).written.toList = edges f.written.toList ++ edges text.toList := by
  obtain ⟨scopes,indent⟩ := ready
  by_cases empty : text = ""
  · subst empty
    exact ⟨⟨scopes,indent⟩,by simp [Filling.write,edges]⟩
  · refine ⟨⟨?_,?_⟩,?_⟩
    · simpa [Filling.write,empty] using scopes
    · simpa [Filling.write,empty] using indent
    · simp [Filling.write,empty,indent,edges_append]

private theorem Filling.IsOpen.say {f : Filling} (ready : f.IsOpen) {answer : Answer}
    (escaped : (∃ json, answer = .value json) ∨ ∃ text, answer = .text (escapeHtml text)) :
    (f.say true answer).IsOpen ∧ edges (f.say true answer).written.toList = edges f.written.toList := by
  rcases escaped with ⟨json,rfl⟩ | ⟨text,rfl⟩
  · obtain ⟨going,written⟩ := ready.write (escapeHtml (printed json))
    rw [edges_escapeHtml,List.append_nil] at written
    exact ⟨going,written⟩
  · refine ⟨⟨ready.scopes,ready.indent⟩,?_⟩
    simp [Filling.say,Filling.append,edges_append,edges_escapeHtml]

/-- Nodes that can always be filled, and then add some edges. -/
def Adds (nodes : List Node) (added : List Char) : Prop :=
  ∀ members root expand f, f.IsOpen → ∃ after : Filling, fillAll (.object members) root expand nodes f = .ok after ∧ after.IsOpen ∧
    edges after.written.toList = edges f.written.toList ++ added

private theorem fillAll_append (data : Json) (root : List Node) (expand : Expansion) (before after : List Node) (f : Filling) :
    fillAll data root expand (before ++ after) f =
      fillAll data root expand before f >>= fun g => fillAll data root expand after g := by
  induction before generalizing f with
  | nil => rw [List.nil_append,fillAll]; rfl
  | cons node before ih =>
    rw [List.cons_append,fillAll,fillAll,bind_assoc]
    congr 1
    funext g
    exact ih g

private theorem Adds.append {before after : List Node} {first second : List Char} (left : Adds before first)
    (right : Adds after second) : Adds (before ++ after) (first ++ second) := by
  intro members root expand f ready
  obtain ⟨g,filled,ready,written⟩ := left members root expand f ready
  obtain ⟨h,refilled,ready,rewritten⟩ := right members root expand g ready
  refine ⟨h,?_,ready,by rw [rewritten,written,List.append_assoc]⟩
  rw [fillAll_append,filled]
  exact refilled

private theorem adds_text (text : String) : Adds [.text text] (edges text.toList) := by
  intro members root expand f ready
  exact ⟨f.write text,rfl,ready.write text⟩

theorem fill_print (data : Json) (root : List Node) (expand : Expansion) (place : Position) (call : Call) (f : Filling) :
    (Node.print place true call).fill data root expand f = located (some place) (do
      match ← because (call.answer data f.scopes) with
      | (answer, true) => f.aside false fun f => .ok (f.say true answer)
      | (answer, false) => return f.say true answer) := rfl

private theorem Filling.IsOpen.aside {f : Filling} (ready : f.IsOpen) {answer : Answer}
    (escaped : (∃ json, answer = .value json) ∨ ∃ text, answer = .text (escapeHtml text)) :
    ∃ after : Filling, f.aside false (fun f => (.ok (f.say true answer) : Except RenderError Filling)) = .ok after ∧ after.IsOpen ∧
      edges after.written.toList = edges f.written.toList := by
  have inner : Filling.IsOpen { f with wrote := false, indentDue := false && (f.endsLine || f.indentDue) } :=
    ⟨ready.scopes,ready.indent⟩
  obtain ⟨after,written⟩ := inner.say escaped
  exact ⟨_,rfl,⟨after.scopes,after.indent⟩,written⟩

private theorem adds_print {call : Call} (harmless : call.IsHarmless) (place : Position) : Adds [.print place true call]
    [] := by
  intro members root expand f ready
  obtain ⟨answer,given,answered,escaped⟩ := harmless.answers members
  rw [List.append_nil]
  cases given with
  | false =>
    refine ⟨f.say true answer,?_,ready.say escaped⟩
    rw [fillAll,fill_print,ready.scopes,answered]
    rfl
  | true =>
    obtain ⟨after,said,going,written⟩ := ready.aside escaped
    refine ⟨after,?_,going,written⟩
    rw [fillAll,fill_print,ready.scopes,answered]
    change (located _ (f.aside false fun f => .ok (f.say true answer)) >>= _) = _
    rw [said]
    rfl

/-- A tree at its outermost level, with nodes that add some edges. -/
structure Building.Adds (b : Building) (added : List Char) : Prop where
  level : b.opened = []
  nodes : Placeholder.Adds b.nodes.reverse added

private theorem Building.Adds.add {b : Building} {first second : List Char} (before : b.Adds first) {node : Node}
    (after : Placeholder.Adds [node] second) : (b.add node).Adds (first ++ second) := by
  obtain ⟨level,nodes⟩ := before
  have outermost : b.add node = { b with nodes := node :: b.nodes } := by
    rw [Building.add,level]
  rw [outermost]
  refine ⟨level,?_⟩
  rw [List.reverse_cons]
  exact nodes.append after

private theorem Building.Adds.addText {b : Building} {added : List Char} (before : b.Adds added) (text : String) :
    (b.addText (if text = "" then none else some text.toList)).Adds (added ++ edges text.toList) := by
  by_cases empty : text = ""
  · subst empty
    simpa [Building.addText,edges] using before
  · rw [if_neg empty,Building.addText,String.ofList_toList]
    exact before.add (adds_text text)

private theorem Building.Adds.step {b : Building} {added : List Char} (before : b.Adds added) {t : Trimmed} {text : String}
    (slot : t.IsSlot text) : ∃ next, b.step t = .ok next ∧ next.Adds (added ++ edges text.toList) := by
  obtain ⟨call,harmless,tag⟩ := slot.tag
  have printed := (before.addText text).add (adds_print harmless t.place)
  rw [List.append_nil] at printed
  refine ⟨_,?_,printed⟩
  rw [Building.step,slot.text,tag]
  simp only [Tag.call?,Option.bind_some,harmless.valid]
  rfl

private theorem Building.Adds.steps {trimmed : List Trimmed} {texts : List String}
    (slots : List.Forall₂ Trimmed.IsSlot trimmed texts) {b : Building} {added : List Char} (before : b.Adds added) :
    ∃ next, trimmed.foldlM Building.step b = .ok next ∧ next.Adds (added ++ texts.flatMap fun text => edges text.toList) := by
  induction slots generalizing b added with
  | nil => exact ⟨b,rfl,by simpa using before⟩
  | cons slot _ ih =>
    obtain ⟨next,stepped,after⟩ := before.step slot
    obtain ⟨last,run,adds⟩ := ih after
    refine ⟨last,?_,by simpa using adds⟩
    rw [List.foldlM_cons,stepped]
    exact run

private theorem Form.length_fields_lt (form : Form) : form.fields.length < form.source.length + 1 := by
  have spread : form.fields.length ≤ (form.fields.flatMap fun field => field.1.toList ++ field.2.source).length := by
    induction form.fields with
    | nil => simp
    | cons field fields ih =>
      have filled : 0 < field.2.source.length := by simp [Slot.source,doubleOpen]
      simp only [List.flatMap_cons,List.length_append,List.length_cons]
      omega
  simp only [Form.source,List.length_append]
  omega

/-- A form can be read, and filled with any data, and what it comes out as has the edges of its texts. -/
theorem filled_of_form {form : Form} (sound : form.IsSound) :
    ∃ template, Template.ofSource (String.ofList form.source) = .ok template ∧
      ∀ members, ∃ text, template.fill (.object members) = .ok text ∧
        edges text.toList = form.texts.flatMap fun text => edges text.toList := by
  obtain ⟨pieces,found,slots⟩ := pieces_of_form sound.last sound.slots sound.texts form.length_fields_lt .start
  obtain ⟨trimmed,left,tags⟩ := trimFrom_of_slots slots true (.ofText form.last)
  have start : Building.Adds ⟨[], []⟩ [] := ⟨rfl,fun _ _ _ f ready => ⟨f,rfl,ready,by simp⟩⟩
  obtain ⟨built,steps,adds⟩ := start.steps tags
  have whole := adds.addText form.last
  refine ⟨⟨(built.addText (if form.last = "" then none else some form.last.toList)).nodes.reverse⟩,?_,fun members => ?_⟩
  · have cut : pieces? form.source = some ⟨pieces, .ofText form.last⟩ := found
    have trimmedAll : Pieces.trim ⟨pieces, .ofText form.last⟩ =
        (trimmed, if form.last = "" then none else some form.last.toList) := by
      simp only [Pieces.trim,left,after_ofText]
    rw [Template.ofSource,String.toList_ofList,cut]
    simp only [isNested_of_slots slots,Bool.not_true,Bool.false_eq_true,if_false,trimmedAll,steps]
    rfl
  · obtain ⟨after,filled,-,written⟩ := whole.nodes members (built.addText _).nodes.reverse
      (fillUnder (.object members) (built.addText (if form.last = "" then none else some form.last.toList)).nodes.reverse 999) .start
      ⟨rfl,rfl⟩
    refine ⟨after.written,?_,?_⟩
    · rw [Template.fill]
      change (fillAll _ _ (fillUnder _ _ 999) _ _).map _ = _
      rw [filled]
      rfl
    · rw [written]
      simp [Filling.start,edges,Form.texts]

end Letterpress.Placeholder
