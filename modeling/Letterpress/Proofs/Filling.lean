import Letterpress.Press.Plate
import Letterpress.Proofs.Placeholder.Conditional
import Letterpress.Proofs.Placeholder.Forms

/-! What values can do to a page. The values under keys come out escaped, so that the tags of a page and the quotes around its
attributes are those of its source, whoever supplies the values. Only words of the language of placeholders are no keys. -/
namespace Letterpress
open Placeholder

variable {form : Form} {page : Placeholder.Template} {key : String} {c : Recase} {cs : List Recase}

private theorem fillPage_of_fill {data : Json} {text : String} (filled : page.fill data = .ok text) :
    Plate.fillPage page data = .ok text := by
  rw [Plate.fillPage,filled]
  rfl

/-- Once its supplies are checked, a request is rendered by filling the page with its context. -/
theorem print_of_fill {definition : Template} {request : RenderRequest} {html : String}
    (checked : definition.checkSupplies request.supplies = .ok ()) (filled : page.fill (.object request.context) = .ok html) :
    Plate.print ⟨definition, page⟩ request = .ok ⟨request.templateId, html, request.context⟩ := by
  rw [Plate.print,checked,fillPage_of_fill filled]
  rfl

/-- A form is read as a page that every context fills, and what comes out has the angle brackets and double quotes of the texts
around the slots and no others. Requests of any users, with any fields, supplies and recipients, give such contexts. -/
theorem values_bring_no_markup (sound : form.IsSound) :
    ∃ page, Plate.readPage (String.ofList form.source) = .ok page ∧
      (∀ context, ∃ html, Plate.fillPage page (.object context) = .ok html ∧
        edges html.toList = form.texts.flatMap fun text => edges text.toList) ∧
      ∀ (definition : Template) (request : RenderRequest), definition.checkSupplies request.supplies = .ok () →
        ∃ rendered, Plate.print ⟨definition, page⟩ request = .ok rendered ∧
          edges rendered.html.toList = form.texts.flatMap fun text => edges text.toList := by
  obtain ⟨page,read,fills⟩ := filled_of_form sound
  refine ⟨page,?_,fun context => ?_,fun definition request checked => ?_⟩
  · rw [Plate.readPage,read]
    rfl
  · obtain ⟨html,filled,kept⟩ := fills context
    exact ⟨html,fillPage_of_fill filled,kept⟩
  · obtain ⟨html,filled,kept⟩ := fills request.context
    exact ⟨_,print_of_fill checked filled,kept⟩

def greetingForm : Form :=
  ⟨[("<p title=\"", .plain "subject"), ("\">Dear ", .upper "name"), (", ", .lower "team")], "</p>"⟩

private theorem isSound_greetingForm : greetingForm.IsSound where
  slots := by
    simp only [greetingForm,List.forall_mem_cons]
    exact ⟨by decide,by decide,by decide,by simp⟩
  texts := by
    simp only [greetingForm,List.forall_mem_cons]
    exact ⟨⟨by decide,by decide⟩,⟨by decide,by decide⟩,⟨by decide,by decide⟩,by simp⟩
  last := by decide

private theorem edges_greetingForm : (greetingForm.texts.flatMap fun text => edges text.toList) = "<\"\"><>".toList := by decide

theorem values_bring_no_markup_of_greetingForm : greetingForm.IsSound ∧
    ∃ page, Plate.readPage (String.ofList greetingForm.source) = .ok page ∧
      ∀ context, ∃ html, Plate.fillPage page (.object context) = .ok html ∧ edges html.toList = "<\"\"><>".toList := by
  obtain ⟨page,read,fills,_⟩ := values_bring_no_markup isSound_greetingForm
  rw [edges_greetingForm] at fills
  exact ⟨isSound_greetingForm,page,read,fills⟩

def Placeholder.Form.lone (slot : Slot) : Form := ⟨[("", slot)], ""⟩

private theorem not_readPage {source : String}
    (stuck : (pieces? source.toList).all (fun cut => !isNested (cut.pieces.map (·.mark.tag))) = true) :
    ¬ ∃ page, Plate.readPage source = .ok page := by
  rintro ⟨page,read⟩
  have refused : Placeholder.Template.ofSource source = .error .unreadable := by
    unfold Placeholder.Template.ofSource
    cases cut : pieces? source.toList with
    | none => rfl
    | some pieces =>
      rw [cut,Option.all_some,Bool.not_eq_true'] at stuck
      simp only [stuck]
      rfl
  rw [Plate.readPage,refused] at read
  contradiction

/-- A key that begins like the tag between the branches of a block is not read as a key, nor is a keyword behind a helper. -/
theorem keywords_are_no_keys :
    (¬ ∀ key, isKey key = true → Helper.ofName? key = none →
      ∃ page, Plate.readPage (String.ofList (Form.lone (.plain key)).source) = .ok page) ∧
    (¬ ∀ key, isKey key = true → Helper.ofName? key = none →
      ∃ page, Plate.readPage (String.ofList (Form.lone (.upper key)).source) = .ok page) ∧
    ¬ ∀ key, isKey key = true → Helper.ofName? key = none →
      ∃ page, Plate.readPage (String.ofList (Form.lone (.lower key)).source) = .ok page := by
  refine ⟨fun reads => ?_,fun reads => ?_,fun reads => ?_⟩
  · -- what is cut out here is the tag between two branches, which stands nowhere else
    exact not_readPage (by decide +kernel) (reads "elsewhere" (by decide) rfl)
  · exact not_readPage (by decide +kernel) (reads "as" (by decide) rfl)
  · exact not_readPage (by decide +kernel) (reads "else" (by decide) rfl)

private theorem readPage_wrappedTag (way : isWay key = true) (c : Recase) (cs : List Recase) :
    Plate.readPage (String.ofList (wrappedTag key c cs)) = .ok ⟨[.print .start true (wrappedCall key c cs)]⟩ := by
  rw [Plate.readPage,ofSource_wrappedTag way]
  rfl

private theorem fillPage_wrappedTag (way : isWay key = true) (c : Recase) (cs : List Recase) {context : List (String × Json)}
    {s : String} (found : Keyed.lookup? key context = some (.string s)) :
    Plate.fillPage ⟨[.print .start true (wrappedCall key c cs)]⟩ (.object context) = .ok (escapedEach (c :: cs) s) := by
  rw [Plate.fillPage,fill_of_text (answer_wrapped way found c cs)]
  rfl

private theorem readPage_shownIf (way : isWay key = true) (c : Recase) (cs : List Recase) (r : Relation) {text shown : String}
    (plain : isPlainText text.toList = true) (word : IsWord shown.toList) :
    Plate.readPage (String.ofList (shownIf (compared r key c cs text) shown)) =
      .ok ⟨[.block (some .start) (ifCall (comparedTerm r key c cs text)) [] false [.text shown] none]⟩ := by
  have valid : (comparedTerm r key c cs text).invalid? = none := by
    simp [comparedTerm,quotedTerm,Term.invalid?,invalidAmong?,Argument.invalid?,invalid?_wrappedTerm]
  rw [Plate.readPage,ofSource_shownIf (isArgument_compared r way c cs plain) valid word]
  rfl

private theorem fillPage_shownIf (way : isWay key = true) (c : Recase) (cs : List Recase) (r : Relation) (text shown : String)
    {context : List (String × Json)} {s : String} (found : Keyed.lookup? key context = some (.string s)) :
    Plate.fillPage ⟨[.block (some .start) (ifCall (comparedTerm r key c cs text)) [] false [.text shown] none]⟩
      (.object context) = .ok (if r.holds (.string (escapedEach (c :: cs) s)) (.string text) then shown else "") := by
  rw [Plate.fillPage,fill_shownIf (evaluate_compared r way found c cs text)]
  rfl

/-- A key under any number of helpers, and any relation between such a key and a text, are read; and wherever the value under
the key is a text, that comes out, and is compared, as every helper from the innermost on has changed and escaped it. -/
theorem helpers_escape_each (key : String) (way : isWay key = true) (c : Recase) (cs : List Recase) :
    (∃ page, Plate.readPage (String.ofList (wrappedTag key c cs)) = .ok page ∧
      ∀ context s, Keyed.lookup? key context = some (.string s) →
        Plate.fillPage page (.object context) = .ok ((c :: cs).foldr (fun c text => escapeHtml (c.change text)) s)) ∧
    ∀ (r : Relation) (text shown : String), isPlainText text.toList = true → isKey shown = true →
      ∃ page, Plate.readPage (String.ofList (shownIf (compared r key c cs text) shown)) = .ok page ∧
        ∀ context s, Keyed.lookup? key context = some (.string s) →
          Plate.fillPage page (.object context) =
            .ok (if r.holds (.string ((c :: cs).foldr (fun c text => escapeHtml (c.change text)) s)) (.string text)
              then shown else "") := by
  refine ⟨⟨_,readPage_wrappedTag way c cs,fun context s found => ?_⟩,fun r text shown plain word => ?_⟩
  · exact fillPage_wrappedTag way c cs found
  · refine ⟨_,readPage_shownIf way c cs r plain (isWord_of_isKey word),fun context s found => ?_⟩
    exact fillPage_shownIf way c cs r text shown found

theorem helpers_escape_each_of_two : isWay "name" = true ∧
    (∃ page, Plate.readPage "\x7b\x7blowercase (uppercase name)\x7d\x7d" = .ok page ∧
      Plate.fillPage page (.object [("name", .string "R&D")]) = .ok "r&amp;amp;d") ∧
    ∃ page, Plate.readPage "\x7b\x7b#if (eq (lowercase (uppercase name)) \"r&d\")\x7d\x7dyes\x7b\x7b/if\x7d\x7d" = .ok page ∧
      Plate.fillPage page (.object [("name", .string "R&D")]) = .ok "" := by
  have named : Keyed.lookup? "name" [("name", Json.string "R&D")] = some (.string "R&D") := rfl
  obtain ⟨⟨page,read,fills⟩,compares⟩ := helpers_escape_each "name" (by decide) .lower [.upper]
  obtain ⟨other,readToo,fillsToo⟩ := compares .equal "r&d" "yes" (by decide) (by decide)
  refine ⟨by decide,⟨page,?_,(fills _ _ named).trans (by decide)⟩,other,?_,(fillsToo _ _ named).trans (by decide)⟩
  · have source : String.ofList (wrappedTag "name" .lower [.upper]) = "\x7b\x7blowercase (uppercase name)\x7d\x7d" := by decide
    rw [source] at read
    exact read
  · have source : String.ofList (shownIf (compared .equal "name" .lower [.upper] "r&d") "yes") =
        "\x7b\x7b#if (eq (lowercase (uppercase name)) \"r&d\")\x7d\x7dyes\x7b\x7b/if\x7d\x7d" := by decide +kernel
    rw [source] at readToo
    exact readToo

/-- Two helpers do not give a text that is escaped once, and a helper in a comparison does not give one that is not escaped. -/
theorem helpers_do_not_escape_once :
    (¬ ∀ key c cs, isWay key = true → ∃ page, Plate.readPage (String.ofList (wrappedTag key c cs)) = .ok page ∧
      ∀ context s, Keyed.lookup? key context = some (.string s) →
        Plate.fillPage page (.object context) = .ok (escapeHtml ((c :: cs).foldr Recase.change s))) ∧
    ¬ ∀ key c cs text, isWay key = true → isPlainText text.toList = true →
      ∃ page, Plate.readPage (String.ofList (shownIf (compared .equal key c cs text) "yes")) = .ok page ∧
        ∀ context s, Keyed.lookup? key context = some (.string s) →
          Plate.fillPage page (.object context) = .ok (if (c :: cs).foldr Recase.change s = text then "yes" else "") := by
  constructor
  · intro once
    obtain ⟨page,read,fills⟩ := once "name" .lower [.upper] (by decide)
    cases (readPage_wrappedTag (by decide) .lower [.upper]).symm.trans read
    have filled := fills [("name", .string "R&D")] "R&D" rfl
    rw [fillPage_wrappedTag (by decide) .lower [.upper] rfl] at filled
    exact absurd (Except.ok.inj filled) (by decide)
  · intro unescaped
    obtain ⟨page,read,fills⟩ := unescaped "tone" .lower [] "r&d" (by decide) (by decide)
    cases (readPage_shownIf (by decide) .lower [] .equal (by decide) (isWord_of_isKey (by decide))).symm.trans read
    have filled := fills [("tone", .string "R&D")] "R&D" rfl
    rw [fillPage_shownIf (by decide) .lower [] .equal "r&d" "yes" rfl] at filled
    exact absurd (Except.ok.inj filled) (by decide)

end Letterpress
