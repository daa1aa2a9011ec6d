import Letterpress.Proofs.Plain
import Letterpress.Proofs.Html.Scaffold.Steady

/-! Blanks in a minified page. Content has its runs of blanks collapsed, whichever element it comes from. The titles, previews and
styles of a head do not: they are lines of the page, and lines are set as they are. -/
namespace Letterpress.Html
open Letterpress.Markup

/-- Before any text, it hides nothing of that in a block. -/
def Blockless (s : List Char) : Prop := ∀ t tail, Exposed t tail → Exposed (s ++ t) tail

variable {s t : List Char} {c d : Char}

private theorem Blockless.append {a b : String} (first : Blockless a.toList) (second : Blockless b.toList) :
    Blockless (a ++ b).toList := by
  intro t tail exposed
  rw [String.toList_append,List.append_assoc]
  exact first _ tail (second t tail exposed)

/-- No tag begins that may open a block. -/
def isBlockless : List Char → Bool
  | c :: d :: s => (c != '<' || d.toLower != 'p') && isBlockless (d :: s)
  | [c] => c != '<'
  | [] => true

private theorem bare_of_other (other : c ≠ '<' ∨ ∃ d, s.head? = some d ∧ d.toLower ≠ 'p') : opensBlock (c :: s) = false := by
  by_contra opens
  obtain ⟨p,r,e,x,t,parts,⟨second,_⟩,_⟩ := exists_of_opensBlock (by simpa using opens)
  cases parts
  rcases other with first | ⟨d,head,differs⟩
  · contradiction
  · cases head
    contradiction

private theorem blockless_of_isBlockless (checked : isBlockless s = true) : Blockless s := by
  intro t tail exposed
  fun_induction isBlockless s with
  | case1 c d s ih =>
    simp only [Bool.and_eq_true,Bool.or_eq_true,bne_iff_ne] at checked
    refine .step (bare_of_other (checked.1.imp_right fun differs => ⟨d,rfl,differs⟩)) (ih checked.2)
  | case2 c => exact .step (bare_of_other (.inl (bne_iff_ne.mp checked))) exposed
  | case3 => exact exposed

private theorem blockless_ofList (s : List Char) (checked : isBlockless s = true) : Blockless (String.ofList s).toList := by
  rw [String.toList_ofList]
  exact blockless_of_isBlockless checked

/-- The lines that take over what a head says. -/
def HeadMatter.lines (matter : HeadMatter) : List String :=
  ("<title>" ++ matter.title ++ "</title>") :: matter.styles.map styleElement

private theorem of_scaffolded_page {P : String → Prop} {root : Element} (all : Scaffolded P (page root)) :
    (∀ html ∈ (HeadMatter.ofHead (root.child? .head)).lines, P html) ∧
      ∀ body ∈ root.child? .body, Scaffolded P (previewText (HeadMatter.ofHead (root.child? .head)).preview) := by
  have both (head body : Fragment) : [head,body] = [head] ++ [body] := rfl
  unfold page at all
  rw [scaffolded_line_iff,scaffolded_block_iff,both,scaffolded_append_iff,headPart,scaffolded_block_iff] at all
  obtain ⟨_,_,⟨⟨_,inside,_⟩,body⟩,_⟩ := all
  constructor
  · simp only [scaffolded_append_iff,scaffolded_line_iff] at inside
    obtain ⟨⟨⟨⟨⟨title,_⟩,_⟩,_⟩,styles⟩,_⟩ := inside
    rw [scaffolded_map_line_iff] at styles
    exact List.forall_mem_cons.mpr ⟨title,List.forall_mem_map.mpr styles⟩
  · intro element found
    rw [Option.mem_def] at found
    rw [found,bodyPart,scaffolded_block_iff,scaffolded_append_iff] at body
    exact body.2.1.1

private theorem preview_isInfix {preview : String} {text : List Char}
    (all : Scaffolded (·.toList <:+: text) (previewText preview)) : preview.toList <:+: text := by
  unfold previewText at all
  split at all
  · next empty =>
    rw [String.isEmpty_iff.mp empty]
    exact List.nil_infix
  · have within : preview.toList <:+: (previewDivision preview).toList := by
      unfold previewDivision
      rw [String.toList_append,String.toList_append]
      exact List.infix_append _ _ _
    exact within.trans (scaffolded_line_iff.mp all).1

end Letterpress.Html

namespace Letterpress
open Markup Html

/-- What a title, a preview or a style says has nothing to collapse. -/
def SaysCollapsed (e : Element) : Prop :=
  e.tag = .title ∨ e.tag = .preview ∨ e.tag = .style → Collapsed e.content.toList

/-- In a minified page of neat attributes there are no line breaks and no two blanks side by side outside of preformatted
blocks, whatever its content, as long as the titles, previews and styles of the document have none. These are set as they
are, the preview at the beginning of the body. -/
theorem minified_is_collapsed (source html : String) (compiled : compile ⟨true⟩ source = .ok html) :
    ∃ root, Element.ofSource source.toList = .ok root ∧
      (root.Everywhere IsNeat → root.Everywhere SaysCollapsed → Collapsed html.toList) ∧
      (∀ line ∈ (HeadMatter.ofHead (root.child? .head)).lines, line.toList <:+: html.toList) ∧
      ∀ body ∈ root.child? .body, (HeadMatter.ofHead (root.child? .head)).preview.toList <:+: html.toList := by
  obtain ⟨root,read,rfl⟩ := exists_root_of_compile compiled
  obtain ⟨lines,preview⟩ := of_scaffolded_page fun html => @scaffold_isInfix html (page root)
  refine ⟨root,read,fun neat collapsed => ?_,lines,fun body found => preview_isInfix (preview body found)⟩
  have made := assembled_of_source read
  have content : root.Everywhere fun e => e.tag = .title ∨ e.tag = .preview ∨ e.tag = .style → ShelteredText e.content := by
    intro above e stands kind
    exact sheltered_of_collapsed (collapsed above e stands kind) (made.stands stands).own.isTrimmed.2
  exact (sheltered_minified (sheltered_page neat content)).collapsed

def titled (title : String) (offset : Nat) : Element :=
  ⟨.document, [], [⟨.head, [], [⟨.title, [], [], title, 15⟩, ⟨.raw, [], [], "c  d", offset⟩], "", 6⟩], "", 0⟩

def narrowSource : String := "<mjml><mj-head><mj-title>a b</mj-title><mj-raw>c  d</mj-raw></mj-head></mjml>"

def wideSource : String := "<mjml><mj-head><mj-title>a  b</mj-title><mj-raw>c  d</mj-raw></mj-head></mjml>"

private theorem ofSource_narrowSource : Element.ofSource narrowSource.toList = .ok (titled "a b" 39) := by with_unfolding_all rfl

private theorem ofSource_wideSource : Element.ofSource wideSource.toList = .ok (titled "a  b" 40) := by with_unfolding_all rfl

private theorem everywhere_titled {holds : Element → Prop} {title : String} {offset : Nat}
    (all : ∀ e : Element, e.attributes = [] → (e.tag = .title ∧ e.content = title ∨ e.tag ∈ [Tag.document, .head, .raw]) →
      holds e) : (titled title offset).Everywhere holds := by
  refine Element.everywhere_iff.mpr ⟨all _ rfl (.inr (by simp [titled])),List.forall_mem_singleton.mpr ?_⟩
  refine Element.everywhere_iff.mpr ⟨all _ rfl (.inr (by simp)),List.forall_mem_cons.mpr ⟨?_,List.forall_mem_singleton.mpr ?_⟩⟩
  · exact Element.everywhere_iff.mpr ⟨all _ rfl (.inl ⟨rfl,rfl⟩),List.forall_mem_nil _⟩
  · exact Element.everywhere_iff.mpr ⟨all _ rfl (.inr (by simp)),List.forall_mem_nil _⟩

private theorem isNeat_titled (title : String) (offset : Nat) : (titled title offset).Everywhere IsNeat :=
  everywhere_titled fun e bare _ a member => by
    rw [bare] at member
    contradiction

theorem minified_is_collapsed_of_narrowSource : ∃ html, compile ⟨true⟩ narrowSource = .ok html ∧ Collapsed html.toList := by
  have compiled := compile_of_root ⟨true⟩ ofSource_narrowSource
  obtain ⟨root,read,collapsed,_⟩ := minified_is_collapsed narrowSource _ compiled
  rw [ofSource_narrowSource] at read
  cases read
  have narrow : Steady "a b" := steady_ofList _ rfl
  refine ⟨_,compiled,collapsed (isNeat_titled _ _) (everywhere_titled fun e _ kind spoken => ?_)⟩
  rcases kind with ⟨_,same⟩ | other
  · rw [same]
    exact narrow.sheltered.collapsed
  · rcases spoken with tag | tag | tag <;> rw [tag] at other <;> contradiction

/-- What stands before a title leaves no block open. -/
theorem exists_before_title (title : String) (offset : Nat) : ∃ lead rest, Blockless lead ∧
    (Layout.minified.set (page (titled title offset))).toList = lead ++ (title.toList ++ rest) := by
  have words : escape "und" = "und" ∧ escape "auto" = "auto" := by
    constructor
    · rw [escape,escapeChars_of_lone (lone_of_isLone rfl)]
      rfl
    · rw [escape,escapeChars_of_lone (lone_of_isLone rfl)]
      rfl
  have entry {name value : String} (named : Blockless name.toList) (plain : Blockless value.toList) :
      Blockless (attributeText name value).toList :=
    (((Blockless.append (blockless_ofList _ rfl) named).append (blockless_ofList _ rfl)).append plain).append
      (blockless_ofList _ rfl)
  have spoken : languageOf (titled title offset) =
      attributeText "lang" (escape "und") ++ attributeText "dir" (escape "auto") := rfl
  have language : Blockless (languageOf (titled title offset)).toList := by
    rw [spoken,words.1,words.2]
    exact (entry (blockless_ofList _ rfl) (blockless_ofList _ rfl)).append
      (entry (blockless_ofList _ rfl) (blockless_ofList _ rfl))
  have root : Blockless (documentOpening (languageOf (titled title offset))).toList :=
    ((Blockless.append (blockless_ofList _ rfl) language).append (blockless_ofList _ rfl)).append (blockless_ofList _ rfl)
  have lead := ((Blockless.append (a := "<!doctype html>") (blockless_ofList _ rfl) root).append (b := "<head>")
    (blockless_ofList _ rfl)).append (b := "<title>") (blockless_ofList _ rfl)
  have leaves : ∃ rest, Fragment.allLeaves (page (titled title offset)) =
      .scaffold "<!doctype html>" :: .scaffold _ :: .scaffold "<head>" :: .scaffold ("<title>" ++ title ++ "</title>") :: rest :=
    ⟨_,rfl⟩
  obtain ⟨rest,leaves⟩ := leaves
  refine ⟨_,"</title>".toList ++ rest.flatMap Leaf.minified,lead,?_⟩
  change (Fragment.allJoined _).toList = _
  rw [Fragment.toList_allJoined,leaves]
  simp only [List.flatMap_cons,Leaf.minified,String.toList_append,List.append_assoc]

/-- Two blanks in a title stay two. -/
theorem title_is_not_collapsed : ¬ ∀ (source html : String) (root : Element), compile ⟨true⟩ source = .ok html →
    Element.ofSource source.toList = .ok root → root.Everywhere IsNeat → Collapsed html.toList := by
  intro collapsed
  have read := ofSource_wideSource
  have always := collapsed wideSource _ _ (compile_of_root ⟨true⟩ read) read (isNeat_titled _ _)
  obtain ⟨lead,rest,blockless,parts⟩ := exists_before_title "a  b" 40
  change Collapsed (Layout.minified.set _).toList at always
  rw [parts] at always
  have letter : Blockless ['a'] := blockless_of_isBlockless rfl
  have blanks : Exposed (' ' :: ' ' :: 'b' :: rest) (' ' :: ' ' :: 'b' :: rest) := .here (bare_of_other (.inl (by decide)))
  have exposed := blockless _ _ (letter _ _ blanks)
  have apart : Text.isBlank ' ' = false := (always.eases exposed).2 ' ' rfl (by decide)
  contradiction

end Letterpress
