import Letterpress.Proofs.Basic
import Letterpress.Proofs.Markup.Cutting
import Letterpress.Proofs.Markup.Standing
import Letterpress.Proofs.Text.Searching

/-! What assembling a document makes sure of. Every element that is opened has passed the checks for the place that it
stands in, and what it carries are stretches of the source. The invariant says so of the elements in the pile, each in the
one below it, of the verbatim element that is being read, and of the root. -/
namespace Letterpress.Markup
open Letterpress.Text

def Tag.FitsIn (tag : Tag) : Option Tag → Prop
  | some parent => tag ∈ parent.children
  | none => tag = .document

instance (tag : Tag) (holder : Option Tag) : Decidable (tag.FitsIn holder) :=
  match holder with
  | some parent => inferInstanceAs (Decidable (tag ∈ parent.children))
  | none => inferInstanceAs (Decidable (tag = .document))

/-- What is known of an element that has been read in its place. -/
structure Element.Made (source : List Char) (holder : Option Tag) (e : Element) : Prop where
  fits : e.tag.FitsIn holder
  attributes : ∃ inside, inside <:+: source ∧ checkAttributes e.tag inside = .ok e.attributes
  width : checkWidth e = .ok ()
  required : holder ≠ some .defaults → checkRequired e = .ok ()
  content : ∃ raw, raw <:+: source ∧ e.content = String.ofList (trimChars raw)
  plain : e.tag.isVerbatim = false → e.content = ""

abbrev Element.Assembled (source : List Char) : Option Tag → Element → Prop := Throughout (Made source)

namespace Element
variable {source raw : List Char} {holder : Option Tag} {e child : Element}

private theorem Made.attach (made : e.Made source holder) (child : Element) : (e.attach child).Made source holder :=
  ⟨made.fits,made.attributes,made.width,made.required,made.content,made.plain⟩

private theorem Made.fill (made : e.Made source holder) (verbatim : e.tag.isVerbatim = true) (within : raw <:+: source) :
    ({ e with content := String.ofList (trimChars raw) } : Element).Made source holder :=
  ⟨made.fits,made.attributes,made.width,made.required,⟨raw,within,rfl⟩,fun plain => by
    change e.tag.isVerbatim = false at plain
    rw [verbatim] at plain
    contradiction⟩

theorem Assembled.stands {root : Element} {above : List Element} (made : root.Assembled source none)
    (stands : Stands root above e) : e.Assembled source (above.head?.map (·.tag)) := by
  have all := Throughout.stands made stands
  rwa [Option.or_none] at all

private theorem Assembled.attach (made : e.Assembled source holder) (more : child.Assembled source (some e.tag)) :
    (e.attach child).Assembled source holder :=
  Throughout.attach made more (made.own.attach child)

private theorem Assembled.fill (made : e.Assembled source holder) (verbatim : e.tag.isVerbatim = true)
    (within : raw <:+: source) :
    ({ e with content := String.ofList (trimChars raw) } : Element).Assembled source holder :=
  .mk (made.own.fill verbatim within) fun _ member => made.inside member

end Element

theorem Verbatim.step_inl {v later : Verbatim} {lexeme : Lexeme} (read : v.step lexeme = .inl later) :
    later.element = v.element ∧ later.content = v.content ++ lexeme.raw := by
  unfold step at read
  split at read
  · split at read <;> cases read <;> exact ⟨rfl,rfl⟩
  · split at read
    · split at read
      · contradiction
      · cases read; exact ⟨rfl,rfl⟩
    · cases read; exact ⟨rfl,rfl⟩
  · cases read; exact ⟨rfl,rfl⟩

theorem Verbatim.step_inr {v : Verbatim} {lexeme : Lexeme} {e : Element} (read : v.step lexeme = .inr e) :
    e = { v.element with content := String.ofList (trimChars v.content) } := by
  unfold step at read
  split at read
  · contradiction
  · split at read
    · split at read
      · cases read; rfl
      · contradiction
    · contradiction
  · contradiction

/-- Every element of a pile has been read in the one below it. -/
inductive Stacked (source : List Char) : List Element → Prop
  | nil : Stacked source []
  | cons {e : Element} {others : List Element} (made : e.Assembled source (others.head?.map (·.tag)))
      (below : Stacked source others) : Stacked source (e :: others)

namespace Assembly
variable {source consumed inside : List Char} {a next : Assembly} {lexeme : Lexeme} {offset : Nat} {e : Element}

def holder (a : Assembly) : Option Tag := a.pile.head?.map (·.tag)

private theorem fitsIn_of_checkPlace {tag : Tag} (checked : a.checkPlace tag = .ok ()) : tag.FitsIn a.holder := by
  unfold checkPlace at checked
  unfold holder
  split at checked
  · next parent others found =>
    split at checked
    · next allowed =>
      rw [found]
      exact List.contains_iff_mem.mp allowed
    · contradiction
  · next found =>
    rw [found]
    split at checked
    · contradiction
    · split at checked
      · contradiction
      · next same => exact Classical.not_not.mp same

theorem declaresDefaults_iff (a : Assembly) : a.declaresDefaults = true ↔ a.holder = some .defaults := by
  unfold declaresDefaults holder
  split
  · next parent others found => simp [found]
  · next found => simp [found]

/-- What is known of an element that a tag with this inside has opened at `offset`. -/
structure Opened (a : Assembly) (inside : List Char) (offset : Nat) (e : Element) : Prop where
  known : Tag.ofName? (String.ofList (tagName inside)) = some e.tag
  place : a.checkPlace e.tag = .ok ()
  attributes : checkAttributes e.tag inside = .ok e.attributes
  width : checkWidth e = .ok ()
  required : a.declaresDefaults = false → checkRequired e = .ok ()
  childless : e.children = []
  content : e.content = ""
  offset : e.offset = offset

theorem opened_of_element (done : a.element inside offset = .ok e) : a.Opened inside offset e := by
  simp only [element] at done
  split at done
  · next tag known =>
    rw [pure_bind] at done
    obtain ⟨_,place,done⟩ := exists_of_bind_ok done
    obtain ⟨read,passed,done⟩ := exists_of_bind_ok done
    obtain ⟨_,width,done⟩ := exists_of_bind_ok done
    cases declares : a.declaresDefaults with
    | true =>
      simp only [declares,Bool.not_true,Bool.false_eq_true,if_false] at done
      cases done
      exact ⟨known,place,passed,width,fun other => by rw [declares] at other; contradiction,rfl,rfl,rfl⟩
    | false =>
      simp only [declares,Bool.not_false,if_true] at done
      obtain ⟨_,required,done⟩ := exists_of_bind_ok done
      cases done
      exact ⟨known,place,passed,width,fun _ => required,rfl,rfl,rfl⟩
  · exact absurd done (by simp [throw,throwThe,MonadExceptOf.throw,bind,Except.bind])

private theorem Opened.made (opened : a.Opened inside offset e) (within : inside <:+: source) : e.Made source a.holder where
  fits := fitsIn_of_checkPlace opened.place
  attributes := ⟨inside,within,opened.attributes⟩
  width := opened.width
  required other := by
    refine opened.required (Bool.eq_false_iff.mpr fun declares => ?_)
    exact other ((declaresDefaults_iff a).mp declares)
  content := ⟨[],List.nil_infix,opened.content⟩
  plain _ := opened.content

/-- The invariant of an assembly that has read `consumed`. -/
structure Sound (source consumed : List Char) (a : Assembly) : Prop where
  pile : Stacked source a.pile
  verbatim : ∀ v ∈ a.verbatim, v.element.Assembled source a.holder ∧ v.element.tag.isVerbatim = true ∧
    v.content <:+ consumed
  root : ∀ e ∈ a.root, e.Assembled source none

private theorem sound_empty (source : List Char) : empty.Sound source [] where
  pile := .nil
  verbatim v present := by contradiction
  root e present := by contradiction

/-- Without a verbatim element the invariant says nothing of what has been read. -/
theorem Sound.consume (sound : a.Sound source consumed) (outside : a.verbatim = none) (more : List Char) :
    a.Sound source more :=
  ⟨sound.pile,fun v present => by rw [outside] at present; contradiction,sound.root⟩

private theorem Sound.attach (sound : a.Sound source consumed) (outside : a.verbatim = none)
    (made : e.Assembled source a.holder) : (a.attach e).Sound source consumed := by
  obtain ⟨pile,verbatim,root⟩ := a
  subst outside
  cases pile with
  | nil => exact ⟨.nil,fun v present => by contradiction,fun other present => by cases present; exact made⟩
  | cons parent others =>
    cases sound.pile with
    | cons outer below => exact ⟨.cons (outer.attach made) below,fun v present => by contradiction,sound.root⟩

private theorem Sound.open (sound : a.Sound source consumed) (outside : a.verbatim = none)
    (made : e.Assembled source a.holder) : Sound source consumed { a with pile := e :: a.pile } :=
  ⟨.cons made sound.pile,fun v present => by
    change v ∈ a.verbatim at present
    rw [outside] at present
    contradiction,sound.root⟩

private theorem Sound.close (sound : a.Sound source consumed) (outside : a.verbatim = none) {name : String}
    (closed : a.close name = .ok next) : next.Sound source consumed := by
  unfold Assembly.close at closed
  obtain ⟨pile,verbatim,root⟩ := a
  subst outside
  cases pile with
  | nil => contradiction
  | cons top others =>
    split at closed
    · contradiction
    · next element rest same =>
      cases same
      split at closed
      · cases closed
        cases sound.pile with
        | cons made below =>
          have lower : Sound source consumed ⟨others,none,root⟩ :=
            ⟨below,fun v present => by contradiction,sound.root⟩
          exact lower.attach rfl made
      · contradiction

private theorem assembled_of_element {inside : List Char} (within : inside <:+: source)
    (opened : a.element inside offset = .ok e) : e.Assembled source a.holder := by
  have known := opened_of_element opened
  exact .mk (known.made within) fun child member => by rw [known.childless] at member; contradiction

private theorem Sound.step (sound : a.Sound source consumed) (faithful : lexeme.IsFaithful)
    (within : consumed ++ lexeme.raw <:+: source) (done : a.step lexeme offset = .ok next) :
    next.Sound source (consumed ++ lexeme.raw) := by
  have before : consumed <:+: source := (List.prefix_append consumed lexeme.raw).isInfix.trans within
  have raw : lexeme.raw <:+: source := (List.suffix_append consumed lexeme.raw).isInfix.trans within
  unfold Assembly.step at done
  split at done
  · -- inside a verbatim element whatever comes is content, up to the tag that closes it
    next v reading =>
    obtain ⟨made,verbatim,read⟩ := sound.verbatim v reading
    split at done
    · next later continued =>
      cases done
      obtain ⟨same,content⟩ := Verbatim.step_inl continued
      refine ⟨sound.pile,fun w present => ?_,sound.root⟩
      cases present
      rw [same,content]
      obtain ⟨front,whole⟩ := read
      exact ⟨made,verbatim,front,by rw [← List.append_assoc,whole]⟩
    · next element closed =>
      cases done
      cases Verbatim.step_inr closed
      have content : v.content <:+: source := read.isInfix.trans before
      have rested : Sound source (consumed ++ lexeme.raw) { a with verbatim := none } :=
        ⟨sound.pile,fun w present => by contradiction,sound.root⟩
      exact rested.attach rfl (made.fill verbatim content)
  · -- elsewhere a tag opens or closes an element, and nothing else leaves a trace
    next outside =>
    replace sound := sound.consume outside (consumed ++ lexeme.raw)
    split at done
    · next inside token =>
      obtain ⟨element,opened,done⟩ := exists_of_bind_ok done
      have made := assembled_of_element ((faithful inside (.inl token)).trans raw) (eq_ok_of_mapError opened)
      split at done
      · next verbatim =>
        cases done
        refine ⟨sound.pile,fun w present => ?_,sound.root⟩
        cases present
        exact ⟨made,verbatim,List.nil_suffix⟩
      · cases done
        exact sound.open outside made
    · next inside token =>
      obtain ⟨element,opened,done⟩ := exists_of_bind_ok done
      cases done
      have made := assembled_of_element ((faithful inside (.inr token)).trans raw) (eq_ok_of_mapError opened)
      exact sound.attach outside made
    · exact sound.close outside (eq_ok_of_mapError done)
    · dsimp only at done
      split at done
      · cases done
        exact sound
      · contradiction
    · contradiction
    · cases done
      exact sound

private theorem Sound.run {place : Lexeme → Nat} {lexemes : List Lexeme} (sound : a.Sound source consumed)
    (faithful : ∀ lexeme ∈ lexemes, lexeme.IsFaithful) (within : consumed ++ lexemes.flatMap (·.raw) <:+: source)
    (done : lexemes.foldlM (fun a lexeme => a.step lexeme (place lexeme)) a = .ok next) :
    next.Sound source (consumed ++ lexemes.flatMap (·.raw)) := by
  induction lexemes generalizing a consumed with
  | nil =>
    cases done
    rwa [List.flatMap_nil,List.append_nil]
  | cons lexeme rest ih =>
    rw [List.flatMap_cons,← List.append_assoc] at within ⊢
    obtain ⟨later,stepped,done⟩ := exists_of_bind_ok done
    have known := sound.step (faithful lexeme List.mem_cons_self) ((List.prefix_append _ _).isInfix.trans within) stepped
    exact ih known (fun other member => faithful other (List.mem_cons_of_mem lexeme member)) within done

private theorem Sound.finish (sound : a.Sound source consumed) {flaw : Option (Flaw × Nat)} (done : a.finish flaw = .ok e) :
    e.Assembled source none := by
  unfold Assembly.finish at done
  split at done
  · contradiction
  · contradiction
  · contradiction
  · split at done
    · contradiction
    · split at done
      · next root found =>
        cases done
        exact sound.root _ found
      · contradiction

end Assembly

private theorem withoutMark_suffix (source : List Char) : withoutMark source <:+ source := by
  unfold withoutMark
  cases stripped : stripLead? ['\ufeff'] source with
  | none => exact List.suffix_rfl
  | some rest =>
    have whole := stripLead?_eq_some stripped
    exact ⟨['\ufeff'],whole.symm⟩

/-- What has been read from a source has passed every check, from the root to the last leaf. -/
theorem assembled_of_source {source : List Char} {root : Element} (read : Element.ofSource source = .ok root) :
    root.Assembled source none := by
  obtain ⟨assembly,assembled,finished⟩ := exists_of_bind_ok read
  have cut : (lexemes (withoutMark source)).lexemes.flatMap (·.raw) <+: withoutMark source :=
    raw_isPrefixOf_source 0 0 (withoutMark source)
  have within : (lexemes (withoutMark source)).lexemes.flatMap (·.raw) <:+: source :=
    cut.isInfix.trans (withoutMark_suffix source).isInfix
  have faithful := lexemesFrom_faithful 0 0 (withoutMark source)
  exact ((Assembly.sound_empty source).run faithful within assembled).finish finished

end Letterpress.Markup
