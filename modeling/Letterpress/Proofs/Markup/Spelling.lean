import Letterpress.Proofs.Markup.Dialect

/-! The ways to write a tree down. An element is its opening tag, its content or what is inside of it, and its closing tag.
Around the elements inside of another stand gaps of blanks and comments; around content there is nothing. -/
namespace Letterpress.Markup
open Letterpress.Text

def commentEnd : List Char := ['-', '-', '>']

/-- No two hyphens stand together in a comment, nor does one at its end. -/
def IsComment (text : List Char) : Prop := ¬ ['-', '-'] <:+: text ++ ['-']

instance (text : List Char) : Decidable (IsComment text) := inferInstanceAs (Decidable (¬ _))

inductive IsGap : List Char → Prop
  | nil : IsGap []
  | blank {c : Char} {s : List Char} (blank : isAsciiBlank c = true) (later : IsGap s) : IsGap (c :: s)
  | comment {text s : List Char} (comment : IsComment text) (later : IsGap s) :
      IsGap ('<' :: ("!--".toList ++ text ++ commentEnd ++ s))

/-- What an attribute can be named: something without a blank, an equals sign, a quote or the end of a tag. -/
def IsKey (key : List Char) : Prop := key ≠ [] ∧ ∀ c ∈ key, isTagBlank c = false ∧ c ∉ ['=', '>', '"', '\'']

instance (key : List Char) : Decidable (IsKey key) := @instDecidableAnd _ _ inferInstance (List.decidableBAll _ key)

def IsQuote (quote : Char) : Prop := quote = '"' ∨ quote = '\''

/-- Attributes in order, each behind blanks, with its value in quotes of either kind. -/
inductive SpelledAttributes : List Attribute → List Char → Prop
  | nil : SpelledAttributes [] []
  | cons {a : Attribute} {others : List Attribute} {blanks s : List Char} {quote : Char} (parted : blanks ≠ [])
      (blank : ∀ c ∈ blanks, isTagBlank c = true) (isQuote : IsQuote quote) (later : SpelledAttributes others s) :
      SpelledAttributes (a :: others) (blanks ++ (a.key.toList ++ '=' :: quote :: (a.value.toList ++ quote :: s)))

def openingTag (tag : Tag) (attributes : List Char) : List Char := '<' :: (tag.name.toList ++ attributes ++ ['>'])

def closingTag (tag : Tag) : List Char := '<' :: ('/' :: tag.name.toList ++ ['>'])

mutual
inductive Spelled : Element → List Char → Prop
  | verbatim {tag : Tag} {attributes : List Attribute} {content : String} {offset : Nat} {written : List Char}
      (verbatim : tag.isVerbatim = true) (spelled : SpelledAttributes attributes written) :
      Spelled ⟨tag, attributes, [], content, offset⟩ (openingTag tag written ++ (content.toList ++ closingTag tag))
  | plain {tag : Tag} {attributes : List Attribute} {children : List Element} {offset : Nat} {written inside : List Char}
      (plain : tag.isVerbatim = false) (spelled : SpelledAttributes attributes written)
      (within : SpelledAll children inside) :
      Spelled ⟨tag, attributes, children, "", offset⟩ (openingTag tag written ++ (inside ++ closingTag tag))

/-- Elements one after the other, with gaps before, between and behind them. -/
inductive SpelledAll : List Element → List Char → Prop
  | nil {gap : List Char} (isGap : IsGap gap) : SpelledAll [] gap
  | cons {e : Element} {others : List Element} {gap s rest : List Char} (isGap : IsGap gap) (first : Spelled e s)
      (later : SpelledAll others rest) : SpelledAll (e :: others) (gap ++ (s ++ rest))
end

namespace Element

/-- What an element is that can be written down and read where it stands: it keeps to the dialect, it has the attributes
that its kind requires, and neither its values nor its content have marks of the grammar in them. -/
structure Regular (holder : Option Tag) (e : Element) : Prop where
  fits : e.tag.FitsIn holder
  dialect : e.InDialect
  required : holder ≠ some .defaults → ∀ key ∈ e.tag.required, (e.attribute? key).isSome = true
  values : ∀ a ∈ e.attributes, ∀ c ∈ ['"', '\'', '<', '>'], c ∉ a.value.toList
  content : '<' ∉ e.content.toList

/-- Groups of attributes accept every name, but not every name can be written down. -/
structure Writable (holder : Option Tag) (e : Element) : Prop extends Regular holder e where
  named : e.tag = .forAll ∨ e.tag = .forClass → ∀ a ∈ e.attributes, IsKey a.key.toList

end Element

def writtenAttributes (attributes : List Attribute) : List Char :=
  attributes.flatMap fun a => ' ' :: (a.key.toList ++ '=' :: '"' :: (a.value.toList ++ ['"']))

mutual
/-- The element as it is written without gaps. -/
def Element.written : Element → List Char
  | ⟨tag, attributes, children, content, _⟩ =>
    openingTag tag (writtenAttributes attributes) ++
      ((if tag.isVerbatim then content.toList else allWritten children) ++ closingTag tag)

def allWritten : List Element → List Char
  | [] => []
  | e :: rest => e.written ++ allWritten rest
end

theorem spelled_writtenAttributes (attributes : List Attribute) :
    SpelledAttributes attributes (writtenAttributes attributes) := by
  induction attributes with
  | nil => exact .nil
  | cons a others ih =>
    have space : ∀ c ∈ [' '], isTagBlank c = true := List.forall_mem_singleton.mpr rfl
    have whole : writtenAttributes (a :: others) =
        [' '] ++ (a.key.toList ++ '=' :: '"' :: (a.value.toList ++ '"' :: writtenAttributes others)) := by
      simp [writtenAttributes]
    rw [whole]
    exact .cons (by simp) space (.inl rfl) ih

private theorem spelledAll_allWritten {es : List Element} (each : ∀ e ∈ es, Spelled e e.written) :
    SpelledAll es (allWritten es) := by
  induction es with
  | nil => exact .nil .nil
  | cons e others ih =>
    exact .cons .nil (each e List.mem_cons_self) (ih fun other member => each other (List.mem_cons_of_mem e member))

theorem Element.spelled_written {holder : Option Tag} {e : Element} (writable : e.Throughout Writable holder) :
    Spelled e e.written := by
  induction writable with
  | @mk holder e own inside ih =>
    obtain ⟨tag,attributes,children,content,offset⟩ := e
    have spelled := spelled_writtenAttributes attributes
    cases kind : tag.isVerbatim with
    | true =>
      have childless : children = [] := (own.dialect.verbatim kind).1
      subst childless
      simp only [written,kind,if_true]
      exact .verbatim kind spelled
    | false =>
      have empty : content = "" := own.dialect.plain kind
      subst empty
      simp only [written,kind]
      exact .plain kind spelled (spelledAll_allWritten ih)

end Letterpress.Markup
