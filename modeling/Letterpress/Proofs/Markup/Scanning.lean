import Letterpress.Proofs.Markup.Spelling

/-! Cutting what has been written down. Each lemma takes one stretch off the front of a source and says which token it is: text
up to a tag, a comment, an opening tag with its attributes, a closing tag. -/
namespace Letterpress.Markup
open Letterpress.Text

variable {s t inside text written rest key value blanks : List Char} {c quote : Char} {attributes : List Attribute}

theorem scan_text (outside : ∀ d ∈ c :: text, d ≠ '<') (ends : EndsText rest) :
    scan c (text ++ rest) = .ok (.text (c :: text), text.length) := by
  have first : c ≠ '<' := outside c List.mem_cons_self
  have more : ∀ d ∈ text, (d != '<') = true := fun d member => by
    simpa using outside d (List.mem_cons_of_mem c member)
  have stop : rest.takeWhile (· != '<') = [] := by
    cases rest with
    | nil => rfl
    | cons d rest => simp [ends d rfl]
  simp only [scan,first,if_false,List.takeWhile_append_of_pos more,stop,List.append_nil]

/-- The end of a comment is not found before it. -/
theorem stripLead?_comment (comment : IsComment (c :: text)) (rest : List Char) :
    stripLead? commentEnd (c :: text ++ commentEnd ++ rest) = none := by
  rw [Option.eq_none_iff_forall_ne_some]
  intro after stripped
  have whole := stripLead?_eq_some stripped
  apply comment
  cases text with
  | nil =>
    obtain ⟨rfl,-⟩ := List.cons_eq_cons.mp whole
    exact List.infix_rfl
  | cons d text =>
    simp only [commentEnd,List.cons_append,List.cons.injEq] at whole
    obtain ⟨rfl,rfl,-⟩ := whole
    exact (List.prefix_append ['-', '-'] _).isInfix

private theorem breakOn?_comment (comment : IsComment text) (rest : List Char) :
    breakOn? commentEnd (text ++ commentEnd ++ rest) = some (text, rest) := by
  induction text with
  | nil => simp [commentEnd,breakOn?,stripLead?]
  | cons c text ih =>
    have later : IsComment text := fun doubled => comment (doubled.trans (List.suffix_cons c _).isInfix)
    have outside := stripLead?_comment comment rest
    simp only [List.cons_append] at outside ⊢
    rw [breakOn?,outside]
    simp only [ih later,Option.map_some]

theorem scan_comment (comment : IsComment text) :
    scan '<' ("!--".toList ++ text ++ commentEnd ++ rest) =
      .ok (.passing, ("!--".toList ++ text ++ commentEnd).length) := by
  have marks : "-->".toList = commentEnd := by decide
  have opened : "!--".toList ++ text ++ commentEnd ++ rest = '!' :: '-' :: '-' :: (text ++ commentEnd ++ rest) := by simp
  rw [opened,scan,if_pos rfl,scanMarkup,scanDeclaration]
  have size : ("!--".toList ++ text ++ commentEnd).length = text.length + 6 := by simp [commentEnd]
  simp only [stripLead?,if_true,Option.bind_some,marks,breakOn?_comment comment,size]

/-- What a tag may have in it before its end is looked for: quotes come in pairs, and no `>` stands outside of them. -/
def IsTagText (s : List Char) : Prop := ∀ rest, untilTagEnd? none (s ++ rest) = (untilTagEnd? none rest).map (s ++ ·)

private theorem isTagText_nil : IsTagText [] := fun rest => by simp

private theorem IsTagText.append (first : IsTagText s) (second : IsTagText t) : IsTagText (s ++ t) := fun rest => by
  simp only [List.append_assoc,first (t ++ rest),second rest,Option.map_map]
  rfl

private theorem isTagText_of_plain (plain : ∀ c ∈ s, c ∉ ['>', '"', '\'']) : IsTagText s := by
  induction s with
  | nil => exact isTagText_nil
  | cons c s ih =>
    intro rest
    have own := plain c List.mem_cons_self
    simp only [List.mem_cons,List.not_mem_nil,or_false,not_or] at own
    have later := ih (fun d member => plain d (List.mem_cons_of_mem c member)) rest
    simp [untilTagEnd?,own,later,Function.comp_def]

private theorem isTagText_quoted (isQuote : IsQuote quote) (inner : quote ∉ s) :
    IsTagText (quote :: (s ++ [quote])) := by
  intro rest
  have within : untilTagEnd? (some quote) (s ++ quote :: rest) =
      (untilTagEnd? none rest).map (s ++ quote :: ·) := by
    induction s with
    | nil => simp [untilTagEnd?]
    | cons c s ih =>
      have differs : c ≠ quote := fun same => inner (same ▸ List.mem_cons_self)
      have later := ih fun member => inner (List.mem_cons_of_mem c member)
      simp [untilTagEnd?,differs,later,Function.comp_def]
  have opens : quote ≠ '>' := by rcases isQuote with rfl | rfl <;> decide
  unfold IsQuote at isQuote
  simp [untilTagEnd?,opens,isQuote,within,Function.comp_def]

private theorem scan_tag (tagText : IsTagText (c :: inside)) (plain : c ∉ ['!', '?']) :
    scan '<' (c :: inside ++ ['>'] ++ rest) = .ok (.ofTag (c :: inside), (c :: inside ++ ['>']).length) := by
  have found : untilTagEnd? none (c :: inside ++ ['>'] ++ rest) = some (c :: inside) := by
    rw [List.append_assoc,tagText (['>'] ++ rest)]
    simp [untilTagEnd?]
  simp only [List.mem_cons,List.not_mem_nil,or_false,not_or] at plain
  rw [scan,if_pos rfl]
  unfold scanMarkup
  split
  · contradiction
  · next same => cases same; exact absurd rfl plain.1
  · next same => cases same; exact absurd rfl plain.2
  · simp only [found,List.length_append,List.length_singleton]

private theorem quotedValue_quoted (total : Nat) (isQuote : IsQuote quote) (inner : quote ∉ value) :
    quotedValue total (quote :: (value ++ quote :: s)) = .ok (value, s) := by
  have outside : ∀ c ∈ value, (c != quote) = true := fun c member => by
    simpa using fun same : c = quote => inner (same ▸ member)
  have filled : isTagBlank quote = false := by rcases isQuote with rfl | rfl <;> decide
  have opens : (quote = '"' || quote = '\'') = true := by rcases isQuote with rfl | rfl <;> decide
  unfold quotedValue
  split
  · next blank => simp [filled] at blank
  · next first tail begun =>
    obtain ⟨rfl,rfl⟩ : first = quote ∧ tail = value ++ quote :: s := by
      simpa [filled,eq_comm] using begun
    rw [if_pos opens,List.dropWhile_append_of_pos outside,List.takeWhile_append_of_pos outside]
    simp

/-- One attribute is read, and then what follows it. -/
theorem attributesFrom_append (total : Nat) (seen : List (List Char × Nat)) (blank : ∀ c ∈ blanks, isTagBlank c = true)
    (isKey : IsKey key) (isQuote : IsQuote quote) (inner : quote ∉ value) (fresh : key ∉ seen.map (·.1)) :
    ∃ position, attributesFrom total seen (blanks ++ (key ++ '=' :: quote :: (value ++ quote :: s))) =
      ⟨⟨String.ofList key, String.ofList value⟩ :: (attributesFrom total ((key, position) :: seen) s).attributes,
        (attributesFrom total ((key, position) :: seen) s).flaw⟩ := by
  obtain ⟨filled,plain⟩ := isKey
  obtain ⟨first,tail,rfl⟩ := List.exists_cons_of_ne_nil filled
  have start : isTagBlank first = false := (plain first List.mem_cons_self).1
  let ends : Char → Bool := fun c => c == '=' || isTagBlank c
  have inside : ∀ c ∈ tail, (!ends c) = true := fun c member => by
    have known := plain c (List.mem_cons_of_mem first member)
    simp only [List.mem_cons,not_or] at known
    simp [ends,known.1,known.2.1]
  have begun : (blanks ++ (first :: tail ++ '=' :: quote :: (value ++ quote :: s))).dropWhile isTagBlank =
      first :: (tail ++ '=' :: quote :: (value ++ quote :: s)) := by
    rw [List.dropWhile_append_of_pos blank]
    simp [start]
  have named : (tail ++ '=' :: quote :: (value ++ quote :: s)).takeWhile (!ends ·) = tail := by
    rw [List.takeWhile_append_of_pos inside]
    simp [ends]
  have behind : ((tail ++ '=' :: quote :: (value ++ quote :: s)).dropWhile (!ends ·)).dropWhile isTagBlank =
      '=' :: quote :: (value ++ quote :: s) := by
    rw [List.dropWhile_append_of_pos inside]
    simp [ends,isTagBlank]
  have unseen : seen.find? (·.1 == first :: tail) = none := by
    simpa using fun a position member same => fresh (List.mem_map.mpr ⟨_,member,same⟩)
  refine ⟨total - byteLength (first :: (tail ++ '=' :: quote :: (value ++ quote :: s))),?_⟩
  conv_lhs => unfold attributesFrom
  split
  · next ended => rw [begun] at ended; contradiction
  · next other more opened =>
    rw [begun] at opened
    cases opened
    dsimp only
    split
    · next ended => rw [behind] at ended; contradiction
    · next mark rest found =>
      rw [behind] at found
      cases found
      rw [if_neg (by simp)]
      split
      · next found =>
        rw [named,unseen] at found
        contradiction
      · split
        · next flaw read => rw [quotedValue_quoted total isQuote inner] at read; contradiction
        · next read =>
          rw [quotedValue_quoted total isQuote inner] at read
          cases read
          rw [named]

private theorem attributesFrom_spelled (total : Nat) (seen : List (List Char × Nat))
    (spelled : SpelledAttributes attributes written)
    (named : ∀ a ∈ attributes, IsKey a.key.toList) (unquoted : ∀ a ∈ attributes, ∀ c, IsQuote c → c ∉ a.value.toList)
    (distinct : (attributes.map (·.key)).Nodup) (fresh : ∀ a ∈ attributes, a.key.toList ∉ seen.map (·.1)) :
    attributesFrom total seen written = ⟨attributes, none⟩ := by
  induction spelled generalizing seen with
  | nil => simp [attributesFrom]
  | @cons a others blanks s quote parted blank isQuote later ih =>
    obtain ⟨position,read⟩ := attributesFrom_append (s := s) total seen blank (named a List.mem_cons_self) isQuote
      (unquoted a List.mem_cons_self quote isQuote) (fresh a List.mem_cons_self)
    obtain ⟨own,distinct⟩ := List.nodup_cons.mp distinct
    have rest := ih ((a.key.toList, position) :: seen) (fun b member => named b (List.mem_cons_of_mem a member))
      (fun b member => unquoted b (List.mem_cons_of_mem a member)) distinct fun b member => by
        have unseen := fresh b (List.mem_cons_of_mem a member)
        simp only [List.map_cons,List.mem_cons,not_or]
        refine ⟨fun same => own ?_,unseen⟩
        exact List.mem_map.mpr ⟨b,member,String.toList_inj.mp same⟩
    simp only [read,rest,String.ofList_toList]

theorem ofName?_name (tag : Tag) : Tag.ofName? tag.name = some tag := by
  cases tag <;> decide

private theorem name_eq_cons (tag : Tag) : ∃ more, tag.name.toList = 'm' :: more := by
  cases tag <;> exact ⟨_,rfl⟩

private theorem filled_of_mem_name (tag : Tag) : ∀ c ∈ tag.name.toList, (!isTagBlank c) = true := by
  have filled : tag.name.toList.all (!isTagBlank ·) = true := by cases tag <;> decide
  exact List.all_eq_true.mp filled

private theorem plain_of_mem_name (tag : Tag) : ∀ c ∈ '/' :: tag.name.toList, c ∉ ['>', '"', '\''] := by
  have plain : ('/' :: tag.name.toList).all (· ∉ ['>', '"', '\'']) = true := by cases tag <;> decide
  exact fun c member => of_decide_eq_true (List.all_eq_true.mp plain c member)

private theorem closingName_name (tag : Tag) : closingName tag.name.toList = tag.name.toList := by
  cases tag <;> decide

private theorem getLast?_name (tag : Tag) : tag.name.toList.getLast? ≠ some '/' := by
  cases tag <;> decide

namespace SpelledAttributes

/-- Attributes begin behind a blank, so that a name ends there. -/
theorem begins (spelled : SpelledAttributes attributes written) : ∀ c ∈ written.head?, isTagBlank c = true := by
  intro c first
  cases spelled with
  | nil => contradiction
  | @cons a others blanks s quote parted blank isQuote later =>
    obtain ⟨d,more,rfl⟩ := List.exists_cons_of_ne_nil parted
    cases first
    exact blank _ List.mem_cons_self

private theorem ends (spelled : SpelledAttributes attributes written) : ∀ c ∈ written.getLast?, IsQuote c := by
  induction spelled with
  | nil => simp
  | @cons a others blanks s quote parted blank isQuote later ih =>
    intro c last
    have tail : blanks ++ (a.key.toList ++ '=' :: quote :: (a.value.toList ++ quote :: s)) =
        (blanks ++ (a.key.toList ++ '=' :: quote :: a.value.toList)) ++ quote :: s := by simp
    rw [tail,List.getLast?_append_of_ne_nil _ (by simp)] at last
    cases s with
    | nil =>
      cases last
      exact isQuote
    | cons d s => exact ih c (by simpa using last)

private theorem isTagText (spelled : SpelledAttributes attributes written) (named : ∀ a ∈ attributes, IsKey a.key.toList)
    (unquoted : ∀ a ∈ attributes, ∀ c, IsQuote c → c ∉ a.value.toList) : IsTagText written := by
  induction spelled with
  | nil => exact isTagText_nil
  | @cons a others blanks s quote parted blank isQuote later ih =>
    have keyed : ∀ c ∈ a.key.toList ++ ['='], c ∉ ['>', '"', '\''] := by
      intro c member
      rcases List.mem_append.mp member with inside | last
      · exact fun mark => ((named a List.mem_cons_self).2 c inside).2 (List.mem_cons_of_mem '=' mark)
      · rw [List.mem_singleton.mp last]
        decide
    have spaced : ∀ c ∈ blanks, c ∉ ['>', '"', '\''] := fun c member => by
      have space := blank c member
      simp only [List.mem_cons,List.not_mem_nil,or_false,not_or]
      refine ⟨?_,?_,?_⟩ <;> rintro rfl <;> exact absurd space (by decide)
    have value := isTagText_quoted isQuote (unquoted a List.mem_cons_self quote isQuote)
    have rest := ih (fun b member => named b (List.mem_cons_of_mem a member))
      fun b member => unquoted b (List.mem_cons_of_mem a member)
    have whole := (isTagText_of_plain spaced).append ((isTagText_of_plain keyed).append (value.append rest))
    simpa using whole

end SpelledAttributes

section Opening
variable (tag : Tag) (spelled : SpelledAttributes attributes written)
include spelled

theorem tagName_spelled : tagName (tag.name.toList ++ written) = tag.name.toList := by
  rw [tagName,List.takeWhile_append_of_pos (filled_of_mem_name tag)]
  cases written with
  | nil => simp
  | cons c written => simp [spelled.begins c rfl]

private theorem dropWhile_spelled : (tag.name.toList ++ written).dropWhile (!isTagBlank ·) = written := by
  rw [List.dropWhile_append_of_pos (filled_of_mem_name tag)]
  cases written with
  | nil => simp
  | cons c written => simp [spelled.begins c rfl]

private theorem ofTag_spelled : Token.ofTag (tag.name.toList ++ written) = .opening (tag.name.toList ++ written) := by
  have last : (tag.name.toList ++ written).getLast? ≠ some '/' := by
    rw [List.getLast?_append]
    cases found : written.getLast? with
    | none => exact getLast?_name tag
    | some c => rcases spelled.ends c found with rfl | rfl <;> simp
  obtain ⟨more,named⟩ := name_eq_cons tag
  unfold Token.ofTag
  split
  · next same =>
    rw [named] at same
    simp at same
  · rw [if_neg last]

variable (named : ∀ a ∈ attributes, IsKey a.key.toList) (unquoted : ∀ a ∈ attributes, ∀ c, IsQuote c → c ∉ a.value.toList)
include named unquoted

theorem attributes_spelled (distinct : (attributes.map (·.key)).Nodup) :
    Markup.attributes (tag.name.toList ++ written) = ⟨attributes, none⟩ := by
  rw [Markup.attributes,dropWhile_spelled tag spelled]
  exact attributesFrom_spelled _ [] spelled named unquoted distinct (by simp)

theorem scan_openingTag (rest : List Char) : scan '<' (tag.name.toList ++ written ++ ['>'] ++ rest) =
    .ok (.opening (tag.name.toList ++ written), (tag.name.toList ++ written ++ ['>']).length) := by
  have name := isTagText_of_plain fun c member => plain_of_mem_name tag c (List.mem_cons_of_mem '/' member)
  have tagText := name.append (spelled.isTagText named unquoted)
  have opened := ofTag_spelled tag spelled
  obtain ⟨more,begins⟩ := name_eq_cons tag
  rw [begins,List.cons_append] at tagText opened ⊢
  rw [← opened]
  exact scan_tag tagText (by decide)

end Opening

theorem scan_closingTag (tag : Tag) (rest : List Char) : scan '<' ('/' :: tag.name.toList ++ ['>'] ++ rest) =
    .ok (.closing tag.name.toList, ('/' :: tag.name.toList ++ ['>']).length) := by
  rw [scan_tag (isTagText_of_plain (plain_of_mem_name tag)) (by decide),Token.ofTag,closingName_name]

end Letterpress.Markup
