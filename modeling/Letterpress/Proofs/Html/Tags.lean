import Letterpress.Html.Box
import Letterpress.Proofs.Html.Quoting

/-! Which tags a text opens and closes. What is left of it without expressions and quotes has a tag at every `<`. The
attributes of a tag are inert: what follows them is read as if they were not there. -/
namespace Letterpress.Html
open Letterpress.Text

inductive Mark
  | opens (name : String)
  | closes (name : String)
  deriving DecidableEq, Repr

def tagName (s : List Char) : String := String.ofList (s.takeWhile fun c => c != ' ' && c != '>')

/-- The tags in a text; comments are none. -/
def marksIn : List Char → List Mark
  | [] => []
  | '<' :: '!' :: s => marksIn s
  | '<' :: '/' :: s => .closes (tagName s) :: marksIn s
  | '<' :: s => .opens (tagName s) :: marksIn s
  | _ :: s => marksIn s

/-- The tags that a text opens and closes, in order. -/
def tagsIn (html : String) : List Mark := marksIn (bareChars false (shownChars html.toList))

variable {c : Char} {s t v before after : List Char} {marks : List Mark}

/-- What is read behind a place as the marks: outside of quotes, and wherever an expression ends that has begun inside of quotes
before that place. -/
structure Reads (marks : List Mark) (s : List Char) : Prop where
  outside : marksIn (bareChars false (shownChars s)) = marks
  resumed : ∀ before after, breakOn? closesExpression s = some (before, after) →
    marksIn (bareChars true (shownChars after)) = marks

/-- Where no expression ends any more, all is text. -/
theorem Reads.behind_unclosed (reads : Reads marks s) (hushed : Hushed v)
    (unclosed : breakOn? closesExpression (v ++ '"' :: s) = none) :
    marksIn (bareChars true (shownChars (v ++ '"' :: s))) = marks := by
  have absent := not_infix_of_breakOn?_eq_none unclosed
  have quiet := hushed.unquoted_of_unclosed fun within => absent (within.trans (List.prefix_append _ _).isInfix)
  have last : breakOn? closesExpression s = none :=
    breakOn?_eq_none fun within => absent (within.trans ⟨v ++ ['"'],[],by simp⟩)
  have outside := reads.outside
  rw [shownChars_unclosed last] at outside
  rw [shownChars_unclosed unclosed,bareChars_behind quiet]
  exact outside

/-- A value stays in its quotes. -/
theorem Reads.behind_value (reads : Reads marks s) (hushed : Hushed v) :
    marksIn (bareChars true (shownChars (v ++ '"' :: s))) = marks := by
  induction length : v.length using Nat.strong_induction_on generalizing v with
  | _ n ih =>
    subst length
    cases found : breakOn? closesExpression (v ++ '"' :: s) with
    | none => exact reads.behind_unclosed hushed found
    | some parts =>
      by_cases lead : opensExpression <+: v ++ '"' :: s
      · -- the reader goes on where the expression ends, in the value or behind it
        obtain ⟨inside,same⟩ := lead
        obtain ⟨b,inner⟩ := breakOn?_behind_opening (same ▸ found)
        rw [← same,shownChars_expression inner]
        rcases hushed.resumed found with ⟨rest,quiet,shorter,within⟩ | ⟨b,later⟩
        · rw [within]
          exact ih rest.length shorter quiet rfl
        · exact reads.resumed b _ later
      · cases hushed with
        | nil =>
          rw [List.nil_append,shownChars_plain (by decide)]
          exact reads.outside
        | @text c v other rest =>
          rw [List.cons_append] at lead ⊢
          rw [shownChars_cons lead,bareChars_filled other]
          exact ih v.length (Nat.lt_succ_self _) rest rfl
        | expression first rest => exact absurd ⟨_,List.append_assoc opensExpression _ _⟩ lead

/-- Whether a text that begins outside of quotes, or in them, ends in quotes. -/
def endsQuoted (quoted : Bool) (s : List Char) : Bool := s.foldl (fun quoted c => if c = '"' then !quoted else quoted) quoted

def isQuiet (s : List Char) : Bool := s.all fun c => !isBrace c && c != '<'

private theorem bareChars_append (quoted : Bool) (s t : List Char) :
    bareChars quoted (s ++ t) = bareChars quoted s ++ bareChars (endsQuoted quoted s) t := by
  induction s generalizing quoted with
  | nil => rfl
  | cons c s ih =>
    by_cases quote : c = '"'
    · have step : endsQuoted quoted (c :: s) = endsQuoted (!quoted) s := by simp [endsQuoted,quote]
      have read (rest : List Char) : bareChars quoted (c :: rest) = bareChars (!quoted) rest := by simp [bareChars,quote]
      rw [List.cons_append,read,read,step,ih]
    · have step : endsQuoted quoted (c :: s) = endsQuoted quoted s := by simp [endsQuoted,quote]
      rw [List.cons_append,bareChars_filled quote,bareChars_filled quote,step,ih,List.append_assoc]

private theorem mem_of_mem_bareChars {quoted : Bool} (member : c ∈ bareChars quoted s) : c ∈ s := by
  induction s generalizing quoted with
  | nil => contradiction
  | cons d s ih =>
    rw [bareChars] at member
    split at member
    · exact List.mem_cons_of_mem d (ih member)
    · split at member
      · exact List.mem_cons_of_mem d (ih member)
      · exact List.mem_cons.mpr ((List.mem_cons.mp member).imp_right ih)

private theorem marksIn_behind (markless : ∀ c ∈ t, c ≠ '<') (s : List Char) : marksIn (t ++ s) = marksIn s := by
  induction t with
  | nil => rfl
  | cons c t ih =>
    obtain ⟨other,later⟩ := List.forall_mem_cons.mp markless
    rw [List.cons_append,marksIn,ih later]
    all_goals simp [other]

private theorem quiet_iff : isQuiet s = true ↔ (∀ c ∈ s, isBrace c = false) ∧ ∀ c ∈ s, c ≠ '<' := by
  simp [isQuiet,forall_and]

/-- A text without tags and braces only says whether what follows it is in quotes. -/
theorem marksIn_behind_quiet (quiet : isQuiet t = true) (s : List Char) :
    marksIn (bareChars false (shownChars (t ++ s))) = marksIn (bareChars (endsQuoted false t) (shownChars s)) := by
  obtain ⟨plain,markless⟩ := quiet_iff.mp quiet
  rw [shownChars_behind plain,bareChars_append,marksIn_behind fun c member => markless c (mem_of_mem_bareChars member)]

private theorem resumed_behind_quiet (quiet : isQuiet t = true)
    (found : breakOn? closesExpression (t ++ s) = some (before, after)) :
    ∃ before, breakOn? closesExpression s = some (before, after) := by
  refine breakOn?_behind (fun c member same => ?_) found
  have plain := (quiet_iff.mp quiet).1 c member
  rw [same] at plain
  exact absurd plain (by decide)

private theorem Reads.behind_quiet (reads : Reads marks s) (quiet : isQuiet t = true) (closed : endsQuoted false t = false) :
    Reads marks (t ++ s) where
  outside := by rw [marksIn_behind_quiet quiet,closed,reads.outside]
  resumed before after found := by
    obtain ⟨b,inner⟩ := resumed_behind_quiet quiet found
    exact reads.resumed b after inner

private theorem Reads.behind_attribute (reads : Reads marks s) (quiet : isQuiet t = true) (opened : endsQuoted false t = true)
    (hushed : Hushed v) : Reads marks (t ++ (v ++ '"' :: s)) where
  outside := by rw [marksIn_behind_quiet quiet,opened,reads.behind_value hushed]
  resumed before after found := by
    obtain ⟨b,inner⟩ := resumed_behind_quiet quiet found
    rcases hushed.resumed inner with ⟨rest,quiet,_,rfl⟩ | ⟨b,later⟩
    · exact reads.behind_value quiet
    · exact reads.resumed b after later

/-- Attributes: whatever their values are, what follows them is read as if they were not there. -/
structure Inert (a : String) : Prop where
  spaced : ∀ c ∈ a.toList.head?, c = ' '
  keeps : ∀ {marks s}, Reads marks s → Reads marks (a.toList ++ s)

section Inert
variable {a b : String}

theorem inert_empty : Inert "" := ⟨fun _ => by simp,id⟩

theorem Inert.append (left : Inert a) (right : Inert b) : Inert (a ++ b) where
  spaced c first := by
    rw [String.toList_append,List.head?_append] at first
    cases begins : a.toList.head? with
    | none =>
      rw [begins] at first
      exact right.spaced c first
    | some d =>
      rw [begins] at first
      cases first
      exact left.spaced c begins
  keeps reads := by
    rw [String.toList_append,List.append_assoc]
    exact left.keeps (right.keeps reads)

/-- Attributes that are given, or their beginning up to a value. -/
def isPart (upToValue : Bool) (s : List Char) : Bool :=
  isQuiet s && endsQuoted false s == upToValue && s.head?.all (· == ' ')

private theorem isPart_iff {upToValue : Bool} :
    isPart upToValue s = true ↔ isQuiet s = true ∧ endsQuoted false s = upToValue ∧ ∀ c ∈ s.head?, c = ' ' := by
  simp [isPart,Option.all_eq_true,and_assoc]

theorem inert_ofList (s : List Char) (checked : isPart false s = true) : Inert (String.ofList s) := by
  obtain ⟨quiet,closed,spaced⟩ := isPart_iff.mp checked
  constructor
  · rwa [String.toList_ofList]
  · intro marks s reads
    rw [String.toList_ofList]
    exact reads.behind_quiet quiet closed

private theorem inert_value {value : String} (checked : isPart true t = true) (hushed : Hushed value.toList)
    (unquoted : s.all (· != '"') = true) : Inert (String.ofList t ++ value ++ String.ofList (s ++ ['"'])) := by
  obtain ⟨quiet,opened,spaced⟩ := isPart_iff.mp checked
  constructor
  · intro c first
    cases t with
    | nil => contradiction
    | cons d t =>
      simp only [String.toList_append,String.toList_ofList,List.cons_append] at first
      exact spaced c first
  · intro marks rest reads
    have behind := reads.behind_attribute quiet opened (hushed.append (hushed_of_unquoted (unquoted_of_all unquoted)))
    simpa using behind

theorem inert_attributeText (name : String) {value : String} (checked : isPart true (' ' :: name.toList ++ ['=', '"']) = true)
    (hushed : Hushed value.toList) : Inert (attributeText name value) := by
  have spelled : attributeText name value =
      String.ofList (' ' :: name.toList ++ ['=', '"']) ++ value ++ String.ofList ([] ++ ['"']) := by
    simp [← String.toList_inj,attributeText]
  rw [spelled]
  exact inert_value checked hushed rfl

theorem inert_passed (s : Markup.Styled) (key : String) (checked : isPart true (' ' :: key.toList ++ ['=', '"']) = true) :
    Inert (passed s key) := by
  unfold passed
  split
  · exact inert_attributeText key checked (hushed_escape _)
  · exact inert_empty

theorem inert_classText (s : Markup.Styled) : Inert (classText s) := by
  unfold classText
  split
  · exact inert_attributeText "class" rfl (hushed_escape _)
  · exact inert_empty

theorem inert_html (style : Style) : Inert style.html := by
  unfold Style.html
  dsimp only
  split
  · exact inert_empty
  · exact inert_attributeText "style" rfl (hushed_escape _)

end Inert

def isName (s : List Char) : Bool :=
  isQuiet s && !s.isEmpty && s.all fun c => c != '"' && c != ' ' && c != '>' && c != '!' && c != '/'

private theorem isName_iff :
    isName s = true ↔ isQuiet s = true ∧ s ≠ [] ∧ ∀ c ∈ s, c ≠ '"' ∧ c ≠ ' ' ∧ c ≠ '>' ∧ c ≠ '!' ∧ c ≠ '/' := by
  simp [isName,and_assoc]

private theorem tagName_append (named : isName t = true) (ends : c = ' ' ∨ c = '>') (s : List Char) :
    tagName (t ++ c :: s) = String.ofList t := by
  obtain ⟨_,_,apart⟩ := isName_iff.mp named
  have goes : ∀ d ∈ t, (d != ' ' && d != '>') = true := by
    intro d member
    obtain ⟨_,blank,closing,_⟩ := apart d member
    simp [blank,closing]
  have stops : (c != ' ' && c != '>') = false := by rcases ends with rfl | rfl <;> rfl
  rw [tagName,List.takeWhile_append_of_pos goes,List.takeWhile_cons,stops]
  simp

private theorem marksIn_opening (named : isName t = true) (ends : c = ' ' ∨ c = '>') (s : List Char) :
    marksIn ('<' :: (t ++ c :: s)) = .opens (String.ofList t) :: marksIn (c :: s) := by
  have whole := tagName_append named ends s
  obtain ⟨quiet,filled,apart⟩ := isName_iff.mp named
  have further := marksIn_behind (quiet_iff.mp quiet).2 (c :: s)
  cases t with
  | nil => contradiction
  | cons d t =>
    obtain ⟨_,_,_,comment,slash⟩ := apart d List.mem_cons_self
    rw [List.cons_append] at whole further ⊢
    rw [marksIn,whole,further]
    all_goals simp [comment,slash]

private theorem marksIn_closing (named : isName t = true) :
    marksIn ('<' :: '/' :: (t ++ ['>'])) = [.closes (String.ofList t)] := by
  have whole := tagName_append named (.inr rfl) []
  have further := marksIn_behind (quiet_iff.mp (isName_iff.mp named).1).2 ['>']
  rw [marksIn,whole,further]
  rfl

/-- The beginning of a tag that stands behind a lead: its name and some attributes. -/
def Begun (lead name html : String) : Prop :=
  ∃ attributes, Inert attributes ∧ html.toList = lead.toList ++ '<' :: (name.toList ++ attributes.toList)

def Silent (lead : String) : Prop := ∀ s, marksIn (bareChars false (shownChars (lead.toList ++ s))) =
  marksIn (bareChars false (shownChars s))

def conditional : String := "<!--[if mso | IE]>"

theorem silent_empty : Silent "" := fun _ => rfl

theorem silent_conditional : Silent conditional := by
  intro s
  rw [shownChars_behind (plain_of_all rfl),bareChars_behind (unquoted_of_all rfl)]
  rfl

section Begun
variable {lead name html a value : String}

theorem begun (named : html.toList = lead.toList ++ '<' :: name.toList) : Begun lead name html :=
  ⟨"",inert_empty,by simpa using named⟩

theorem Begun.append (begun : Begun lead name html) (inert : Inert a) : Begun lead name (html ++ a) := by
  obtain ⟨attributes,own,spelled⟩ := begun
  exact ⟨attributes ++ a,own.append inert,by simp [spelled]⟩

theorem Begun.around (begun : Begun lead name html) (t s : List Char) (checked : isPart true t = true)
    (hushed : Hushed value.toList) (unquoted : s.all (· != '"') = true) :
    Begun lead name (html ++ String.ofList t ++ value ++ String.ofList (s ++ ['"'])) := by
  have whole := begun.append (inert_value checked hushed unquoted)
  rwa [← String.append_assoc,← String.append_assoc] at whole

/-- What may follow the beginning of a tag, and the tags in it. -/
def isTail (marks : List Mark) (s : List Char) : Bool :=
  s.all (!isBrace ·) && s.head?.any (fun c => c == ' ' || c == '>') && marksIn (bareChars false s) == marks

private theorem reads_of_plain (plain : ∀ c ∈ s, isBrace c = false) : Reads (marksIn (bareChars false s)) s := by
  have whole := shownChars_behind plain []
  rw [shownChars_nil,List.append_nil] at whole
  constructor
  · rw [whole]
  · intro before after found
    have brace := plain '\x7d' (by rw [breakOn?_eq_some found]; simp [closesExpression])
    exact absurd brace (by decide)

theorem Begun.read (begun : Begun lead name html) (silent : Silent lead) (named : isName name.toList = true)
    (checked : isTail marks s = true) : tagsIn (html ++ String.ofList s) = .opens name :: marks := by
  obtain ⟨attributes,inert,spelled⟩ := begun
  simp only [isTail,Bool.and_eq_true,List.all_eq_true,Bool.not_eq_true',Option.any_eq_true,Bool.or_eq_true,
    beq_iff_eq] at checked
  obtain ⟨⟨plain,c,first,ends⟩,rfl⟩ := checked
  have reads := inert.keeps (reads_of_plain plain)
  obtain ⟨d,rest,behind,stops⟩ : ∃ d rest, attributes.toList ++ s = d :: rest ∧ (d = ' ' ∨ d = '>') := by
    cases more : attributes.toList with
    | nil =>
      obtain ⟨rest,rfl⟩ := List.head?_eq_some_iff.mp first
      exact ⟨c,rest,rfl,ends⟩
    | cons d rest => exact ⟨d,rest ++ s,rfl,.inl (inert.spaced d (by rw [more]; rfl))⟩
  have guarded : isBrace d = false := by rcases stops with rfl | rfl <;> rfl
  have other : d ≠ '"' := by rcases stops with rfl | rfl <;> decide
  obtain ⟨quiet,_,apart⟩ := isName_iff.mp named
  have bare : ∀ c ∈ '<' :: name.toList, isBrace c = false := List.forall_mem_cons.mpr ⟨rfl,(quiet_iff.mp quiet).1⟩
  have unquoted : ∀ c ∈ '<' :: name.toList, c ≠ '"' :=
    List.forall_mem_cons.mpr ⟨by decide,fun c member => (apart c member).1⟩
  have outside := reads.outside
  rw [behind,shownChars_plain guarded,bareChars_filled other] at outside
  rw [tagsIn,String.toList_append,String.toList_ofList,spelled,List.append_assoc,silent,List.cons_append,List.append_assoc,
    behind,← List.cons_append,shownChars_behind bare,bareChars_behind unquoted,shownChars_plain guarded,bareChars_filled other]
  exact (marksIn_opening named stops _).trans (by rw [String.ofList_toList]; exact congrArg _ outside)

example : tagsIn "<a href=\"\x7b\x7b link \"b>\" \x7d\x7d<c>\"><d></d>" = [.opens "a", .opens "d", .closes "d"] := by cbv

theorem tagsIn_ofList (s : List Char) (plain : s.all (!isBrace ·) = true) :
    tagsIn (String.ofList s) = marksIn (bareChars false s) := by
  have reads := reads_of_plain (plain_of_all plain)
  rw [tagsIn,String.toList_ofList,reads.outside]

def closingTag (name : String) : String := String.ofList ('<' :: '/' :: (name.toList ++ ['>']))

theorem tagsIn_closingTag (named : isName name.toList = true) : tagsIn (closingTag name) = [.closes name] := by
  obtain ⟨quiet,_,apart⟩ := isName_iff.mp named
  have plain : ('<' :: '/' :: (name.toList ++ ['>'])).all (!isBrace ·) = true := by
    simpa [isBrace] using (quiet_iff.mp quiet).1
  have unquoted : ∀ c ∈ '<' :: '/' :: (name.toList ++ ['>']), c ≠ '"' := by
    simp only [List.forall_mem_cons,List.forall_mem_append]
    exact ⟨by decide,by decide,fun c member => (apart c member).1,by decide,List.forall_mem_nil _⟩
  have bare := bareChars_behind unquoted false []
  rw [List.append_nil] at bare
  rw [closingTag,tagsIn_ofList _ plain,bare]
  exact (congrArg marksIn (List.append_nil _)).trans ((marksIn_closing named).trans (by rw [String.ofList_toList]))

end Begun
end Letterpress.Html
