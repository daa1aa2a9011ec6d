import Letterpress.Proofs.Basic
import Letterpress.Proofs.Markup.Assembling
import Letterpress.Proofs.Markup.Placing

/-! How a document comes to be refused. A lexeme is refused for what it is itself, and the fault tells which; and an element
that is still open at the end has been open ever since its tag was read. -/
namespace Letterpress.Markup
open Letterpress.Text

namespace Fault

/-- The name of the tag that may not open an element here, or not so. -/
def opens? : Fault → Option String
  | unknownTag name => some name
  | misplaced name _ => some name
  | secondRoot name => some name
  | wrongRoot name => some name
  | attributeFlaw name _ => some name
  | unknownAttribute _ name => some name
  | unreadableWidth name _ => some name
  | missingAttribute name _ => some name
  | _ => none

/-- The name of the tag that closes nothing, or something else. -/
def closes? : Fault → Option String
  | wrongClosing name _ => some name
  | strayClosing name => some name
  | _ => none

/-- The name of the element that is left open at the end of the document. -/
def leaves? : Fault → Option String
  | unclosedTag name => some name
  | unclosedContent name _ => some name
  | _ => none

/-- The faults of how a document is put together. The others are flaws of its tokens, or there is no element to speak of. -/
def IsStructural : Fault → Prop
  | flaw _ => False
  | noRoot => False
  | _ => True

/-- Where a fault lies in the raw text of a lexeme, by what is in front of it and what it begins: at the `<` of a tag of its
name or of character data, or at the first character of a text that is no blank. -/
inductive LiesIn (fault : Fault) : Token → List Char → List Char → Prop
  | opening {inside : List Char} (named : fault.opens? = some (String.ofList (tagName inside))) :
    LiesIn fault (.opening inside) [] ('<' :: (inside ++ ['>']))
  | standalone {inside : List Char} (named : fault.opens? = some (String.ofList (tagName inside))) :
    LiesIn fault (.standalone inside) [] ('<' :: (inside ++ ['/', '>']))
  | unclosed {inside : List Char} (named : fault.leaves? = some (String.ofList (tagName inside))) :
    LiesIn fault (.opening inside) [] ('<' :: (inside ++ ['>']))
  | closing {name blanks : List Char} (named : fault.closes? = some (String.ofList name))
    (blank : ∀ c ∈ blanks, isTagBlank c = true) :
    LiesIn fault (.closing name) [] ('<' :: '/' :: (name ++ blanks ++ ['>']))
  | characterData {data : List Char} (stray : fault = .strayCharacterData) :
    LiesIn fault .characterData [] ("<![CDATA[".toList ++ data ++ "]]>".toList)
  | text {parent : Option String} {lead more : List Char} {c : Char} (stray : fault = .strayText parent)
    (blank : ∀ d ∈ lead, isAsciiBlank d = true) (filled : isAsciiBlank c = false) (outside : c ≠ '<') :
    LiesIn fault (.text (lead ++ c :: more)) lead (c :: more)

private theorem leaves?_of_opens? {fault : Fault} {name : String} (named : fault.opens? = some name) :
    fault.leaves? = none := by
  cases fault <;> first | rfl | contradiction

private theorem leaves?_of_closes? {fault : Fault} {name : String} (named : fault.closes? = some name) :
    fault.leaves? = none := by
  cases fault <;> first | rfl | contradiction

end Fault

section Refused
variable {a : Assembly} {tag : Tag} {fault : Fault}

private theorem name_of_ofName? {name : String} (known : Tag.ofName? name = some tag) : tag.name = name := by
  unfold Tag.ofName? at known
  simpa using List.find?_some known

private theorem opens?_of_checkPlace (refused : a.checkPlace tag = .error fault) : fault.opens? = some tag.name := by
  unfold Assembly.checkPlace at refused
  split at refused
  · split at refused
    · contradiction
    · cases refused
      rfl
  · split at refused
    · cases refused
      rfl
    · split at refused
      · cases refused
        rfl
      · contradiction

private theorem opens?_of_checkAttributes {inside : List Char} (refused : checkAttributes tag inside = .error fault) :
    fault.opens? = some tag.name := by
  simp only [checkAttributes] at refused
  split at refused
  · cases refused
    rfl
  · split at refused
    · cases refused
      rfl
    · contradiction

private theorem opens?_of_checkWidth {e : Element} (refused : checkWidth e = .error fault) :
    fault.opens? = some e.tag.name := by
  unfold checkWidth at refused
  split at refused
  · split at refused
    · contradiction
    · cases refused
      rfl
  · contradiction

private theorem opens?_of_checkRequired {e : Element} (refused : checkRequired e = .error fault) :
    fault.opens? = some e.tag.name := by
  unfold checkRequired at refused
  split at refused
  · cases refused
    rfl
  · contradiction

/-- Whatever is wrong with a tag that opens an element, the fault has its name. -/
theorem opens?_of_element {inside : List Char} {offset : Nat} (refused : a.element inside offset = .error fault) :
    fault.opens? = some (String.ofList (tagName inside)) := by
  unfold Assembly.element at refused
  cases known : Tag.ofName? (String.ofList (tagName inside)) with
  | none =>
    simp only [known] at refused
    cases refused
    rfl
  | some tag =>
    simp only [known,pure_bind] at refused
    rw [← name_of_ofName? known]
    rcases cases_of_bind_error refused with refused | ⟨-,-,refused⟩
    · exact opens?_of_checkPlace refused
    rcases cases_of_bind_error refused with refused | ⟨attributes,-,refused⟩
    · exact opens?_of_checkAttributes refused
    rcases cases_of_bind_error refused with refused | ⟨-,-,refused⟩
    · exact opens?_of_checkWidth refused
    split at refused
    · rcases cases_of_bind_error refused with refused | ⟨-,-,refused⟩
      · exact opens?_of_checkRequired refused
      · contradiction
    · contradiction

private theorem closes?_of_close {name : String} (refused : a.close name = .error fault) : fault.closes? = some name := by
  unfold Assembly.close at refused
  split at refused
  · cases refused
    rfl
  · split at refused
    · contradiction
    · cases refused
      rfl

private theorem dropWhile_eq_cons {p : Char → Bool} {s more : List Char} {c : Char} (dropped : s.dropWhile p = c :: more) :
    s = s.takeWhile p ++ c :: more ∧ p c = false := by
  refine ⟨by rw [← dropped,List.takeWhile_append_dropWhile],?_⟩
  have kept := List.head_dropWhile_not (p := p) (l := s) (by rw [dropped]; exact List.cons_ne_nil c more)
  simpa only [dropped,List.head_cons] using kept

private theorem Fault.liesIn_text (parent : Option String) {raw more : List Char} {c : Char} (outside : ∀ d ∈ raw, d ≠ '<')
    (stray : raw.dropWhile isAsciiBlank = c :: more) :
    (strayText parent).LiesIn (.text raw) (raw.takeWhile isAsciiBlank) (c :: more) := by
  obtain ⟨whole,filled⟩ := dropWhile_eq_cons stray
  have first : c ≠ '<' := outside c (by rw [whole]; exact List.mem_append_right _ List.mem_cons_self)
  have blank : ∀ d ∈ raw.takeWhile isAsciiBlank, isAsciiBlank d = true := fun d member => List.mem_takeWhile_imp member
  have lies : (strayText parent).LiesIn _ (raw.takeWhile isAsciiBlank) (c :: more) := .text rfl blank filled first
  rwa [← whole] at lies

/-- A lexeme is refused at the place in it where the fault lies. -/
theorem liesIn_of_step {lexeme : Lexeme} {m : Misprint} (spelled : lexeme.token.SpelledAs lexeme.raw)
    (refused : a.step lexeme lexeme.offset = .error m) : m.fault.leaves? = none ∧
      ∃ lead found, lexeme.raw = lead ++ found ∧ m.offset = lexeme.offset + byteLength lead ∧
        m.fault.LiesIn lexeme.token lead found := by
  obtain ⟨token,raw,offset⟩ := lexeme
  unfold Assembly.step at refused
  split at refused
  · split at refused <;> contradiction
  · dsimp only at refused spelled ⊢
    cases spelled with
    | opening inside =>
      rcases cases_of_bind_error refused with refused | ⟨e,-,refused⟩
      · obtain ⟨fault,found,rfl⟩ := exists_of_mapError refused
        have named := opens?_of_element found
        exact ⟨Fault.leaves?_of_opens? named,[],_,rfl,rfl,.opening named⟩
      · split at refused <;> contradiction
    | standalone inside =>
      rcases cases_of_bind_error refused with refused | ⟨e,-,refused⟩
      · obtain ⟨fault,found,rfl⟩ := exists_of_mapError refused
        have named := opens?_of_element found
        exact ⟨Fault.leaves?_of_opens? named,[],_,rfl,rfl,.standalone named⟩
      · contradiction
    | closing blank =>
      obtain ⟨fault,found,rfl⟩ := exists_of_mapError refused
      have named := closes?_of_close found
      exact ⟨Fault.leaves?_of_closes? named,[],_,rfl,rfl,.closing named blank⟩
    | characterData data =>
      cases refused
      exact ⟨rfl,[],_,rfl,rfl,.characterData rfl⟩
    | text outside =>
      cases stray : raw.dropWhile isAsciiBlank with
      | nil =>
        simp only [stray] at refused
        contradiction
      | cons c more =>
        have whole := (dropWhile_eq_cons stray).1
        have length := congrArg byteLength whole
        rw [byteLength_append] at length
        simp only [stray] at refused
        cases refused
        refine ⟨rfl,raw.takeWhile isAsciiBlank,c :: more,whole,?_,Fault.liesIn_text _ outside stray⟩
        simp only [length,Nat.add_sub_cancel]
    | passing more => contradiction

end Refused

namespace Assembly
variable {a b : Assembly} {lexeme : Lexeme} {name : String} {offset : Nat}

/-- The elements that are open, innermost first, each by its name and the offset of its tag. -/
def unclosed (a : Assembly) : List (String × Nat) :=
  (a.verbatim.toList.map (·.element) ++ a.pile).map fun e => (e.tag.name,e.offset)

private theorem unclosed_of_outside (outside : a.verbatim = none) : a.unclosed = a.pile.map fun e => (e.tag.name,e.offset) := by
  simp only [unclosed,outside,Option.toList_none,List.map_nil,List.nil_append]

private theorem unclosed_of_verbatim {v : Verbatim} (inside : a.verbatim = some v) :
    a.unclosed = (v.element.tag.name,v.element.offset) :: a.pile.map fun e => (e.tag.name,e.offset) := by
  simp only [unclosed,inside,Option.toList_some,List.map_cons,List.map_nil,List.singleton_append]

private theorem unclosed_attach (a : Assembly) (e : Element) : (a.attach e).unclosed = a.unclosed := by
  unfold attach unclosed
  split
  · next parent others found => simp only [found,List.map_append,List.map_cons,Element.attach]
  · rfl

private theorem unclosed_close {name : String} (outside : a.verbatim = none) (closed : a.close name = .ok b) :
    ∃ innermost, a.unclosed = innermost :: b.unclosed := by
  unfold close at closed
  split at closed
  · contradiction
  · next e others found =>
    split at closed
    · cases closed
      refine ⟨(e.tag.name,e.offset),?_⟩
      have below := unclosed_of_outside (a := { a with pile := others }) outside
      rw [unclosed_attach,below,unclosed_of_outside outside,found,List.map_cons]
    · contradiction

/-- A lexeme leaves the open elements as they are, or is the tag that opens one more, or closes the innermost. -/
theorem unclosed_step (stepped : a.step lexeme offset = .ok b) :
    b.unclosed = a.unclosed ∨
    (∃ inside, lexeme.token = .opening inside ∧ b.unclosed = (String.ofList (tagName inside),offset) :: a.unclosed) ∨
    ∃ innermost, a.unclosed = innermost :: b.unclosed := by
  unfold step at stepped
  split at stepped
  · next v reading =>
    split at stepped
    · next later continued =>
      cases stepped
      obtain ⟨same,-⟩ := Verbatim.step_inl continued
      refine .inl ?_
      rw [unclosed_of_verbatim (v := later) rfl,unclosed_of_verbatim reading,same]
    · next e closed =>
      cases stepped
      cases Verbatim.step_inr closed
      refine .inr (.inr ⟨(v.element.tag.name,v.element.offset),?_⟩)
      rw [unclosed_attach,unclosed_of_verbatim reading,unclosed_of_outside rfl]
  · next outside =>
    split at stepped
    · next inside token =>
      obtain ⟨e,opened,stepped⟩ := exists_of_bind_ok stepped
      have known := opened_of_element (eq_ok_of_mapError opened)
      refine .inr (.inl ⟨inside,token,?_⟩)
      split at stepped
      · cases stepped
        rw [unclosed_of_verbatim rfl,unclosed_of_outside outside,name_of_ofName? known.known,known.offset]
      · cases stepped
        have above := unclosed_of_outside (a := { a with pile := e :: a.pile }) outside
        rw [above,unclosed_of_outside outside,List.map_cons,name_of_ofName? known.known,known.offset]
    · obtain ⟨e,-,stepped⟩ := exists_of_bind_ok stepped
      cases stepped
      exact .inl (unclosed_attach a e)
    · exact .inr (.inr (unclosed_close outside (eq_ok_of_mapError stepped)))
    · dsimp only at stepped
      split at stepped
      · cases stepped
        exact .inl rfl
      · contradiction
    · contradiction
    · cases stepped
      exact .inl rfl

private theorem exists_of_ofLexemes_error {lexemes : List Lexeme} {m : Misprint} (refused : ofLexemes lexemes = .error m) :
    ∃ earlier lexeme later a, lexemes = earlier ++ lexeme :: later ∧ ofLexemes earlier = .ok a ∧
      a.step lexeme lexeme.offset = .error m := by
  induction lexemes using List.reverseRecOn with
  | nil => contradiction
  | append_singleton lexemes last ih =>
    rw [ofLexemes_concat] at refused
    rcases cases_of_bind_error refused with refused | ⟨a,read,refused⟩
    · obtain ⟨earlier,lexeme,later,a,rfl,read,stopped⟩ := ih refused
      exact ⟨earlier,lexeme,later ++ [last],a,by simp,read,stopped⟩
    · exact ⟨lexemes,last,[],a,rfl,read,refused⟩

/-- An element is open ever since the lexeme that is its tag: those below it were open before, and it is open after every
lexeme behind. -/
structure StaysOpen (entry : String × Nat) (below : List (String × Nat)) (earlier : List Lexeme) (lexeme : Lexeme)
    (later : List Lexeme) : Prop where
  tag : ∃ inside, lexeme.token = .opening inside ∧ entry = (String.ofList (tagName inside),lexeme.offset)
  before : ∃ a, ofLexemes earlier = .ok a ∧ a.unclosed = below
  since : ∀ more, more <+: later → ∃ a, ofLexemes (earlier ++ lexeme :: more) = .ok a ∧ entry :: below <:+ a.unclosed

variable {entry : String × Nat} {below : List (String × Nat)} {earlier later : List Lexeme}

private theorem StaysOpen.concat {last : Lexeme} (stays : StaysOpen entry below earlier lexeme later)
    (read : ofLexemes (earlier ++ lexeme :: later ++ [last]) = .ok b) (still : entry :: below <:+ b.unclosed) :
    StaysOpen entry below earlier lexeme (later ++ [last]) where
  tag := stays.tag
  before := stays.before
  since more front := by
    rcases List.prefix_concat_iff.mp front with all | front
    · rw [all]
      exact ⟨b,by simpa using read,still⟩
    · exact stays.since more front

/-- What is open has been opened once, and has not been closed since. -/
theorem exists_staysOpen {lexemes : List Lexeme} (read : ofLexemes lexemes = .ok b) (isOpen : entry :: below <:+ b.unclosed) :
    ∃ earlier lexeme later, lexemes = earlier ++ lexeme :: later ∧ StaysOpen entry below earlier lexeme later := by
  induction lexemes using List.reverseRecOn generalizing b with
  | nil =>
    cases read
    exact absurd (List.suffix_nil.mp isOpen) (List.cons_ne_nil _ _)
  | append_singleton lexemes last ih =>
    have whole := read
    rw [ofLexemes_concat] at read
    obtain ⟨a,done,stepped⟩ := exists_of_bind_ok read
    -- the last lexeme opened it, or it was open before
    have older (was : entry :: below <:+ a.unclosed) : ∃ earlier lexeme later,
        lexemes ++ [last] = earlier ++ lexeme :: later ∧ StaysOpen entry below earlier lexeme later := by
      obtain ⟨earlier,lexeme,later,rfl,stays⟩ := ih done was
      exact ⟨earlier,lexeme,later ++ [last],by simp,stays.concat whole isOpen⟩
    rcases unclosed_step stepped with same | ⟨inside,token,pushed⟩ | ⟨innermost,popped⟩
    · exact older (same ▸ isOpen)
    · rw [pushed] at isOpen
      rcases List.suffix_cons_iff.mp isOpen with all | was
      · obtain ⟨rfl,rfl⟩ := List.cons.inj all
        refine ⟨lexemes,last,[],rfl,⟨⟨inside,token,rfl⟩,⟨a,done,rfl⟩,fun more front => ?_⟩⟩
        rw [List.prefix_nil.mp front]
        exact ⟨b,whole,pushed ▸ List.suffix_rfl⟩
      · exact older was
    · exact older (popped ▸ isOpen.trans (List.suffix_cons innermost b.unclosed))

private theorem leaves?_of_finish {flaw : Option (Flaw × Nat)} {m : Misprint} (structural : m.fault.IsStructural)
    (refused : a.finish flaw = .error m) :
    ∃ name below, m.fault.leaves? = some name ∧ a.unclosed = (name,m.offset) :: below := by
  unfold finish at refused
  split at refused
  · next v inside =>
    cases refused
    exact ⟨_,_,rfl,unclosed_of_verbatim inside⟩
  · next v inside =>
    cases refused
    exact ⟨_,_,rfl,unclosed_of_verbatim inside⟩
  · cases refused
    exact structural.elim
  · next outside =>
    split at refused
    · next e others found =>
      cases refused
      exact ⟨_,_,rfl,by rw [unclosed_of_outside outside,found,List.map_cons]⟩
    · split at refused
      · contradiction
      · cases refused
        exact structural.elim

end Assembly

/-- What is wrong with a document: a lexeme of it, those in front and behind, and the raw text of the lexeme in front of the
fault and from there on. -/
structure Offence where
  earlier : List Lexeme
  lexeme : Lexeme
  later : List Lexeme
  lead : List Char
  found : List Char

namespace Offence

/-- What lies in front of the fault. -/
def before (o : Offence) : List Char := o.earlier.flatMap (·.raw) ++ o.lead

/-- Either the document was right up to the lexeme and is not with it, or the lexeme opens the element that is the innermost to
be left open. -/
structure Explains (o : Offence) (source : List Char) (m : Misprint) : Prop where
  cut : (lexemes source).lexemes = o.earlier ++ o.lexeme :: o.later
  raw : o.lexeme.raw = o.lead ++ o.found
  lies : m.fault.LiesIn o.lexeme.token o.lead o.found
  seen : match m.fault.leaves? with
    | none => ∃ a, Assembly.ofLexemes o.earlier = .ok a ∧ a.step o.lexeme o.lexeme.offset = .error m
    | some name => ∃ below a, Assembly.StaysOpen (name, o.lexeme.offset) below o.earlier o.lexeme o.later ∧
        Assembly.ofLexemes (lexemes source).lexemes = .ok a ∧ a.unclosed = (name, o.lexeme.offset) :: below

end Offence

variable {source : List Char} {m : Misprint}

private theorem place_of_split {earlier later : List Lexeme} {lexeme : Lexeme} {lead found : List Char}
    (cut : (lexemes source).lexemes = earlier ++ lexeme :: later) (raw : lexeme.raw = lead ++ found)
    (placed : m.offset = lexeme.offset + byteLength lead) :
    earlier.flatMap (·.raw) ++ lead ++ found <+: source ∧
      (m.report source).place = .behind (earlier.flatMap (·.raw) ++ lead) := by
  obtain ⟨rest,whole⟩ := source_of_split cut
  have exact : m.offset = byteLength (earlier.flatMap (·.raw) ++ lead) := by
    rw [placed,(lexemesFrom_split cut).2,Nat.zero_add,byteLength_append]
  have split : source = earlier.flatMap (·.raw) ++ lead ++ (found ++ rest) := by
    rw [whole,raw]
    simp only [List.append_assoc]
  refine ⟨⟨rest,by rw [split]; simp only [List.append_assoc]⟩,?_⟩
  rw [Misprint.report,exact]
  exact split ▸ Position.ofOffset_append _ _

private theorem exists_offence_of_stop (stopped : Assembly.ofLexemes (lexemes source).lexemes = .error m) :
    ∃ o : Offence, o.Explains source m ∧ m.offset = o.lexeme.offset + byteLength o.lead := by
  obtain ⟨earlier,lexeme,later,a,cut,read,stepped⟩ := Assembly.exists_of_ofLexemes_error stopped
  obtain ⟨atOnce,lead,found,raw,placed,lies⟩ := liesIn_of_step (lexemesFrom_split cut).1 stepped
  refine ⟨⟨earlier,lexeme,later,lead,found⟩,⟨cut,raw,lies,?_⟩,placed⟩
  rw [atOnce]
  exact ⟨a,read,stepped⟩

private theorem exists_offence_of_end {a : Assembly} (structural : m.fault.IsStructural)
    (read : Assembly.ofLexemes (lexemes source).lexemes = .ok a) (ended : a.finish (lexemes source).flaw = .error m) :
    ∃ o : Offence, o.Explains source m ∧ m.offset = o.lexeme.offset + byteLength o.lead := by
  obtain ⟨name,below,named,unclosed⟩ := Assembly.leaves?_of_finish structural ended
  have isOpen : (name,m.offset) :: below <:+ a.unclosed := unclosed ▸ List.suffix_rfl
  obtain ⟨earlier,lexeme,later,cut,stays⟩ := Assembly.exists_staysOpen read isOpen
  obtain ⟨inside,token,entry⟩ := stays.tag
  obtain ⟨rfl,placed⟩ := Prod.mk.inj entry
  have spelled := (lexemesFrom_split cut).1
  rw [token] at spelled
  have raw : lexeme.raw = '<' :: (inside ++ ['>']) := by
    generalize lexeme.raw = raw at spelled
    cases spelled
    rfl
  refine ⟨⟨earlier,lexeme,later,[],'<' :: (inside ++ ['>'])⟩,⟨cut,raw,?_,?_⟩,placed⟩
  · rw [token]
    exact .unclosed named
  · rw [named]
    exact ⟨below,a,placed ▸ stays,read,placed ▸ unclosed⟩

/-- Positions are exact: a document that does not begin with a byte order mark is refused at the line and column at which the
offence begins. -/
theorem misprints_are_exact (unmarked : source.head? ≠ some '\ufeff') (structural : m.fault.IsStructural)
    (refused : Element.ofSource source = .error m) :
    ∃ o : Offence, o.Explains source m ∧ o.before ++ o.found <+: source ∧ (m.report source).place = .behind o.before := by
  rw [ofSource_of_unmarked unmarked] at refused
  obtain ⟨o,explains,placed⟩ : ∃ o : Offence, o.Explains source m ∧ m.offset = o.lexeme.offset + byteLength o.lead := by
    rcases cases_of_bind_error refused with stopped | ⟨a,read,ended⟩
    · exact exists_offence_of_stop stopped
    · exact exists_offence_of_end structural read ended
  exact ⟨o,explains,place_of_split explains.cut explains.raw placed⟩

def strangeSource : List Char := "<mjml>\n <!-- no such -->\n <mj-x/></mjml>".toList

private theorem ofSource_strangeSource : Element.ofSource strangeSource = .error ⟨26, .unknownTag "mj-x"⟩ := by
  with_unfolding_all rfl

theorem misprints_are_exact_in_strangeSource : strangeSource.head? ≠ some '\ufeff' ∧
    Element.ofSource strangeSource = .error ⟨26, .unknownTag "mj-x"⟩ ∧
    ∃ o : Offence, o.Explains strangeSource ⟨26, .unknownTag "mj-x"⟩ ∧ o.before ++ o.found <+: strangeSource ∧
      (Misprint.report strangeSource ⟨26, .unknownTag "mj-x"⟩).place = .behind o.before :=
  ⟨by decide,ofSource_strangeSource,misprints_are_exact (by decide) trivial ofSource_strangeSource⟩

/-- Behind a byte order mark every offset is three bytes short. -/
theorem misprint_behind_mark_is_misplaced : ∃ source before found m,
    source = before ++ found ∧ before = "\ufeff\n ".toList ∧ found = "oops".toList ∧
    Element.ofSource source = .error m ∧ m.fault = .strayText none ∧
    (m.report source).place = ⟨1, 1⟩ ∧ Position.behind before = ⟨2, 2⟩ :=
  ⟨"\ufeff\n oops".toList,"\ufeff\n ".toList,"oops".toList,⟨2, .strayText none⟩,rfl,rfl,rfl,by with_unfolding_all rfl,rfl,
    by decide,by decide⟩

end Letterpress.Markup
