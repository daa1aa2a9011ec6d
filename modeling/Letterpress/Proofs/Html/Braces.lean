import Letterpress.Html.Escape
import Letterpress.Proofs.Text.Searching
import Mathlib.Data.List.Chain

/-! Texts in which braces stand alone. No brace is doubled in them, so no expression begins or ends. Two such texts may be
joined wherever no brace meets its like; a firm text may stand between any two. -/
namespace Letterpress.Html
open Letterpress.Text

def isBrace (c : Char) : Bool := c == '\x7b' || c == '\x7d'

/-- Two characters that may stand side by side: not the same brace twice. -/
def Apart (c d : Char) : Prop := c = d → isBrace c = false

def Lone (s : List Char) : Prop := s.IsChain Apart

/-- Whatever lone texts stand around it, braces still stand alone. -/
def Firm (a : String) : Prop := ∀ s t, Lone s → Lone t → Lone (s ++ a.toList ++ t)

def Tame (a : String) : Prop := a = "" ∨ Firm a

variable {c d : Char} {s t : List Char} {a b v w : String}

theorem apart_left (plain : isBrace c = false) : Apart c d := fun _ => plain

theorem apart_right (plain : isBrace d = false) : Apart c d := fun same => same ▸ plain

theorem isBrace_of_isBlank (blank : isBlank c = true) : isBrace c = false := by
  by_contra brace
  simp only [isBrace,Bool.not_eq_false,Bool.or_eq_true,beq_iff_eq] at brace
  rcases brace with rfl | rfl <;> exact absurd blank (by decide)

private theorem not_apart_iff : ¬ Apart c d ↔ [c, d] = opensExpression ∨ [c, d] = closesExpression := by
  simp only [Apart,isBrace,opensExpression,closesExpression,List.cons.injEq,and_true]
  grind

/-- Braces stand alone where no expression begins and none ends. -/
theorem lone_iff : Lone s ↔ ¬ opensExpression <:+: s ∧ ¬ closesExpression <:+: s := by
  rw [Lone,List.isChain_iff_forall_rel_of_append_cons_cons]
  constructor
  · intro apart
    constructor
    · rintro ⟨before,after,rfl⟩
      exact not_apart_iff.mpr (.inl rfl) (apart (List.append_assoc before opensExpression after))
    · rintro ⟨before,after,rfl⟩
      exact not_apart_iff.mpr (.inr rfl) (apart (List.append_assoc before closesExpression after))
  · rintro ⟨opens,closes⟩ c d before after rfl
    have found : [c, d] <:+: before ++ c :: d :: after := ⟨before,after,by simp⟩
    by_contra touching
    rcases not_apart_iff.mp touching with same | same
    · exact opens (same ▸ found)
    · exact closes (same ▸ found)

theorem Lone.within (lone : Lone t) (within : s <:+: t) : Lone s := List.IsChain.infix lone within

theorem lone_nil : Lone [] := .nil

theorem lone_append_iff :
    Lone (s ++ t) ↔ Lone s ∧ Lone t ∧ ∀ c ∈ s.getLast?, ∀ d ∈ t.head?, Apart c d := List.isChain_append

private theorem lone_of_plain (plain : ∀ c ∈ s, isBrace c = false) : Lone s := by
  refine lone_iff.mpr ⟨fun within => ?_,fun within => ?_⟩
  · exact absurd (plain '\x7b' (within.mem (by decide))) (by decide)
  · exact absurd (plain '\x7d' (within.mem (by decide))) (by decide)

theorem Firm.lone (firm : Firm a) : Lone a.toList := by
  have alone := firm [] [] lone_nil lone_nil
  rwa [List.nil_append,List.append_nil] at alone

theorem Tame.lone (tame : Tame a) : Lone a.toList := by
  rcases tame with rfl | firm
  · exact lone_nil
  · exact firm.lone

theorem Firm.tame (firm : Firm a) : Tame a := .inr firm

theorem tame_empty : Tame "" := .inl rfl

theorem Firm.append (left : Firm a) (right : Tame b) : Firm (a ++ b) := by
  rcases right with rfl | right
  · rwa [String.append_empty]
  · intro s t before after
    have more := right [] t lone_nil after
    have whole := left s _ before more
    simpa using whole

theorem Tame.append (left : Tame a) (right : Tame b) : Tame (a ++ b) := by
  rcases left with rfl | left
  · rwa [String.empty_append]
  · exact (left.append right).tame

theorem Lone.spaced (left : Lone v.toList) (middle : Firm a) (right : Lone w.toList) : Lone (v ++ a ++ w).toList := by
  simpa only [String.toList_append] using middle _ _ left right

theorem Firm.around (left : Firm a) (inside : Lone v.toList) (right : Firm b) : Firm (a ++ v ++ b) := by
  intro s t before after
  have begun := left s _ before inside
  have whole := right _ t begun after
  simpa using whole

theorem Firm.before (left : Firm a) (right : Lone v.toList) : Lone (a ++ v).toList := by
  have whole := left [] _ lone_nil right
  rwa [List.nil_append,← String.toList_append] at whole

theorem Tame.before (left : Tame a) (right : Lone v.toList) : Lone (a ++ v).toList := by
  rcases left with rfl | left
  · rwa [String.empty_append]
  · exact left.before right

theorem Tame.after (right : Tame b) (left : Lone s) : Lone (s ++ b.toList) := by
  rcases right with rfl | right
  · simpa using left
  · have whole := right s [] left lone_nil
    rwa [List.append_nil] at whole

private theorem firm_of_ends (lone : Lone a.toList) (first : c ∈ a.toList.head?) (plain : isBrace c = false)
    (last : d ∈ a.toList.getLast?) (bare : isBrace d = false) : Firm a := by
  intro s t before after
  refine lone_append_iff.mpr ⟨lone_append_iff.mpr ⟨before,lone,fun x _ y begins => ?_⟩,after,fun x ends y _ => ?_⟩
  · obtain rfl := Option.mem_unique begins first
    exact apart_right plain
  · rw [List.getLast?_append,last] at ends
    obtain rfl := Option.mem_some_iff.mp ends
    exact apart_left bare

theorem tame_of_plain (plain : ∀ c ∈ a.toList, isBrace c = false) : Tame a := by
  by_cases empty : a.toList = []
  · exact .inl (String.toList_eq_nil_iff.mp empty)
  · have first := List.head_mem empty
    have last := List.getLast_mem empty
    exact (firm_of_ends (lone_of_plain plain) (List.head?_eq_some_head empty) (plain _ first)
      (List.getLast?_eq_some_getLast empty) (plain _ last)).tame

theorem tame_join {texts : List String} (tame : ∀ text ∈ texts, Tame text) : Tame (String.join texts) := by
  induction texts with
  | nil => exact tame_empty
  | cons text rest ih =>
    rw [String.join_cons]
    exact (tame text List.mem_cons_self).append (ih fun other member => tame other (List.mem_cons_of_mem text member))

theorem lone_intercalate {texts : List String} (firm : Firm a) (lone : ∀ text ∈ texts, Lone text.toList) :
    Lone (a.intercalate texts).toList := by
  rw [String.toList_intercalate]
  induction texts with
  | nil => exact lone_nil
  | cons text rest ih =>
    have first := lone text List.mem_cons_self
    have others := ih fun other member => lone other (List.mem_cons_of_mem text member)
    cases rest with
    | nil => simpa using first
    | cons next rest =>
      simp only [List.map_cons,List.intercalate_cons_cons] at others ⊢
      exact firm _ _ first others

theorem Lone.trim (lone : Lone v.toList) : Lone (trim v).toList := by
  rw [Text.trim,String.toList_ofList]
  exact lone.within (trimChars_isInfix _)

def isLone : List Char → Bool
  | c :: d :: s => (c != d || !isBrace c) && isLone (d :: s)
  | _ => true

def isFirm (s : List Char) : Bool := isLone s && s.head?.any (!isBrace ·) && s.getLast?.any (!isBrace ·)

theorem lone_of_isLone (checked : isLone s = true) : Lone s := by
  fun_induction isLone s with
  | case1 c d s ih =>
    simp only [Bool.and_eq_true,Bool.or_eq_true,bne_iff_ne,Bool.not_eq_true'] at checked
    exact .cons_cons (fun same => checked.1.resolve_left (absurd same)) (ih checked.2)
  | case2 s short =>
    rcases s with _ | ⟨c,_ | ⟨d,s⟩⟩
    · exact .nil
    · exact .singleton c
    · exact absurd rfl (short c d s)

theorem lone_ofList (s : List Char) (checked : isLone s = true) : Lone (String.ofList s).toList := by
  rw [String.toList_ofList]
  exact lone_of_isLone checked

theorem firm_ofList (s : List Char) (checked : isFirm s = true) : Firm (String.ofList s) := by
  simp only [isFirm,Bool.and_eq_true,Option.any_eq_true,Bool.not_eq_true'] at checked
  obtain ⟨⟨lone,c,first,plain⟩,d,last,bare⟩ := checked
  refine firm_of_ends (lone_ofList s lone) ?_ plain ?_ bare
  · rwa [String.toList_ofList]
  · rwa [String.toList_ofList]

theorem Lone.append_ofList (lone : Lone v.toList) (plain : isBrace c = false) (checked : isLone (c :: s) = true) :
    Lone (v ++ String.ofList (c :: s)).toList := by
  rw [String.toList_append,String.toList_ofList]
  refine lone_append_iff.mpr ⟨lone,lone_of_isLone checked,fun x _ y first => ?_⟩
  cases first
  exact apart_right plain

/-- A doubled character does not begin inside of a text that has none, even if that goes on with the character. -/
theorem eq_nil_of_doubled {before lead rest : List Char} (alone : ¬ [c, c] <:+: before ++ lead ++ [c])
    (begins : [c, c] <+: lead ++ rest) : lead = [] := by
  rcases lead with _ | ⟨x,_ | ⟨y,lead⟩⟩
  · rfl
  · obtain ⟨rfl,_⟩ := List.cons_prefix_cons.mp begins
    exact absurd ⟨before,[],by simp⟩ alone
  · obtain ⟨first,begins⟩ := List.cons_prefix_cons.mp begins
    obtain ⟨second,_⟩ := List.cons_prefix_cons.mp begins
    subst first second
    exact absurd ⟨before,lead ++ [c],by simp⟩ alone

private theorem eq_nil_of_doubled_end {lead rest after : List Char} (alone : ¬ [c, c] <:+: c :: (rest ++ after))
    (ends : [c, c] <:+ lead ++ rest) : rest = [] := by
  have turned : ¬ [c, c] <:+: after.reverse ++ rest.reverse ++ [c] := fun within =>
    alone (by simpa using List.reverse_infix.mpr within)
  have begins : [c, c] <+: rest.reverse ++ lead.reverse := by simpa using List.reverse_prefix.mpr ends
  simpa using eq_nil_of_doubled turned begins

/-- What begins and ends like an expression, in a text with a lone beginning and a lone end, stands between these. -/
theorem infix_of_around {before middle after e : List Char} (opens : opensExpression <+: e) (closes : closesExpression <:+ e)
    (left : Lone (before ++ ['\x7b'])) (right : Lone ('\x7d' :: after)) (within : e <:+: before ++ middle ++ after) :
    e <:+: middle := by
  obtain ⟨s,t,whole⟩ := within
  have behind : ∃ c, s = before ++ c := by
    rw [List.append_assoc,List.append_assoc] at whole
    rcases List.append_eq_append_iff.mp whole with ⟨lead,same,rest⟩ | ⟨c,same,_⟩
    · rw [same] at left
      have first : opensExpression <+: lead ++ (middle ++ after) := rest ▸ opens.trans (List.prefix_append e t)
      exact ⟨[],by rw [same,eq_nil_of_doubled (lone_iff.mp left).1 first,List.append_nil,List.append_nil]⟩
    · exact ⟨c,same⟩
  obtain ⟨c,rfl⟩ := behind
  have inner : (c ++ e) ++ t = middle ++ after := by simpa using whole
  rcases List.append_eq_append_iff.mp inner with ⟨d,same,_⟩ | ⟨rest,same,ends⟩
  · exact ⟨c,d,same.symm⟩
  · rw [ends] at right
    have last : closesExpression <:+ middle ++ rest := same ▸ closes.trans (List.suffix_append c e)
    rw [eq_nil_of_doubled_end (lone_iff.mp right).2 last,List.append_nil] at same
    exact ⟨c,[],by rw [List.append_nil,same]⟩

theorem breakOn?_eq_none {needle : List Char} (absent : ¬ needle <:+: s) : breakOn? needle s = none := by
  cases found : breakOn? needle s with
  | none => rfl
  | some parts => 
    obtain ⟨before,after⟩ := parts
    exact absurd ⟨before,after,(breakOn?_eq_some found).symm⟩ absent

theorem escapeChars_of_lone (lone : Lone s) : escapeChars s = replaceChar '"' quotEntity s := by
  have unopened := breakOn?_eq_none (lone_iff.mp lone).1
  rw [escapeChars,stretches]
  split
  · simp [Stretch.escaped]
  · simp_all

theorem replaceChar_of_ne (other : c ≠ '"') (s : List Char) :
    replaceChar '"' quotEntity (c :: s) = c :: replaceChar '"' quotEntity s := by
  simp [replaceChar,other]

theorem replaceChar_quote (s : List Char) :
    replaceChar '"' quotEntity ('"' :: s) = quotEntity ++ replaceChar '"' quotEntity s := by
  simp [replaceChar]

theorem quote_not_mem_replaceChar (s : List Char) : '"' ∉ replaceChar '"' quotEntity s := by
  intro member
  obtain ⟨c,_,written⟩ := List.mem_flatMap.mp member
  split at written
  · exact absurd written (by decide)
  · next other => exact other (List.mem_singleton.mp written).symm

/-- The entity for a quote begins and ends with no brace, so its neighbours are no worse than those of the quote. -/
theorem isChain_replaceChar (chain : (c :: s).IsChain Apart) : (c :: replaceChar '"' quotEntity s).IsChain Apart := by
  induction s generalizing c with
  | nil => exact chain
  | cons d s ih =>
    obtain ⟨first,inner⟩ := List.isChain_cons_cons.mp chain
    by_cases quote : d = '"'
    · have rest : (';' :: s).IsChain Apart :=
        List.isChain_cons.mpr ⟨fun x _ => apart_left (by decide),(List.isChain_cons.mp inner).2⟩
      have spelled : quotEntity = ['&', 'q', 'u', 'o', 't'] ++ [';'] := by decide
      have entity : Lone (c :: ['&', 'q', 'u', 'o', 't']) :=
        .cons_cons (apart_right (by decide)) (lone_of_isLone (by decide))
      have split : c :: replaceChar '"' quotEntity (d :: s) =
          (c :: ['&', 'q', 'u', 'o', 't']) ++ (';' :: replaceChar '"' quotEntity s) := by
        rw [quote,replaceChar_quote,spelled]
        rfl
      rw [split]
      exact lone_append_iff.mpr ⟨entity,ih rest,fun x _ y begins => apart_right (by cases begins; decide)⟩
    · rw [replaceChar_of_ne quote]
      exact .cons_cons first (ih inner)

theorem Lone.escape (lone : Lone v.toList) : Lone (escape v).toList := by
  have led : (' ' :: v.toList).IsChain Apart := List.isChain_cons.mpr ⟨fun x _ => apart_left (by decide),lone⟩
  rw [Html.escape,String.toList_ofList,escapeChars_of_lone lone]
  exact (List.isChain_cons.mp (isChain_replaceChar led)).2

end Letterpress.Html
