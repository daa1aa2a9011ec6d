import Letterpress.Proofs.Html.Braces
import Letterpress.Proofs.Text.Searching

/-! Escaped values and their expressions. There is one way to cut a value into its expressions and the text around them. The
entity for a quote has no brace, so an escaped value is cut where the value is: its expressions are those of the value, in the
text between them no quote is left, and there is nothing to escape in it any more. -/
namespace Letterpress.Html
open Letterpress.Text

/-- A value is cut from left to right, at the first `{{` and at the first `}}` behind it, until no expression is left. -/
inductive Cuts : List Char → List Stretch → Prop
  | text {s : List Char}
      (uncut : ∀ before body after, s ≠ before ++ opensExpression ++ (body ++ closesExpression ++ after)) : Cuts s [.text s]
  | expression {s before inside body after : List Char} {rest : List Stretch}
      (opens : FirstPlace (opensExpression <+: ·) s before (opensExpression ++ inside))
      (closes : FirstPlace (closesExpression <+: ·) inside body (closesExpression ++ after)) (further : Cuts after rest) :
      Cuts s (.text before :: .expression (opensExpression ++ body ++ closesExpression) :: rest)

def Stretch.chars : Stretch → List Char
  | text chars => chars
  | expression chars => chars

/-- A stretch as it stands in an escaped value: every quote in a text is an entity. -/
def Stretch.inQuotes : Stretch → Stretch
  | text chars => text (replaceChar '"' quotEntity chars)
  | expression chars => expression chars

variable {c d : Char} {s t : List Char} {list : List Stretch}

private theorem stretches_of_first {before inside body after : List Char}
    (opens : breakOn? opensExpression s = some (before, inside))
    (closes : breakOn? closesExpression inside = some (body, after)) :
    stretches s = .text before :: .expression (opensExpression ++ body ++ closesExpression) :: stretches after := by
  rw [stretches]
  split
  · simp_all
  · next opened =>
    obtain ⟨rfl,rfl⟩ := by simpa using opens.symm.trans opened
    split <;> simp_all

private theorem stretches_of_none
    (uncut : ∀ before inside, breakOn? opensExpression s = some (before, inside) → breakOn? closesExpression inside = none) :
    stretches s = [.text s] := by
  rw [stretches]
  split
  · rfl
  · next opened =>
    have unclosed := uncut _ _ opened
    split
    · rfl
    · simp_all

private theorem cuts_stretches (s : List Char) : Cuts s (stretches s) := by
  fun_induction stretches s with
  | case1 s unopened =>
    refine .text fun before body after whole => not_infix_of_breakOn?_eq_none unopened ?_
    exact ⟨before,body ++ closesExpression ++ after,whole.symm⟩
  | case2 s before inside opened unclosed =>
    refine .text fun b body after whole => not_infix_of_breakOn?_eq_none unclosed ?_
    -- no `{{` stands sooner than the first, so what is behind another one is also behind that
    have first := breakOn?_eq_some_iff.mp opened
    rw [List.append_assoc] at whole
    have sooner := first.soonest whole (List.prefix_append _ _)
    have length := congrArg List.length (first.whole.symm.trans whole)
    simp only [List.length_append] at length
    have rest : body ++ closesExpression ++ after <:+ inside :=
      List.suffix_of_suffix_length_le ((List.suffix_append opensExpression _).trans ⟨_,whole.symm⟩)
        ((List.suffix_append opensExpression _).trans ⟨_,first.whole.symm⟩) (by simp only [List.length_append]; omega)
    exact List.IsInfix.trans ⟨body,after,rfl⟩ rest.isInfix
  | case3 s before inside opened body after closed ih =>
    exact .expression (breakOn?_eq_some_iff.mp opened) (breakOn?_eq_some_iff.mp closed) ih

private theorem Cuts.eq_stretches (cuts : Cuts s list) : list = stretches s := by
  induction cuts with
  | text uncut =>
    refine (stretches_of_none fun before inside opened => ?_).symm
    refine breakOn?_eq_none fun ⟨body,after,closed⟩ => ?_
    rw [breakOn?_eq_some opened,← closed] at uncut
    exact uncut before body after rfl
  | expression opens closes further ih =>
    rw [stretches_of_first (breakOn?_eq_some_iff.mpr opens) (breakOn?_eq_some_iff.mpr closes),ih]

private theorem cuts_iff : Cuts s list ↔ list = stretches s := by
  constructor
  · exact Cuts.eq_stretches
  · rintro rfl
    exact cuts_stretches s

private theorem flatMap_stretches (s : List Char) : (stretches s).flatMap Stretch.chars = s := by
  fun_induction stretches s with
  | case1 => simp [Stretch.chars]
  | case2 => simp [Stretch.chars]
  | case3 s before inside opened body after closed ih =>
    rw [breakOn?_eq_some opened,breakOn?_eq_some closed]
    simp [Stretch.chars,ih]

private theorem replaceChar_of_unquoted (unquoted : '"' ∉ s) : replaceChar '"' quotEntity s = s := by
  induction s with
  | nil => rfl
  | cons c s ih =>
    rw [List.mem_cons,not_or] at unquoted
    rw [replaceChar_of_ne (Ne.symm unquoted.1),ih unquoted.2]

/-- Behind a text without braces, a doubled brace is found where it is found in the rest. -/
theorem breakOn?_plain (plain : ∀ c ∈ t, c ≠ d) (s : List Char) :
    breakOn? [d, d] (t ++ s) = (breakOn? [d, d] s).map fun (before, after) => (t ++ before, after) := by
  induction t with
  | nil => exact Option.map_id.symm ▸ rfl
  | cons c t ih =>
    obtain ⟨other,others⟩ := List.forall_mem_cons.mp plain
    have apart : ¬ [d, d] <+: c :: (t ++ s) := fun lead => other (List.cons_prefix_cons.mp lead).1.symm
    rw [List.cons_append,breakOn?_cons apart,ih others,Option.map_map]
    rfl

/-- An entity in the place of a quote neither makes nor breaks a doubled brace. -/
theorem breakOn?_replaceChar (brace : isBrace d = true) (s : List Char) :
    breakOn? [d, d] (replaceChar '"' quotEntity s) = (breakOn? [d, d] s).map fun (before, after) =>
      (replaceChar '"' quotEntity before, replaceChar '"' quotEntity after) := by
  have quote : d ≠ '"' := by
    rintro rfl
    contradiction
  have spelled : quotEntity = '&' :: "quot;".toList := by decide
  have entity : ∀ c ∈ quotEntity, c ≠ d := by
    rintro c member rfl
    have plain : quotEntity.any isBrace = false := by decide
    exact List.any_eq_false.mp plain c member brace
  induction s with
  | nil => rfl
  | cons c s ih =>
    by_cases same : c = '"'
    · subst same
      have apart : ¬ [d, d] <+: '"' :: s := fun lead => quote (List.cons_prefix_cons.mp lead).1
      rw [replaceChar_quote,breakOn?_plain entity,ih,breakOn?_cons apart,Option.map_map,Option.map_map]
      refine congrArg (Option.map · _) (funext fun (before,after) => ?_)
      exact Prod.ext (replaceChar_quote before).symm rfl
    · by_cases lead : [d, d] <+: c :: s
      · obtain ⟨rest,whole⟩ := lead
        have kept : replaceChar '"' quotEntity ([d, d] ++ rest) = [d, d] ++ replaceChar '"' quotEntity rest := by
          simp [replaceChar,quote]
        rw [← whole,kept,breakOn?_lead,breakOn?_lead]
        rfl
      · have apart : ¬ [d, d] <+: c :: replaceChar '"' quotEntity s := by
          intro lead'
          obtain ⟨rfl,next⟩ := List.cons_prefix_cons.mp lead'
          cases s with
          | nil => simp [replaceChar] at next
          | cons e s =>
            by_cases quoted : e = '"'
            · subst quoted
              rw [replaceChar_quote,spelled] at next
              exact entity '&' (by decide) (List.cons_prefix_cons.mp next).1.symm
            · rw [replaceChar_of_ne quoted] at next
              obtain ⟨rfl,-⟩ := List.cons_prefix_cons.mp next
              exact lead (by simp)
        rw [replaceChar_of_ne same,breakOn?_cons apart,ih,breakOn?_cons lead,Option.map_map,Option.map_map]
        refine congrArg (Option.map · _) (funext fun (before,after) => ?_)
        exact Prod.ext (replaceChar_of_ne same before).symm rfl

private theorem stretches_escapeChars (s : List Char) : stretches (escapeChars s) = (stretches s).map Stretch.inQuotes := by
  rw [escapeChars]
  fun_induction stretches s with
  | case1 s unopened =>
    have alone : stretches (replaceChar '"' quotEntity s) = [.text (replaceChar '"' quotEntity s)] := by
      refine stretches_of_none fun before inside opened => ?_
      rw [opensExpression,breakOn?_replaceChar (by rfl),← opensExpression,unopened] at opened
      contradiction
    simpa [Stretch.escaped,Stretch.inQuotes] using alone
  | case2 s before inside opened unclosed =>
    have alone : stretches (replaceChar '"' quotEntity s) = [.text (replaceChar '"' quotEntity s)] := by
      refine stretches_of_none fun b i opens => ?_
      rw [opensExpression,breakOn?_replaceChar (by rfl),← opensExpression,opened] at opens
      cases opens
      rw [closesExpression,breakOn?_replaceChar (by rfl),← closesExpression,unclosed]
      rfl
    simpa [Stretch.escaped,Stretch.inQuotes] using alone
  | case3 s before inside opened body after closed ih =>
    have opens : breakOn? opensExpression (replaceChar '"' quotEntity s) =
        some (replaceChar '"' quotEntity before, replaceChar '"' quotEntity inside) := by
      rw [opensExpression,breakOn?_replaceChar (by rfl),← opensExpression,opened]
      rfl
    have whole := stretches_of_first (breakOn?_first opens _)
      (breakOn?_first closed ((stretches after).flatMap Stretch.escaped))
    simpa [Stretch.escaped,Stretch.inQuotes,ih] using whole

private theorem escapeChars_escapeChars (s : List Char) : escapeChars (escapeChars s) = escapeChars s := by
  conv_lhs => rw [escapeChars,stretches_escapeChars,List.flatMap_map]
  refine List.flatMap_congr fun stretch _ => ?_
  cases stretch with
  | text chars => exact replaceChar_of_unquoted (quote_not_mem_replaceChar chars)
  | expression chars => rfl

/-- A value has one cut, the stretches of which are the whole of it. Escaping writes an entity for each quote in its texts and
changes nothing else, so the cut of the escaped value has the same expressions and no quote in its texts; and escaping a second
time changes nothing. -/
theorem escaping_keeps_expressions (value : String) : ∃ cut,
    (∀ list, Cuts value.toList list ↔ list = cut) ∧ cut.flatMap Stretch.chars = value.toList ∧
      (escape value).toList = cut.flatMap Stretch.escaped ∧
      (∀ list, Cuts (escape value).toList list ↔ list = cut.map Stretch.inQuotes) ∧
      (∀ chars, .text chars ∈ cut.map Stretch.inQuotes → '"' ∉ chars) ∧ escape (escape value) = escape value := by
  have escaped : (escape value).toList = escapeChars value.toList := String.toList_ofList
  refine ⟨stretches value.toList,fun list => cuts_iff,flatMap_stretches _,escaped,fun list => ?_,?_,?_⟩
  · rw [cuts_iff,escaped,stretches_escapeChars]
  · intro chars member
    obtain ⟨stretch,_,same⟩ := List.mem_map.mp member
    cases stretch with
    | text chars =>
      cases same
      exact quote_not_mem_replaceChar _
    | expression chars => contradiction
  · rw [escape,escaped,escapeChars_escapeChars]
    rfl

end Letterpress.Html
