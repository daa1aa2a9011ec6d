import Letterpress.Proofs.Html.Braces
import Letterpress.Proofs.Text.Searching

/-! Expressions and quotes. A reader leaves out expressions first, as they stand for something else, and then what is in
double quotes. An escaped value has no quote outside of its expressions, so whatever it is, it does not end the quotes it stands
in, even where an expression that one value begins ends in a later one. -/
namespace Letterpress.Html
open Letterpress.Text

def Stretch.shown : Stretch → List Char
  | text chars => chars
  | expression _ => []

/-- A text without its expressions. -/
def shownChars (s : List Char) : List Char := (stretches s).flatMap Stretch.shown

/-- What stands outside of double quotes. -/
def bareChars (quoted : Bool) : List Char → List Char
  | [] => []
  | c :: s =>
    if c = '"' then bareChars (!quoted) s
    else if quoted then bareChars quoted s
    else c :: bareChars quoted s

/-- Texts with no double quote but in expressions. -/
inductive Hushed : List Char → Prop
  | nil : Hushed []
  | text {c : Char} {s : List Char} (other : c ≠ '"') (rest : Hushed s) : Hushed (c :: s)
  | expression {body s : List Char}
      (first : ∀ after, breakOn? closesExpression (body ++ closesExpression ++ after) = some (body, after))
      (rest : Hushed s) : Hushed (opensExpression ++ (body ++ closesExpression ++ s))

variable {c : Char} {s t v before after : List Char}

theorem breakOn?_behind_opening (found : breakOn? closesExpression (opensExpression ++ s) = some (before, after)) :
    ∃ before, breakOn? closesExpression s = some (before, after) := by
  obtain ⟨b,inner⟩ := breakOn?_tail (by decide) found
  exact breakOn?_tail (by decide) inner

private theorem shownChars_eq (s : List Char) :
    shownChars s =
      match breakOn? opensExpression s with
      | none => s
      | some (before, inside) =>
        match breakOn? closesExpression inside with
        | none => s
        | some (_, after) => before ++ shownChars after := by
  conv_lhs => rw [shownChars,stretches]
  split
  · next uncut => simp [uncut,Stretch.shown]
  · next before inside opened =>
    split
    · next uncut => simp [opened,uncut,Stretch.shown]
    · next body after closed => simp [opened,closed,Stretch.shown,shownChars]

theorem shownChars_nil : shownChars [] = [] := shownChars_eq []

theorem shownChars_cons (apart : ¬ opensExpression <+: c :: s) : shownChars (c :: s) = c :: shownChars s := by
  rw [shownChars_eq (c :: s),shownChars_eq s,breakOn?_cons apart]
  cases breakOn? opensExpression s with
  | none => rfl
  | some parts =>
    dsimp only [Option.map_some]
    split <;> rfl

theorem shownChars_expression {inside body : List Char} (closed : breakOn? closesExpression inside = some (body, after)) :
    shownChars (opensExpression ++ inside) = shownChars after := by
  rw [shownChars_eq (opensExpression ++ inside),breakOn?_lead]
  simp only [closed,List.nil_append]

theorem shownChars_unclosed (unclosed : breakOn? closesExpression s = none) : shownChars s = s := by
  rw [shownChars_eq s]
  split
  · rfl
  · next before inside opened =>
    have absent := not_infix_of_breakOn?_eq_none unclosed
    have later : ¬ closesExpression <:+: inside := fun within => by
      rw [breakOn?_eq_some opened] at absent
      exact absent (within.trans (List.suffix_append _ _).isInfix)
    rw [breakOn?_eq_none later]

theorem shownChars_plain (plain : isBrace c = false) (s : List Char) : shownChars (c :: s) = c :: shownChars s := by
  refine shownChars_cons fun lead => ?_
  rw [← (List.cons_prefix_cons.mp lead).1] at plain
  exact absurd plain (by decide)

theorem plain_of_all (checked : s.all (!isBrace ·) = true) : ∀ c ∈ s, isBrace c = false := by simpa using checked

theorem shownChars_behind (plain : ∀ c ∈ t, isBrace c = false) (s : List Char) :
    shownChars (t ++ s) = t ++ shownChars s := by
  induction t with
  | nil => rfl
  | cons c t ih =>
    rw [List.cons_append,shownChars_plain (plain c List.mem_cons_self),
      ih fun x member => plain x (List.mem_cons_of_mem c member),List.cons_append]

theorem bareChars_filled (other : c ≠ '"') (quoted : Bool) (s : List Char) :
    bareChars quoted (c :: s) = (if quoted then [] else [c]) ++ bareChars quoted s := by
  cases quoted <;> simp [bareChars,other]

theorem bareChars_behind (unquoted : ∀ c ∈ t, c ≠ '"') (quoted : Bool) (s : List Char) :
    bareChars quoted (t ++ s) = (if quoted then [] else t) ++ bareChars quoted s := by
  induction t with
  | nil => simp
  | cons c t ih =>
    obtain ⟨other,later⟩ := List.forall_mem_cons.mp unquoted
    rw [List.cons_append,bareChars_filled other,ih later]
    cases quoted <;> rfl

theorem unquoted_of_all (checked : s.all (· != '"') = true) : ∀ c ∈ s, c ≠ '"' := by simpa using checked

theorem hushed_of_unquoted (unquoted : ∀ c ∈ s, c ≠ '"') : Hushed s := by
  induction s with
  | nil => exact .nil
  | cons c s ih =>
    obtain ⟨other,later⟩ := List.forall_mem_cons.mp unquoted
    exact .text other (ih later)

theorem Hushed.append (left : Hushed s) (right : Hushed t) : Hushed (s ++ t) := by
  induction left with
  | nil => exact right
  | text other _ ih => exact .text other ih
  | expression first _ ih =>
    have whole := Hushed.expression first ih
    simpa using whole

private theorem hushed_escapeChars (s : List Char) : Hushed (escapeChars s) := by
  have text (chars : List Char) : Hushed (replaceChar '"' quotEntity chars) :=
    hushed_of_unquoted fun c member same => quote_not_mem_replaceChar chars (same ▸ member)
  rw [escapeChars]
  fun_induction stretches s with
  | case1 s uncut => simpa [Stretch.escaped] using text s
  | case2 s before inside opened uncut => simpa [Stretch.escaped] using text s
  | case3 s before inside opened body after closed ih =>
    have first := breakOn?_first closed
    have whole := (text before).append (.expression first ih)
    simpa [Stretch.escaped] using whole

private theorem escapeChars_eq (s : List Char) :
    escapeChars s =
      match breakOn? opensExpression s with
      | none => replaceChar '"' quotEntity s
      | some (before, inside) =>
        match breakOn? closesExpression inside with
        | none => replaceChar '"' quotEntity s
        | some (body, after) =>
          replaceChar '"' quotEntity before ++ (opensExpression ++ body ++ closesExpression ++ escapeChars after) := by
  conv_lhs => rw [escapeChars,stretches]
  split
  · next uncut => simp [uncut,Stretch.escaped]
  · next before inside opened =>
    split
    · next uncut => simp [opened,uncut,Stretch.escaped]
    · next body after closed => simp [opened,closed,Stretch.escaped,escapeChars]

/-- Escaping begins behind a text without quotes and braces. -/
theorem escapeChars_behind (plain : ∀ c ∈ t, c ≠ '"' ∧ c ≠ '\x7b') (s : List Char) :
    escapeChars (t ++ s) = t ++ escapeChars s := by
  induction t with
  | nil => rfl
  | cons c t ih =>
    obtain ⟨⟨quote,brace⟩,later⟩ := List.forall_mem_cons.mp plain
    have apart : ¬ opensExpression <+: c :: (t ++ s) := fun lead => brace (List.cons_prefix_cons.mp lead).1.symm
    have kept := replaceChar_of_ne quote
    rw [List.cons_append,List.cons_append,← ih later,escapeChars_eq,escapeChars_eq,breakOn?_cons apart,kept]
    cases breakOn? opensExpression (t ++ s) with
    | none => rfl
    | some parts =>
      dsimp only [Option.map_some]
      rw [kept]
      split <;> rfl

theorem escape_behind {lead : String} (plain : ∀ c ∈ lead.toList, c ≠ '"' ∧ c ≠ '\x7b') (value : String) :
    escape (lead ++ value) = lead ++ escape value := by
  rw [escape,String.toList_append,escapeChars_behind plain,String.ofList_append,String.ofList_toList,escape]

theorem hushed_escape (value : String) : Hushed (escape value).toList := by
  rw [escape,String.toList_ofList]
  exact hushed_escapeChars value.toList

/-- An expression that ends behind the beginning of a value ends in the value or behind it. -/
theorem Hushed.resumed (hushed : Hushed v) (found : breakOn? closesExpression (v ++ '"' :: s) = some (before, after)) :
    (∃ rest, Hushed rest ∧ rest.length < v.length ∧ after = rest ++ '"' :: s) ∨
      ∃ before, breakOn? closesExpression s = some (before, after) := by
  induction hushed generalizing before with
  | nil => exact .inr (breakOn?_tail (by decide) found)
  | @text c v other rest ih =>
    by_cases lead : closesExpression <+: c :: (v ++ '"' :: s)
    · obtain ⟨tail,same⟩ := lead
      rw [List.cons_append,← same,breakOn?_lead] at found
      obtain ⟨rfl,rfl⟩ := by simpa using found
      cases v with
      | nil => simp [closesExpression] at same
      | cons d v =>
        obtain ⟨rfl,rfl,rfl⟩ : '\x7d' = c ∧ '\x7d' = d ∧ tail = v ++ '"' :: s := by simpa [closesExpression] using same
        cases rest with
        | text _ rest => exact .inl ⟨v,rest,Nat.lt_succ_of_lt (Nat.lt_succ_self _),rfl⟩
    · rw [List.cons_append,breakOn?_cons lead] at found
      obtain ⟨⟨b,a⟩,inner,same⟩ := Option.map_eq_some_iff.mp found
      cases same
      refine (ih inner).imp_left ?_
      rintro ⟨more,quiet,shorter,rfl⟩
      exact ⟨more,quiet,Nat.lt_succ_of_lt shorter,rfl⟩
  | @expression body v first rest ih =>
    have whole : opensExpression ++ (body ++ closesExpression ++ v) ++ '"' :: s =
        opensExpression ++ (body ++ closesExpression ++ (v ++ '"' :: s)) := by simp
    rw [whole] at found
    obtain ⟨b,inner⟩ := breakOn?_behind_opening found
    have closed : breakOn? closesExpression _ = _ := first (v ++ '"' :: s)
    change breakOn? closesExpression _ = _ at inner
    rw [closed] at inner
    cases inner
    exact .inl ⟨v,rest,by simp [opensExpression]; omega,rfl⟩

theorem Hushed.unquoted_of_unclosed (hushed : Hushed v) (unclosed : ¬ closesExpression <:+: v) : ∀ c ∈ v, c ≠ '"' := by
  induction hushed with
  | nil => exact List.forall_mem_nil _
  | @text c v other rest ih =>
    refine List.forall_mem_cons.mpr ⟨other,ih fun within => unclosed (within.trans (List.suffix_cons c v).isInfix)⟩
  | @expression body v => exact absurd ⟨opensExpression ++ body,v,by simp⟩ unclosed

end Letterpress.Html
