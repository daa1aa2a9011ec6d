import Letterpress.Proofs.Css.Length
import Letterpress.Proofs.Html.Braces

/-! Smooth texts, in which no line breaks and no blanks stand side by side. A steady one does not end with a blank either, so
steady texts may be joined; what leads to a blank must be followed by a text that begins with none. -/
namespace Letterpress.Html
open Letterpress.Text

/-- Side by side, two characters are no run of blanks. -/
def Parts (c d : Char) : Prop := isBlank c = true → isBlank d = false

/-- No line breaks, and no blanks side by side. -/
def Smooth (s : List Char) : Prop := '\n' ∉ s ∧ s.IsChain Parts

/-- A text begins with no line break, and with no two blanks. -/
def Eases : List Char → Prop
  | [] => True
  | c :: s => c ≠ '\n' ∧ ∀ d ∈ s.head?, Parts c d

/-- Smooth, and nothing blank at the end. -/
structure Steady (a : String) : Prop where
  smooth : Smooth a.toList
  ending : ∀ c ∈ a.toList.getLast?, isBlank c = false

/-- Steady, with a beginning that is not blank. -/
structure Filled (a : String) : Prop where
  steady : Steady a
  beginning : ∃ c ∈ a.toList.head?, isBlank c = false

/-- Smooth, and nothing blank at either end. -/
structure Neat (a : String) : Prop where
  smooth : Smooth a.toList
  trimmed : IsTrimmed a.toList

variable {c d : Char} {s t : List Char} {a b v : String}

theorem parts_right (filled : isBlank d = false) : Parts c d := fun _ => filled

theorem parts_left (filled : isBlank c = false) : Parts c d := by
  intro blank
  rw [filled] at blank
  contradiction

theorem smooth_nil : Smooth [] := ⟨List.not_mem_nil,.nil⟩

theorem smooth_cons_iff : Smooth (c :: s) ↔ Eases (c :: s) ∧ Smooth s := by
  simp only [Smooth,Eases,List.mem_cons,List.isChain_cons,not_or,eq_comm]
  tauto

private theorem smooth_append_iff :
    Smooth (s ++ t) ↔ Smooth s ∧ Smooth t ∧ ∀ c ∈ s.getLast?, ∀ d ∈ t.head?, Parts c d := by
  simp only [Smooth,List.mem_append,List.isChain_append,not_or]
  tauto

theorem Smooth.within (smooth : Smooth t) (within : s <:+: t) : Smooth s := by
  constructor
  · exact fun member => smooth.1 (within.mem member)
  · exact List.IsChain.infix smooth.2 within

theorem Smooth.eases (smooth : Smooth s) : Eases s := by
  cases s with
  | nil => trivial
  | cons c s => exact (smooth_cons_iff.mp smooth).1

/-- Of a text that begins like a smooth one, no more than the first two characters count. -/
theorem Eases.within (eases : Eases (c :: s ++ t)) : Eases (c :: s) := by
  refine ⟨eases.1,fun d first => eases.2 d ?_⟩
  obtain ⟨rest,rfl⟩ := List.head?_eq_some_iff.mp first
  rfl

theorem Eases.append (eases : Eases (c :: s)) (ending : s = [] → ∀ d ∈ t.head?, Parts c d) : Eases (c :: s ++ t) := by
  refine ⟨eases.1,?_⟩
  cases s with
  | nil => exact ending rfl
  | cons d s => exact eases.2

private theorem smooth_of_plain (plain : ∀ c ∈ s, isBlank c = false) : Smooth s := by
  induction s with
  | nil => exact smooth_nil
  | cons c s ih =>
    have bare := plain c List.mem_cons_self
    refine smooth_cons_iff.mpr ⟨⟨?_,fun d _ => parts_left bare⟩,ih fun d member => plain d (List.mem_cons_of_mem c member)⟩
    rintro rfl
    exact absurd bare (by decide)

theorem Neat.steady (neat : Neat a) : Steady a := ⟨neat.smooth,neat.trimmed.2⟩

theorem Neat.filled (neat : Neat a) (written : a ≠ "") : Filled a := by
  refine ⟨neat.steady,?_⟩
  cases first : a.toList with
  | nil => exact absurd (String.toList_eq_nil_iff.mp first) written
  | cons c rest => exact ⟨c,rfl,neat.trimmed.1 c (by rw [first]; rfl)⟩

theorem Filled.neat (filled : Filled a) : Neat a := by
  obtain ⟨steady,c,first,written⟩ := filled
  refine ⟨steady.smooth,fun d begins => ?_,steady.ending⟩
  cases Option.mem_unique first begins
  exact written

/-- A steady text is one that a blank may follow. -/
theorem steady_iff : Steady a ↔ Smooth (a.toList ++ [' ']) := by
  have space : Smooth [' '] := ⟨by decide,.singleton ' '⟩
  rw [smooth_append_iff]
  constructor
  · rintro ⟨smooth,ends⟩
    exact ⟨smooth,space,fun c last d _ => parts_left (ends c last)⟩
  · rintro ⟨smooth,_,meet⟩
    refine ⟨smooth,fun c last => ?_⟩
    by_contra blank
    exact absurd (meet c last ' ' rfl (by simpa using blank)) (by decide)

theorem steady_empty : Steady "" := ⟨smooth_nil,fun c last => by contradiction⟩

theorem Steady.append (left : Steady a) (right : Steady b) : Steady (a ++ b) := by
  refine ⟨?_,fun c last => ?_⟩
  · rw [String.toList_append]
    exact smooth_append_iff.mpr ⟨left.smooth,right.smooth,fun c last d _ => parts_left (left.ending c last)⟩
  · rw [String.toList_append,List.getLast?_append] at last
    cases ending : b.toList.getLast? with
    | none =>
      rw [ending] at last
      exact left.ending c last
    | some d =>
      rw [ending] at last
      cases last
      exact right.ending c ending

/-- What is smooth may lead to a text that does not begin with a blank. -/
theorem Filled.behind (right : Filled v) (smooth : Smooth a.toList) : Steady (a ++ v) := by
  obtain ⟨steady,c,first,filled⟩ := right
  refine ⟨?_,fun d last => ?_⟩
  · rw [String.toList_append]
    refine smooth_append_iff.mpr ⟨smooth,steady.smooth,fun _ _ d begins => ?_⟩
    cases Option.mem_unique first begins
    exact parts_right filled
  · rw [String.toList_append,List.getLast?_append] at last
    obtain ⟨e,ending⟩ : ∃ e, v.toList.getLast? = some e := by
      cases written : v.toList with
      | nil =>
        rw [written] at first
        contradiction
      | cons x rest => exact ⟨_,List.getLast?_eq_some_getLast (List.cons_ne_nil x rest)⟩
    rw [ending] at last
    cases last
    exact steady.ending d ending

theorem Steady.spaced (left : Steady a) (middle : Smooth b.toList) (right : Filled v) : Steady (a ++ b ++ v) := by
  rw [String.append_assoc]
  exact left.append (right.behind middle)

theorem Filled.append (left : Filled a) (right : Steady b) : Filled (a ++ b) := by
  obtain ⟨steady,c,first,filled⟩ := left
  refine ⟨steady.append right,c,?_,filled⟩
  rw [String.toList_append,List.head?_append,first]
  rfl

theorem steady_join {texts : List String} (steady : ∀ text ∈ texts, Steady text) : Steady (String.join texts) := by
  induction texts with
  | nil => exact steady_empty
  | cons text rest ih =>
    rw [String.join_cons]
    exact (steady text List.mem_cons_self).append (ih fun other member => steady other (List.mem_cons_of_mem text member))

theorem filled_intercalate {texts : List String} (middle : Smooth a.toList) (filled : ∀ text ∈ texts, Filled text)
    (written : texts ≠ []) : Filled (a.intercalate texts) := by
  induction texts with
  | nil => contradiction
  | cons text rest ih =>
    have first := filled text List.mem_cons_self
    cases rest with
    | nil => simpa using first
    | cons next rest =>
      have others := ih (fun other member => filled other (List.mem_cons_of_mem text member)) (List.cons_ne_nil next rest)
      rw [String.intercalate_cons_cons,String.append_assoc]
      exact first.append (others.behind middle)

theorem Smooth.trim (smooth : Smooth v.toList) : Steady (trim v) := by
  constructor
  · rw [Text.trim,String.toList_ofList]
    exact smooth.within (trimChars_isInfix _)
  · rw [Text.trim,String.toList_ofList]
    exact (isTrimmed_trimChars _).2

theorem steady_of_plain (plain : ∀ c ∈ a.toList, isBlank c = false) : Steady a :=
  ⟨smooth_of_plain plain,fun c last => plain c (List.mem_of_getLast? last)⟩

def isSmooth : List Char → Bool
  | c :: d :: s => c != '\n' && !(isBlank c && isBlank d) && isSmooth (d :: s)
  | [c] => c != '\n'
  | [] => true

def isSteady (s : List Char) : Bool := isSmooth s && !s.getLast?.any isBlank

private theorem smooth_of_isSmooth (checked : isSmooth s = true) : Smooth s := by
  fun_induction isSmooth s with
  | case1 c d s ih =>
    simp only [Bool.and_eq_true,bne_iff_ne,Bool.not_eq_true',Bool.and_eq_false_iff] at checked
    obtain ⟨⟨whole,meet⟩,rest⟩ := checked
    refine smooth_cons_iff.mpr ⟨⟨whole,fun e first blank => ?_⟩,ih rest⟩
    cases first
    exact meet.resolve_left (by simp [blank])
  | case2 c =>
    have whole : c ≠ '\n' := bne_iff_ne.mp checked
    exact ⟨by simpa using whole.symm,.singleton c⟩
  | case3 => exact smooth_nil

theorem smooth_ofList (s : List Char) (checked : isSmooth s = true) : Smooth (String.ofList s).toList := by
  rw [String.toList_ofList]
  exact smooth_of_isSmooth checked

theorem steady_ofList (s : List Char) (checked : isSteady s = true) : Steady (String.ofList s) := by
  simp only [isSteady,Bool.and_eq_true,Bool.not_eq_true',Option.any_eq_false] at checked
  refine ⟨smooth_ofList s checked.1,?_⟩
  rw [String.toList_ofList]
  intro c last
  simpa using checked.2 c last

theorem filled_ofList (c : Char) (s : List Char) (first : isBlank c = false) (checked : isSteady (c :: s) = true) :
    Filled (String.ofList (c :: s)) := by
  refine ⟨steady_ofList _ checked,c,?_,first⟩
  rw [String.toList_ofList]
  rfl

theorem Smooth.append_ofList (smooth : Smooth a.toList) (first : isBlank c = false) (checked : isSmooth (c :: s) = true) :
    Smooth (a ++ String.ofList (c :: s)).toList := by
  rw [String.toList_append,String.toList_ofList]
  refine smooth_append_iff.mpr ⟨smooth,smooth_of_isSmooth checked,fun _ _ d begins => ?_⟩
  cases begins
  exact parts_right first

/-- The same text with entities for some of its quotes. -/
inductive Requoted : List Char → List Char → Prop
  | nil : Requoted [] []
  | keep (c : Char) {s t : List Char} (rest : Requoted s t) : Requoted (c :: s) (c :: t)
  | entity {s t : List Char} (rest : Requoted s t) : Requoted ('"' :: s) (quotEntity ++ t)

namespace Requoted
variable {s' t' : List Char}

private theorem refl (s : List Char) : Requoted s s := by
  induction s with
  | nil => exact .nil
  | cons c s ih => exact .keep c ih

private theorem append (first : Requoted s t) (second : Requoted s' t') : Requoted (s ++ s') (t ++ t') := by
  induction first with
  | nil => exact second
  | keep c rest ih => exact .keep c ih
  | entity rest ih =>
    rw [List.append_assoc]
    exact .entity ih

private theorem replaceChar (s : List Char) : Requoted s (replaceChar '"' quotEntity s) := by
  induction s with
  | nil => exact .nil
  | cons c s ih =>
    rw [Text.replaceChar,List.flatMap_cons]
    split
    · next quote =>
      rw [quote]
      exact .entity ih
    · exact .keep c ih

private theorem escapeChars (s : List Char) : Requoted s (escapeChars s) := by
  rw [Html.escapeChars]
  fun_induction stretches s with
  | case1 s uncut => simpa [Stretch.escaped] using replaceChar s
  | case2 s before inside opened uncut => simpa [Stretch.escaped] using replaceChar s
  | case3 s before inside opened body after closed ih =>
    rw [breakOn?_eq_some opened,breakOn?_eq_some closed]
    simp only [List.flatMap_cons,Stretch.escaped]
    have parts := (replaceChar before).append ((refl (opensExpression ++ body ++ closesExpression)).append ih)
    simpa using parts

private theorem head? (same : Requoted s t) : ∀ d ∈ t.head?, isBlank d = true → d ∈ s.head? := by
  intro d first blank
  cases same with
  | nil => contradiction
  | keep c rest => exact first
  | entity rest =>
    cases first
    exact absurd blank (by decide)

private theorem smooth (same : Requoted s t) (smooth : Smooth s) : Smooth t := by
  induction same with
  | nil => exact smooth_nil
  | keep c rest ih =>
    obtain ⟨eases,smooth⟩ := smooth_cons_iff.mp smooth
    refine smooth_cons_iff.mpr ⟨⟨eases.1,fun d first blank => ?_⟩,ih smooth⟩
    by_contra other
    exact other (eases.2 d (rest.head? d first (by simpa using other)) blank)
  | entity rest ih =>
    refine smooth_append_iff.mpr ⟨smooth_of_isSmooth rfl,ih (smooth_cons_iff.mp smooth).2,fun c last d _ => ?_⟩
    cases last
    exact parts_left (by decide)

end Requoted

theorem Steady.escape (steady : Steady v) : Steady (escape v) := by
  rw [steady_iff] at steady ⊢
  rw [Html.escape,String.toList_ofList]
  exact ((Requoted.escapeChars v.toList).append (.refl [' '])).smooth steady

end Letterpress.Html
