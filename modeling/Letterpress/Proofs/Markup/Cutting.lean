import Letterpress.Proofs.Markup.Placing
import Mathlib.Data.List.Infix
import Mathlib.Data.List.Nodup

/-! What tags and their attributes are cut out of. The inside of a tag is a stretch of the raw text of its lexeme, the value
of an attribute is a stretch of the inside of its tag, and no key comes twice. -/
namespace Letterpress.Markup
open Letterpress.Text

def Lexeme.IsFaithful (lexeme : Lexeme) : Prop :=
  ∀ inside, lexeme.token = .opening inside ∨ lexeme.token = .standalone inside → inside <:+: lexeme.raw

private theorem Token.SpelledAs.inside_isInfix {token : Token} {raw inside : List Char} (spelled : token.SpelledAs raw)
    (opens : token = .opening inside ∨ token = .standalone inside) : inside <:+: raw := by
  cases spelled with
  | opening =>
    rcases opens with token | token <;> cases token
    exact (List.prefix_append inside ['>']).isInfix.trans (List.suffix_cons '<' _).isInfix
  | standalone =>
    rcases opens with token | token <;> cases token
    exact (List.prefix_append inside ['/', '>']).isInfix.trans (List.suffix_cons '<' _).isInfix
  | text | closing | characterData | passing => rcases opens with token | token <;> contradiction

theorem lexemesFrom_faithful (offset opened : Nat) (source : List Char) :
    ∀ lexeme ∈ (lexemesFrom offset opened source).lexemes, lexeme.IsFaithful := by
  intro lexeme member inside opens
  obtain ⟨earlier,later,cut⟩ := List.append_of_mem member
  exact (lexemesFrom_split cut).1.inside_isInfix opens

private theorem quotedValue_isInfix {total : Nat} {s value rest : List Char} (read : quotedValue total s = .ok (value, rest)) :
    value <:+: s ∧ rest <:+ s := by
  unfold quotedValue at read
  split at read
  · contradiction
  · next quote tail begun =>
    have outer : quote :: tail <:+ s := begun ▸ List.dropWhile_suffix isTagBlank
    have inner : tail <:+ s := (List.suffix_cons quote tail).trans outer
    split at read
    · split at read
      · contradiction
      · next last more closed =>
        simp only [Except.ok.injEq,Prod.mk.injEq] at read
        obtain ⟨rfl,rfl⟩ := read
        have behind : last :: more <:+ tail := closed ▸ List.dropWhile_suffix (· != quote)
        exact ⟨(List.takeWhile_prefix _).isInfix.trans inner.isInfix,
          ((List.suffix_cons last more).trans behind).trans inner⟩
    · contradiction

/-- The values of attributes are stretches of what they are read from, and their keys are new and distinct. -/
theorem attributesFrom_spec (total : Nat) (seen : List (List Char × Nat)) (s : List Char) :
    (∀ a ∈ (attributesFrom total seen s).attributes, a.value.toList <:+: s ∧ a.key.toList ∉ seen.map (·.1)) ∧
    ((attributesFrom total seen s).attributes.map (·.key)).Nodup := by
  fun_induction attributesFrom total seen s with
  | case1 => simp
  | case2 => simp
  | case3 => simp
  | case4 => simp
  | case5 => simp
  | case6 seen s first tail begun ends key position mark rest behind isEquals fresh value more read others ih =>
    obtain ⟨ih,distinct⟩ := ih
    have start : first :: tail <:+ s := begun ▸ List.dropWhile_suffix isTagBlank
    have past : mark :: rest <:+ tail :=
      behind ▸ (List.dropWhile_suffix isTagBlank).trans (List.dropWhile_suffix _)
    have inner : rest <:+ s :=
      ((List.suffix_cons mark rest).trans past).trans ((List.suffix_cons first tail).trans start)
    have unseen : key ∉ seen.map (·.1) := by
      intro member
      obtain ⟨entry,present,same⟩ := List.mem_map.mp member
      have differs := List.find?_eq_none.mp fresh entry present
      simp [same] at differs
    have spec := quotedValue_isInfix read
    constructor
    · intro a member
      rcases List.mem_cons.mp member with rfl | later
      · simp only [String.toList_ofList]
        exact ⟨spec.1.trans inner.isInfix,unseen⟩
      · have known := ih a later
        simp only [List.map_cons,List.mem_cons,not_or] at known
        exact ⟨(known.1.trans spec.2.isInfix).trans inner.isInfix,known.2.2⟩
    · refine List.nodup_cons.mpr ⟨?_,distinct⟩
      intro member
      obtain ⟨a,present,same⟩ := List.mem_map.mp member
      have known := (ih a present).2
      simp [same] at known

private theorem attributes_spec (inside : List Char) :
    (∀ a ∈ (attributes inside).attributes, a.value.toList <:+: inside) ∧
    ((attributes inside).attributes.map (·.key)).Nodup := by
  have spec := attributesFrom_spec (byteLength inside) [] (inside.dropWhile (!isTagBlank ·))
  exact ⟨fun a member => (spec.1 a member).1.trans (List.dropWhile_suffix _).isInfix,spec.2⟩

theorem checkAttributes_spec {tag : Tag} {inside : List Char} {read : List Attribute}
    (passed : checkAttributes tag inside = .ok read) :
    (∀ a ∈ read, tag.accepts a.key = true ∧ a.value.toList <:+: inside) ∧ (read.map (·.key)).Nodup := by
  have spec := attributes_spec inside
  simp only [checkAttributes] at passed
  split at passed
  · contradiction
  · next known =>
    split at passed
    · contradiction
    · cases passed
      refine ⟨fun a member => ⟨?_,spec.1 a member⟩,spec.2⟩
      have accepted := List.find?_eq_none.mp known a member
      simpa using accepted

end Letterpress.Markup
