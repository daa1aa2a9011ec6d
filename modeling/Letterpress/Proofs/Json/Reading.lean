import Letterpress.Proofs.Json.Records
import Letterpress.Proofs.Json.Scaling

/-! What is read from any text. Its numbers are as they were scanned, its objects are put in order, and nothing in it is deeper
than the reader goes; and whatever is in a record has been read from a part of its draft or stands for one that is missing. -/
namespace Letterpress.Json

variable {P : Number → Prop} {depth fuel : Nat}

mutual
/-- Every number in a draft that has a value has a property. -/
def Draft.Throughout (P : Number → Prop) : Draft → Prop
  | .number (.ok n) => P n
  | .array items _ => Draft.ItemsThroughout P items
  | .object members _ => Draft.MembersThroughout P members
  | _ => True

def Draft.ItemsThroughout (P : Number → Prop) : List Draft → Prop
  | [] => True
  | item :: items => Draft.Throughout P item ∧ Draft.ItemsThroughout P items

def Draft.MembersThroughout (P : Number → Prop) : List (Spelling × Draft) → Prop
  | [] => True
  | (_, value) :: members => Draft.Throughout P value ∧ Draft.MembersThroughout P members
end

mutual
theorem throughout_of_forall (all : ∀ n, P n) : ∀ d : Draft, d.Throughout P
  | .null | .bool _ | .number (.error _) | .string _ | .torn _ | .missing _ => trivial
  | .number (.ok n) => all n
  | .array items _ => itemsThroughout_of_forall all items
  | .object members _ => membersThroughout_of_forall all members

private theorem itemsThroughout_of_forall (all : ∀ n, P n) : ∀ items : List Draft, Draft.ItemsThroughout P items
  | [] => trivial
  | item :: items => ⟨throughout_of_forall all item,itemsThroughout_of_forall all items⟩

private theorem membersThroughout_of_forall (all : ∀ n, P n) : ∀ members :
    List (Spelling × Draft), Draft.MembersThroughout P members
  | [] => trivial
  | (_, value) :: members => ⟨throughout_of_forall all value,membersThroughout_of_forall all members⟩
end

/-- What a reader may make of a draft that lies no deeper than `depth`. -/
structure Held (P : Number → Prop) (depth : Nat) (j : Json) : Prop where
  ordered : Ordered j
  within : height j ≤ depth
  numbers : ∀ n ∈ j.numbers, P n

theorem held_array {items : List Json} (held : ∀ item ∈ items, Held P depth item) : Held P (depth + 1) (.array items) := by
  have inside : ListOrdered items ∧ listHeight items ≤ depth ∧ ∀ n ∈ listNumbers items, P n := by
    induction items with
    | nil => exact ⟨trivial,Nat.zero_le depth,List.forall_mem_nil _⟩
    | cons item items ih =>
      obtain ⟨first,others⟩ := List.forall_mem_cons.mp held
      obtain ⟨ordered,within,numbers⟩ := ih others
      rw [ListOrdered,listHeight,listNumbers,List.forall_mem_append]
      exact ⟨⟨first.ordered,ordered⟩,Nat.max_le.mpr ⟨first.within,within⟩,first.numbers,numbers⟩
  exact ⟨inside.1,Nat.succ_le_succ inside.2.1,inside.2.2⟩

theorem held_object {members : List (String × Json)} (ascending : Keyed.Ascending members)
    (held : ∀ member ∈ members, Held P depth member.2) : Held P (depth + 1) (.object members) := by
  have inside : MembersOrdered members ∧ membersHeight members ≤ depth ∧ ∀ n ∈ memberNumbers members, P n := by
    clear ascending
    induction members with
    | nil => exact ⟨trivial,Nat.zero_le depth,List.forall_mem_nil _⟩
    | cons member members ih =>
      obtain ⟨first,others⟩ := List.forall_mem_cons.mp held
      obtain ⟨ordered,within,numbers⟩ := ih others
      rw [MembersOrdered,membersHeight,memberNumbers,List.forall_mem_append]
      exact ⟨⟨first.ordered,ordered⟩,Nat.max_le.mpr ⟨first.within,within⟩,first.numbers,numbers⟩
  exact ⟨⟨ascending,inside.1⟩,Nat.succ_le_succ inside.2.1,inside.2.2⟩

theorem held_mk {pairs : List (String × Json)} (held : ∀ pair ∈ pairs, Held P depth pair.2) : Held P (depth + 1) (.mk pairs) :=
  held_object (Keyed.ascending_ofList pairs) fun pair kept => held pair (Keyed.mem_of_mem_ofList kept)

mutual
theorem held_value : ∀ (d : Draft) (depth : Nat) (j : Json), d.Throughout P → d.value depth = .ok j → Held P depth j
  | .null, depth => fun j _ read => by
    rw [Draft.value] at read
    cases read
    exact ⟨trivial,Nat.zero_le depth,List.forall_mem_nil _⟩
  | .bool _, depth => fun j _ read => by
    rw [Draft.value] at read
    cases read
    exact ⟨trivial,Nat.zero_le depth,List.forall_mem_nil _⟩
  | .number (.ok n), depth => fun j holds read => by
    rw [Draft.value] at read
    cases read
    exact ⟨trivial,Nat.zero_le depth,List.forall_mem_singleton.mpr holds⟩
  | .number (.error _), _ => fun j _ read => nomatch read
  | .string (.ok _), depth => fun j _ read => by
    rw [Draft.value] at read
    cases read
    exact ⟨trivial,Nat.zero_le depth,List.forall_mem_nil _⟩
  | .string (.error _), _ => fun j _ read => nomatch read
  | .torn _, _ => fun j _ read => nomatch read
  | .missing _, _ => fun j _ read => nomatch read
  | .array items tear, depth => fun j holds read => by
    obtain ⟨less,values,rfl,inside,rfl⟩ := exists_of_value_array read
    exact held_array (held_values items less 0 _ holds inside)
  | .object members tear, depth => fun j holds read => by
    obtain ⟨less,values,rfl,inside,rfl⟩ := exists_of_value_object read
    refine held_object (Keyed.ascending_ofList values) fun member kept => ?_
    exact held_memberValues members less _ holds inside member (Keyed.mem_of_mem_ofList kept)

private theorem held_values : ∀ (ds : List Draft) (depth index : Nat) (items : List Json), Draft.ItemsThroughout P ds →
    Draft.values depth index ds = .ok items → ∀ item ∈ items, Held P depth item
  | [], _, _ => fun items _ read => by
    rw [Draft.values] at read
    cases read
    exact List.forall_mem_nil _
  | d :: ds, depth, index => fun items holds read => by
    obtain ⟨_,_,first,later,rfl⟩ := exists_of_values_cons read
    exact List.forall_mem_cons.mpr ⟨held_value d depth _ holds.1 first,held_values ds depth (index + 1) _ holds.2 later⟩

private theorem held_memberValues : ∀ (ds : List (Spelling × Draft)) (depth : Nat) (members : List (String × Json)),
    Draft.MembersThroughout P ds → Draft.memberValues depth ds = .ok members → ∀ member ∈ members, Held P depth member.2
  | [], _ => fun members _ read => by
    rw [Draft.memberValues] at read
    cases read
    exact List.forall_mem_nil _
  | (.error _, _) :: _, _ => fun members _ read => nomatch read
  | (.ok _, d) :: ds, depth => fun members holds read => by
    obtain ⟨_,_,first,later,rfl⟩ := exists_of_memberValues_cons read
    exact List.forall_mem_cons.mpr ⟨held_value d depth _ holds.1 first,held_memberValues ds depth _ holds.2 later⟩
end

private theorem throughout_word (d : Draft) (plain : d.Throughout Number.Proper) (letters s : List Char) :
    Draft.Throughout Number.Proper (match scanWord letters s with
      | .ok rest => ((d, some rest) : Drafted)
      | .error tear => (.torn tear, none)).1 := by
  split
  · exact plain
  · trivial

private theorem throughout_number (negative : Bool) (s : List Char) :
    Draft.Throughout Number.Proper (match scanNumber negative s with
      | .ok (value, rest) => ((.number value, some rest) : Drafted)
      | .error tear => (.torn tear, none)).1 := by
  split
  · next v _ scanned =>
    cases v with
    | error fault => trivial
    | ok n => exact fitting_scanNumber negative s n _ scanned
  · trivial

private theorem throughout_item (value : ∀ s, (draftValue fuel s).1.Throughout P)
    (items : ∀ first s, Draft.ItemsThroughout P (draftItems fuel first s).1) (s : List Char) :
    Draft.ItemsThroughout P (match draftValue fuel s with
      | (draft, none) => ([draft], none, none)
      | (draft, some rest) =>
        let (items, tear, rest) := draftItems fuel false rest
        (draft :: items, tear, rest)).1 := by
  have own := value s
  split
  · next same =>
    rw [same] at own
    exact ⟨own,trivial⟩
  · next rest same =>
    rw [same] at own
    exact ⟨own,items false rest⟩

private theorem throughout_member (value : ∀ s, (draftValue fuel s).1.Throughout P)
    (members : ∀ first s, Draft.MembersThroughout P (draftMembers fuel first s).1) (s : List Char) :
    Draft.MembersThroughout P (match scanString s with
      | .error tear => ([], some tear, none)
      | .ok (key, rest) =>
        match skip rest with
        | ':' :: rest =>
          match draftValue fuel rest with
          | (draft, none) => ([(key, draft)], none, none)
          | (draft, some rest) =>
            let (members, tear, rest) := draftMembers fuel false rest
            ((key, draft) :: members, tear, rest)
        | [] => ([(key, .missing (.both .endInObject))], none, none)
        | _ => ([(key, .missing (.both .expectedColon))], none, none)).1 := by
  split
  · trivial
  · split
    · next rest _ =>
      have own := value rest
      split
      · next same =>
        rw [same] at own
        exact ⟨own,trivial⟩
      · next rest same =>
        rw [same] at own
        exact ⟨own,members false rest⟩
    · exact ⟨trivial,trivial⟩
    · exact ⟨trivial,trivial⟩

private theorem throughout_draftValue (items : ∀ first s, Draft.ItemsThroughout Number.Proper (draftItems fuel first s).1)
    (members : ∀ first s, Draft.MembersThroughout Number.Proper (draftMembers fuel first s).1) (s : List Char) :
    (draftValue (fuel + 1) s).1.Throughout Number.Proper := by
  unfold draftValue
  split
  · trivial
  · exact throughout_word .null trivial ['u','l','l'] _
  · exact throughout_word (.bool true) trivial ['r','u','e'] _
  · exact throughout_word (.bool false) trivial ['a','l','s','e'] _
  · split <;> trivial
  · exact items true _
  · exact members true _
  · exact throughout_number true _
  · split
    · exact throughout_number false _
    · trivial

private theorem throughout_draftItems (value : ∀ s, (draftValue fuel s).1.Throughout P)
    (items : ∀ first s, Draft.ItemsThroughout P (draftItems fuel first s).1) (first : Bool) (s : List Char) :
    Draft.ItemsThroughout P (draftItems (fuel + 1) first s).1 := by
  unfold draftItems
  split
  · trivial
  · trivial
  · split
    · exact throughout_item value items _
    · split
      · split
        · trivial
        · trivial
        · exact throughout_item value items _
      · trivial

private theorem throughout_draftMembers (value : ∀ s, (draftValue fuel s).1.Throughout P)
    (members : ∀ first s, Draft.MembersThroughout P (draftMembers fuel first s).1) (first : Bool) (s : List Char) :
    Draft.MembersThroughout P (draftMembers (fuel + 1) first s).1 := by
  unfold draftMembers
  split
  · trivial
  · trivial
  · split
    · split
      · exact throughout_member value members _
      · exact ⟨value _,trivial⟩
    · split
      · split
        · exact throughout_member value members _
        · trivial
        · trivial
        · trivial
      · trivial

/-- Each of the three readers of the grammar comes upon numbers only where one is scanned. -/
theorem throughout_draft (fuel : Nat) :
    (∀ s, (draftValue fuel s).1.Throughout Number.Proper) ∧
      (∀ first s, Draft.ItemsThroughout Number.Proper (draftItems fuel first s).1) ∧
      ∀ first s, Draft.MembersThroughout Number.Proper (draftMembers fuel first s).1 := by
  induction fuel with
  | zero => exact ⟨fun _ => trivial,fun _ _ => trivial,fun _ _ => trivial⟩
  | succ fuel ih =>
    obtain ⟨value,items,members⟩ := ih
    exact ⟨throughout_draftValue items members,throughout_draftItems value items,throughout_draftMembers value members⟩

theorem throughout_ofText (s : List Char) : (Draft.ofText s).1.Throughout Number.Proper := by
  have own := (throughout_draft (2 * s.length + 2)).1 s
  unfold Draft.ofText
  split
  · next same =>
    rw [same] at own
    exact own
  · next same =>
    rw [same] at own
    exact own

private theorem Draft.ItemsThroughout.forall {items : List Draft} (throughout : Draft.ItemsThroughout P items) :
    ∀ item ∈ items, item.Throughout P := by
  induction items with
  | nil => exact List.forall_mem_nil _
  | cons item items ih => exact List.forall_mem_cons.mpr ⟨throughout.1,ih throughout.2⟩

private theorem Draft.MembersThroughout.forall {members : List (Spelling × Draft)}
    (throughout : Draft.MembersThroughout P members) : ∀ member ∈ members, member.2.Throughout P := by
  induction members with
  | nil => exact List.forall_mem_nil _
  | cons member members ih => exact List.forall_mem_cons.mpr ⟨throughout.1,ih throughout.2⟩

section
variable {α β : Type} {reader : Reader α} {name : String} {m less : Manner} {x : α} {H : Draft → Prop} {Q : α → Prop}
  {F : (α → β) → Prop} {fields : Fields α} {functions : Fields (α → β)} {absent : α}

namespace Fields

/-- What holds of a record whose parts are drafts with a property. -/
structure Gives (fields : Fields α) (m : Manner) (H : Draft → Prop) (Q : α → Prop) : Prop where
  members : ∀ drafts x, (∀ draft ∈ drafts, H draft.2) → fields.ofMembers m drafts = .ok x → Q x
  items : ∀ expected queue x rest, (∀ item ∈ queue.items, H item) → fields.ofQueue m expected queue = .ok (x, rest) →
    Q x ∧ ∀ item ∈ rest.items, H item

private theorem exists_of_next {queue rest : Queue} {result : Option α} (read : next reader m queue = .ok (result, rest))
    (holds : ∀ item ∈ queue.items, H item) :
    (∀ x, result = some x → ∃ d, H d ∧ reader m d = .ok x) ∧ ∀ item ∈ rest.items, H item := by
  obtain ⟨index,items,tear⟩ := queue
  cases items with
  | nil =>
    cases tear with
    | none =>
      cases read
      exact ⟨fun _ contrary => (nomatch contrary),holds⟩
    | some tear => contradiction
  | cons item items =>
    obtain ⟨own,others⟩ := List.forall_mem_cons.mp holds
    obtain ⟨x,first,same⟩ := exists_of_bind_ok read
    cases same
    refine ⟨fun y same => ?_,others⟩
    cases same
    exact ⟨item,own,along_eq_ok_iff.mp first⟩

theorem gives_need : (need name reader).Gives m H fun x => ∃ d, H d ∧ reader m d = .ok x where
  members drafts x holds read := by
    obtain ⟨d,found,value⟩ := ofMembers_need.mp read
    exact ⟨d,holds _ (Keyed.mem_of_lookup? found),value⟩
  items expected queue x rest holds read := by
    obtain ⟨⟨result,behind⟩,first,read⟩ := exists_of_bind_ok read
    obtain ⟨own,others⟩ := exists_of_next first holds
    cases result with
    | none => contradiction
    | some value =>
      cases read
      exact ⟨own _ rfl,others⟩

theorem gives_withDefault : (withDefault name absent reader).Gives m H fun x => x = absent ∨ ∃ d, H d ∧ reader m d = .ok x where
  members drafts x holds read := by
    rcases ofMembers_withDefault.mp read with ⟨_,rfl⟩ | ⟨d,found,value⟩
    · exact .inl rfl
    · exact .inr ⟨d,holds _ (Keyed.mem_of_lookup? found),value⟩
  items expected queue x rest holds read := by
    obtain ⟨⟨result,behind⟩,first,read⟩ := exists_of_bind_ok read
    obtain ⟨own,others⟩ := exists_of_next first holds
    cases result with
    | none =>
      cases read
      exact ⟨.inl rfl,others⟩
    | some value =>
      cases read
      exact ⟨.inr (own _ rfl),others⟩

theorem Gives.map {f : α → β} (gives : fields.Gives m H Q) : (f <$> fields).Gives m H fun y => ∃ x, Q x ∧ f x = y where
  members drafts y holds read := by
    obtain ⟨x,value,same⟩ := ofMembers_map.mp read
    exact ⟨x,gives.members drafts x holds value,same⟩
  items expected queue y rest holds read := by
    change (fields.ofQueue m expected queue).map _ = _ at read
    cases value : fields.ofQueue m expected queue with
    | error misfit =>
      rw [value] at read
      contradiction
    | ok result =>
      rw [value] at read
      cases read
      obtain ⟨own,others⟩ := gives.items expected queue _ _ holds value
      exact ⟨⟨_,own,rfl⟩,others⟩

theorem Gives.seq (first : functions.Gives m H F) (second : fields.Gives m H Q) :
    (functions <*> fields).Gives m H fun y => ∃ f, F f ∧ ∃ x, Q x ∧ f x = y where
  members drafts y holds read := by
    obtain ⟨f,function,x,value,same⟩ := ofMembers_seq.mp read
    exact ⟨f,first.members drafts f holds function,x,second.members drafts x holds value,same⟩
  items expected queue y rest holds read := by
    obtain ⟨⟨f,behind⟩,function,read⟩ := exists_of_bind_ok read
    obtain ⟨⟨x,left⟩,value,same⟩ := exists_of_bind_ok read
    cases same
    obtain ⟨own,others⟩ := first.items expected queue f behind holds function
    obtain ⟨beside,kept⟩ := second.items expected behind x _ others value
    exact ⟨⟨f,own,x,beside,rfl⟩,kept⟩

end Fields

private theorem mem_of_survey {known : List (String × Reader Unit)} {other : Reader β} {seen kept : List (String × Draft)}
    {members : List (Spelling × Draft)} {others : List (String × β)}
    (surveyed : survey known other m seen members = .ok (kept, others)) :
    ∀ draft ∈ kept, draft ∈ seen ∨ (.ok draft.1, draft.2) ∈ members := by
  induction members generalizing seen kept others with
  | nil =>
    rw [survey] at surveyed
    cases surveyed
    exact fun _ member => .inl member
  | cons member members ih =>
    obtain ⟨spelling,value⟩ := member
    cases spelling with
    | error fault => contradiction
    | ok key =>
      rw [survey] at surveyed
      split at surveyed
      · split at surveyed
        · contradiction
        · obtain ⟨_,-,later⟩ := exists_of_bind_ok surveyed
          intro draft member
          rcases ih later draft member with before | behind
          · rcases List.mem_append.mp before with sooner | here
            · exact .inl sooner
            · cases List.mem_singleton.mp here
              exact .inr List.mem_cons_self
          · exact .inr (List.mem_cons_of_mem _ behind)
      · obtain ⟨_,-,later⟩ := exists_of_bind_ok surveyed
        obtain ⟨_,rest,same⟩ := exists_of_bind_ok later
        cases same
        exact fun draft member => (ih rest draft member).imp_right (List.mem_cons_of_mem _)

private theorem refuse_ne_ok (expected : String) (d : Draft) : refuse expected d ≠ .ok x := by
  unfold refuse
  split <;> exact fun contrary => nomatch contrary

/-- What holds of the parts of a record holds of it whichever way it is written. -/
theorem exists_of_record {d : Draft} (read : Reader.record name fields m d = .ok x) (throughout : d.Throughout P) :
    ∃ less : Manner, m.depth = less.depth + 1 ∧ ∀ Q, fields.Gives less (Draft.Throughout P) Q → Q x := by
  unfold Reader.record at read
  split at read
  · obtain ⟨less,enters,read⟩ := exists_of_bind_ok read
    obtain ⟨⟨known,others⟩,surveyed,parts⟩ := exists_of_bind_ok read
    obtain ⟨result,survey,same⟩ := exists_of_bind_ok surveyed
    split at same
    · contradiction
    · cases same
      refine ⟨less,Manner.depth_of_enter enters,fun Q gives => gives.members known x (fun draft kept => ?_) parts⟩
      rcases mem_of_survey survey draft kept with listed | member
      · contradiction
      · exact Draft.MembersThroughout.forall throughout _ member
  · next items tear =>
    obtain ⟨less,enters,read⟩ := exists_of_bind_ok read
    obtain ⟨⟨value,rest⟩,parts,ended⟩ := exists_of_bind_ok read
    dsimp only at ended
    split at ended
    · contradiction
    · cases ended
      exact ⟨less,Manner.depth_of_enter enters,fun Q gives =>
        (gives.items _ ⟨0, items, tear⟩ _ _ (Draft.ItemsThroughout.forall throughout) parts).1⟩
  · exact absurd read (refuse_ne_ok _ _)

theorem eq_of_ofText {s : String} (read : Reader.ofText reader s = .ok x) : reader .text (Draft.ofText s.toList).1 = .ok x := by
  unfold Reader.ofText at read
  generalize Draft.ofText s.toList = drafted at read ⊢
  obtain ⟨draft,more⟩ := drafted
  obtain ⟨y,value,ended⟩ := exists_of_bind_ok read
  cases more with
  | true => contradiction
  | false =>
    cases ended
    exact value

theorem ascending_of_table {pairs : List (String × α)} {d : Draft} (read : Reader.table reader m d = .ok pairs) :
    Keyed.Ascending pairs := by
  unfold Reader.table at read
  split at read
  · obtain ⟨less,-,read⟩ := exists_of_bind_ok read
    obtain ⟨values,-,read⟩ := exists_of_bind_ok read
    split at read
    · contradiction
    · cases read
      exact Keyed.ascending_ofList values
  · exact absurd read (refuse_ne_ok _ _)

private theorem membersOf_anything (m : Manner) (members : List (Spelling × Draft)) :
    Reader.membersOf .anything m members = Draft.memberValues m.depth members := by
  induction members with
  | nil => rw [Reader.membersOf,Draft.memberValues]
  | cons member members ih =>
    obtain ⟨spelling,value⟩ := member
    cases spelling with
    | error fault => rw [Reader.membersOf,Draft.memberValues]
    | ok key =>
      rw [Reader.membersOf,Draft.memberValues,ih]
      rfl

/-- A table of any values is read as an object is. -/
theorem value_of_table {members : List (String × Json)} {d : Draft} (read : Reader.table .anything m d = .ok members) :
    d.value m.depth = .ok (.object members) := by
  unfold Reader.table at read
  split at read
  · obtain ⟨less,enters,read⟩ := exists_of_bind_ok read
    obtain ⟨values,inside,read⟩ := exists_of_bind_ok read
    rw [membersOf_anything] at inside
    split at read
    · contradiction
    · cases read
      rw [Manner.depth_of_enter enters,Draft.value,inside]
      rfl
  · exact absurd read (refuse_ne_ok _ _)

end

end Letterpress.Json
