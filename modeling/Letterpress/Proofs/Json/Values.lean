import Letterpress.Proofs.Basic
import Letterpress.Proofs.Json.Drafting
import Letterpress.Proofs.Keyed

/-! Values and their drafts. A value that is in order is the value of its draft, as long as it is no deeper than the reader goes;
the draft that its text is read as has it for a value if besides every double in it is read back. -/
namespace Letterpress.Json

variable {n : Number} {depth : Nat}

/-- The text of this number is read as this number. A double need not be, since few of its digits are read exactly. -/
def Number.ReadsBack (n : Number) : Prop := ofText n.text = .ok (.number n)

mutual
/-- How deep lists and objects lie in each other. -/
def height : Json → Nat
  | array items => listHeight items + 1
  | object members => membersHeight members + 1
  | _ => 0

def listHeight : List Json → Nat
  | [] => 0
  | item :: items => max (height item) (listHeight items)

def membersHeight : List (String × Json) → Nat
  | [] => 0
  | (_, value) :: members => max (height value) (membersHeight members)
end

mutual
/-- The members of every object in the value stand in the order of their keys. -/
def Ordered : Json → Prop
  | array items => ListOrdered items
  | object members => Keyed.Ascending members ∧ MembersOrdered members
  | _ => True

def ListOrdered : List Json → Prop
  | [] => True
  | item :: items => Ordered item ∧ ListOrdered items

def MembersOrdered : List (String × Json) → Prop
  | [] => True
  | (_, value) :: members => Ordered value ∧ MembersOrdered members
end

theorem alongMember_ok {α : Type} (key : String) (d : Draft) (a : α) : alongMember key d (.ok a) = .ok a := by
  cases d <;> rfl

private theorem Number.readsBack_iff (legible : n.Legible) : n.ReadsBack ↔ textDraft (.number n) = .number (.ok n) := by
  obtain ⟨v,draft,-⟩ := legible.exists_draft
  have drafted := ofText_text (.number n) (List.forall_mem_singleton.mpr legible)
  rw [Json.text,draft] at drafted
  rw [ReadsBack,ofText,drafted,draft]
  cases v with
  | error fault =>
    change (Except.error ⟨[], .fault fault⟩ : Except Misfit Json) = .ok (.number n) ↔ _
    simp
  | ok m =>
    change (Except.ok (.number m) : Except Misfit Json) = .ok (.number n) ↔ _
    simp

/-- There is no number but the doubles that are not finite whose text is no numeral, and those are written as words. -/
theorem Number.ReadsBack.legible (back : n.ReadsBack) : n.Legible := by
  cases n with
  | int i => exact legible_int i
  | float x =>
    cases parts : Decimal.parts x with
    | finite negative m e => exact legible_float (by rw [Decimal.isFinite,parts])
    | notANumber =>
      have word : Number.text (.float x) = "NaN" := by rw [Number.text,Decimal.scientific,parts]
      rw [ReadsBack,word] at back
      contradiction
    | infinite negative =>
      have word : Number.text (.float x) = String.ofList (Decimal.signed negative ['i','n','f']) := by
        rw [Number.text,Decimal.scientific,parts]
      rw [ReadsBack,word] at back
      cases negative <;> contradiction

private theorem Number.readsBack_of_scan {s : List Char} (negative : Bool) (numeral : IsNumeral s)
    (spelled : n.text.toList = Decimal.signed negative s) (scans : scanNumber negative (s ++ []) = .ok (.ok n, [])) :
    n.ReadsBack := by
  have legible : n.Legible := ⟨negative,s,numeral,spelled⟩
  obtain ⟨v,draft,reads⟩ := legible.exists_draft
  have read := reads 0 [] stops_nil
  rw [spelled,draftValue_numeral numeral negative scans] at read
  cases read
  exact (readsBack_iff legible).mpr draft

/-- The numbers that there are in values: whole ones that fit into a word, and finite doubles. -/
def Number.Proper : Number → Prop
  | .int i => -2 ^ 63 ≤ i ∧ i < 2 ^ 64
  | .float x => Decimal.isFinite x = true

theorem Number.Proper.legible (proper : n.Proper) : n.Legible := by
  cases n with
  | int i => exact legible_int i
  | float x => exact legible_float proper

/-- Whole numbers are read back, always. -/
theorem Number.readsBack_int {i : Int} (proper : (Number.int i).Proper) : (Number.int i).ReadsBack := by
  obtain ⟨low,high⟩ := proper
  by_cases nonnegative : 0 ≤ i
  · obtain ⟨n,rfl⟩ := Int.eq_ofNat_of_zero_le nonnegative
    have least : n ≤ Decimal.greatestWord := by
      have greatest : Decimal.greatestWord = 2 ^ 64 - 1 := rfl
      omega
    exact readsBack_of_scan false (isNumeral_toDigits n) (toList_text_nonnegative n) (scanNumber_nonnegative least stops_nil)
  · obtain ⟨n,nonzero,rfl⟩ : ∃ n : Nat, n ≠ 0 ∧ i = -(n : Int) := ⟨i.natAbs,by omega,by omega⟩
    have least : n ≤ Decimal.twoTo 63 := by
      have half : Decimal.twoTo 63 = 2 ^ 63 := rfl
      omega
    exact readsBack_of_scan true (isNumeral_toDigits n) (toList_text_negative nonzero) (scanNumber_negative nonzero least stops_nil)

theorem Number.Proper.readsBack (proper : n.Proper) (float : ∀ x, n = .float x → n.ReadsBack) : n.ReadsBack := by
  cases n with
  | int i => exact readsBack_int proper
  | float x => exact float x rfl

mutual
theorem textDraft_of_readsBack : ∀ (j : Json), (∀ n ∈ j.numbers, n.ReadsBack) → textDraft j = toDraft j
  | .null => fun _ => rfl
  | .bool _ => fun _ => rfl
  | .number n => fun back => by
    have own := back n List.mem_cons_self
    rw [(Number.readsBack_iff own.legible).mp own,toDraft]
  | .string _ => fun _ => rfl
  | .array items => fun back => by rw [textDraft,toDraft,textDrafts_of_readsBack items back]
  | .object members => fun back => by rw [textDraft,toDraft,memberTextDrafts_of_readsBack members back]

private theorem textDrafts_of_readsBack : ∀ (items : List Json), (∀ n ∈ listNumbers items, n.ReadsBack) →
    textDrafts items = toDrafts items
  | [] => fun _ => rfl
  | item :: items => fun back => by
    rw [listNumbers,List.forall_mem_append] at back
    rw [textDrafts,toDrafts,textDraft_of_readsBack item back.1,textDrafts_of_readsBack items back.2]

private theorem memberTextDrafts_of_readsBack : ∀ (members : List (String × Json)), (∀ n ∈ memberNumbers members, n.ReadsBack) →
    memberTextDrafts members = memberDrafts members
  | [] => fun _ => rfl
  | (key, value) :: members => fun back => by
    rw [memberNumbers,List.forall_mem_append] at back
    rw [memberTextDrafts,memberDrafts,textDraft_of_readsBack value back.1,memberTextDrafts_of_readsBack members back.2]
end

mutual
theorem value_toDraft : ∀ (j : Json) (depth : Nat), Ordered j → height j ≤ depth → (toDraft j).value depth = .ok j
  | .null, _ => fun _ _ => by rw [toDraft,Draft.value]
  | .bool _, _ => fun _ _ => by rw [toDraft,Draft.value]
  | .number _, _ => fun _ _ => by rw [toDraft,Draft.value]
  | .string _, _ => fun _ _ => by rw [toDraft,Draft.value]
  | .array items, depth => fun ordered within => by
    rw [height] at within
    obtain ⟨depth,rfl⟩ : ∃ less, depth = less + 1 := ⟨depth - 1,by omega⟩
    rw [toDraft,Draft.value,values_toDrafts items depth 0 ordered (Nat.le_of_succ_le_succ within),ok_bind]
  | .object members, depth => fun ordered within => by
    rw [height] at within
    obtain ⟨depth,rfl⟩ : ∃ less, depth = less + 1 := ⟨depth - 1,by omega⟩
    rw [Ordered] at ordered
    rw [toDraft,Draft.value,memberValues_memberDrafts members depth ordered.2 (Nat.le_of_succ_le_succ within),ok_bind]
    change Except.ok (Json.object (Keyed.ofList members)) = _
    rw [ordered.1.ofList_eq]

private theorem values_toDrafts : ∀ (items : List Json) (depth index : Nat), ListOrdered items → listHeight items ≤ depth →
    Draft.values depth index (toDrafts items) = .ok items
  | [], _, _ => fun _ _ => by rw [toDrafts,Draft.values]
  | item :: items, depth, index => fun ordered within => by
    rw [ListOrdered] at ordered
    rw [listHeight,Nat.max_le] at within
    rw [toDrafts,Draft.values,value_toDraft item depth ordered.1 within.1]
    change (Draft.values depth (index + 1) (toDrafts items) >>= fun values => .ok (item :: values)) = _
    rw [values_toDrafts items depth (index + 1) ordered.2 within.2,ok_bind]

private theorem memberValues_memberDrafts : ∀ (members : List (String × Json)) (depth : Nat), MembersOrdered members →
    membersHeight members ≤ depth → Draft.memberValues depth (memberDrafts members) = .ok members
  | [], _ => fun _ _ => by rw [memberDrafts,Draft.memberValues]
  | (key, value) :: members, depth => fun ordered within => by
    rw [MembersOrdered] at ordered
    rw [membersHeight,Nat.max_le] at within
    rw [memberDrafts,Draft.memberValues,value_toDraft value depth ordered.1 within.1,alongMember_ok]
    change (Draft.memberValues depth (memberDrafts members) >>= fun values => .ok ((key, value) :: values)) = _
    rw [memberValues_memberDrafts members depth ordered.2 within.2,ok_bind]
end

private theorem exists_of_alongMember_ok {α : Type} {key : String} {d : Draft} {x : Except Misfit α} {a : α}
    (read : alongMember key d x = .ok a) : x = .ok a := by
  cases d with
  | missing => exact read
  | _ => exact eq_ok_of_mapError read

theorem exists_of_values_cons {index : Nat} {d : Draft} {ds : List Draft} {items : List Json}
    (read : Draft.values depth index (d :: ds) = .ok items) : ∃ item others, d.value depth = .ok item ∧
      Draft.values depth (index + 1) ds = .ok others ∧ items = item :: others := by
  rw [Draft.values] at read
  obtain ⟨item,first,read⟩ := exists_of_bind_ok read
  obtain ⟨others,later,same⟩ := exists_of_bind_ok read
  cases same
  exact ⟨item,others,eq_ok_of_mapError first,later,rfl⟩

theorem exists_of_memberValues_cons {key : String} {d : Draft} {ds : List (Spelling × Draft)} {members : List (String × Json)}
    (read : Draft.memberValues depth ((.ok key, d) :: ds) = .ok members) : ∃ value others, d.value depth = .ok value ∧
      Draft.memberValues depth ds = .ok others ∧ members = (key, value) :: others := by
  rw [Draft.memberValues] at read
  obtain ⟨value,first,read⟩ := exists_of_bind_ok read
  obtain ⟨others,later,same⟩ := exists_of_bind_ok read
  cases same
  exact ⟨value,others,exists_of_alongMember_ok first,later,rfl⟩

theorem exists_of_value_array {ds : List Draft} {tear : Option Tear} {j : Json} (read : (Draft.array ds tear).value depth = .ok j) :
    ∃ less items, depth = less + 1 ∧ Draft.values less 0 ds = .ok items ∧ j = .array items := by
  cases depth with
  | zero => contradiction
  | succ less =>
    rw [Draft.value] at read
    obtain ⟨items,values,same⟩ := exists_of_bind_ok read
    cases tear with
    | some tear => contradiction
    | none =>
      cases same
      exact ⟨less,items,rfl,values,rfl⟩

theorem exists_of_value_object {ds : List (Spelling × Draft)} {tear : Option Tear} {j : Json}
    (read : (Draft.object ds tear).value depth = .ok j) : ∃ less members, depth = less + 1 ∧
      Draft.memberValues less ds = .ok members ∧ j = .object (Keyed.ofList members) := by
  cases depth with
  | zero => contradiction
  | succ less =>
    rw [Draft.value] at read
    obtain ⟨members,values,same⟩ := exists_of_bind_ok read
    cases tear with
    | some tear => contradiction
    | none =>
      cases same
      exact ⟨less,members,rfl,values,rfl⟩

private theorem keys_memberValues (members : List (String × Json)) {values : List (String × Json)}
    (read : Draft.memberValues depth (memberTextDrafts members) = .ok values) : values.map (·.1) = members.map (·.1) := by
  induction members generalizing values with
  | nil =>
    rw [memberTextDrafts,Draft.memberValues] at read
    cases read
    rfl
  | cons member members ih =>
    obtain ⟨key,value⟩ := member
    obtain ⟨_,others,-,later,rfl⟩ := exists_of_memberValues_cons read
    rw [List.map_cons,List.map_cons,ih later]

mutual
/-- A value that comes of its own text is not too deep, and all of its numbers are read back. -/
theorem of_value_textDraft : ∀ (j : Json) (depth : Nat), (∀ n ∈ j.numbers, n.Legible) → Ordered j →
    (textDraft j).value depth = .ok j → height j ≤ depth ∧ ∀ n ∈ j.numbers, n.ReadsBack
  | .null, depth => fun _ _ _ => ⟨Nat.zero_le depth,List.forall_mem_nil _⟩
  | .bool _, depth => fun _ _ _ => ⟨Nat.zero_le depth,List.forall_mem_nil _⟩
  | .number n, depth => fun legible _ read => by
    have own := legible n List.mem_cons_self
    obtain ⟨v,draft,-⟩ := own.exists_draft
    refine ⟨Nat.zero_le depth,List.forall_mem_singleton.mpr ((Number.readsBack_iff own).mpr ?_)⟩
    rw [draft] at read ⊢
    cases v with
    | error fault => exact nomatch read
    | ok m =>
      rw [Draft.value] at read
      cases read
      rfl
  | .string _, depth => fun _ _ _ => ⟨Nat.zero_le depth,List.forall_mem_nil _⟩
  | .array items, depth => fun legible ordered read => by
    obtain ⟨less,_,rfl,values,same⟩ := exists_of_value_array read
    cases same
    obtain ⟨within,back⟩ := of_values_textDrafts items less 0 legible ordered values
    exact ⟨Nat.succ_le_succ within,back⟩
  | .object members, depth => fun legible ordered read => by
    obtain ⟨less,values,rfl,read,same⟩ := exists_of_value_object read
    obtain ⟨ascending,inside⟩ := ordered
    -- the values have the keys of the members, so that they are in order already
    have kept : Keyed.ofList values = values := Keyed.Ascending.ofList_eq (by
      rw [Keyed.Ascending,keys_memberValues members read]
      exact ascending)
    rw [kept] at same
    cases same
    obtain ⟨within,back⟩ := of_memberValues_textDrafts members less legible inside read
    exact ⟨Nat.succ_le_succ within,back⟩

private theorem of_values_textDrafts : ∀ (items : List Json) (depth index : Nat), (∀ n ∈ listNumbers items, n.Legible) →
    ListOrdered items → Draft.values depth index (textDrafts items) = .ok items →
    listHeight items ≤ depth ∧ ∀ n ∈ listNumbers items, n.ReadsBack
  | [], depth, _ => fun _ _ _ => ⟨Nat.zero_le depth,List.forall_mem_nil _⟩
  | item :: items, depth, index => fun legible ordered read => by
    rw [listNumbers,List.forall_mem_append] at legible
    obtain ⟨_,_,first,later,same⟩ := exists_of_values_cons read
    cases same
    obtain ⟨within,back⟩ := of_value_textDraft item depth legible.1 ordered.1 first
    obtain ⟨beside,others⟩ := of_values_textDrafts items depth (index + 1) legible.2 ordered.2 later
    rw [listHeight,listNumbers,List.forall_mem_append]
    exact ⟨Nat.max_le.mpr ⟨within,beside⟩,back,others⟩

private theorem of_memberValues_textDrafts : ∀ (members : List (String × Json)) (depth : Nat),
    (∀ n ∈ memberNumbers members, n.Legible) → MembersOrdered members →
    Draft.memberValues depth (memberTextDrafts members) = .ok members →
    membersHeight members ≤ depth ∧ ∀ n ∈ memberNumbers members, n.ReadsBack
  | [], depth => fun _ _ _ => ⟨Nat.zero_le depth,List.forall_mem_nil _⟩
  | (key, value) :: members, depth => fun legible ordered read => by
    rw [memberNumbers,List.forall_mem_append] at legible
    obtain ⟨_,_,first,later,same⟩ := exists_of_memberValues_cons read
    cases same
    obtain ⟨within,back⟩ := of_value_textDraft value depth legible.1 ordered.1 first
    obtain ⟨beside,others⟩ := of_memberValues_textDrafts members depth legible.2 ordered.2 later
    rw [membersHeight,memberNumbers,List.forall_mem_append]
    exact ⟨Nat.max_le.mpr ⟨within,beside⟩,back,others⟩
end

theorem value_textDraft_iff {j : Json} (legible : ∀ n ∈ j.numbers, n.Legible) (ordered : Ordered j) :
    (textDraft j).value depth = .ok j ↔ height j ≤ depth ∧ ∀ n ∈ j.numbers, n.ReadsBack := by
  refine ⟨of_value_textDraft j depth legible ordered,fun ⟨within,back⟩ => ?_⟩
  rw [textDraft_of_readsBack j back]
  exact value_toDraft j depth ordered within

end Letterpress.Json
