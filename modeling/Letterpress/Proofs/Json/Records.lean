import Letterpress.Json.Record
import Letterpress.Proofs.Json.Values

/-! What readers make of values. Each reader has a law of its own: which value it takes for which result, whenever it may go as
deep as the value is. The law of a record comes from those of its members, and a record checks nothing that it does not read. -/
namespace Letterpress.Json

variable {α β : Type} {reader : Reader α} {name key : String} {m : Manner} {j : Json} {x : α}
  {members : List (String × Json)}

/-- A value that a reader takes for `x`. -/
def Reads (reader : Reader α) (j : Json) (x : α) : Prop := ∀ m : Manner, j.height ≤ m.depth → reader m j.toDraft = .ok x

private theorem Manner.exists_enter (room : 0 < m.depth) : ∃ less : Manner, m.enter = .ok less ∧ m.depth = less.depth + 1 := by
  obtain ⟨fromText,depth⟩ := m
  cases depth with
  | zero => contradiction
  | succ depth => exact ⟨⟨fromText, depth⟩,rfl,rfl⟩

theorem Manner.depth_of_enter {less : Manner} (enters : m.enter = .ok less) : m.depth = less.depth + 1 := by
  obtain ⟨fromText,depth⟩ := m
  cases depth with
  | zero => contradiction
  | succ depth =>
    cases enters
    rfl

private theorem along_ok (step : Step) (x : α) : along step (.ok x) = .ok x := rfl

theorem along_eq_ok_iff {step : Step} {result : Except Misfit α} : along step result = .ok x ↔ result = .ok x :=
  ⟨eq_ok_of_mapError,fun same => by rw [same,along_ok]⟩

private theorem toDrafts_eq_map (items : List Json) : toDrafts items = items.map toDraft := by
  induction items with
  | nil => rfl
  | cons item items ih => rw [toDrafts,ih,List.map_cons]

private theorem memberDrafts_eq_map (members : List (String × Json)) :
    memberDrafts members = members.map fun member => (.ok member.1, member.2.toDraft) := by
  induction members with
  | nil => rfl
  | cons member members ih => rw [memberDrafts,ih,List.map_cons]

private theorem memberTextDrafts_eq_map (members : List (String × Json)) :
    memberTextDrafts members = members.map fun member => (.ok member.1, member.2.textDraft) := by
  induction members with
  | nil => rfl
  | cons member members ih => rw [memberTextDrafts,ih,List.map_cons]

private theorem height_le_of_mem_array {items : List Json} (member : j ∈ items) : j.height ≤ listHeight items := by
  induction items with
  | nil => contradiction
  | cons item items ih =>
    rw [listHeight]
    rcases List.mem_cons.mp member with rfl | later
    · exact le_max_left _ _
    · exact (ih later).trans (le_max_right _ _)

private theorem height_le_of_mem_object (among : (key, j) ∈ members) : j.height ≤ membersHeight members := by
  induction members with
  | nil => contradiction
  | cons first members ih =>
    rw [membersHeight]
    rcases List.mem_cons.mp among with rfl | later
    · exact le_max_left _ _
    · exact (ih later).trans (le_max_right _ _)

theorem reads_text (s : String) : Reads .text (.string s) s := fun _ _ => rfl

theorem reads_optional_text (s : String) : Reads (.optional .text) (.string s) (some s) := fun _ _ => rfl

theorem Reads.map {f : α → β} (reads : Reads reader j x) : Reads (Reader.map f reader) j (f x) := fun m within => by
  rw [Reader.map,reads m within]
  rfl

theorem reads_choice {choices : List (String × α)} (found : Keyed.lookup? name choices = some x) :
    Reads (.choice choices) (.string name) x := fun m _ => by
  change Reader.choose choices name = .ok x
  rw [Reader.choose,found]

theorem reads_list {xs : List α} {write : α → Json} (each : ∀ x ∈ xs, Reads reader (write x) x) :
    Reads (.list reader) (.array (xs.map write)) xs := by
  intro m within
  rw [height] at within
  obtain ⟨less,enters,depth⟩ := Manner.exists_enter (Nat.zero_lt_of_lt within)
  have items (index : Nat) : Reader.itemsFrom reader less index ((xs.map write).map toDraft) = .ok xs := by
    have room : ∀ x ∈ xs, (write x).height ≤ less.depth := fun x member =>
      (height_le_of_mem_array (List.mem_map_of_mem member)).trans (by omega)
    clear within
    induction xs generalizing index with
    | nil => rfl
    | cons x xs ih =>
      obtain ⟨first,others⟩ := List.forall_mem_cons.mp each
      obtain ⟨fits,beside⟩ := List.forall_mem_cons.mp room
      rw [List.map_cons,List.map_cons,Reader.itemsFrom,first less fits,along_ok,ok_bind,ih others (index + 1) beside]
      rfl
  rw [toDraft,toDrafts_eq_map,Reader.list,enters,ok_bind,items,ok_bind]
  rfl

theorem reads_table {pairs : List (String × α)} {write : α → Json} (ascending : Keyed.Ascending pairs)
    (each : ∀ pair ∈ pairs, Reads reader (write pair.2) pair.2) :
    Reads (.table reader) (.object (pairs.map fun pair => (pair.1, write pair.2))) pairs := by
  intro m within
  rw [height] at within
  obtain ⟨less,enters,depth⟩ := Manner.exists_enter (Nat.zero_lt_of_lt within)
  have values : Reader.membersOf reader less
      ((pairs.map fun pair => (pair.1, write pair.2)).map fun member => (.ok member.1, member.2.toDraft)) = .ok pairs := by
    have room : ∀ pair ∈ pairs, (write pair.2).height ≤ less.depth := fun pair member => by
      have below : (write pair.2).height ≤ membersHeight (pairs.map fun pair => (pair.1, write pair.2)) :=
        height_le_of_mem_object (List.mem_map_of_mem member)
      omega
    clear within ascending
    induction pairs with
    | nil => rfl
    | cons pair pairs ih =>
      obtain ⟨first,others⟩ := List.forall_mem_cons.mp each
      obtain ⟨fits,beside⟩ := List.forall_mem_cons.mp room
      rw [List.map_cons,List.map_cons,Reader.membersOf,first less fits,alongMember_ok,ok_bind,ih others beside]
      rfl
  rw [toDraft,memberDrafts_eq_map,Reader.table,enters,ok_bind,values,ok_bind]
  exact congrArg Except.ok ascending.ofList_eq

namespace Fields

/-- The members of a record that is taken for `x`, where all of them may be read. -/
def Takes (fields : Fields α) (members : List (String × Json)) (x : α) : Prop :=
  ∀ m : Manner, (∀ member ∈ members, member.2.height ≤ m.depth) →
    fields.ofMembers m (members.map fun member => (member.1, member.2.toDraft)) = .ok x

/-- Whatever the record reads of its members has been read before, when they were surveyed. -/
def Checked (fields : Fields α) : Prop :=
  ∀ m members x, fields.ofMembers m members = .ok x → ∀ known ∈ fields.known, ∀ d, Keyed.lookup? known.1 members = some d →
    known.2 m d = .ok ()

variable {f : α → β} {fields : Fields α} {functions : Fields (α → β)} {drafts : List (String × Draft)} {absent : α} {y : β}

theorem ofMembers_need : (need name reader).ofMembers m drafts = .ok x ↔
    ∃ d, Keyed.lookup? name drafts = some d ∧ reader m d = .ok x := by
  simp only [need]
  cases Keyed.lookup? name drafts with
  | none => simp [raise]
  | some d =>
    change along (.key name) (reader m d) = .ok x ↔ _
    simp [along_eq_ok_iff]

theorem ofMembers_withDefault : (withDefault name absent reader).ofMembers m drafts = .ok x ↔
    (Keyed.lookup? name drafts = none ∧ absent = x) ∨ ∃ d, Keyed.lookup? name drafts = some d ∧ reader m d = .ok x := by
  simp only [withDefault]
  cases Keyed.lookup? name drafts with
  | none => simp
  | some d =>
    change along (.key name) (reader m d) = .ok x ↔ _
    simp [along_eq_ok_iff]

theorem ofMembers_map : (f <$> fields).ofMembers m drafts = .ok y ↔ ∃ x, fields.ofMembers m drafts = .ok x ∧ f x = y := by
  change (fields.ofMembers m drafts).map f = .ok y ↔ _
  cases fields.ofMembers m drafts with
  | error misfit => simp [Except.map]
  | ok x => simp [Except.map]

theorem ofMembers_seq : (functions <*> fields).ofMembers m drafts = .ok y ↔
    ∃ f, functions.ofMembers m drafts = .ok f ∧ ∃ x, fields.ofMembers m drafts = .ok x ∧ f x = y := by
  change (functions.ofMembers m drafts >>= fun f => fields.ofMembers m drafts >>= fun x => .ok (f x)) = .ok y ↔ _
  constructor
  · intro read
    obtain ⟨f,function,read⟩ := exists_of_bind_ok read
    obtain ⟨x,value,same⟩ := exists_of_bind_ok read
    exact ⟨f,function,x,value,Except.ok.inj same⟩
  · rintro ⟨f,function,x,value,rfl⟩
    rw [function,ok_bind,value,ok_bind]

theorem takes_need (found : Keyed.lookup? name members = some j) (reads : Reads reader j x) :
    (need name reader).Takes members x := fun m room =>
  ofMembers_need.mpr ⟨j.toDraft,by rw [Keyed.lookup?_map,found]; rfl,reads m (room _ (Keyed.mem_of_lookup? found))⟩

theorem takes_withDefault (found : Keyed.lookup? name members = some j) (reads : Reads reader j x) :
    (withDefault name absent reader).Takes members x := fun m room =>
  ofMembers_withDefault.mpr (.inr ⟨j.toDraft,by rw [Keyed.lookup?_map,found]; rfl,reads m (room _ (Keyed.mem_of_lookup? found))⟩)

theorem takes_absent (absent : Keyed.lookup? name members = none) : (withDefault name x reader).Takes members x := fun m _ =>
  ofMembers_withDefault.mpr (.inl ⟨by rw [Keyed.lookup?_map,absent]; rfl,rfl⟩)

theorem Takes.map (takes : fields.Takes members x) : (f <$> fields).Takes members (f x) := fun m room =>
  ofMembers_map.mpr ⟨x,takes m room,rfl⟩

theorem Takes.seq {f : α → β} (first : functions.Takes members f) (second : fields.Takes members x) :
    (functions <*> fields).Takes members (f x) := fun m room =>
  ofMembers_seq.mpr ⟨f,first m room,x,second m room,rfl⟩

theorem checked_need : (need name reader).Checked := by
  intro m members x read known listed d found
  obtain rfl := List.mem_singleton.mp listed
  obtain ⟨_,same,value⟩ := ofMembers_need.mp read
  cases found.symm.trans same
  change (reader m d).map _ = _
  rw [value]
  rfl

theorem checked_withDefault : (withDefault name absent reader).Checked := by
  intro m members x read known listed d found
  obtain rfl := List.mem_singleton.mp listed
  rcases ofMembers_withDefault.mp read with ⟨absent,_⟩ | ⟨_,same,value⟩
  · exact nomatch absent.symm.trans found
  · cases found.symm.trans same
    change (reader m d).map _ = _
    rw [value]
    rfl

theorem Checked.map (checked : fields.Checked) : (f <$> fields).Checked := by
  intro m members y read
  obtain ⟨x,value,_⟩ := ofMembers_map.mp read
  exact checked m members x value

theorem Checked.seq (first : functions.Checked) (second : fields.Checked) : (functions <*> fields).Checked := by
  intro m members y read known listed
  obtain ⟨f,function,x,value,_⟩ := ofMembers_seq.mp read
  rcases List.mem_append.mp listed with sooner | later
  · exact first m members f function known sooner
  · exact second m members x value known later

end Fields

section
variable {known : List (String × Reader Unit)} {other : Reader β} {seen drafts : List (String × Draft)} {fields : Fields α}
  {less : Manner}

/-- Members that are known and come once are all that is seen, in their order. -/
theorem survey_eq_ok (checks : ∀ draft ∈ drafts, ∃ check, Keyed.lookup? draft.1 known = some check ∧ check m draft.2 = .ok ())
    (distinct : ((seen ++ drafts).map (·.1)).Nodup) :
    survey known other m seen (drafts.map fun draft => (.ok draft.1, draft.2)) = .ok (seen ++ drafts, []) := by
  induction drafts generalizing seen with
  | nil => rw [List.map_nil,survey,List.append_nil]
  | cons draft drafts ih =>
    obtain ⟨⟨check,found,passes⟩,others⟩ := List.forall_mem_cons.mp checks
    rw [List.append_cons] at distinct
    have single : draft.1 ∉ seen.map (·.1) := by
      rw [List.map_append,List.map_append] at distinct
      exact fun twice => (List.nodup_append.mp (List.nodup_append.mp distinct).1).2.2 _ twice _ (by simp) rfl
    have fresh : ¬(Keyed.lookup? draft.1 seen).isSome = true := by rwa [← Keyed.mem_keys_iff]
    rw [List.map_cons,survey,found]
    dsimp only
    rw [if_neg fresh,passes,alongMember_ok,ok_bind,ih others distinct,List.append_assoc,List.singleton_append]

private theorem eq_of_survey_ok (all : ∀ draft ∈ drafts, (Keyed.lookup? draft.1 known).isSome = true)
    {result : List (String × Draft) × List (String × β)}
    (surveyed : survey known other m seen (drafts.map fun draft => (.ok draft.1, draft.2)) = .ok result) :
    result = (seen ++ drafts, []) := by
  induction drafts generalizing seen with
  | nil =>
    rw [List.map_nil,survey] at surveyed
    cases surveyed
    rw [List.append_nil]
  | cons draft drafts ih =>
    obtain ⟨isKnown,others⟩ := List.forall_mem_cons.mp all
    obtain ⟨check,found⟩ := Option.isSome_iff_exists.mp isKnown
    rw [List.map_cons,survey,found] at surveyed
    dsimp only at surveyed
    split at surveyed
    · contradiction
    · obtain ⟨_,-,later⟩ := exists_of_bind_ok surveyed
      rw [ih others later,List.append_assoc,List.singleton_append]

/-- An object that has none but members of the record, each of them once, is read as its members are. -/
theorem record_object_iff (checked : fields.Checked) (all : ∀ key ∈ drafts.map (·.1), key ∈ fields.known.map (·.1))
    (distinct : (drafts.map (·.1)).Nodup) (enters : m.enter = .ok less) :
    Reader.record name fields m (.object (drafts.map fun draft => (.ok draft.1, draft.2)) none) = .ok x ↔
      fields.ofMembers less drafts = .ok x := by
  have listed : ∀ draft ∈ drafts, (Keyed.lookup? draft.1 fields.known).isSome = true := fun draft member =>
    (Keyed.mem_keys_iff _ _).mp (all _ (List.mem_map_of_mem member))
  rw [Reader.record,enters,ok_bind,surveyAll]
  constructor
  · intro read
    obtain ⟨_,surveyed,read⟩ := exists_of_bind_ok read
    obtain ⟨_,surveyed,same⟩ := exists_of_bind_ok surveyed
    cases same
    cases eq_of_survey_ok listed surveyed
    exact read
  · intro read
    have checks : ∀ draft ∈ drafts, ∃ check, Keyed.lookup? draft.1 fields.known = some check ∧ check less draft.2 = .ok () :=
      fun draft member => by
        obtain ⟨check,found⟩ := Option.isSome_iff_exists.mp (listed draft member)
        exact ⟨check,found,checked less drafts x read _ (Keyed.mem_of_lookup? found) draft.2
          ((Keyed.lookup?_eq_some_iff distinct).mpr member)⟩
    have surveyed : survey fields.known Reader.ignored less [] (drafts.map fun draft => (.ok draft.1, draft.2)) =
        .ok (drafts, []) := survey_eq_ok checks distinct
    rw [surveyed,ok_bind]
    exact read

private theorem reads_record (checked : fields.Checked) (all : ∀ key ∈ members.map (·.1), key ∈ fields.known.map (·.1))
    (distinct : (members.map (·.1)).Nodup) (takes : fields.Takes members x) :
    Reads (.record name fields) (.object members) x := by
  intro m within
  rw [height] at within
  obtain ⟨less,enters,depth⟩ := Manner.exists_enter (Nat.zero_lt_of_lt within)
  have keys : (members.map fun member => (member.1, member.2.toDraft)).map (·.1) = members.map (·.1) := by simp
  have spelled : memberDrafts members =
      (members.map fun member => (member.1, member.2.toDraft)).map fun draft => (.ok draft.1, draft.2) := by
    rw [memberDrafts_eq_map,List.map_map]
    rfl
  rw [toDraft,spelled,record_object_iff checked (by rwa [keys]) (by rwa [keys]) enters]
  refine takes less fun member among => ?_
  have below := height_le_of_mem_object among
  omega

/-- The law of a record for an object whose members are put in order. -/
theorem reads_mk {pairs : List (String × Json)} (checked : fields.Checked)
    (all : ∀ key ∈ pairs.map (·.1), key ∈ fields.known.map (·.1)) (takes : fields.Takes (Keyed.ofList pairs) x) :
    Reads (.record name fields) (.mk pairs) x :=
  reads_record checked (fun key member => all key ((Keyed.mem_keys_ofList key pairs).mp member))
    (Keyed.ascending_ofList pairs).nodup takes

/-- What is read from the text of such an object is read from the texts of its members. -/
theorem ofMembers_of_textDraft {pairs : List (String × Json)} (checked : fields.Checked)
    (all : ∀ key ∈ pairs.map (·.1), key ∈ fields.known.map (·.1))
    (read : Reader.record name fields m (textDraft (.mk pairs)) = .ok x) :
    ∃ less : Manner, m.depth = less.depth + 1 ∧
      fields.ofMembers less ((Keyed.ofList pairs).map fun (key, value) => (key, textDraft value)) = .ok x := by
  obtain ⟨less,enters,-⟩ := exists_of_bind_ok read
  have keys : ((Keyed.ofList pairs).map fun (key, value) => (key, textDraft value)).map (·.1) = (Keyed.ofList pairs).map (·.1) := by
    rw [List.map_map]
    rfl
  have spelled : memberTextDrafts (Keyed.ofList pairs) = ((Keyed.ofList pairs).map fun (key, value) => (key, textDraft value)).map
      fun draft => (.ok draft.1, draft.2) := by
    rw [memberTextDrafts_eq_map,List.map_map]
    rfl
  rw [mk,textDraft,spelled] at read
  refine ⟨less,Manner.depth_of_enter enters,(record_object_iff checked (fun key member => ?_) ?_ enters).mp read⟩
  · rw [keys] at member
    exact all key ((Keyed.mem_keys_ofList key pairs).mp member)
  · rw [keys]
    exact (Keyed.ascending_ofList pairs).nodup

end

end Letterpress.Json
