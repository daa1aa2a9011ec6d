import Letterpress.Proofs.Context
import Letterpress.Proofs.Json.Reading
import Letterpress.Proofs.Json.Records
import Letterpress.Request.Form
import Letterpress.Template.Form

/-! Templates, supplies, recipients and requests are read back from the text that they are written as. Of a request this is so if
the attributes of its user lie no deeper than a reader goes and the doubles among them are read exactly; where one of them is
not, the request is not read back either. A request that has been read is in order and not too deep, whatever text it came from. -/
namespace Letterpress
open Json (Draft Held Manner Number Ordered Reader Reads greatestDepth held_array held_mk held_object reads_choice reads_list
  reads_mk reads_optional_text reads_table reads_text)
open Json.Fields (Takes checked_need checked_withDefault gives_need gives_withDefault ofMembers_map ofMembers_seq
  ofMembers_withDefault takes_absent takes_need takes_withDefault withDefault)

variable {key : String} {members : List (String × Json)}

private theorem reads_texts (texts : List String) : Reads (.list .text) (.array (texts.map .string)) texts :=
  reads_list fun s _ => reads_text s

/-- A text that is left out where there is none. -/
theorem takes_optional_text {text : Option String} (found : Keyed.lookup? key members = text.map .string) :
    (withDefault key none (.optional .text)).Takes members text := by
  cases text with
  | none => exact takes_absent found
  | some s => exact takes_withDefault found (reads_optional_text s)

/-- Texts that are left out where there are none. -/
theorem takes_texts {texts : List String}
    (found : Keyed.lookup? key members = if texts.isEmpty then none else some (.array (texts.map .string))) :
    (withDefault key [] (.list .text)).Takes members texts := by
  cases texts with
  | nil => exact takes_absent found
  | cons s texts => exact takes_withDefault found (reads_texts (s :: texts))

namespace Injection

private theorem Kind.reads_name (kind : Kind) : Reads Kind.reader (.string kind.name) kind := by
  cases kind <;> exact reads_choice (by simp [Kind.name,Keyed.lookup?])

private theorem reads_toJson (i : Injection) : Reads reader i.toJson i := by
  obtain ⟨name,label,kind,options⟩ := i
  refine reads_mk (((checked_need.map.seq checked_need).seq checked_need).seq checked_withDefault) ?_
    ((((takes_need ?_ (reads_text name)).map.seq (takes_need ?_ (reads_text label))).seq
      (takes_need ?_ kind.reads_name)).seq (takes_texts ?_))
  · change ∀ key ∈ _, key ∈ ["name","displayName","type","options"]
    cases options <;> simp
  all_goals
    rw [Keyed.lookup?_ofList]
    cases options <;> simp [Keyed.lookup?]

end Injection

private theorem Supply.reads_toJson (s : Supply) : Reads reader s.toJson s := by
  obtain ⟨name,label,kind,options,data⟩ := s
  refine reads_mk ((((checked_need.map.seq checked_withDefault).seq checked_need).seq checked_withDefault).seq
    checked_withDefault) ?_ (((((takes_need ?_ (reads_text name)).map.seq (takes_optional_text ?_)).seq
      (takes_need ?_ kind.reads_name)).seq (takes_withDefault ?_ (reads_texts options))).seq
      (takes_withDefault ?_ (reads_text data)))
  · change ∀ key ∈ _, key ∈ ["name","displayName","type","options","data"]
    cases label <;> simp
  all_goals
    rw [Keyed.lookup?_ofList]
    cases label <;> simp [Keyed.lookup?]

private theorem Template.reads_toJson (t : Template) : Reads reader t.toJson t := by
  obtain ⟨id,name,source,description,injections⟩ := t
  refine reads_mk ((((checked_need.map.seq checked_need).seq checked_need).seq checked_withDefault).seq
    checked_withDefault) ?_ (((((takes_need ?_ (reads_text id)).map.seq (takes_need ?_ (reads_text name))).seq
      (takes_need ?_ (reads_text source))).seq (takes_optional_text ?_)).seq
      (takes_withDefault ?_ (reads_list fun i _ => i.reads_toJson)))
  · change ∀ key ∈ _, key ∈ ["id","name","source","description","injections"]
    cases description <;> simp
  all_goals
    rw [Keyed.lookup?_ofList]
    cases description <;> simp [Keyed.lookup?]

namespace Recipient

private theorem ordered_toJson (r : Recipient) : Ordered r.toJson := by
  rw [toJson_eq]
  obtain ⟨email,name⟩ := r
  cases name with
  | none => exact ⟨List.pairwise_singleton _ _,trivial,trivial⟩
  | some name =>
    have before : "email" < "name" := by decide
    exact ⟨List.pairwise_pair.mpr before,trivial,trivial,trivial⟩

/-- A recipient is written as an object, with or without a name, and never as an address. -/
theorem reads_toJson (r : Recipient) : Reads reader r.toJson r := by
  intro m within
  have value : Reader.anything m r.toJson.toDraft = .ok r.toJson := Json.value_toDraft _ _ r.ordered_toJson within
  have found : ofDraft? r.toJson.toDraft = some r := by
    obtain ⟨email,name⟩ := r
    rw [toJson_eq]
    cases name <;> simp [Json.toDraft,Json.memberDrafts,ofDraft?,membersNamed]
  rw [reader,value,ok_bind,found]
  rfl

end Recipient

private theorem reads_anything {j : Json} (ordered : Ordered j) : Reads .anything j j := fun m within =>
  Json.value_toDraft j m.depth ordered within

private theorem ordered_of_mem {members : List (String × Json)} (ordered : Json.MembersOrdered members) :
    ∀ member ∈ members, Ordered member.2 := by
  induction members with
  | nil => exact List.forall_mem_nil _
  | cons member members ih => exact List.forall_mem_cons.mpr ⟨ordered.1,ih ordered.2⟩

private theorem User.reads_object {attributes : List (String × Json)} (ordered : Ordered (.object attributes)) :
    Reads reader (.object attributes) ⟨attributes⟩ := by
  obtain ⟨ascending,inside⟩ := ordered
  have table : Reads (.table .anything) (.object (attributes.map fun pair => (pair.1, id pair.2))) attributes :=
    reads_table ascending fun pair member => reads_anything (ordered_of_mem inside pair member)
  rw [List.map_id'' (by simp)] at table
  exact table.map

namespace Json
variable {α : Type} {reader : Reader α} {P : Number → Prop} {depth more : Nat} {j : Json} {x : α}

private theorem Held.deeper (held : Held P depth j) (deeper : depth ≤ more) : Held P more j :=
  ⟨held.ordered,held.within.trans deeper,held.numbers⟩

private theorem Held.readsBack (held : Held Number.Proper depth j)
    (floats : ∀ x, .float x ∈ j.numbers → (Number.float x).ReadsBack) : Held Number.ReadsBack depth j :=
  ⟨held.ordered,held.within,fun n among => (held.numbers n among).readsBack fun x same => by
    subst same
    exact floats x among⟩

private theorem held_string (s : String) : Held P depth (.string s) := ⟨trivial,Nat.zero_le depth,List.forall_mem_nil _⟩

private theorem held_texts (texts : List String) : Held P (depth + 1) (.array (texts.map .string)) :=
  held_array (List.forall_mem_map.mpr fun s _ => held_string s)

/-- A value is read back from its text if every number in it is. -/
theorem ofText_of_reads (reads : Reads reader j x) (held : Held Number.ReadsBack greatestDepth j) :
    Reader.ofText reader j.text = .ok x := by
  rw [Reader.ofText,ofText_text j fun n among => (held.numbers n among).legible,textDraft_of_readsBack j held.numbers]
  change (reader .text j.toDraft >>= fun x => .ok x) = _
  rw [reads .text held.within]
  rfl

end Json

open Json (held_string held_texts)

variable {P : Number → Prop} {depth : Nat}

private theorem Injection.held_toJson (i : Injection) : Held P 2 i.toJson := by
  obtain ⟨name,label,kind,options⟩ := i
  refine held_mk ?_
  cases options with
  | nil => simp [held_string]
  | cons option others => simpa [held_string] using held_texts (option :: others)

private theorem Supply.held_toJson (s : Supply) : Held P 2 s.toJson := by
  obtain ⟨name,label,kind,options,data⟩ := s
  refine held_mk ?_
  cases label <;> simp [held_string,held_texts]

private theorem Template.held_toJson (t : Template) : Held P 4 t.toJson := by
  obtain ⟨id,name,source,description,injections⟩ := t
  have listed : Held P 3 (.array (injections.map Injection.toJson)) :=
    held_array (List.forall_mem_map.mpr fun i _ => i.held_toJson)
  refine held_mk ?_
  cases description <;> simp [held_string,listed]

private theorem Recipient.held_toJson (r : Recipient) : Held P 1 r.toJson := by
  obtain ⟨email,name⟩ := r
  refine held_mk ?_
  cases name <;> simp [held_string]

namespace RenderRequest
variable {r : RenderRequest} {m : Manner} {d : Draft}

private theorem reads_toJson (r : RenderRequest) (fields : Keyed.Ascending r.fields)
    (user : Ordered (.object r.user.attributes)) : Reads reader r.toJson r := by
  obtain ⟨id,supplies,values,attributes,recipients⟩ := r
  refine reads_mk ((((checked_need.map.seq checked_withDefault).seq checked_withDefault).seq checked_withDefault).seq
    checked_withDefault) ?_ (((((takes_need ?_ (reads_text id)).map.seq
      (takes_withDefault ?_ (reads_list fun s _ => s.reads_toJson))).seq
      (takes_withDefault ?_ (reads_table fields fun pair _ => reads_text pair.2))).seq
      (takes_withDefault ?_ (User.reads_object user))).seq
      (takes_withDefault ?_ (reads_list fun r _ => r.reads_toJson)))
  · change ∀ key ∈ _, key ∈ ["templateId","injections","fields","currentUser","recipients"]
    simp
  all_goals
    rw [Keyed.lookup?_ofList]
    simp [Keyed.lookup?]

private theorem held_fields (fields : Keyed.Ascending r.fields) :
    Held P 1 (.object (r.fields.map fun (key, value) => (key, .string value))) := by
  refine held_object ?_ (List.forall_mem_map.mpr fun pair _ => held_string pair.2)
  rw [Keyed.Ascending,List.map_map]
  exact fields

private theorem held_toJson (room : 3 ≤ depth) (fields : Keyed.Ascending r.fields)
    (user : Held P depth (.object r.user.attributes)) : Held P (depth + 1) r.toJson := by
  have supplies : Held P 3 (.array (r.supplies.map Supply.toJson)) :=
    held_array (List.forall_mem_map.mpr fun s _ => s.held_toJson)
  have recipients : Held P 2 (.array (r.recipients.map Recipient.toJson)) :=
    held_array (List.forall_mem_map.mpr fun r _ => r.held_toJson)
  refine held_mk ?_
  simp [held_string,supplies.deeper room,(held_fields fields).deeper (Nat.le_of_lt (Nat.lt_of_lt_of_le (by decide) room)),user,
    recipients.deeper (Nat.le_of_succ_le room)]

private theorem value_of_user {user : User} (read : User.reader m d = .ok user) :
    d.value m.depth = .ok (.object user.attributes) := by
  change (Reader.table .anything m d).map User.mk = _ at read
  cases table : Reader.table .anything m d with
  | error misfit =>
    rw [table] at read
    contradiction
  | ok attributes =>
    rw [table] at read
    cases read
    exact Json.value_of_table table

/-- A request that has been read has its fields in order, and what is in its user comes of what was read. -/
theorem exists_of_read (read : reader m d = .ok r) (throughout : d.Throughout P) (room : 2 ≤ m.depth) :
    ∃ less, m.depth = less + 1 ∧ Keyed.Ascending r.fields ∧ Held P less (.object r.user.attributes) := by
  obtain ⟨less,depth,gives⟩ := Json.exists_of_record read throughout
  obtain ⟨_,⟨_,⟨_,⟨_,⟨id,_,rfl⟩,supplies,_,rfl⟩,fields,tabled,rfl⟩,user,used,rfl⟩,recipients,_,rfl⟩ :=
    gives _ ((((gives_need.map.seq gives_withDefault).seq gives_withDefault).seq gives_withDefault).seq gives_withDefault)
  refine ⟨less.depth,depth,?_,?_⟩
  · rcases tabled with rfl | ⟨_,_,tabled⟩
    · exact Keyed.ascending_nil
    · exact Json.ascending_of_table tabled
  · rcases used with rfl | ⟨d,throughout,used⟩
    · have bare : Held P 1 (.object []) := held_object Keyed.ascending_nil (List.forall_mem_nil _)
      exact bare.deeper (by omega)
    · exact Json.held_value d less.depth _ throughout (value_of_user used)

/-- A request that has been read is read again from the value that it is written as. -/
theorem reads_of_read (read : reader m d = .ok r) (room : 4 ≤ m.depth) : reader m r.toJson.toDraft = .ok r := by
  have throughout : d.Throughout fun _ => True := Json.throughout_of_forall (fun _ => trivial) d
  obtain ⟨less,depth,fields,user⟩ := exists_of_read read throughout (by omega)
  refine r.reads_toJson fields user.ordered m ?_
  rw [depth]
  exact (held_toJson (by omega) fields user).within

/-- The maps of a request are in order, and the numbers of its user are such as there are. -/
structure WellFormed (r : RenderRequest) : Prop where
  fields : Keyed.Ascending r.fields
  user : Ordered (.object r.user.attributes)
  numbers : ∀ n ∈ (Json.object r.user.attributes).numbers, n.Proper

private theorem get?_toJson (r : RenderRequest) : r.toJson.get? "currentUser" = some (.object r.user.attributes) := by
  rw [toJson,Json.mk,Json.get?,Keyed.lookup?_ofList]
  simp [Keyed.lookup?]

/-- From its own text, a request is read only if its user is. -/
theorem user_of_ofText (numbers : ∀ n ∈ r.toJson.numbers, n.Legible) (read : Reader.ofText reader r.toJson.text = .ok r) :
    ∃ less : Manner, greatestDepth = less.depth + 1 ∧
      User.reader less (Json.textDraft (.object r.user.attributes)) = .ok r.user := by
  have read := Json.eq_of_ofText read
  rw [Json.ofText_text _ numbers] at read
  obtain ⟨less,depth,parts⟩ := Json.ofMembers_of_textDraft ((((checked_need.map.seq checked_withDefault).seq
    checked_withDefault).seq checked_withDefault).seq checked_withDefault) (by
      change ∀ key ∈ _, key ∈ ["templateId","injections","fields","currentUser","recipients"]
      simp) read
  simp only [ofMembers_seq,ofMembers_map] at parts
  obtain ⟨_,⟨_,⟨_,⟨_,⟨id,-,rfl⟩,supplies,-,rfl⟩,fields,-,rfl⟩,user,used,rfl⟩,recipients,-,same⟩ := parts
  obtain rfl : user = r.user := congrArg RenderRequest.user same
  have found := (Keyed.lookup?_map "currentUser" Json.textDraft _).trans (congrArg (Option.map Json.textDraft) r.get?_toJson)
  rcases ofMembers_withDefault.mp used with ⟨absent,-⟩ | ⟨_,present,used⟩
  · cases absent.symm.trans found
  · cases found.symm.trans present
    exact ⟨less,depth,used⟩

private theorem ofText_toJson_iff (wellFormed : r.WellFormed) : Reader.ofText reader r.toJson.text = .ok r ↔
    (Json.object r.user.attributes).height < greatestDepth ∧
      ∀ x, .float x ∈ (Json.object r.user.attributes).numbers → (Number.float x).ReadsBack := by
  obtain ⟨fields,ordered,numbers⟩ := wellFormed
  constructor
  · intro read
    have proper : Held Number.Proper (max 3 (Json.object r.user.attributes).height) (.object r.user.attributes) :=
      ⟨ordered,le_max_right _ _,numbers⟩
    have legible : ∀ n ∈ r.toJson.numbers, n.Legible := fun n among =>
      ((held_toJson (le_max_left _ _) fields proper).numbers n among).legible
    obtain ⟨less,depth,used⟩ := user_of_ofText legible read
    obtain ⟨within,back⟩ := (Json.value_textDraft_iff (fun n among => (numbers n among).legible) ordered).mp
      (value_of_user used)
    exact ⟨by omega,fun x => back (.float x)⟩
  · rintro ⟨within,back⟩
    have held : Held Number.Proper 126 (.object r.user.attributes) :=
      ⟨ordered,Nat.le_of_lt_succ within,numbers⟩
    exact Json.ofText_of_reads (r.reads_toJson fields ordered) (held_toJson (by decide) fields (held.readsBack back))

/-- Whatever text a request comes from, it is in order, not too deep, and has none but proper numbers. -/
theorem wellFormed_of_ofText {text : String} (read : Reader.ofText reader text = .ok r) :
    r.WellFormed ∧ (Json.object r.user.attributes).height < greatestDepth := by
  obtain ⟨less,depth,fields,user⟩ := exists_of_read (Json.eq_of_ofText read) (Json.throughout_ofText text.toList) (by decide)
  cases depth
  exact ⟨⟨fields,user.ordered,user.numbers⟩,Nat.lt_succ_of_le user.within⟩

end RenderRequest

/-- Whatever is written is read back as a value. It is read back as a text, too, but for a request whose user lies deeper than a
reader goes or has a double that is not read back from its own text. What has been read before is in order and not too deep. -/
theorem wire_forms_are_read_back :
    (∀ t : Template, Reads Template.reader t.toJson t ∧ Reader.ofText Template.reader t.toJson.text = .ok t) ∧
      (∀ s : Supply, Reads Supply.reader s.toJson s ∧ Reader.ofText Supply.reader s.toJson.text = .ok s) ∧
      (∀ r : Recipient, Reads Recipient.reader r.toJson r ∧ Reader.ofText Recipient.reader r.toJson.text = .ok r) ∧
      (∀ r : RenderRequest, r.WellFormed → Reads RenderRequest.reader r.toJson r ∧
        (Reader.ofText RenderRequest.reader r.toJson.text = .ok r ↔
          (Json.object r.user.attributes).height < greatestDepth ∧
            ∀ x, .float x ∈ (Json.object r.user.attributes).numbers → (Number.float x).ReadsBack)) ∧
      (∀ (m : Manner) (d : Draft) (r : RenderRequest), 4 ≤ m.depth → RenderRequest.reader m d = .ok r →
        RenderRequest.reader m r.toJson.toDraft = .ok r) ∧
      ∀ (text : String) (r : RenderRequest), Reader.ofText RenderRequest.reader text = .ok r →
        r.WellFormed ∧ (Json.object r.user.attributes).height < greatestDepth ∧
          (Reader.ofText RenderRequest.reader r.toJson.text = .ok r ↔
            ∀ x, .float x ∈ (Json.object r.user.attributes).numbers → (Number.float x).ReadsBack) := by
  refine ⟨fun t => ?_,fun s => ?_,fun r => ?_,fun r wellFormed => ?_,fun m d r room read => ?_,fun text r read => ?_⟩
  · exact ⟨t.reads_toJson,Json.ofText_of_reads t.reads_toJson (t.held_toJson.deeper (by decide))⟩
  · exact ⟨s.reads_toJson,Json.ofText_of_reads s.reads_toJson (s.held_toJson.deeper (by decide))⟩
  · exact ⟨r.reads_toJson,Json.ofText_of_reads r.reads_toJson (r.held_toJson.deeper (by decide))⟩
  · exact ⟨r.reads_toJson wellFormed.fields wellFormed.user,RenderRequest.ofText_toJson_iff wellFormed⟩
  · exact RenderRequest.reads_of_read read room
  · obtain ⟨wellFormed,shallow⟩ := RenderRequest.wellFormed_of_ofText read
    rw [RenderRequest.ofText_toJson_iff wellFormed]
    exact ⟨wellFormed,shallow,fun both => both.2,fun back => ⟨shallow,back⟩⟩

/-- A request by a user with a whole number, and a double that is read back. -/
def plainRequest : RenderRequest :=
  ⟨"welcome",[⟨"note", some "Note", .text, [], "Bring a coat"⟩],[("city", "Graz"), ("day", "Monday")],
    ⟨[("name", .string "Ada"), ("ranks", .array [.number (.int 3), .number (.float 0.5), .null])]⟩,
    [⟨"ada@example.org", none⟩, ⟨"bea@example.org", some "Bea"⟩]⟩

theorem plainRequest_is_read_back :
    plainRequest.WellFormed ∧ Reader.ofText RenderRequest.reader plainRequest.toJson.text = .ok plainRequest ∧
      4 ≤ Manner.value.depth ∧ RenderRequest.reader .value plainRequest.toJson.toDraft = .ok plainRequest := by
  have all : (Json.object plainRequest.user.attributes).numbers = [.int 3,.float 0.5] := rfl
  have name : "name" < "ranks" := by decide
  have city : "city" < "day" := by decide
  have wellFormed : plainRequest.WellFormed := {
    fields := List.pairwise_pair.mpr city
    user := ⟨List.pairwise_pair.mpr name,trivial,⟨trivial,trivial,trivial,trivial⟩,trivial⟩
    numbers := by
      rw [all]
      exact List.forall_mem_cons.mpr ⟨⟨by decide,by decide⟩,List.forall_mem_singleton.mpr rfl⟩ }
  have back : ∀ x, .float x ∈ (Json.object plainRequest.user.attributes).numbers → (Number.float x).ReadsBack := by
    intro x among
    rw [all] at among
    rcases List.mem_cons.mp among with contrary | last
    · contradiction
    · cases List.mem_singleton.mp last
      rfl
  obtain ⟨-,-,-,requests,drafts,texts⟩ := wire_forms_are_read_back
  obtain ⟨reads,text⟩ := requests plainRequest wellFormed
  have read := text.mpr ⟨by decide,back⟩
  exact ⟨wellFormed,(texts _ _ read).2.2.mpr back,by decide,drafts .value _ _ (by decide) (reads .value (by decide))⟩

/-- The double nearest to this is written with one digit, from which its neighbour is read. -/
theorem not_readsBack_light : ¬(Number.float 1e-23).ReadsBack := by
  intro back
  have neighbour : Json.ofText (Number.float 1e-23).text = .ok (.number (.float 1.0000000000000001e-23)) := rfl
  have same : (1e-23 : Float) = 1.0000000000000001e-23 :=
    Number.float.inj (Json.number.inj (Except.ok.inj (back.symm.trans neighbour)))
  exact absurd same (by decide +kernel)

def nested : Nat → Json
  | 0 => .null
  | n + 1 => .array [nested n]

private theorem held_nested (n : Nat) : Held P n (nested n) := by
  induction n with
  | zero => exact ⟨trivial,Nat.le_refl 0,List.forall_mem_nil _⟩
  | succ n ih => exact held_array (List.forall_mem_singleton.mpr ih)

private theorem height_nested (n : Nat) : (nested n).height = n := by
  induction n with
  | zero => rfl
  | succ n ih => rw [nested,Json.height,Json.listHeight,Json.listHeight,ih,Nat.max_zero]

/-- A request that is all but empty, by a user with one attribute. -/
def requestBy (value : Json) : RenderRequest := ⟨"t",[],[],⟨[("n", value)]⟩,[]⟩

private theorem wellFormed_requestBy {value : Json} (held : Held Number.Proper depth value) : (requestBy value).WellFormed where
  fields := Keyed.ascending_nil
  user := ⟨List.pairwise_singleton _ _,held.ordered,trivial⟩
  numbers := by
    have single : Keyed.Ascending [("n", value)] := List.pairwise_singleton _ _
    exact (held_object single (List.forall_mem_singleton.mpr held)).numbers

/-- A request is not read back if its user has a double that is not, and neither if its user lies too deep. -/
theorem requests_not_read_back :
    ((requestBy (.number (.float 1e-23))).WellFormed ∧
      Reader.ofText RenderRequest.reader (requestBy (.number (.float 1e-23))).toJson.text ≠
        .ok (requestBy (.number (.float 1e-23)))) ∧
      (requestBy (nested 126)).WellFormed ∧
        Reader.ofText RenderRequest.reader (requestBy (nested 126)).toJson.text ≠ .ok (requestBy (nested 126)) := by
  have light : (requestBy (.number (.float 1e-23))).WellFormed :=
    wellFormed_requestBy ⟨trivial,Nat.le_refl 0,List.forall_mem_singleton.mpr rfl⟩
  have deep : (requestBy (nested 126)).WellFormed := wellFormed_requestBy (held_nested 126)
  refine ⟨⟨light,fun read => ?_⟩,deep,fun read => ?_⟩
  · exact not_readsBack_light (((RenderRequest.ofText_toJson_iff light).mp read).2 1e-23 List.mem_cons_self)
  · have shallow := ((RenderRequest.ofText_toJson_iff deep).mp read).1
    change max (nested 126).height 0 + 1 < 127 at shallow
    rw [height_nested] at shallow
    exact absurd shallow (by decide)

end Letterpress
