import Letterpress.Request.Context
import Letterpress.Proofs.Keyed

/-! Which source of a request a key is answered from when several of them have it, and how many keys there are in all. -/
namespace Letterpress

variable {α β : Type}

/-- Among pairs made of items, the first item of a name is the one that is found. -/
theorem Keyed.lookup?_named (key : String) (name : α → String) (f : α → β) (xs : List α) :
    lookup? key (xs.map fun x => (name x, f x)) = (xs.find? (name · == key)).map f := by
  induction xs with
  | nil => rfl
  | cons x rest ih =>
    by_cases same : key = name x
    · simp [lookup?,same]
    · simp [lookup?,same,Ne.symm same,ih]

theorem Recipient.toJson_eq (r : Recipient) :
    r.toJson = .object (("email", .string r.email) :: (r.name.map fun name => ("name", .string name)).toList) := by
  obtain ⟨email,name⟩ := r
  cases name <;> rfl

private theorem keys_contextEntries (supplies : List Supply) (user : User) (fields : List (String × String))
    (recipients : List Recipient) : (contextEntries supplies user fields recipients).map (·.1) =
      recipientsKey :: (supplies.map (·.name) ++ user.attributes.map (·.1) ++ fields.map (·.1)) := by
  simp [contextEntries,Function.comp_def]

/-- A key is answered by the form field of that name, or else by the attribute of the user, or else by the last value supplied
under it. The recipients answer to their own key if nothing else does, each as an object in which a name stands only if there
is one. Attributes and fields come from maps, so that no key comes twice in them. -/
theorem later_sources_win (supplies : List Supply) (user : User) (fields : List (String × String))
    (recipients : List Recipient) (single : (user.attributes.map (·.1)).Nodup) (distinct : (fields.map (·.1)).Nodup) :
    (∀ key, Keyed.lookup? key (mergeContext supplies user fields recipients) =
      ((Keyed.lookup? key fields).map .string).or
        ((Keyed.lookup? key user.attributes).or
          (((supplies.filter (·.name == key)).getLast?.map fun s => .string s.data).or
            (if key = recipientsKey then some (.array (recipients.map fun r =>
              .object (("email", .string r.email) :: (r.name.map fun name => ("name", .string name)).toList)))
            else none)))) ∧
    (mergeContext supplies user fields recipients).length =
      (recipientsKey :: (supplies.map (·.name) ++ user.attributes.map (·.1) ++ fields.map (·.1))).dedup.length := by
  constructor
  · intro key
    have supplied : Keyed.lookup? key (supplies.map fun s => (s.name, Json.string s.data)).reverse =
        (supplies.filter (·.name == key)).getLast?.map fun s => .string s.data := by
      rw [← List.map_reverse,Keyed.lookup?_named,List.getLast?_filter]
    rw [mergeContext,Keyed.lookup?_ofList,contextEntries,funext Recipient.toJson_eq]
    simp only [List.reverse_append,Keyed.lookup?_append,supplied,Keyed.lookup?_reverse single]
    rw [← List.map_reverse,Keyed.lookup?_map,Keyed.lookup?_reverse distinct]
    simp only [List.reverse_singleton,Keyed.lookup?]
  · have keys := (Keyed.keys_ofList_perm (contextEntries supplies user fields recipients)).length_eq
    rwa [List.length_map,keys_contextEntries] at keys

def crowdedSupplies : List Supply :=
  [⟨"team", none, .text, [], "Ops"⟩, ⟨"recipients", none, .text, [], "everyone"⟩, ⟨"team", none, .text, [], "Dev"⟩,
   ⟨"name", none, .text, [], "nobody"⟩]

def crowdedUser : User := ⟨[("email", .string "me@example.com"), ("name", .string "Ada")]⟩

/-- A name from three sources, a team named twice, and an injection under the key of the recipients. -/
theorem later_sources_win_when_crowded :
    let context := mergeContext crowdedSupplies crowdedUser [("name", "Grace")] [⟨"ada@example.com", none⟩]
    (crowdedUser.attributes.map (·.1)).Nodup ∧ ([("name", "Grace")].map (·.1) : List String).Nodup ∧
      Keyed.lookup? "name" context = some (.string "Grace") ∧ Keyed.lookup? "email" context = some (.string "me@example.com") ∧
      Keyed.lookup? "team" context = some (.string "Dev") ∧ Keyed.lookup? "recipients" context = some (.string "everyone") ∧
      Keyed.lookup? "tone" context = none ∧ context.length = 4 := by
  intro context
  have single : (crowdedUser.attributes.map (·.1)).Nodup := by decide
  have distinct : ([("name", "Grace")].map (·.1) : List String).Nodup := by decide
  obtain ⟨answered,counted⟩ := later_sources_win crowdedSupplies crowdedUser [("name", "Grace")] [⟨"ada@example.com", none⟩]
    single distinct
  exact ⟨single,distinct,answered "name",answered "email",answered "team",answered "recipients",answered "tone",counted⟩

end Letterpress
