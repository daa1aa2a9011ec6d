import Letterpress.Press.Basic
import Letterpress.Proofs.Keyed
import Letterpress.Proofs.Template.Check

/-! The order of supplied values. Values that pass have different names, so that none of them overrides another in the context;
values that do not pass fail in any order, though not always with the same one of them to blame. -/
namespace Letterpress

/-- The fault lies in the values that were supplied, and not in the page. -/
def InjectionError.blamesSupplies : InjectionError → Bool
  | malformed _ | unfilled _ => false
  | missing _ | undeclared _ | repeated _ | wrongKind .. | notAnOption .. => true

def PressError.blamesSupplies : PressError → Bool
  | injection e => e.blamesSupplies
  | notFound _ | unreadable .. | misset _ => false

/-- Two ways that a render can fail: with the same error, or with one supplied value or another to blame. -/
def PressError.Like (e other : PressError) : Prop :=
  e = other ∨ e.blamesSupplies = true ∧ other.blamesSupplies = true

variable {supplies : List Supply} {request : RenderRequest} {t : Template} {e other : InjectionError}

private theorem PressError.Like.kind {e other : PressError} (like : e.Like other) : e.kind = other.kind := by
  rcases like with rfl | ⟨blames,blamesOther⟩
  · rfl
  · cases e <;> cases other <;> first | rfl | contradiction

private theorem Template.blamesSupplies_of_supplyError? {earlier : List String} {s : Supply}
    (wrong : t.supplyError? earlier s = some e) : e.blamesSupplies = true := by
  unfold supplyError? at wrong
  split at wrong
  · cases wrong
    rfl
  · split at wrong
    · cases wrong
      rfl
    · split at wrong
      · cases wrong
        rfl
      · split at wrong
        · cases wrong
          rfl
        · contradiction

private theorem Template.blamesSupplies_of_suppliesError? {earlier : List String}
    (wrong : t.suppliesError? earlier supplies = some e) : e.blamesSupplies = true := by
  induction supplies generalizing earlier with
  | nil => contradiction
  | cons s rest ih =>
    rcases Option.or_eq_some_iff.mp wrong with own | ⟨_,later⟩
    · exact blamesSupplies_of_supplyError? own
    · exact ih later

private theorem Template.blamesSupplies_of_checkSupplies (wrong : t.checkSupplies supplies = .error e) :
    e.blamesSupplies = true := by
  unfold checkSupplies at wrong
  split at wrong
  · next found =>
    cases wrong
    exact blamesSupplies_of_suppliesError? found
  · split at wrong
    · cases wrong
      rfl
    · contradiction

/-- Values with different names give the same context in any order. -/
theorem RenderRequest.context_perm (same : supplies.Perm request.supplies) (distinct : (request.supplies.map (·.name)).Nodup) :
    RenderRequest.context { request with supplies := supplies } = request.context := by
  have entries : (request.supplies.map fun s => (s.name, Json.string s.data)).Perm
      (supplies.map fun s => (s.name, .string s.data)) := (same.map _).symm
  have keys : ((request.supplies.map fun s => (s.name, Json.string s.data)).map (·.1)).Nodup := by
    rw [List.map_map]
    exact distinct
  simp only [context,mergeContext,contextEntries,Keyed.ofList,Keyed.insertAll_append]
  rw [Keyed.insertAll_perm entries keys]

private theorem Plate.print_perm (plate : Plate) (same : supplies.Perm request.supplies) :
    plate.print { request with supplies := supplies } = plate.print request ∨
      ∃ e other, plate.print { request with supplies := supplies } = .error e ∧ plate.print request = .error other ∧
        e.blamesSupplies = true ∧ other.blamesSupplies = true := by
  cases checked : plate.definition.checkSupplies request.supplies with
  | ok done =>
    left
    have reordered := (Template.checkSupplies_perm same).mpr checked
    have distinct := (Template.checkSupplies_eq_ok_iff.mp checked).2.1
    simp only [print,checked,reordered,RenderRequest.context_perm same distinct]
  | error other =>
    right
    cases reordered : plate.definition.checkSupplies supplies with
    | ok done =>
      rw [(Template.checkSupplies_perm same).mp reordered] at checked
      contradiction
    | error e =>
      refine ⟨.injection e,.injection other,?_,?_,Template.blamesSupplies_of_checkSupplies reordered,
        Template.blamesSupplies_of_checkSupplies checked⟩
      · simp only [print,reordered]
        rfl
      · simp only [print,checked]
        rfl

/-- A request and the same request with its values in another order are rendered to the same page, over the same context, or
both of them fail, with errors of one kind; and what the press keeps and what happened is the same. -/
theorem order_of_supplies_is_free (press : Press) (store : Store) (disk : Disk) (request : RenderRequest)
    (supplies : List Supply) (same : supplies.Perm request.supplies) :
    let reordered : RenderRequest := { request with supplies := supplies }
    (∀ rendered, (press.render store disk reordered).1 = .ok rendered ↔ (press.render store disk request).1 = .ok rendered) ∧
    (∀ e other, (press.render store disk reordered).1 = .error e → (press.render store disk request).1 = .error other →
      e.kind = other.kind ∧ e.Like other) ∧
    (press.render store disk reordered).2 = (press.render store disk request).2 := by
  intro reordered
  have made (r : RenderRequest) : (press.render store disk r).1 =
    (press.plate store disk r.templateId).1.bind (·.print r) := rfl
  have left (r : RenderRequest) : (press.render store disk r).2 = ((press.plate store disk r.templateId).2,
    press.lookUpEvents r.templateId ++ [Press.outcomeEvent (press.render store disk r).1]) := rfl
  have outcomes : (press.render store disk reordered).1 = (press.render store disk request).1 ∨
      ∃ e other, (press.render store disk reordered).1 = .error e ∧ (press.render store disk request).1 = .error other ∧
        e.Like other := by
    rw [made,made]
    change (press.plate store disk request.templateId).1.bind _ = _ ∨ _
    cases (press.plate store disk request.templateId).1 with
    | error e => exact .inl rfl
    | ok plate =>
      rcases plate.print_perm same with equal | ⟨e,other,failed,failedToo,blames⟩
      · exact .inl equal
      · exact .inr ⟨e,other,failed,failedToo,.inr blames⟩
  rcases outcomes with equal | ⟨e,other,failed,failedToo,like⟩
  · refine ⟨fun rendered => by rw [equal],fun e other failed failedToo => ?_,by rw [left,left,equal]⟩
    rw [equal,failedToo] at failed
    cases failed
    exact ⟨rfl,.inl rfl⟩
  · refine ⟨fun rendered => by simp [failed,failedToo],fun e' other' failed' failedToo' => ?_,?_⟩
    · cases failed.symm.trans failed'
      cases failedToo.symm.trans failedToo'
      exact ⟨like.kind,like⟩
    · rw [left,left,failed,failedToo]
      simp only [Press.outcomeEvent,like.kind]
      rfl

/-- A kept plate of a template that asks for a name and a choice of tone. -/
def tonePress : Press :=
  ⟨some [("note", ⟨⟨"note", "Note", "note.mjml", none,
      [⟨"whom", "To whom", .text, []⟩, ⟨"tone", "Tone", .radio, ["warm", "cool"]⟩]⟩,
    ⟨[.text "Dear ", .print ⟨1, 6⟩ true ⟨.path ⟨"whom", false, false, 0, ["whom"]⟩, []⟩]⟩⟩)]⟩

def toneRequest : RenderRequest :=
  ⟨"note", [⟨"whom", none, .text, [], "you"⟩, ⟨"tone", none, .radio, [], "warm"⟩], [], ⟨[]⟩, []⟩

private theorem render_toneRequest :
    (tonePress.render (.memory []) (.empty "") toneRequest).1 = .ok ⟨"note", "Dear you", toneRequest.context⟩ := by
  rfl

theorem order_of_supplies_is_free_for_tone : toneRequest.supplies.reverse.Perm toneRequest.supplies ∧
    (tonePress.render (.memory []) (.empty "") { toneRequest with supplies := toneRequest.supplies.reverse }).1 =
      .ok ⟨"note", "Dear you", toneRequest.context⟩ := by
  have same := toneRequest.supplies.reverse_perm
  have free := order_of_supplies_is_free tonePress (.memory []) (.empty "") toneRequest toneRequest.supplies.reverse same
  exact ⟨same,(free.1 _).mpr render_toneRequest⟩

end Letterpress
