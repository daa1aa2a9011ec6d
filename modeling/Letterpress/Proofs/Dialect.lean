import Letterpress.Proofs.Markup.Dialect

/-! The dialect of a document that has been read: what stands in what and how deep, what elements carry, and which attributes
they are bound to have. Blocks of defaults take whole bodies, so nesting goes deeper in them than in the body itself, and
their own entries are not bound to have any attribute. -/
namespace Letterpress.Markup.Element
open Letterpress.Text

def deepDescent : String :=
  "<mjml><mj-head><mj-attributes><mj-body><mj-wrapper><mj-section><mj-column><mj-text>x</mj-text>"

def deepAscent : String := "</mj-column></mj-section></mj-wrapper></mj-body></mj-attributes></mj-head></mjml>"

/-- A text inside a whole body in a block of defaults. -/
def deepSource : String := deepDescent ++ deepAscent

def deepText : Element := ⟨.text, [], [], "x", 74⟩

def deepBody : Element :=
  ⟨.body, [], [⟨.wrapper, [], [⟨.band, [], [⟨.column, [], [deepText], "", 63⟩], "", 51⟩], "", 39⟩], "", 30⟩

def deepDocument : Element := ⟨.document, [], [⟨.head, [], [⟨.defaults, [], [deepBody], "", 15⟩], "", 6⟩], "", 0⟩

/-- The elements that are open between the two halves. -/
def deepPile : List Element :=
  [⟨.column, [], [deepText], "", 63⟩, ⟨.band, [], [], "", 51⟩, ⟨.wrapper, [], [], "", 39⟩, ⟨.body, [], [], "", 30⟩,
    ⟨.defaults, [], [], "", 15⟩, ⟨.head, [], [], "", 6⟩, ⟨.document, [], [], "", 0⟩]

private theorem ofSource_deepSource : ofSource deepSource.toList = .ok deepDocument := by
  rw [ofSource_eq_read (by simp [deepSource,deepDescent]),deepSource]
  rw [Assembly.read_append ⟨deepPile,none,none⟩ 94 7 rfl (by with_unfolding_all rfl) (by with_unfolding_all rfl)]
  with_unfolding_all rfl

private theorem stands_deepText : ∃ above, Stands deepDocument above deepText ∧ above.length = 7 := by
  have defaults := (Stands.root : Stands deepDocument [] deepDocument).child (List.mem_singleton_self _)
  have wrapper := ((defaults.child (List.mem_singleton_self _)).child (List.mem_singleton_self _)).child
    (List.mem_singleton_self _)
  have column := (wrapper.child (List.mem_singleton_self _)).child (List.mem_singleton_self _)
  exact ⟨_,column.child (List.mem_singleton_self _),rfl⟩

/-- A document that has been read keeps to the dialect everywhere. It is at most eight levels deep, and at most six where no
block of defaults is around. -/
theorem reading_keeps_dialect (source : String) (root : Element) (read : ofSource source.toList = .ok root) :
    root.tag = .document ∧ ∀ above e, Stands root above e →
      e.InDialect ∧ above.length + 1 ≤ 8 ∧ ((∀ outer ∈ above, outer.tag ≠ .defaults) → above.length + 1 ≤ 6) := by
  have made := assembled_of_source read
  refine ⟨made.own.fits,fun above e stands => ⟨Assembled.inDialect (Assembled.stands made stands),?_,fun outside => ?_⟩⟩
  · have bound := Assembled.length_add_le made stands Tag.room fun parent _ child allowed => Tag.room_lt allowed
    simp only [Tag.room] at bound
    omega
  · have bound := Assembled.length_add_le made stands Tag.roomOutside fun parent member child allowed =>
      Tag.roomOutside_lt (outside parent member) allowed
    simp only [Tag.roomOutside] at bound
    omega

theorem reading_keeps_dialect_of_deepSource : ofSource deepSource.toList = .ok deepDocument ∧ deepText.InDialect := by
  obtain ⟨above,stands,_⟩ := stands_deepText
  have kept := reading_keeps_dialect deepSource deepDocument ofSource_deepSource
  exact ⟨ofSource_deepSource,(kept.2 above deepText stands).1⟩

/-- Six levels are not enough for every document. -/
theorem deeper_than_six : ¬ ∀ (source : String) (root : Element), ofSource source.toList = .ok root →
    ∀ above e, Stands root above e → above.length + 1 ≤ 6 := by
  intro bounded
  obtain ⟨above,stands,length⟩ := stands_deepText
  have bound := bounded deepSource deepDocument ofSource_deepSource above deepText stands
  omega

/-- Every element has the attributes that its kind requires, unless it is an entry of a block of defaults: an image outside
of such blocks its source, a font its name and its address. A group of attributes is always an entry, so nothing makes sure
of its name, and without one it declares nothing. -/
theorem required_attributes_are_carried (source : String) (root : Element) (read : ofSource source.toList = .ok root)
    (above : List Element) (e : Element) (stands : Stands root above e) :
    ((∀ parent ∈ above.head?, parent.tag ≠ .defaults) → ∀ key ∈ e.tag.required, (e.attribute? key).isSome = true) ∧
    (e.tag = .image → (∀ outer ∈ above, outer.tag ≠ .defaults) → (e.attribute? "src").isSome = true) ∧
    (e.tag = .font → (e.attribute? "name").isSome = true ∧ (e.attribute? "href").isSome = true) ∧
    (e.tag = .forClass → (∃ parent ∈ above.head?, parent.tag = .defaults) ∧
      (e.attribute? "name" = none → ∀ defaults : Defaults, defaults.add e = defaults)) := by
  have made := (Assembled.stands (assembled_of_source read) stands).own
  have carried (bound : ∀ parent ∈ above.head?, parent.tag ≠ .defaults) (key : String) (required : key ∈ e.tag.required) :
      (e.attribute? key).isSome = true := by
    refine carried_of_checkRequired (made.required ?_) required
    intro entry
    obtain ⟨parent,found,same⟩ := Option.map_eq_some_iff.mp entry
    exact bound parent found same
  refine ⟨carried,fun isImage outside => ?_,fun isFont => ?_,fun isClass => ⟨?_,fun nameless defaults => ?_⟩⟩
  · refine carried (fun parent found => outside parent (List.mem_of_mem_head? found)) "src" ?_
    rw [isImage]
    decide
  · -- a font stands in the head, so it is never an entry of a block of defaults
    have bound : ∀ parent ∈ above.head?, parent.tag ≠ .defaults := by
      intro parent found entry
      have fits := made.fits
      rw [found,isFont,Option.map_some,entry] at fits
      change Tag.font ∈ Tag.defaults.children at fits
      exact absurd fits (by decide)
    have required : ∀ key ∈ ["name", "href"], (e.attribute? key).isSome = true := by
      have all := carried bound
      rwa [isFont] at all
    exact ⟨required "name" (by decide),required "href" (by decide)⟩
  · have fits := made.fits
    rw [isClass] at fits
    cases found : above.head? with
    | none =>
      rw [found] at fits
      change Tag.forClass = .document at fits
      contradiction
    | some parent =>
      rw [found] at fits
      exact ⟨parent,rfl,(Tag.forClass_child_iff parent.tag).mp fits⟩
  · simp only [Defaults.add,isClass,nameless]

def fontSource : String :=
  "<mjml><mj-head><mj-font name=\"Lato\" href=\"lato.css\"/></mj-head><mj-body></mj-body></mjml>"

def font : Element := ⟨.font, [⟨"name", "Lato"⟩, ⟨"href", "lato.css"⟩], [], "", 15⟩

def fontDocument : Element := ⟨.document, [], [⟨.head, [], [font], "", 6⟩, ⟨.body, [], [], "", 63⟩], "", 0⟩

private theorem ofSource_fontSource : ofSource fontSource.toList = .ok fontDocument := by with_unfolding_all rfl

theorem required_attributes_are_carried_by_a_font : ∃ root above e, ofSource fontSource.toList = .ok root ∧
    Stands root above e ∧ e.tag = .font ∧ (e.attribute? "href").isSome = true := by
  have stands : Stands fontDocument [⟨.head, [], [font], "", 6⟩, fontDocument] font :=
    ((Stands.root : Stands fontDocument [] fontDocument).child List.mem_cons_self).child (List.mem_singleton_self font)
  have carried := required_attributes_are_carried fontSource fontDocument ofSource_fontSource _ font stands
  exact ⟨fontDocument,_,font,ofSource_fontSource,stands,rfl,(carried.2.2.1 rfl).2⟩

def namelessSource : String :=
  "<mjml><mj-head><mj-attributes><mj-class color=\"red\"/></mj-attributes></mj-head></mjml>"

def namelessClass : Element := ⟨.forClass, [⟨"color", "red"⟩], [], "", 30⟩

def namelessDocument : Element :=
  ⟨.document, [], [⟨.head, [], [⟨.defaults, [], [namelessClass], "", 15⟩], "", 6⟩], "", 0⟩

private theorem ofSource_namelessSource : ofSource namelessSource.toList = .ok namelessDocument := by with_unfolding_all rfl

/-- A group of attributes without a name is read all the same. -/
theorem nameless_class_is_read : ¬ ∀ (source : String) (root : Element), ofSource source.toList = .ok root →
    ∀ above e, Stands root above e → e.tag = .forClass → (e.attribute? "name").isSome = true := by
  intro named
  have head := (Stands.root : Stands namelessDocument [] namelessDocument).child (List.mem_singleton_self _)
  have entry := (head.child (List.mem_singleton_self _)).child (List.mem_singleton_self namelessClass)
  have absent := named namelessSource namelessDocument ofSource_namelessSource _ namelessClass entry rfl
  contradiction

end Letterpress.Markup.Element
