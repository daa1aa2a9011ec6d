import Letterpress.Proofs.Html.Lookalike
import Letterpress.Proofs.Plain

/-! Where an element gets the value of an attribute, and what attributes cannot change. The last value that is written for it, from
the weakest layer to the strongest, is the one that counts. Groups of defaults take attributes of any name, and an element looks a
name up in them only if its kind accepts it; so names that nothing in the page accepts do nothing. And no look-up depends on the
order of attributes with different names. -/
namespace Letterpress
open Markup Html

/-- The values that attributes of this name write, one after the other. -/
def valuesOf (key : String) (attributes : List Attribute) : List String := (attributes.filter (·.key == key)).map (·.value)

/-- All that the blocks of a head declare in entries of one sort, in document order. -/
def declared (head : Option Element) (sort : Element → Bool) : List Attribute :=
  ((Defaults.entries head).filter sort).flatMap (·.attributes)

def isForTag (tag : Tag) (entry : Element) : Bool := entry.tag == tag && entry.tag != .forAll && entry.tag != .forClass

def isForClass (name : String) (entry : Element) : Bool := entry.tag == .forClass && entry.attribute? "name" == some name

/-- What is written under a name for an element, from the weakest layer to the strongest: the built-in value, the defaults for
all kinds if the kind of the element accepts the name, those for its kind, those of its classes in the order in which it names
them, and its own attribute. The name of a class is no declaration. -/
def written (head : Option Element) (e : Element) (key : String) : List String :=
  ((e.tag.builtIn.find? (·.1 == key)).map (·.2)).toList ++
  (if e.tag.accepts key then valuesOf key (declared head (·.tag == .forAll)) else []) ++
  valuesOf key (declared head (isForTag e.tag)) ++
  (((e.attribute? "mj-class").toList.flatMap Text.words).flatMap fun name =>
    valuesOf key ((declared head (isForClass name)).filter (·.key != "name"))) ++
  (e.attribute? key).toList

private theorem lastValue?_eq_getLast? (attributes : List Attribute) (key : String) :
    lastValue? attributes key = (valuesOf key attributes).getLast? := by
  rw [lastValue?,valuesOf,List.getLast?_map,List.getLast?_filter]

/-- What blocks of defaults collect, when each entry of the sort adds some of its attributes behind the others. -/
theorem collect_foldl (collect : Defaults → List Attribute) (sort : Element → Bool) (kept : Element → List Attribute)
    (step : ∀ defaults entry, collect (defaults.add entry) = collect defaults ++ if sort entry then kept entry else [])
    (entries : List Element) (defaults : Defaults) :
    collect (entries.foldl Defaults.add defaults) = collect defaults ++ (entries.filter sort).flatMap kept := by
  induction entries generalizing defaults with
  | nil => simp
  | cons entry rest ih =>
    rw [List.foldl_cons,ih,step,List.append_assoc,List.filter_cons]
    cases sort entry <;> simp

section Heads
variable (head : Option Element)

private theorem forAll_ofHead : (Defaults.ofHead head).forAll = declared head (·.tag == .forAll) := by
  refine (collect_foldl (·.forAll) (·.tag == .forAll) (·.attributes) (fun defaults entry => ?_) _ .none).trans
    (List.nil_append _)
  by_cases isAll : entry.tag = .forAll
  · simp [Defaults.add_forAll isAll,isAll]
  · by_cases isClass : entry.tag = .forClass
    · rw [Defaults.add_forClass isClass]
      cases entry.attribute? "name" <;> simp [isAll]
    · simp [Defaults.add_forTag ⟨isAll,isClass⟩,isAll]

private theorem forTag_ofHead (tag : Tag) : under tag (Defaults.ofHead head).forTag = declared head (isForTag tag) := by
  refine (collect_foldl (under tag ·.forTag) (isForTag tag) (·.attributes) (fun defaults entry => ?_) _ .none).trans
    (List.nil_append _)
  by_cases isAll : entry.tag = .forAll
  · simp [Defaults.add_forAll isAll,isAll,isForTag]
  · by_cases isClass : entry.tag = .forClass
    · rw [Defaults.add_forClass isClass]
      cases entry.attribute? "name" <;> simp [isForTag,isClass]
    · rw [Defaults.add_forTag ⟨isAll,isClass⟩,under_append_labelled]
      simp [isForTag,isAll,isClass]

private theorem forClass_ofHead (name : String) :
    under name (Defaults.ofHead head).forClass = (declared head (isForClass name)).filter (·.key != "name") := by
  rw [declared,List.filter_flatMap]
  refine (collect_foldl (under name ·.forClass) (isForClass name) _ (fun defaults entry => ?_) _ .none).trans
    (List.nil_append _)
  by_cases isClass : entry.tag = .forClass
  · rw [Defaults.add_forClass isClass]
    cases called : entry.attribute? "name" with
    | none => simp [isForClass,called]
    | some own =>
      rw [under_append_labelled]
      simp [isForClass,isClass,called]
  · by_cases isAll : entry.tag = .forAll
    · simp [Defaults.add_forAll isAll,isForClass,isClass]
    · simp [Defaults.add_forTag ⟨isAll,isClass⟩,isForClass,isClass]

private theorem tagValue?_ofHead (tag : Tag) (key : String) :
    (Defaults.ofHead head).tagValue? tag key = (valuesOf key (declared head (isForTag tag))).getLast? := by
  rw [← forTag_ofHead,← lastValue?_eq_getLast?]
  rfl

private theorem classValue?_ofHead (name key : String) : (Defaults.ofHead head).classValue? name key =
    (valuesOf key ((declared head (isForClass name)).filter (·.key != "name"))).getLast? := by
  rw [← forClass_ofHead,← lastValue?_eq_getLast?]
  rfl

end Heads

/-- An element answers with the last value that is written for it, layer above layer, and with none only if none is. -/
theorem last_writer_wins (head : Option Element) (e : Element) (key : String) :
    Styled.get? ⟨e,Defaults.ofHead head⟩ key = (written head e key).getLast? ∧
      (Styled.get? ⟨e,Defaults.ofHead head⟩ key = none ↔ written head e key = []) := by
  have classes : Styled.fromClasses? ⟨e,Defaults.ofHead head⟩ key =
      (((e.attribute? "mj-class").toList.flatMap Text.words).flatMap fun name =>
        valuesOf key ((declared head (isForClass name)).filter (·.key != "name"))).getLast? := by
    rw [Styled.fromClasses?,List.getLast?_flatMap]
    simp only [← classValue?_ofHead]
    cases e.attribute? "mj-class" <;> simp
  have forAll : (if e.tag.accepts key then lastValue? (Defaults.ofHead head).forAll key else none) =
      (if e.tag.accepts key then valuesOf key (declared head (·.tag == .forAll)) else []).getLast? := by
    rw [forAll_ofHead,lastValue?_eq_getLast?]
    split <;> rfl
  have single (value : Option String) : value.toList.getLast? = value := by
    cases value <;> rfl
  have last : Styled.get? ⟨e,Defaults.ofHead head⟩ key = (written head e key).getLast? := by
    rw [Styled.get?,written]
    simp only [List.getLast?_append,classes,tagValue?_ofHead,forAll,single]
  exact ⟨last,by rw [last,List.getLast?_eq_none_iff]⟩

/-- Attributes of an entry for all kinds, or for a class, that differ in one name only. It is not the name of the class. -/
def Regrouped (key : String) (tag : Tag) (attributes others : List Attribute) : Prop :=
  attributes = others ∨ (tag = .forAll ∨ tag = .forClass ∧ key ≠ "name") ∧
    attributes.filter (·.key != key) = others.filter (·.key != key)

/-- Every kind but the two groups of defaults. -/
def IsSingle (tag : Tag) : Prop := tag ≠ .forAll ∧ tag ≠ .forClass

private theorem Regrouped.respects (key : String) : Respects (· ≠ key) IsSingle (Regrouped key) where
  last := by
    rintro tag attributes others (rfl | ⟨_,same⟩) asked isOther
    · rfl
    · rw [← lastValue?_without isOther attributes,same,lastValue?_without isOther]
  first := by
    rintro tag attributes others (rfl | ⟨isAll | ⟨isClass,_⟩,_⟩) isSingle asked
    · rfl
    · exact absurd isAll isSingle.1
    · exact absurd isClass isSingle.2
  named := by
    rintro attributes others (rfl | ⟨isAll | ⟨_,isOther⟩,same⟩)
    · rfl
    · contradiction
    · rw [← firstValue?_without isOther.symm attributes,same,firstValue?_without isOther.symm]

private theorem isSingle_of_not_accepts {tag : Tag} {key : String} (unaccepted : tag.accepts key = false) : IsSingle tag := by
  constructor
  · rintro rfl
    contradiction
  · rintro rfl
    contradiction

private theorem ne_of_not_accepts {tag : Tag} {key asked : String} (unaccepted : tag.accepts key = false)
    (accepted : tag.accepts asked = true) : asked ≠ key := by
  rintro rfl
  rw [unaccepted] at accepted
  contradiction

/-- A name that neither the document nor any element of its body accepts may be added to groups of defaults, changed in them or
removed from them, and the page stays as it is. -/
theorem unaccepted_names_do_nothing (source : String) (root regrouped : Element) (key : String)
    (read : Element.ofSource source.toList = .ok root) (document : root.tag.accepts key = false)
    (unaccepted : ∀ body ∈ root.child? .body, body.Everywhere fun e => e.tag.accepts key = false)
    (differ : Element.Twins (Regrouped key) root regrouped) (options : CompileOptions) :
    compile options source = .ok (options.layout.set (page regrouped)) ∧
      ∀ other : String, Element.ofSource other.toList = .ok regrouped → compile options other = compile options source := by
  have made := assembled_of_source read
  have isDocument : root.tag = .document := made.own.fits
  have steadfast : ∀ body ∈ root.child? .body, body.Everywhere
      (Steadfast (· ≠ key) IsSingle fun kind asked => kind.accepts asked = true) := by
    intro body found above e stands
    have place := (made.inside (List.mem_of_find?_eq_some found)).stands stands
    have refused := unaccepted body found above e stands
    refine ⟨isSingle_of_not_accepts refused,fun asked accepted => ne_of_not_accepts refused accepted,?_⟩
    intro isColumn child member isBox
    have fits : child.tag ∈ Tag.column.children := isColumn ▸ (place.inside member).own.fits
    exact accepts_of_mem_cellKeys fits isBox
  have spoken (asked : String) (accepted : Tag.document.accepts asked = true) : asked ≠ key :=
    ne_of_not_accepts document (isDocument ▸ accepted)
  have same := page_of_twins (Regrouped.respects key) (fun _ _ accepted => accepted) differ (isSingle_of_not_accepts document)
    ⟨by decide,by decide⟩ ⟨by decide,by decide⟩ (spoken "lang" (by decide)) (spoken "dir" (by decide)) steadfast
  have compiled := compile_of_root options read
  rw [same] at compiled
  exact ⟨compiled,fun other readOther => (compile_of_root options readOther).trans compiled.symm⟩

def loudBody : Element :=
  ⟨.body, [], [⟨.band, [], [⟨.column, [], [⟨.text, [⟨"mj-class", "loud"⟩], [], "Hi", 154⟩], "", 143⟩], "", 131⟩], "", 122⟩

def loudDocument (entries : List Element) : Element :=
  ⟨.document, [], [⟨.head, [], [⟨.defaults, [], entries, "", 15⟩], "", 6⟩, loudBody], "", 0⟩

def linkedForAll : Element := ⟨.forAll, [⟨"color", "red"⟩, ⟨"href", "x"⟩], [], "", 30⟩

def loudClass : Element := ⟨.forClass, [⟨"name", "loud"⟩, ⟨"color", "blue"⟩], [], "", 60⟩

def loudBodyOpening : String := "<mj-body><mj-section><mj-column><mj-text mj-class=\"loud\">Hi</mj-text>"

def loudBodyClosing : String := "</mj-column></mj-section></mj-body></mjml>"

def linkedForAllOpening : String := "<mjml><mj-head><mj-attributes><mj-all color=\"red\" href=\"x\"/>"

def loudClassClosing : String := "<mj-class name=\"loud\" color=\"blue\"/></mj-attributes></mj-head>"

def loudSource : String := linkedForAllOpening ++ (loudClassClosing ++ (loudBodyOpening ++ loudBodyClosing))

def plainForAll : Element := ⟨.forAll, [⟨"color", "red"⟩], [], "", 30⟩

def linkedClass : Element := ⟨.forClass, [⟨"name", "loud"⟩, ⟨"href", "y"⟩, ⟨"color", "blue"⟩], [], "", 51⟩

def plainForAllOpening : String := "<mjml><mj-head><mj-attributes><mj-all color=\"red\"/>"

def linkedClassClosing : String := "<mj-class name=\"loud\" href=\"y\" color=\"blue\"/></mj-attributes></mj-head>"

def regroupedSource : String := plainForAllOpening ++ (linkedClassClosing ++ (loudBodyOpening ++ loudBodyClosing))

/-- What has been read when one entry of the block of defaults has been. -/
def loudStart (entry : Element) : Assembly :=
  ⟨[⟨.defaults, [], [entry], "", 15⟩, ⟨.head, [], [], "", 6⟩, ⟨.document, [], [], "", 0⟩], none, none⟩

/-- What has been read when the head has been. -/
def loudHalf (entries : List Element) : Assembly :=
  ⟨[⟨.document, [], [⟨.head, [], [⟨.defaults, [], entries, "", 15⟩], "", 6⟩], "", 0⟩], none, none⟩

/-- What has been read when the text in the body has been. -/
def loudEnd (entries : List Element) : Assembly :=
  ⟨⟨.column, [], [⟨.text, [⟨"mj-class", "loud"⟩], [], "Hi", 154⟩], "", 143⟩ :: ⟨.band, [], [], "", 131⟩ ::
    ⟨.body, [], [], "", 122⟩ :: (loudHalf entries).pile, none, none⟩

private theorem read_loudBody (entries : List Element) :
    Assembly.read (·.offset) (loudHalf entries) 122 1 (loudBodyOpening ++ loudBodyClosing).toList =
      .ok (loudDocument entries) := by
  rw [Assembly.read_append (loudEnd entries) 191 4 rfl (by with_unfolding_all rfl) (by with_unfolding_all rfl)]
  with_unfolding_all rfl

private theorem ofSource_loudSource : Element.ofSource loudSource.toList = .ok (loudDocument [linkedForAll, loudClass]) := by
  rw [ofSource_eq_read (by simp [loudSource,linkedForAllOpening]),loudSource]
  rw [Assembly.read_append (loudStart linkedForAll) 60 3 (by simp [loudClassClosing]) (by with_unfolding_all rfl)
    (by with_unfolding_all rfl)]
  rw [Assembly.read_append (loudHalf [linkedForAll,loudClass]) 122 1 (by simp [loudBodyOpening])
    (by with_unfolding_all rfl) (by with_unfolding_all rfl)]
  exact read_loudBody [linkedForAll,loudClass]

private theorem ofSource_regroupedSource :
    Element.ofSource regroupedSource.toList = .ok (loudDocument [plainForAll, linkedClass]) := by
  rw [ofSource_eq_read (by simp [regroupedSource,plainForAllOpening]),regroupedSource]
  rw [Assembly.read_append (loudStart plainForAll) 51 3 (by simp [linkedClassClosing]) (by with_unfolding_all rfl)
    (by with_unfolding_all rfl)]
  rw [Assembly.read_append (loudHalf [plainForAll,linkedClass]) 122 1 (by simp [loudBodyOpening])
    (by with_unfolding_all rfl) (by with_unfolding_all rfl)]
  exact read_loudBody [plainForAll,linkedClass]

private theorem unaccepted_loudBody : loudBody.Everywhere fun e => e.tag.accepts "href" = false := by
  have text : Element.Everywhere (fun e => e.tag.accepts "href" = false) ⟨.text, [⟨"mj-class", "loud"⟩], [], "Hi", 154⟩ :=
    Element.everywhere_iff.mpr ⟨by decide,List.forall_mem_nil _⟩
  have column := Element.everywhere_iff (e := ⟨.column, [], [_], "", 143⟩) |>.mpr ⟨by decide,List.forall_mem_singleton.mpr text⟩
  have band := Element.everywhere_iff (e := ⟨.band, [], [_], "", 131⟩) |>.mpr ⟨by decide,List.forall_mem_singleton.mpr column⟩
  exact Element.everywhere_iff.mpr ⟨by decide,List.forall_mem_singleton.mpr band⟩

private theorem twins_loudDocument {R : Tag → List Attribute → List Attribute → Prop} {entries others : List Element}
    (own : ∀ tag attributes, R tag attributes attributes) (related : List.Forall₂ (Element.Twins R) entries others) :
    Element.Twins R (loudDocument entries) (loudDocument others) := by
  have blocks : Element.Twins R ⟨.defaults, [], entries, "", 15⟩ ⟨.defaults, [], others, "", 15⟩ := .mk rfl rfl (own _ _) related
  exact .mk rfl rfl (own _ _) (.cons (.mk rfl rfl (own _ _) (.cons blocks .nil)) (.cons (.refl own loudBody) .nil))

/-- An address is taken from one group and given to another, in a document where nothing is linked. -/
theorem unaccepted_names_do_nothing_in_loudSource :
    Element.Twins (Regrouped "href") (loudDocument [linkedForAll, loudClass]) (loudDocument [plainForAll, linkedClass]) ∧
      compile ⟨true⟩ loudSource = .ok (Layout.minified.set (page (loudDocument [plainForAll, linkedClass]))) ∧
      compile ⟨true⟩ regroupedSource = compile ⟨true⟩ loudSource := by
  have unlinked : linkedForAll.Twins (Regrouped "href") plainForAll := .mk rfl rfl (.inr ⟨.inl rfl,by decide⟩) .nil
  have linked : loudClass.Twins (Regrouped "href") linkedClass := .mk rfl rfl (.inr ⟨.inr ⟨rfl,by decide⟩,by decide⟩) .nil
  have differ := twins_loudDocument (fun _ _ => Or.inl rfl) (.cons unlinked (.cons linked .nil))
  have unaccepted : ∀ body ∈ (loudDocument [linkedForAll, loudClass]).child? .body,
      body.Everywhere fun e => e.tag.accepts "href" = false := by
    intro body found
    cases found
    exact unaccepted_loudBody
  have same := unaccepted_names_do_nothing loudSource _ _ "href" ofSource_loudSource (by decide) unaccepted differ ⟨true⟩
  exact ⟨differ,same.1,same.2 _ ofSource_regroupedSource⟩

def HasDistinctNames (e : Element) : Prop := (e.attributes.map (·.key)).Nodup

/-- The same attributes in any order, none of them twice. -/
def Reordered (_ : Tag) (attributes others : List Attribute) : Prop :=
  attributes.Perm others ∧ (attributes.map (·.key)).Nodup

private theorem Reordered.respects : Respects (fun _ => True) (fun _ => True) Reordered where
  last := fun same key _ => lastValue?_perm same.1 same.2 key
  first := fun same _ key => firstValue?_perm same.1 same.2 key
  named := fun same => firstValue?_perm same.1 same.2 "name"

/-- Wherever an element stands in a tree whose elements have no attribute twice, its attributes may be put in another order,
those of groups and of other defaults too, and the page stays as it is. -/
theorem attribute_order_is_free (root shuffled : Element) (distinct : root.Everywhere HasDistinctNames)
    (same : Element.Twins (fun _ attributes others => attributes.Perm others) root shuffled) (layout : Layout) :
    layout.set (page shuffled) = layout.set (page root) := by
  have twins : Element.Twins Reordered root shuffled := same.imp distinct fun _ _ own same => ⟨same,own⟩
  -- all look-ups agree, so that every element may be asked for anything
  have steadfast : ∀ body ∈ root.child? .body, body.Everywhere
      (Steadfast (fun _ => True) (fun _ => True) fun _ _ => True) := fun _ _ _ _ _ =>
    ⟨trivial,fun _ _ => trivial,fun _ _ _ _ _ _ => trivial⟩
  rw [page_of_twins Reordered.respects (fun _ _ _ => trivial) twins trivial trivial trivial trivial trivial steadfast]

private theorem distinct_loudDocument {entries : List Element} (distinct : ∀ e ∈ entries, e.Everywhere HasDistinctNames) :
    (loudDocument entries).Everywhere HasDistinctNames := by
  have text : Element.Everywhere HasDistinctNames ⟨.text, [⟨"mj-class", "loud"⟩], [], "Hi", 154⟩ :=
    Element.everywhere_iff.mpr ⟨List.nodup_singleton _,List.forall_mem_nil _⟩
  have outer (tag : Tag) (children : List Element) (offset : Nat)
      (inside : ∀ e ∈ children, e.Everywhere HasDistinctNames) :
      Element.Everywhere HasDistinctNames ⟨tag, [], children, "", offset⟩ :=
    Element.everywhere_iff.mpr ⟨List.nodup_nil,inside⟩
  have body := outer .body _ 122 (List.forall_mem_singleton.mpr (outer .band _ 131 (List.forall_mem_singleton.mpr
    (outer .column _ 143 (List.forall_mem_singleton.mpr text)))))
  have head := outer .head _ 6 (List.forall_mem_singleton.mpr (outer .defaults _ 15 distinct))
  exact outer .document _ 0 (List.forall_mem_cons.mpr ⟨head,List.forall_mem_singleton.mpr body⟩)

/-- The name of a class may come behind its declarations. -/
theorem attribute_order_is_free_in_groups :
    Layout.minified.set (page (loudDocument [⟨.forClass, [⟨"color", "blue"⟩, ⟨"name", "loud"⟩], [], "", 60⟩])) =
      Layout.minified.set (page (loudDocument [loudClass])) := by
  have distinct : ∀ e ∈ [loudClass], e.Everywhere HasDistinctNames :=
    List.forall_mem_singleton.mpr (Element.everywhere_iff.mpr ⟨by simp [HasDistinctNames,loudClass],List.forall_mem_nil _⟩)
  have swapped : loudClass.Twins (fun _ attributes others => attributes.Perm others)
      ⟨.forClass, [⟨"color", "blue"⟩, ⟨"name", "loud"⟩], [], "", 60⟩ := .mk rfl rfl (.swap _ _ _) .nil
  have same := twins_loudDocument (fun _ attributes => List.Perm.refl attributes) (.cons swapped .nil)
  exact attribute_order_is_free _ _ (distinct_loudDocument distinct) same .minified

end Letterpress
