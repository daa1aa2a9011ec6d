import Letterpress.Proofs.Html.Quoting
import Letterpress.Proofs.Html.Scaffold.Page
import Letterpress.Proofs.Html.Weaving

/-! The rules for columns. The columns of a body share a class exactly if they have the same width, and the head has one rule for
each of their classes, with that width; without a column there is no rule, and no style for wide screens. -/
namespace Letterpress.Html
open Letterpress.Markup Letterpress.Css

variable {P : String → Prop} {defaults : Defaults} {root body band e : Element} {above : List Element} {holder : Option Tag}
  {source text : List Char} {widths : List Width} {name value : String}

private theorem ascending_columnRules (widths : List Width) : Keyed.Ascending (columnRules widths) := by
  rw [columnRules_eq]
  exact Keyed.ascending_ofList _

/-- The rules are those of the widths. A later width never changes the rule of another. -/
theorem mem_columnRules_iff :
    (name, value) ∈ columnRules widths ↔ ∃ width ∈ widths, width.columnClass = name ∧ width.value = value := by
  constructor
  · intro member
    obtain ⟨width,listed,same⟩ := exists_of_mem_columnRules member
    exact ⟨width,listed,congrArg (·.1) same,congrArg (·.2) same⟩
  · rintro ⟨width,listed,rfl,rfl⟩
    have classed : width.columnClass ∈ (columnRules widths).map (·.1) := by
      rw [columnRules_eq,Keyed.mem_keys_ofList,List.map_map]
      exact List.mem_map.mpr ⟨width,listed,rfl⟩
    obtain ⟨rule,member,named⟩ := List.mem_map.mp classed
    obtain ⟨other,_,rfl⟩ := exists_of_mem_columnRules member
    rw [← named,← (columnClass_eq_iff other width).mp named]
    exact member

/-- A band of a body stands in it or in one of its wrappers. -/
def IsBandOf (body band : Element) : Prop :=
  band.tag = .band ∧ (band ∈ body.children ∨ ∃ outer ∈ body.children, outer.tag = .wrapper ∧ band ∈ outer.children)

private theorem eq_root_of_isBody (made : body.Assembled source holder) (isBody : body.tag = .body)
    (stands : Element.Stands body above e) (kind : e.tag = .body) : e = body := by
  have never : ∀ parent ∈ Tag.every, parent.isBox = true → Tag.body ∉ parent.children := by decide
  cases stands with
  | root => rfl
  | child outer member =>
    obtain ⟨_,_,box,fits⟩ := made.holds_of_stands isBody (.child outer member)
    exact absurd (kind ▸ fits) (never _ (Tag.mem_every _) box)

private theorem stands_column_iff (made : body.Assembled source holder) (isBody : body.tag = .body)
    (isColumn : e.tag = .column) :
    (∃ above, Element.Stands body (band :: above) e) ↔ IsBandOf body band ∧ e ∈ band.children := by
  have inBand : ∀ parent ∈ Tag.every, parent.isBox = true → Tag.column ∈ parent.children → parent = .band := by decide
  have inOuter : ∀ parent ∈ Tag.every, parent.isBox = true → Tag.band ∈ parent.children →
    parent = .body ∨ parent = .wrapper := by decide
  have inBody : ∀ parent ∈ Tag.every, parent.isBox = true → Tag.wrapper ∈ parent.children → parent = .body := by decide
  constructor
  · rintro ⟨above,stands⟩
    obtain ⟨outer,member,box,fits⟩ := made.holds_of_stands isBody stands
    have isBand : band.tag = .band := inBand _ (Tag.mem_every _) box (isColumn ▸ fits)
    refine ⟨⟨isBand,?_⟩,member⟩
    cases outer with
    | root => rw [isBody] at isBand; contradiction
    | @child further parent _ around inside =>
      obtain ⟨_,_,holds,held⟩ := made.holds_of_stands isBody (.child around inside)
      rcases inOuter _ (Tag.mem_every _) holds (isBand ▸ held) with kind | kind
      · exact .inl (eq_root_of_isBody made isBody around kind ▸ inside)
      · cases around with
        | root => rw [isBody] at kind; contradiction
        | @child further holder _ outside within =>
          obtain ⟨_,_,carries,carried⟩ := made.holds_of_stands isBody (.child outside within)
          have top := inBody _ (Tag.mem_every _) carries (kind ▸ carried)
          exact .inr ⟨parent,eq_root_of_isBody made isBody outside top ▸ within,kind,inside⟩
  · rintro ⟨⟨isBand,direct | ⟨outer,listed,isWrapper,inside⟩⟩,member⟩
    · exact ⟨_,(Element.Stands.root.child direct).child member⟩
    · exact ⟨_,((Element.Stands.root.child listed).child inside).child member⟩

private theorem mem_bandWidths_iff {width : Width} : width ∈ bandWidths defaults band ↔
    ∃ e ∈ band.children, e.tag = .column ∧ columnWidth ⟨e,defaults⟩ (columnCount band) = width := by
  simp [bandWidths,and_assoc]

private theorem mem_columnWidths_iff {width : Width} : width ∈ columnWidths defaults (some body) ↔
    ∃ band, IsBandOf body band ∧ width ∈ bandWidths defaults band := by
  simp only [columnWidths,List.mem_flatMap]
  constructor
  · rintro ⟨child,listed,member⟩
    split at member
    · next isBand => exact ⟨child,⟨isBand,.inl listed⟩,member⟩
    · next isWrapper =>
      obtain ⟨band,held,inside⟩ := List.mem_flatMap.mp member
      obtain ⟨within,isBand⟩ := List.mem_filter.mp held
      exact ⟨band,⟨by simpa using isBand,.inr ⟨child,listed,isWrapper,within⟩⟩,inside⟩
    · contradiction
  · rintro ⟨band,⟨isBand,direct | ⟨outer,listed,isWrapper,within⟩⟩,inside⟩
    · exact ⟨band,direct,by rw [isBand]; exact inside⟩
    · refine ⟨outer,listed,?_⟩
      rw [isWrapper]
      exact List.mem_flatMap.mpr ⟨band,List.mem_filter.mpr ⟨within,by simpa using isBand⟩,inside⟩

theorem inside_of_bandFrame {s : Styled} {container : Float} {inside : List Fragment}
    (all : Scaffolded P (bandFrame s container inside)) : Scaffolded P inside := by
  unfold bandFrame at all
  dsimp only at all
  split at all
  · simp only [scaffolded_nest_iff,scaffolded_append_iff] at all
    exact all.2.1.2.2
  · simp only [scaffolded_nest_iff,scaffolded_append_iff] at all
    exact all.1.2.2

private theorem column_of_band {container : Float} (all : Scaffolded P (Html.band defaults band container))
    (member : e ∈ band.children)
    (isColumn : e.tag = .column) : ∃ inner, Scaffolded P (column defaults e inner (columnCount band)) := by
  have columns := inside_of_bandFrame all
  rw [Html.columns,scaffolded_append_iff,scaffolded_append_iff,scaffolded_flatMap_iff] at columns
  have own := columns.1.2 e member
  rw [isColumn] at own
  exact ⟨_,own⟩

/-- Every band of a body is set, in some width. -/
theorem band_of_bodyContent (all : Scaffolded P (bodyContent defaults body)) (isBand : IsBandOf body band) :
    ∃ container, Scaffolded P (Html.band defaults band container) := by
  have each := scaffolded_flatMap_iff.mp all
  obtain ⟨kind,direct | ⟨outer,listed,isWrapper,within⟩⟩ := isBand
  · have own := each band direct
    rw [kind] at own
    exact ⟨_,own⟩
  · have around := each outer listed
    rw [isWrapper] at around
    have own := scaffolded_flatMap_iff.mp (inside_of_bandFrame around) band within
    rw [kind] at own
    exact ⟨_,own⟩

theorem bodyContent_of_page (all : Scaffolded P (page root)) (found : root.child? .body = some body) :
    Scaffolded P (bodyContent (Defaults.ofHead (root.child? .head)) body) := by
  have both (head body : Fragment) : [head,body] = [head] ++ [body] := rfl
  unfold page at all
  rw [scaffolded_line_iff,scaffolded_block_iff,both,scaffolded_append_iff,found,bodyPart,scaffolded_block_iff,
    scaffolded_append_iff,scaffolded_block_iff] at all
  obtain ⟨_,_,⟨_,_,⟨_,_,content,_⟩,_⟩,_⟩ := all
  exact content

private theorem plain_columnClass (width : Width) : ∀ c ∈ (width.columnClass ++ " mj-outlook-group-fix").toList,
    c ≠ '"' ∧ c ≠ '\x7b' := by
  rw [String.toList_append]
  refine List.forall_mem_append.mpr ⟨fun c member => ?_,by simp⟩
  have figure := isFigure_of_mem_columnClass c member
  constructor
  · rintro rfl
    exact absurd figure (by decide)
  · rintro rfl
    exact absurd figure (by decide)

private theorem division_of_plain {lead : String} (plain : ∀ c ∈ lead.toList, c ≠ '"' ∧ c ≠ '\x7b') (more rest : String) :
    "<div" ++ attributeText "class" (escape (lead ++ more)) ++ rest =
      "<div class=\"" ++ lead ++ (escape more ++ "\"" ++ rest) := by
  have spelled : "<div class=\"" = "<div" ++ " " ++ "class" ++ "=\"" := rfl
  rw [escape_behind plain,spelled]
  simp only [attributeText,String.append_assoc]

/-- The box of a column names its class first. -/
theorem classed_of_column {container : Float} {siblings : Nat} (all : Scaffolded P (column defaults e container siblings)) :
    ∃ rest, P ("<div class=\"" ++ ((columnWidth ⟨e,defaults⟩ siblings).columnClass ++ " mj-outlook-group-fix") ++ rest) := by
  have plain := plain_columnClass (columnWidth ⟨e,defaults⟩ siblings)
  have spaced (name more : String) :
      name ++ " mj-outlook-group-fix " ++ more = name ++ " mj-outlook-group-fix" ++ (" " ++ more) := by
    have joined : " mj-outlook-group-fix " = " mj-outlook-group-fix" ++ " " := rfl
    rw [joined]
    simp only [String.append_assoc]
  have bare (name : String) : name ++ " mj-outlook-group-fix" = name ++ " mj-outlook-group-fix" ++ "" :=
    String.append_empty.symm
  unfold column columnDivision at all
  simp only [scaffolded_append_iff,scaffolded_nest_iff,List.forall_mem_cons] at all
  have opening := all.1.2.1.1.1
  rw [String.append_assoc] at opening
  generalize (columnWidth ⟨e,defaults⟩ siblings).columnClass = name at opening plain ⊢
  cases found : Styled.filled? ⟨e,defaults⟩ "css-class" with
  | some more =>
    simp only [found,spaced,division_of_plain plain] at opening
    exact ⟨_,opening⟩
  | none =>
    simp only [found] at opening
    rw [bare,division_of_plain plain] at opening
    exact ⟨_,opening⟩

/-- A column of the body of a document, in its band. -/
def IsColumnOf (root band e : Element) : Prop :=
  e.tag = .column ∧ ∃ body ∈ root.child? .body, ∃ above, Element.Stands body (band :: above) e

/-- The width that a column of a band gets in a document. -/
def widthIn (root band e : Element) : Width := columnWidth ⟨e, Defaults.ofHead (root.child? .head)⟩ (columnCount band)

/-- The style for wide screens, if there are any rules. -/
def columnQuery (breakpoint : String) (rules : List (String × String)) : List Fragment :=
  if rules.isEmpty then [] else [.line (columnStyle breakpoint rules)]

private theorem columnQuery_eq_nil_iff {breakpoint : String} {rules : List (String × String)} :
    columnQuery breakpoint rules = [] ↔ rules = [] := by
  cases rules <;> simp [columnQuery]

private theorem exists_around_columnQuery (matter : HeadMatter) : ∃ start finish, ∀ rules,
    headPart matter rules = .block "<head>" (start ++ columnQuery matter.breakpoint rules ++ finish) "</head>" := by
  have apart (rules : List (String × String)) (before styles raws : List Fragment) :
      Fragment.block "<head>" (before ++ columnQuery matter.breakpoint rules ++ styles ++ raws) "</head>" =
        .block "<head>" (before ++ columnQuery matter.breakpoint rules ++ (styles ++ raws)) "</head>" := by
    rw [List.append_assoc]
  exact ⟨_,_,fun rules => apart rules _ _ _⟩

def ruleText (name value : String) : String :=
  "." ++ name ++ " \x7b width:" ++ value ++ " !important; max-width:" ++ value ++ "; \x7d"

private theorem ruleText_isInfix {breakpoint : String} {rules : List (String × String)} (member : (name, value) ∈ rules) :
    (ruleText name value).toList <:+: (columnStyle breakpoint rules).toList := by
  have spelled : columnStyle breakpoint rules = "<style type=\"text/css\">" ++ ("@media only screen and (min-width:" ++
      breakpoint ++ ") \x7b " ++ " ".intercalate (rules.map fun rule => ruleText rule.1 rule.2) ++ " \x7d") ++ "</style>" := rfl
  have listed : ruleText name value ∈ rules.map fun rule => ruleText rule.1 rule.2 :=
    List.mem_map.mpr ⟨(name, value),member,rfl⟩
  have within : (ruleText name value).toList <:+: (" ".intercalate (rules.map fun rule => ruleText rule.1 rule.2)).toList := by
    rw [String.toList_intercalate]
    exact infix_intercalate (List.mem_map_of_mem listed)
  rw [spelled]
  simp only [String.toList_append]
  exact ((within.trans (List.suffix_append _ _).isInfix).trans (List.prefix_append _ _).isInfix).trans (List.infix_append _ _ _)

private theorem query_of_page (all : Scaffolded P (page root)) :
    Scaffolded P (columnQuery (HeadMatter.ofHead (root.child? .head)).breakpoint
      (columnRules (columnWidths (Defaults.ofHead (root.child? .head)) (root.child? .body)))) := by
  have both (head body : Fragment) : [head,body] = [head] ++ [body] := rfl
  obtain ⟨start,finish,around⟩ := exists_around_columnQuery (HeadMatter.ofHead (root.child? .head))
  unfold page at all
  rw [scaffolded_line_iff,scaffolded_block_iff,both,scaffolded_append_iff,around,scaffolded_block_iff,scaffolded_append_iff,
    scaffolded_append_iff] at all
  obtain ⟨_,_,⟨⟨_,⟨⟨_,query⟩,_⟩,_⟩,_⟩,_⟩ := all
  exact query

private theorem isColumnOf_iff (made : root.Assembled source none) : IsColumnOf root band e ↔
    ∃ body ∈ root.child? .body, IsBandOf body band ∧ e ∈ band.children ∧ e.tag = .column := by
  constructor
  · rintro ⟨isColumn,body,found,stands⟩
    obtain ⟨isBody,member⟩ := tag_of_child? found
    obtain ⟨isBand,inside⟩ := (stands_column_iff (made.inside member) isBody isColumn).mp stands
    exact ⟨body,found,isBand,inside,isColumn⟩
  · rintro ⟨body,found,isBand,inside,isColumn⟩
    obtain ⟨isBody,member⟩ := tag_of_child? found
    exact ⟨isColumn,body,found,(stands_column_iff (made.inside member) isBody isColumn).mpr ⟨isBand,inside⟩⟩

private theorem mem_widths_iff (made : root.Assembled source none) {width : Width} :
    width ∈ columnWidths (Defaults.ofHead (root.child? .head)) (root.child? .body) ↔
      ∃ band e, IsColumnOf root band e ∧ widthIn root band e = width := by
  simp only [isColumnOf_iff made]
  cases root.child? .body with
  | none => simp [columnWidths]
  | some body =>
    simp only [mem_columnWidths_iff,mem_bandWidths_iff,Option.mem_def,Option.some.injEq,exists_eq_left']
    constructor
    · rintro ⟨band,isBand,e,inside,isColumn,same⟩
      exact ⟨band,e,⟨isBand,inside,isColumn⟩,same⟩
    · rintro ⟨band,e,⟨isBand,inside,isColumn⟩,same⟩
      exact ⟨band,isBand,e,inside,isColumn,same⟩

private theorem rule_in_page (all : Scaffolded (·.toList <:+: text) (page root)) (listed : (name, value) ∈
    columnRules (columnWidths (Defaults.ofHead (root.child? .head)) (root.child? .body))) :
    (ruleText name value).toList <:+: text := by
  have query := query_of_page all
  rw [columnQuery,if_neg (by simpa using List.ne_nil_of_mem listed),scaffolded_line_iff] at query
  exact (ruleText_isInfix listed).trans query.1

private theorem classed_in_page (made : root.Assembled source none) (isColumn : IsColumnOf root band e)
    (all : Scaffolded P (page root)) : ∃ rest,
      P ("<div class=\"" ++ ((widthIn root band e).columnClass ++ " mj-outlook-group-fix") ++ rest) := by
  obtain ⟨body,found,isBand,inside,kind⟩ := (isColumnOf_iff made).mp isColumn
  obtain ⟨container,banded⟩ := band_of_bodyContent (bodyContent_of_page all found) isBand
  obtain ⟨inner,own⟩ := column_of_band banded inside kind
  exact classed_of_column own

/-- The head of a page has a style for wide screens exactly if there is a column in the body. It has one rule for each class of
a column, in ascending order, and no others; the rule states the width of all columns of the class, as columns have the same
class exactly if they have the same width. In the page each column carries its class, and the rule for it is written out. -/
theorem columns_are_ruled (source : String) (root : Element) (read : Element.ofSource source.toList = .ok root) :
    let matter := HeadMatter.ofHead (root.child? .head)
    ∃ opening start finish rules,
      page root = [.line "<!doctype html>", .block opening [headPart matter rules, bodyOf root] "</html>"] ∧
      (∀ others, headPart matter others =
        .block "<head>" (start ++ columnQuery matter.breakpoint others ++ finish) "</head>") ∧
      (columnQuery matter.breakpoint rules ≠ [] ↔ ∃ band e, IsColumnOf root band e) ∧
      Keyed.Ascending rules ∧
      (∀ name value, (name, value) ∈ rules ↔ ∃ band e, IsColumnOf root band e ∧
        (widthIn root band e).columnClass = name ∧ (widthIn root band e).value = value) ∧
      (∀ band e other f, IsColumnOf root band e → IsColumnOf root other f →
        ((widthIn root band e).columnClass = (widthIn root other f).columnClass ↔
          (widthIn root band e).value = (widthIn root other f).value)) ∧
      ∀ band e, IsColumnOf root band e → ∀ layout : Layout,
        (∃ rest, ("<div class=\"" ++ ((widthIn root band e).columnClass ++ " mj-outlook-group-fix") ++ rest).toList <:+:
          (layout.set (page root)).toList) ∧
        (ruleText (widthIn root band e).columnClass (widthIn root band e).value).toList <:+:
          (layout.set (page root)).toList := by
  intro matter
  have made := assembled_of_source read
  obtain ⟨start,finish,around⟩ := exists_around_columnQuery matter
  have ruled (name value : String) :
      (name, value) ∈ columnRules (columnWidths (Defaults.ofHead (root.child? .head)) (root.child? .body)) ↔
        ∃ band e, IsColumnOf root band e ∧ (widthIn root band e).columnClass = name ∧ (widthIn root band e).value = value := by
    rw [mem_columnRules_iff]
    simp only [mem_widths_iff made]
    constructor
    · rintro ⟨_,⟨band,e,isColumn,rfl⟩,named,shown⟩
      exact ⟨band,e,isColumn,named,shown⟩
    · rintro ⟨band,e,isColumn,named,shown⟩
      exact ⟨_,⟨band,e,isColumn,rfl⟩,named,shown⟩
  have own {band e : Element} (isColumn : IsColumnOf root band e) :
      ((widthIn root band e).columnClass, (widthIn root band e).value) ∈
        columnRules (columnWidths (Defaults.ofHead (root.child? .head)) (root.child? .body)) :=
    (ruled _ _).mpr ⟨band,e,isColumn,rfl,rfl⟩
  refine ⟨_,start,finish,_,rfl,around,?_,ascending_columnRules _,ruled,fun band e other f _ _ => columnClass_eq_iff _ _,
    fun band e isColumn layout => ?_⟩
  · rw [ne_eq,columnQuery_eq_nil_iff,List.eq_nil_iff_forall_not_mem]
    push Not
    constructor
    · rintro ⟨⟨name,value⟩,member⟩
      obtain ⟨band,e,isColumn,_⟩ := (ruled name value).mp member
      exact ⟨band,e,isColumn⟩
    · rintro ⟨band,e,isColumn⟩
      exact ⟨_,own isColumn⟩
  · have all := scaffolded_set layout (page root)
    exact ⟨classed_in_page made isColumn all,rule_in_page all (own isColumn)⟩

def twoColumns : Element :=
  ⟨.band, [], [⟨.column, [], [], "", 27⟩, ⟨.column, [], [], "", 50⟩], "", 15⟩

def twinDocument : Element := ⟨.document, [], [⟨.body, [], [twoColumns], "", 6⟩], "", 0⟩

def twinSource : String :=
  "<mjml><mj-body><mj-section><mj-column></mj-column><mj-column></mj-column></mj-section></mj-body></mjml>"

private theorem ofSource_twinSource : Element.ofSource twinSource.toList = .ok twinDocument := by with_unfolding_all rfl

def halfWidth : Width := .percent (100.0 / Decimal.ofNat 2)

private theorem widthIn_twinDocument (isColumn : IsColumnOf twinDocument band e) : widthIn twinDocument band e = halfWidth := by
  obtain ⟨body,found,⟨isBand,place⟩,inside,_⟩ := (isColumnOf_iff (assembled_of_source ofSource_twinSource)).mp isColumn
  cases found
  have same : band = twoColumns := by
    rcases place with direct | ⟨outer,listed,isWrapper,_⟩
    · exact List.mem_singleton.mp direct
    · rw [List.mem_singleton.mp listed] at isWrapper
      contradiction
  subst same
  rcases List.mem_cons.mp inside with rfl | last
  · rfl
  · rw [List.mem_singleton.mp last]
    rfl

/-- Columns of one width have one rule. -/
theorem columns_are_ruled_for_twins : Element.ofSource twinSource.toList = .ok twinDocument ∧ ∃ opening,
    page twinDocument = [.line "<!doctype html>",
      .block opening [headPart .initial [(halfWidth.columnClass, halfWidth.value)], bodyOf twinDocument] "</html>"] := by
  obtain ⟨opening,start,finish,rules,shape,_,shown,ascending,ruled,_⟩ :=
    columns_are_ruled twinSource twinDocument ofSource_twinSource
  have only : ∀ rule ∈ rules, rule = (halfWidth.columnClass, halfWidth.value) := by
    rintro ⟨name,value⟩ member
    obtain ⟨band,e,isColumn,rfl,rfl⟩ := (ruled name value).mp member
    rw [widthIn_twinDocument isColumn]
  have stands : IsColumnOf twinDocument twoColumns ⟨.column, [], [], "", 27⟩ :=
    ⟨rfl,_,rfl,_,(Element.Stands.root.child List.mem_cons_self).child List.mem_cons_self⟩
  refine ⟨ofSource_twinSource,opening,?_⟩
  cases rules with
  | nil => exact absurd rfl (shown.mpr ⟨_,_,stands⟩)
  | cons rule rest =>
    obtain ⟨least,_⟩ := Keyed.ascending_cons_iff.mp ascending
    cases rest with
    | nil =>
      rw [only rule List.mem_cons_self] at shape
      exact shape
    | cons other more =>
      have below := least other List.mem_cons_self
      rw [only rule List.mem_cons_self,only other (by simp)] at below
      exact absurd below (String.lt_irrefl _)

end Letterpress.Html
