import Letterpress.Proofs.Keyed
import Letterpress.Setting.Merge
import Mathlib.Data.List.TakeWhile

/-! Settings laid over settings, seen from one place: a name in a section. What is laid over a table either leaves the place alone
or puts a value there; so after any number of layers the place has the last value that one of them gives it. -/
namespace Letterpress.Setting

variable {P : Setting → Prop} {title name first key : String} {legs : List Leg} {value root target part : Setting}
  {layer members incoming : List (String × Setting)} {origin : Option String}

def isTable : Setting → Bool
  | .table .. => true
  | _ => false

/-- What stands at a place. -/
def value? (title name : String) (root : Setting) : Option Setting :=
  (Keyed.lookup? title root.asTable.2).bind fun part => Keyed.lookup? name part.asTable.2

/-- What a value under a path puts at a place: the section as a whole leads there, and so does the path to the place. -/
def says? (title name : String) : List Leg → Setting → Option Setting
  | [.member first], value => if first = title then Keyed.lookup? name value.asTable.2.reverse else none
  | [.member first, .member second], value => if first = title ∧ second = name then some value else none
  | _, _ => none

/-- The last that a layer says about a place. -/
def said? (title name : String) : List (String × Setting) → Option Setting
  | [] => none
  | (key, value) :: rest => (said? title name rest).or (says? title name (path key) value)

/-- A value under a path leaves a place alone, or what it puts there has a property. In particular the section stays a table. -/
inductive Fits (P : Setting → Prop) (title name : String) : List Leg → Setting → Prop
  | elsewhere {first : String} {legs : List Leg} {value : Setting} (other : first ≠ title) :
    Fits P title name (.member first :: legs) value
  | part {origin : Option String} {members : List (String × Setting)} (holds : ∀ value, (name, value) ∈ members → P value) :
    Fits P title name [.member title] (.table origin members)
  | beside {second : String} {legs : List Leg} {value : Setting} (other : second ≠ name) :
    Fits P title name (.member title :: .member second :: legs) value
  | place {value : Setting} (holds : P value) : Fits P title name [.member title, .member name] value

private theorem name?_eq_some {s rest : List Char} {leg : Leg} (read : name? s = some (leg, rest)) :
    leg = .member (String.ofList (s.takeWhile isNameChar)) ∧ s.takeWhile isNameChar ≠ [] := by
  unfold name? at read
  split at read
  · contradiction
  · next something =>
    cases read
    exact ⟨rfl,fun empty => something (List.isEmpty_iff.mpr empty)⟩

private theorem path_of_name {s : List Char} (something : s ≠ []) (all : ∀ c ∈ s, isNameChar c = true) :
    path (String.ofList s) = [.member (String.ofList s)] := by
  have whole : name? s = some (.member (String.ofList s), []) := by
    rw [name?,List.takeWhile_eq_self_iff.mpr all,List.dropWhile_eq_nil_iff.mpr all,if_neg (by simpa using something)]
  rw [path,String.toList_ofList,whole]
  rfl

/-- A path begins with a name, and this name by itself is the path to what it names. -/
theorem exists_of_path (key : String) : ∃ first legs, path key = .member first :: legs ∧ path first = [.member first] := by
  have opened : path key = [.member key] ∨ ∃ rest, name? key.toList = some rest ∧ ∃ legs, path key = rest.1 :: legs := by
    unfold path
    cases named : name? key.toList with
    | none => exact .inl rfl
    | some rest =>
      cases further : legs? rest.2.length rest.2 with
      | none => exact .inl (by simp [further])
      | some legs => exact .inr ⟨rest,rfl,legs,by simp [further]⟩
  rcases opened with whole | ⟨⟨leg,rest⟩,named,legs,whole⟩
  · exact ⟨key,[],whole,whole⟩
  · obtain ⟨rfl,something⟩ := name?_eq_some named
    refine ⟨_,legs,whole,path_of_name something ?_⟩
    intro c member
    exact List.all_eq_true.mp (List.all_takeWhile) c member

private theorem eq_append_of_name? {s rest : List Char} (read : name? s = some (.member name, rest)) :
    s = name.toList ++ rest := by
  unfold name? at read
  split at read
  · contradiction
  · cases read
    rw [String.toList_ofList,List.takeWhile_append_dropWhile]

/-- A path goes on with nothing, with a name behind a point, or with a position. -/
theorem cases_of_legs? {fuel : Nat} {s : List Char} (read : legs? fuel s = some legs) : s = [] ∧ legs = [] ∨
    (∃ rest after leg further less, s = '.' :: rest ∧ name? rest = some (leg, after) ∧ legs? less after = some further ∧
      legs = leg :: further) ∨ ∃ position further, legs = .item position :: further := by
  unfold legs? at read
  split at read
  · cases read
    exact .inl ⟨rfl,rfl⟩
  · contradiction
  · simp only [Option.bind_eq_bind,Option.bind_eq_some_iff,Option.pure_def,Option.some.injEq] at read
    obtain ⟨⟨leg,after⟩,named,further,on,same⟩ := read
    exact .inr (.inl ⟨_,after,leg,further,_,rfl,named,on,same.symm⟩)
  · simp only [Option.bind_eq_bind,Option.bind_eq_some_iff] at read
    obtain ⟨position,_,read⟩ := read
    split at read
    · simp only [Option.bind_eq_some_iff,Option.pure_def,Option.some.injEq] at read
      obtain ⟨further,_,same⟩ := read
      exact .inr (.inr ⟨position,further,same.symm⟩)
    · contradiction
  · contradiction

private theorem eq_of_legs? {fuel : Nat} {s : List Char} (read : legs? fuel s = some [.member name]) :
    s = '.' :: name.toList := by
  rcases cases_of_legs? read with ⟨_,nothing⟩ | ⟨rest,after,leg,further,less,rfl,named,on,same⟩ | ⟨position,further,same⟩
  · contradiction
  · cases same
    rcases cases_of_legs? on with ⟨rfl,_⟩ | ⟨_,_,_,_,_,_,_,_,nothing⟩ | ⟨_,_,nothing⟩
    · rw [eq_append_of_name? named,List.append_nil]
    · contradiction
    · contradiction
  · simp at same

/-- Only one key leads to a place by name. -/
theorem eq_of_path (leads : path key = [.member title, .member name]) : key = title ++ "." ++ name := by
  unfold path at leads
  cases named : name? key.toList with
  | none => simp [named] at leads
  | some read =>
    obtain ⟨leg,rest⟩ := read
    cases further : legs? rest.length rest with
    | none => simp [named,further] at leads
    | some legs =>
      simp only [named,further,Option.bind_eq_bind,Option.bind_some,Option.pure_def,Option.getD_some] at leads
      cases leads
      rw [← String.toList_inj,eq_append_of_name? named,eq_of_legs? further]
      simp

private theorem says?_elsewhere (other : first ≠ title) (name : String) (legs : List Leg) (value : Setting) :
    says? title name (.member first :: legs) value = none := by
  unfold says?
  split
  · simp_all
  · simp_all
  · rfl

private theorem says?_beside {second : String} (other : second ≠ name) (title : String) (legs : List Leg) (value : Setting) :
    says? title name (.member title :: .member second :: legs) value = none := by
  unfold says?
  split
  · simp_all
  · simp_all
  · rfl

private theorem says?_place (title name : String) (value : Setting) :
    says? title name [.member title, .member name] value = some value := if_pos ⟨rfl,rfl⟩

private theorem asTable_eq {members : List (String × Setting)} :
    (Setting.table origin members).asTable = (origin, members) := rfl

private theorem put_of_not_isTable (plain : value.isTable = false) (key : String) (members : List (String × Setting)) :
    put key members value = Keyed.insert key value members := by
  cases value with
  | scalar => simp only [put]
  | list => simp only [put]
  | table => contradiction

private theorem put_table (key : String) (members incoming : List (String × Setting)) :
    put key members (.table origin incoming) =
    Keyed.insert key (mergeAll ((Keyed.lookup? key members).getD (.table none [])) incoming) members := by
  simp only [put]

private theorem at_member (value root : Setting) (first : String) :
    at_ value [.member first] root = .table root.asTable.1 (put first root.asTable.2 value) := by
  rw [at_]

private theorem at_member_cons (value root : Setting) (first : String) (leg : Leg) (legs : List Leg) :
    at_ value (.member first :: leg :: legs) root = .table root.asTable.1
      (Keyed.insert first (at_ value (leg :: legs) ((Keyed.lookup? first root.asTable.2).getD default)) root.asTable.2) := by
  rw [at_]
  exact List.cons_ne_nil leg legs

/-- Of the members put into a table the last with a name stays, and the others leave that name alone. -/
theorem lookup?_mergeAll (plain : ∀ value, (name, value) ∈ incoming → value.isTable = false) (target : Setting) :
    Keyed.lookup? name (mergeAll target incoming).asTable.2 =
      (Keyed.lookup? name incoming.reverse).or (Keyed.lookup? name target.asTable.2) := by
  induction incoming generalizing target with
  | nil => rw [mergeAll]; rfl
  | cons member rest ih =>
    obtain ⟨key,value⟩ := member
    have later : ∀ value, (name, value) ∈ rest → value.isTable = false := by
      intro value member
      exact plain value (List.mem_cons_of_mem _ member)
    rw [mergeAll,ih later,List.reverse_cons,Keyed.lookup?_append,Option.or_assoc,asTable_eq]
    congr 1
    by_cases same : name = key
    · subst same
      rw [put_of_not_isTable (plain value List.mem_cons_self),Keyed.lookup?_insert_self]
      simp [Keyed.lookup?]
    · rw [lookup?_put_of_ne same]
      simp [Keyed.lookup?,same]

/-- A value under a path that fits a place stands there afterwards if it leads there, and else what stood there before. -/
theorem value?_at_ (plain : ∀ value, P value → value.isTable = false) (fits : Fits P title name legs value) (root : Setting) :
    value? title name (at_ value legs root) = (says? title name legs value).or (value? title name root) := by
  cases fits with
  | @elsewhere first legs _ other =>
    rw [says?_elsewhere other,Option.none_or]
    cases legs with
    | nil => simp only [at_member,value?,asTable_eq,lookup?_put_of_ne (Ne.symm other)]
    | cons leg legs => simp only [at_member_cons,value?,asTable_eq,Keyed.lookup?_insert_of_ne (Ne.symm other)]
  | @part origin members holds =>
    have merged := lookup?_mergeAll (fun value member => plain value (holds value member))
      ((Keyed.lookup? title root.asTable.2).getD (.table none []))
    simp only [at_member,value?,asTable_eq,put_table,Keyed.lookup?_insert_self,Option.bind_some,merged,says?,if_true]
    cases Keyed.lookup? title root.asTable.2 with
    | none => rfl
    | some part => rfl
  | @beside second legs _ other =>
    have apart (part : Setting) : Keyed.lookup? name (at_ value (.member second :: legs) part).asTable.2 =
        Keyed.lookup? name part.asTable.2 := by
      cases legs with
      | nil => rw [at_member,asTable_eq,lookup?_put_of_ne (Ne.symm other)]
      | cons leg legs => rw [at_member_cons,asTable_eq,Keyed.lookup?_insert_of_ne (Ne.symm other)]
    simp only [at_member_cons,value?,asTable_eq,Keyed.lookup?_insert_self,Option.bind_some,apart,says?_beside other,Option.none_or]
    cases Keyed.lookup? title root.asTable.2 with
    | none => rfl
    | some part => rfl
  | place holds =>
    simp only [at_member_cons,at_member,value?,asTable_eq,Keyed.lookup?_insert_self,Option.bind_some,
      put_of_not_isTable (plain value holds),says?_place,Option.some_or]

/-- After a layer a place has what the layer says about it last, or else what it had before. -/
theorem value?_overlay (plain : ∀ value, P value → value.isTable = false)
    (fits : ∀ entry ∈ layer, Fits P title name (path entry.1) entry.2) (root : Setting) :
    value? title name (overlay root layer) = (said? title name layer).or (value? title name root) := by
  induction layer generalizing root with
  | nil => rfl
  | cons entry rest ih =>
    obtain ⟨first,later⟩ := List.forall_mem_cons.mp fits
    have step : overlay root (entry :: rest) = overlay (at_ entry.2 (path entry.1) root) rest := rfl
    rw [step,ih later,value?_at_ plain first,said?,Option.or_assoc]

theorem said?_append (title name : String) (before after : List (String × Setting)) :
    said? title name (before ++ after) = (said? title name after).or (said? title name before) := by
  induction before with
  | nil => exact Option.or_none.symm
  | cons entry rest ih => rw [List.cons_append,said?,ih,said?,Option.or_assoc]

private theorem says?_holds (fits : Fits P title name legs value) {said : Setting}
    (saying : says? title name legs value = some said) : P said := by
  cases fits with
  | elsewhere other =>
    rw [says?_elsewhere other] at saying
    contradiction
  | part holds =>
    rw [says?,if_pos rfl] at saying
    exact holds said (List.mem_reverse.mp (Keyed.mem_of_lookup? saying))
  | beside other =>
    rw [says?_beside other] at saying
    contradiction
  | place holds =>
    rw [says?_place] at saying
    cases saying
    exact holds

theorem said?_holds (fits : ∀ entry ∈ layer, Fits P title name (path entry.1) entry.2)
    (saying : said? title name layer = some value) : P value := by
  induction layer with
  | nil => contradiction
  | cons entry rest ih =>
    obtain ⟨first,later⟩ := List.forall_mem_cons.mp fits
    rw [said?,Option.or_eq_some_iff] at saying
    rcases saying with after | ⟨_,here⟩
    · exact ih later after
    · exact says?_holds first here

/-- A layer without tables says what stands under the one key that leads to a place. -/
theorem said?_eq_lookup? (leads : path key = [.member title, .member name]) (plain : ∀ entry ∈ layer, entry.2.isTable = false)
    (fits : ∀ entry ∈ layer, Fits P title name (path entry.1) entry.2) (distinct : (layer.map (·.1)).Nodup) :
    said? title name layer = Keyed.lookup? key layer := by
  induction layer with
  | nil => rfl
  | cons entry rest ih =>
    obtain ⟨other,value⟩ := entry
    obtain ⟨single,later⟩ := List.forall_mem_cons.mp plain
    obtain ⟨here,there⟩ := List.forall_mem_cons.mp fits
    obtain ⟨absent,apart⟩ := List.nodup_cons.mp distinct
    rw [said?,ih later there apart,Keyed.lookup?]
    by_cases same : key = other
    · subst same
      rw [(Keyed.lookup?_eq_none_iff key rest).mpr absent,leads,says?_place,if_pos rfl,Option.none_or]
    · have silent : says? title name (path other) value = none := by
        generalize whole : path other = legs at here
        cases here with
        | elsewhere elsewhere => exact says?_elsewhere elsewhere name _ _
        | part => exact absurd single (by simp [isTable])
        | beside beside => exact says?_beside beside title _ _
        | place => exact absurd ((eq_of_path leads).trans (eq_of_path whole).symm) same
      rw [silent,if_neg same,Option.or_none]

private theorem ascending_put (ascending : Keyed.Ascending members) (key : String) (value : Setting) :
    Keyed.Ascending (put key members value) := by
  cases value with
  | table => rw [put_table]; exact ascending.insert key _
  | scalar => rw [put_of_not_isTable rfl]; exact ascending.insert key _
  | list => rw [put_of_not_isTable rfl]; exact ascending.insert key _

/-- An ordered table is one whose keys are in order. -/
def IsOrdered (s : Setting) : Prop := s.isTable = true ∧ Keyed.Ascending s.asTable.2

private theorem isOrdered_mergeAll (ordered : target.IsOrdered) (incoming : List (String × Setting)) :
    (mergeAll target incoming).IsOrdered := by
  induction incoming generalizing target with
  | nil => rw [mergeAll]; exact ordered
  | cons member rest ih =>
    rw [mergeAll]
    exact ih ⟨rfl,ascending_put ordered.2 _ _⟩

private theorem isOrdered_at_member (ascending : Keyed.Ascending root.asTable.2) (value : Setting) (first : String)
    (legs : List Leg) : (at_ value (.member first :: legs) root).IsOrdered := by
  cases legs with
  | nil => rw [at_member]; exact ⟨rfl,ascending_put ascending _ _⟩
  | cons leg legs => rw [at_member_cons]; exact ⟨rfl,ascending.insert _ _⟩

private theorem exists_at_eq_insert (value root : Setting) (first : String) (legs : List Leg) : ∃ part,
    at_ value (.member first :: legs) root = .table root.asTable.1 (Keyed.insert first part root.asTable.2) := by
  cases legs with
  | cons leg legs => exact ⟨_,at_member_cons value root first leg legs⟩
  | nil =>
    rw [at_member]
    cases value with
    | table => exact ⟨_,by rw [put_table]⟩
    | scalar => exact ⟨_,by rw [put_of_not_isTable rfl]⟩
    | list => exact ⟨_,by rw [put_of_not_isTable rfl]⟩

private theorem isOrdered_part (fits : Fits P title name legs value)
    (ordered : ∀ part, Keyed.lookup? title root.asTable.2 = some part → part.IsOrdered)
    (found : Keyed.lookup? title (at_ value legs root).asTable.2 = some part) : part.IsOrdered := by
  have inner : Keyed.Ascending ((Keyed.lookup? title root.asTable.2).getD default).asTable.2 := by
    cases there : Keyed.lookup? title root.asTable.2 with
    | none => exact Keyed.ascending_nil
    | some part => exact (ordered part there).2
  cases fits with
  | @elsewhere first legs _ other =>
    obtain ⟨inserted,same⟩ := exists_at_eq_insert value root first legs
    rw [same,asTable_eq,Keyed.lookup?_insert_of_ne (Ne.symm other)] at found
    exact ordered part found
  | @part origin members holds =>
    rw [at_member,asTable_eq,put_table,Keyed.lookup?_insert_self] at found
    cases found
    apply isOrdered_mergeAll
    cases there : Keyed.lookup? title root.asTable.2 with
    | none => exact ⟨rfl,Keyed.ascending_nil⟩
    | some part => exact ordered part there
  | beside other =>
    rw [at_member_cons,asTable_eq,Keyed.lookup?_insert_self] at found
    cases found
    exact isOrdered_at_member inner value _ _
  | place holds =>
    rw [at_member_cons,asTable_eq,Keyed.lookup?_insert_self] at found
    cases found
    exact isOrdered_at_member inner value _ _

/-- A table of settings as layers make it, seen from one section: its keys are in order and are names, and the section is a table
whose keys are in order too. -/
structure Tidy (title : String) (root : Setting) : Prop where
  ordered : root.IsOrdered
  named : ∀ member ∈ root.asTable.2, path member.1 = [.member member.1]
  part : ∀ part, Keyed.lookup? title root.asTable.2 = some part → part.IsOrdered

theorem tidy_empty (title : String) (origin : Option String) : Tidy title (.table origin []) where
  ordered := ⟨rfl,Keyed.ascending_nil⟩
  named := List.forall_mem_nil _
  part := by
    intro part found
    contradiction

private theorem Tidy.at_ (tidy : Tidy title root) (fits : Fits P title name (path key) value) :
    Tidy title (at_ value (path key) root) := by
  obtain ⟨first,legs,whole,single⟩ := exists_of_path key
  obtain ⟨inserted,same⟩ := exists_at_eq_insert value root first legs
  constructor
  · rw [whole]
    exact isOrdered_at_member tidy.ordered.2 value first legs
  · rw [whole,same]
    intro member among
    rcases Keyed.mem_of_mem_insert among with rfl | old
    · exact single
    · exact tidy.named member old
  · intro part
    exact isOrdered_part fits tidy.part

theorem Tidy.overlay (tidy : Tidy title root) (fits : ∀ entry ∈ layer, Fits P title name (path entry.1) entry.2) :
    Tidy title (overlay root layer) := by
  induction layer generalizing root with
  | nil => exact tidy
  | cons entry rest ih =>
    obtain ⟨first,later⟩ := List.forall_mem_cons.mp fits
    exact ih (tidy.at_ first) later

private theorem said?_of_named (named : ∀ member ∈ layer, path member.1 = [.member member.1])
    (distinct : (layer.map (·.1)).Nodup) : said? title name layer =
      (Keyed.lookup? title layer).bind fun part => Keyed.lookup? name part.asTable.2.reverse := by
  induction layer with
  | nil => rfl
  | cons member rest ih =>
    obtain ⟨key,value⟩ := member
    obtain ⟨single,later⟩ := List.forall_mem_cons.mp named
    obtain ⟨absent,apart⟩ := List.nodup_cons.mp distinct
    rw [said?,ih later apart,Keyed.lookup?,single,says?]
    by_cases same : title = key
    · subst same
      rw [(Keyed.lookup?_eq_none_iff title rest).mpr absent,if_pos rfl,if_pos rfl]
      rfl
    · rw [if_neg same,if_neg (Ne.symm same),Option.or_none]

/-- As a layer, a tidy table says what stands in it. -/
theorem Tidy.said?_eq (tidy : Tidy title root) (name : String) : said? title name root.asTable.2 = value? title name root := by
  rw [said?_of_named tidy.named tidy.ordered.2.nodup,value?]
  cases found : Keyed.lookup? title root.asTable.2 with
  | none => rfl
  | some part => exact Keyed.lookup?_reverse (tidy.part part found).2.nodup name

theorem exists_of_isTable (table : root.isTable = true) : ∃ origin, root = .table origin root.asTable.2 := by
  cases root with
  | table origin members => exact ⟨origin,rfl⟩
  | scalar => contradiction
  | list => contradiction

private theorem Tidy.fits (tidy : Tidy title root) (holds : ∀ value, value? title name root = some value → P value) :
    ∀ entry ∈ root.asTable.2, Fits P title name (path entry.1) entry.2 := by
  intro ⟨key,part⟩ among
  rw [tidy.named (key, part) among]
  by_cases same : key = title
  · subst same
    have found := (Keyed.lookup?_eq_some_iff tidy.ordered.2.nodup).mpr among
    have ordered := tidy.part part found
    obtain ⟨origin,whole⟩ := exists_of_isTable ordered.1
    rw [whole]
    apply Fits.part
    intro value member
    apply holds
    rw [value?,found]
    exact (Keyed.lookup?_eq_some_iff ordered.2.nodup).mpr member
  · exact .elsewhere same

/-- Layers may be put together first and then laid over a table. -/
theorem value?_overlay_overlay (plain : ∀ value, P value → value.isTable = false)
    (fits : ∀ entry ∈ layer, Fits P title name (path entry.1) entry.2) (origin : Option String) (root : Setting) :
    value? title name (overlay root (overlay (.table origin []) layer).asTable.2) =
      (said? title name layer).or (value? title name root) := by
  have tidy := (tidy_empty title origin).overlay fits
  have made := value?_overlay plain fits (.table origin [])
  have bare : value? title name (.table origin []) = none := rfl
  rw [bare,Option.or_none] at made
  have again : ∀ entry ∈ (overlay (.table origin []) layer).asTable.2, Fits P title name (path entry.1) entry.2 := by
    apply tidy.fits
    intro value found
    exact said?_holds fits (made.symm.trans found)
  rw [value?_overlay plain again,tidy.said?_eq,made]

theorem tidy_overlay_overlay (plain : ∀ value, P value → value.isTable = false)
    (fits : ∀ entry ∈ layer, Fits P title name (path entry.1) entry.2) (tidy : Tidy title root) (origin : Option String) :
    Tidy title (overlay root (overlay (.table origin []) layer).asTable.2) := by
  have made := value?_overlay plain fits (.table origin [])
  apply tidy.overlay
  apply ((tidy_empty title origin).overlay fits).fits
  intro value found
  rw [made] at found
  exact said?_holds fits ((Option.or_eq_some_iff.mp found).resolve_right fun impossible => nomatch impossible.2)

end Letterpress.Setting
