import Letterpress.Proofs.Settings.Keys

/-! Settings in layers. Whatever a layer sets besides, a setting is what the strongest layer that sets it says. Layers are the
environment, the file for the mode, the file with defaults and what is built in, in this order. -/
namespace Letterpress
open Setting (Answers Fits)

variable {layer : List (String × Setting)} {environment : Environment} {disk : Disk}

def SettingKey.variable (key : SettingKey) : String :=
  Text.upper ("mailer__" ++ key.title ++ "__" ++ key.name)

/-- What the last of the variables for a key sets it to. -/
def Environment.given? (environment : Environment) (key : SettingKey) : Option Setting :=
  (environment.reverse.find? fun pair => Environment.key? pair.1 = some key.dotted).map fun pair =>
    Environment.setting key.dotted pair.2

theorem SettingKey.key?_variable (key : SettingKey) : Environment.key? key.variable = some key.dotted := by
  cases key <;> decide +kernel

private theorem Environment.setting_isTable (key value : String) : (Environment.setting key value).isTable = false := by
  rw [setting]
  grind [Setting.isTable]

theorem Environment.lookup?_settings (environment : Environment) (key : SettingKey) :
    Keyed.lookup? key.dotted environment.settings = environment.given? key := by
  rw [settings,Keyed.lookup?_ofList,← List.filterMap_reverse,given?]
  induction environment.reverse with
  | nil => rfl
  | cons pair rest ih =>
    obtain ⟨name,value⟩ := pair
    rw [List.filterMap_cons,List.find?_cons]
    cases named : Environment.key? name with
    | none => simpa [named] using ih
    | some other =>
      by_cases same : other = key.dotted
      · subst same
        simp [named,Keyed.lookup?]
      · simpa [named,Keyed.lookup?,same,Ne.symm same] using ih

private theorem Environment.lookup?_supply {name value : String} (set : Keyed.lookup? name environment = some value)
    (other written : String) : Keyed.lookup? name (environment.supply other written) = some value := by
  unfold supply
  split
  · exact set
  · rw [Keyed.lookup?_append,set,Option.some_or]

private theorem Environment.lookup?_readLines {name value : String} (set : Keyed.lookup? name environment = some value)
    (fuel : Nat) (s : List Char) : Keyed.lookup? name (environment.readLines fuel s) = some value := by
  induction fuel generalizing environment s with
  | zero => exact set
  | succ fuel ih =>
    unfold readLines
    split
    · exact set
    · exact ih set _
    · split
      · exact set
      · split
        · exact ih (lookup?_supply set _ _) _
        · exact set

/-- What is set in the environment already stays, whatever a file in the directory says. -/
theorem Environment.lookup?_within {name value : String} (set : Keyed.lookup? name environment = some value) (disk : Disk) :
    Keyed.lookup? name (environment.within disk) = some value := by
  unfold within
  split
  · exact lookup?_readLines set _ _
  · exact set

/-- A layer whose values can be read as what the keys are for. It may say other things, too. -/
def WellTyped (layer : List (String × Setting)) : Prop :=
  ∀ key : SettingKey, ∀ entry ∈ layer, Fits key.Reads key.title key.name (Setting.path entry.1) entry.2

/-- The last that a layer sets a key to. -/
def SettingKey.said? (key : SettingKey) (layer : List (String × Setting)) : Option Setting :=
  Setting.said? key.title key.name layer

private theorem Environment.said?_settings (typed : WellTyped environment.settings) (key : SettingKey) :
    key.said? environment.settings = environment.given? key := by
  have ascending : Keyed.Ascending environment.settings := Keyed.ascending_ofList _
  have plain : ∀ entry ∈ environment.settings, entry.2.isTable = false := by
    intro entry member
    obtain ⟨⟨_,value⟩,_,same⟩ := List.mem_filterMap.mp (Keyed.mem_of_mem_ofList member)
    obtain ⟨other,_,rfl⟩ := Option.map_eq_some_iff.mp same
    exact setting_isTable other value
  rw [SettingKey.said?,Setting.said?_eq_lookup? key.path_dotted plain (typed key) ascending.nodup,lookup?_settings]

private theorem SettingKey.isTable_of_reads {key : SettingKey} {s : Setting} (reads : key.Reads s) : s.isTable = false := by
  obtain ⟨value,read⟩ := reads
  cases s with
  | scalar => rfl
  | list => rfl
  | table =>
    cases key <;> contradiction

theorem builtInSettings_eq : builtInSettings = [(SettingKey.host.dotted, .ofText "0.0.0.0"), (SettingKey.port.dotted, .ofNat 8080),
    (SettingKey.backend.dotted, .ofText "file"), (SettingKey.root.dotted, .ofText "templates"),
    (SettingKey.transport.dotted, .ofText "log")] := rfl

private theorem wellTyped_builtIn : WellTyped builtInSettings := by
  intro key entry member
  simp only [builtInSettings_eq,List.mem_cons,List.not_mem_nil,or_false] at member
  rcases member with rfl | rfl | rfl | rfl | rfl
  · exact SettingKey.fits_dotted ⟨_,rfl⟩ key
  · exact SettingKey.fits_dotted ⟨8080,rfl⟩ key
  · exact SettingKey.fits_dotted ⟨_,rfl⟩ key
  · exact SettingKey.fits_dotted ⟨_,rfl⟩ key
  · exact SettingKey.fits_dotted ⟨_,rfl⟩ key

/-- The settings that others are laid over say what settings are by themselves. -/
theorem SettingKey.reading_builtIn {key : SettingKey} {s : Setting} (said : key.said? builtInSettings = some s) :
    key.reading s = .ok (key.of {}) := by
  simp only [builtInSettings_eq,said?,Setting.said?,says?_dotted,Option.none_or] at said
  cases key with
  | host | port | backend | root | transport =>
    cases said
    rfl
  | _ => contradiction

/-- Settings put together from a layer that is well-typed. -/
theorem Settings.exists_of_wellTyped (typed : WellTyped layer) : ∃ settings,
    Settings.reading (((Setting.table none []).overlay builtInSettings).overlay ((Setting.table none []).overlay layer).asTable.2) =
      .ok settings ∧ ∀ key : SettingKey, Answers key.reading (key.of {}) (key.said? layer) (key.of settings) := by
  generalize built : (Setting.table none []).overlay builtInSettings = base
  have plain (key : SettingKey) (s : Setting) : key.Reads s → s.isTable = false := SettingKey.isTable_of_reads
  have under (key : SettingKey) : base.value? key.title key.name = key.said? builtInSettings := by
    rw [← built,Setting.value?_overlay (plain key) (wellTyped_builtIn key)]
    exact Option.or_none
  have tidy (key : SettingKey) : Setting.Tidy key.title base := by
    rw [← built]
    exact (Setting.tidy_empty _ _).overlay (wellTyped_builtIn key)
  have place (key : SettingKey) := Setting.value?_overlay_overlay (plain key) (typed key) none base
  have tidied (key : SettingKey) := Setting.tidy_overlay_overlay (plain key) (typed key) (tidy key) none
  obtain ⟨settings,read,answered⟩ := Settings.exists_of_reads (tidied .host).ordered.1 (fun key => (tidied key).hasTable) (by
    intro key s found
    rw [place key,under,Option.or_eq_some_iff] at found
    rcases found with said | ⟨_,said⟩
    · exact Setting.said?_holds (typed key) said
    · exact ⟨_,SettingKey.reading_builtIn said⟩)
  refine ⟨settings,read,fun key => ?_⟩
  have answer := answered key
  rw [SettingKey.Answered,place key,under] at answer
  cases said : key.said? layer with
  | some s =>
    rw [SettingKey.said?] at said
    rwa [said,Option.some_or] at answer
  | none =>
    rw [SettingKey.said?] at said
    rw [said,Option.none_or] at answer
    cases beneath : key.said? builtInSettings with
    | none => rwa [beneath] at answer
    | some s =>
      rw [beneath] at answer
      have read : key.reading s = .ok (key.of settings) := answer
      exact Except.ok.inj (read.symm.trans (SettingKey.reading_builtIn beneath))

private theorem WellTyped.append {more : List (String × Setting)} (typed : WellTyped layer) (further : WellTyped more) :
    WellTyped (layer ++ more) := by
  intro key entry member
  rcases List.mem_append.mp member with before | after
  · exact typed key entry before
  · exact further key entry after

theorem Settings.exists_of_layers {defaults forMode : List (String × Setting)}
    (general : disk.settings "config/default" = .ok defaults)
    (special : disk.settings ("config/" ++ (environment.within disk).mode) = .ok forMode) (first : WellTyped defaults)
    (second : WellTyped forMode) (third : WellTyped (environment.within disk).settings) :
    ∃ settings, Settings.load environment disk = .ok settings ∧ ∀ key : SettingKey, Answers key.reading (key.of {})
      (((environment.within disk).given? key).or ((key.said? forMode).or (key.said? defaults))) (key.of settings) := by
  obtain ⟨settings,read,answers⟩ := Settings.exists_of_wellTyped ((first.append second).append third)
  refine ⟨settings,?_,fun key => ?_⟩
  · rw [Setting.overlay_append,Setting.overlay_append] at read
    rw [Settings.load]
    simp only [general,special,ok_bind]
    exact read
  · have answer := answers key
    rwa [SettingKey.said?,Setting.said?_append,Setting.said?_append,← SettingKey.said?,Environment.said?_settings third] at answer

/-- The strongest layer that sets a key decides on it, and what is set in the environment comes before what a file adds to it. -/
theorem strongest_layer_decides {defaults forMode : List (String × Setting)} (general : disk.settings "config/default" = .ok defaults)
    (special : disk.settings ("config/" ++ (environment.within disk).mode) = .ok forMode)
    (typed : WellTyped defaults ∧ WellTyped forMode ∧ WellTyped (environment.within disk).settings) :
    (∃ settings, Settings.load environment disk = .ok settings ∧ ∀ key : SettingKey, Answers key.reading (key.of {})
      (((environment.within disk).given? key).or ((key.said? forMode).or (key.said? defaults))) (key.of settings)) ∧
    ∀ name value, Keyed.lookup? name environment = some value → Keyed.lookup? name (environment.within disk) = some value := by
  obtain ⟨first,second,third⟩ := typed
  constructor
  · exact Settings.exists_of_layers general special first second third
  · intro name value set
    exact Environment.lookup?_within set disk

private theorem settings_of_ini {name : String} (path text : String) (sections : List Ini.Section)
    (found : disk.settingsFile? name = some ⟨.ini, path, text⟩) (read : Ini.ofText? text = some sections) :
    disk.settings name = .ok (Setting.loweredMembers (Setting.membersOfIni (some path) sections)) := by
  have members : FileFormat.ini.members? path text = some (Setting.membersOfIni (some path) sections) := by
    rw [FileFormat.members?,read]
    rfl
  simp only [Disk.settings,found,members]

private theorem SettingKey.reads_text {key : SettingKey} (mail : key.title = "mail") (origin : Option String) (value : String) :
    key.Reads (.scalar origin (.text value)) := by
  cases key with
  | transport | fromAddress | fromName | subjectField => exact ⟨_,rfl⟩
  | _ => exact absurd mail (by decide)

private theorem wellTyped_mail {origin : Option String} {members : List (String × Setting)}
    (texts : ∀ entry ∈ members, ∃ value, entry.2 = .scalar origin (.text value)) : WellTyped [("mail", .table origin members)] := by
  have single : Setting.path "mail" = [.member "mail"] := by decide
  intro key entry member
  rw [List.mem_singleton.mp member,single]
  by_cases mail : key.title = "mail"
  · rw [mail]
    apply Fits.part
    intro value among
    obtain ⟨text,same⟩ := texts _ among
    rw [show value = _ from same]
    exact SettingKey.reads_text mail origin text
  · exact .elsewhere (Ne.symm mail)

def houseDefaults : String := "[mail]\nfrom_address=post@house\ntransport=memory"

def houseStaging : String := "[mail]\ntransport=log"

/-- A house with settings in three places, which runs in the mode that a fourth one names. -/
def houseDisk : Disk :=
  (((Disk.empty "/house").write ".env" (.text "RUN_MODE=staging")).write "config/default.ini" (.text houseDefaults)).write
    "config/staging.ini" (.text houseStaging)

def houseEnvironment : Environment := [("MAILER__MAIL__SUBJECT_FIELD", "re")]

theorem strongest_layer_decides_in_the_house : ∃ settings, Settings.load houseEnvironment houseDisk = .ok settings ∧
    settings.mail = ⟨"log", "post@house", none, "re"⟩ ∧ settings.server.port = 8080 := by
  let text (path value : String) : Setting := .scalar (some path) (.text value)
  have mode : "config/" ++ (houseEnvironment.within houseDisk).mode = "config/staging" := by decide +kernel
  have general : houseDisk.settings "config/default" = .ok [("mail", .table (some "config/default.ini")
      [("from_address", text "config/default.ini" "post@house"), ("transport", text "config/default.ini" "memory")])] :=
    settings_of_ini _ houseDefaults [⟨some "mail", [("from_address", "post@house"), ("transport", "memory")]⟩]
      (by decide +kernel) (by decide +kernel)
  have special : houseDisk.settings "config/staging" = .ok [("mail", .table (some "config/staging.ini")
      [("transport", text "config/staging.ini" "log")])] :=
    settings_of_ini _ houseStaging [⟨some "mail", [("transport", "log")]⟩] (by decide +kernel) (by decide +kernel)
  have around : (houseEnvironment.within houseDisk).settings =
      [(SettingKey.subjectField.dotted, Environment.setting "mail.subject_field" "re")] := by
    rw [show houseEnvironment.within houseDisk = _ from (by decide +kernel : _ = houseEnvironment ++ [("RUN_MODE", "staging")])]
    rfl
  rw [← mode] at special
  obtain ⟨⟨settings,loaded,answers⟩,_⟩ := strongest_layer_decides general special ⟨
    wellTyped_mail (by simp [text]),wellTyped_mail (by simp [text]),by
      intro key entry member
      rw [around,List.mem_singleton] at member
      rw [member]
      exact SettingKey.fits_dotted (SettingKey.reads_text rfl _ _) key⟩
  simp only [← Environment.lookup?_settings,around] at answers
  have transport : Except.ok "log" = Except.ok settings.mail.transport := answers .transport
  have sender : Except.ok "post@house" = Except.ok settings.mail.fromAddress := answers .fromAddress
  have called : settings.mail.fromName = none := answers .fromName
  have subject : Except.ok "re" = Except.ok settings.mail.subjectField := answers .subjectField
  refine ⟨settings,loaded,?_,answers .port⟩
  have parts (c : MailConfig) : c = ⟨c.transport, c.fromAddress, c.fromName, c.subjectField⟩ := rfl
  rw [parts settings.mail,called,← Except.ok.inj transport,← Except.ok.inj sender,← Except.ok.inj subject]

end Letterpress
