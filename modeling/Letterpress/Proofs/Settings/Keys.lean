import Letterpress.Proofs.Basic
import Letterpress.Proofs.Setting.Overlay
import Letterpress.Settings.Load

/-! The single settings, as they are found by a section and a name. If each of them can be read where a table of settings has it,
the table can be read, and the settings are what each place says; what is built in holds where a place says nothing. -/
namespace Letterpress
open Setting (Reading Section)

inductive SettingKey
  | host
  | port
  | corsOrigins
  | bodyLimit
  | backend
  | root
  | cacheCompiled
  | transport
  | fromAddress
  | fromName
  | subjectField
  | tracing
  | endpoint
  | serviceName
  | samplingRatio
  deriving DecidableEq, Repr

namespace SettingKey

def all : List SettingKey :=
  [host, port, corsOrigins, bodyLimit, backend, root, cacheCompiled, transport, fromAddress, fromName, subjectField, tracing,
    endpoint, serviceName, samplingRatio]

def title : SettingKey → String
  | host | port | corsOrigins | bodyLimit => "server"
  | backend | root | cacheCompiled => "templates"
  | transport | fromAddress | fromName | subjectField => "mail"
  | tracing | endpoint | serviceName | samplingRatio => "otel"

def name : SettingKey → String
  | host => "host"
  | port => "port"
  | corsOrigins => "cors_origins"
  | bodyLimit => "body_limit_bytes"
  | backend => "backend"
  | root => "root"
  | cacheCompiled => "cache_compiled"
  | transport => "transport"
  | fromAddress => "from_address"
  | fromName => "from_name"
  | subjectField => "subject_field"
  | tracing => "enabled"
  | endpoint => "endpoint"
  | serviceName => "service_name"
  | samplingRatio => "sampling_ratio"

abbrev Value : SettingKey → Type
  | port | bodyLimit => Nat
  | corsOrigins => List String
  | cacheCompiled | tracing => Bool
  | fromName => Option String
  | samplingRatio => Float
  | host | backend | root | transport | fromAddress | subjectField | endpoint | serviceName => String

def reading : (key : SettingKey) → Reading key.Value
  | port => Setting.port
  | bodyLimit => Setting.word
  | corsOrigins => Setting.listOf Setting.text
  | cacheCompiled | tracing => Setting.flag
  | fromName => Setting.optional Setting.text
  | samplingRatio => Setting.ratio
  | host | backend | root | transport | fromAddress | subjectField | endpoint | serviceName => Setting.text

/-- The path to a setting from where all of them are. -/
def dotted (key : SettingKey) : String := key.title ++ "." ++ key.name

def of : (key : SettingKey) → Settings → key.Value
  | host, s => s.server.host
  | port, s => s.server.port
  | corsOrigins, s => s.server.corsOrigins
  | bodyLimit, s => s.server.bodyLimit
  | backend, s => s.templates.backend
  | root, s => s.templates.root
  | cacheCompiled, s => s.templates.cacheCompiled
  | transport, s => s.mail.transport
  | fromAddress, s => s.mail.fromAddress
  | fromName, s => s.mail.fromName
  | subjectField, s => s.mail.subjectField
  | tracing, s => s.tracing.enabled
  | endpoint, s => s.tracing.endpoint
  | serviceName, s => s.tracing.serviceName
  | samplingRatio, s => s.tracing.samplingRatio

/-- A setting can be read as what the key is for. -/
def Reads (key : SettingKey) (s : Setting) : Prop := ∃ value, key.reading s = .ok value

theorem path_dotted (key : SettingKey) : Setting.path key.dotted = [.member key.title, .member key.name] := by
  cases key <;> decide

private theorem mem_all (key : SettingKey) : key ∈ all := by
  cases key <;> decide

private theorem eq_of_name {key other : SettingKey} (same : key.name = other.name) : key = other := by
  have distinct : (all.map name).Nodup := by decide
  exact List.inj_on_of_nodup_map distinct key.mem_all other.mem_all same

theorem eq_of_dotted {key other : SettingKey} (same : key.dotted = other.dotted) : key = other := by
  have paths := congrArg Setting.path same
  rw [path_dotted,path_dotted] at paths
  apply eq_of_name
  simpa using (List.cons.inj (List.cons.inj paths).2).1

theorem fits_dotted {other : SettingKey} {value : Setting} (reads : other.Reads value) (key : SettingKey) :
    Setting.Fits key.Reads key.title key.name (Setting.path other.dotted) value := by
  rw [path_dotted]
  by_cases same : other = key
  · subst same
    exact .place reads
  · by_cases near : other.title = key.title
    · rw [near]
      apply Setting.Fits.beside
      intro equal
      exact same (eq_of_name equal)
    · exact .elsewhere near

theorem says?_dotted (key other : SettingKey) (value : Setting) :
    Setting.says? key.title key.name (Setting.path other.dotted) value = if other = key then some value else none := by
  rw [path_dotted,Setting.says?]
  by_cases same : other = key
  · subst same
    rw [if_pos rfl,if_pos ⟨rfl,rfl⟩]
  · rw [if_neg same,if_neg]
    intro both
    exact same (eq_of_name both.2)

end SettingKey

def Settings.ofValues (value : (key : SettingKey) → key.Value) : Settings where
  server := ⟨value .host, value .port, value .corsOrigins, value .bodyLimit⟩
  templates := ⟨value .backend, value .root, value .cacheCompiled⟩
  mail := ⟨value .transport, value .fromAddress, value .fromName, value .subjectField⟩
  tracing := ⟨value .tracing, value .endpoint, value .serviceName, value .samplingRatio⟩

private theorem SettingKey.of_ofValues (value : (key : SettingKey) → key.Value) (key : SettingKey) :
    key.of (.ofValues value) = value key := by
  cases key <;> rfl

variable {α : Type} {reading : Reading α} {builtIn value : α} {found : Option Setting} {root : Setting} {settings : Settings}
  {members : List (String × Setting)}

/-- What is found is read as a value, and if nothing is, the value is the one built in. -/
def Setting.Answers (reading : Reading α) (builtIn : α) (found : Option Setting) (value : α) : Prop :=
  match found with
  | some s => reading s = .ok value
  | none => value = builtIn

open Setting (Answers)

private theorem Setting.Answers.exists (reads : ∀ s, found = some s → ∃ value, reading s = .ok value) (builtIn : α) :
    ∃ value, Answers reading builtIn found value := by
  cases found with
  | none => exact ⟨builtIn,rfl⟩
  | some s => exact reads s rfl

private theorem Setting.Section.bind_get {β : Type} {name : String}
    (answer : Answers reading builtIn (Keyed.lookup? name members) value)
    (index : Nat) (next : α → Except SettingsError β) :
    ((Section.named members).get name index builtIn reading >>= next) = next value := by
  rw [get,find?]
  cases found : Keyed.lookup? name members with
  | none =>
    rw [found] at answer
    exact congrArg next (Eq.symm answer)
  | some s =>
    rw [found] at answer
    have reads : reading s = .ok value := answer
    simp only [Option.map_some,reads]
    rfl

/-- A place in a table has the value that the settings have. -/
def SettingKey.Answered (key : SettingKey) (root : Setting) (settings : Settings) : Prop :=
  Answers key.reading (key.of {}) (Setting.value? key.title key.name root) (key.of settings)

/-- What stands under the title of a section is a table. -/
def Setting.HasTable (root : Setting) (title : String) : Prop :=
  ∀ part, Keyed.lookup? title root.asTable.2 = some part → part.isTable = true

theorem Setting.Tidy.hasTable {title : String} (tidy : Tidy title root) : root.HasTable title := by
  intro part found
  exact (tidy.part part found).1

/-- If the members of a table answer for a section, then so does what stands under its title. -/
theorem Setting.HasTable.answers {title : String} (table : root.HasTable title)
    (silent : (∀ name, Setting.value? title name root = none) → value = builtIn)
    (given : ∀ origin members, (∀ name, Setting.value? title name root = Keyed.lookup? name members) →
      reading (.table origin members) = .ok value) :
    Answers reading builtIn (Keyed.lookup? title root.asTable.2) value := by
  cases found : Keyed.lookup? title root.asTable.2 with
  | none =>
    apply silent
    intro name
    rw [value?,found]
    rfl
  | some part =>
    obtain ⟨origin,same⟩ := exists_of_isTable (table part found)
    rw [same]
    apply given
    intro name
    rw [value?,found]
    rfl

private theorem ServerConfig.reading_answers (table : root.HasTable "server")
    (answered : ∀ key : SettingKey, key.Answered root settings) :
    Answers ServerConfig.reading {} (Keyed.lookup? "server" root.asTable.2) settings.server := by
  let builtIn : ServerConfig := {}
  have host : Answers Setting.text builtIn.host (root.value? "server" "host") settings.server.host := answered .host
  have port : Answers Setting.port builtIn.port (root.value? "server" "port") settings.server.port := answered .port
  have origins : Answers (Setting.listOf Setting.text) builtIn.corsOrigins (root.value? "server" "cors_origins")
    settings.server.corsOrigins := answered .corsOrigins
  have limit : Answers Setting.word builtIn.bodyLimit (root.value? "server" "body_limit_bytes") settings.server.bodyLimit :=
    answered .bodyLimit
  apply table.answers
  · intro silent
    rw [silent] at host port origins limit
    exact congr (congr (congr (congrArg ServerConfig.mk host) port) origins) limit
  · intro origin members same
    rw [same] at host port origins limit
    refine (Setting.Section.bind_get host 0 _).trans ?_
    refine (Setting.Section.bind_get port 1 _).trans ?_
    refine (Setting.Section.bind_get origins 2 _).trans ?_
    exact Setting.Section.bind_get limit 3 _

private theorem TemplatesConfig.reading_answers (table : root.HasTable "templates")
    (answered : ∀ key : SettingKey, key.Answered root settings) :
    Answers TemplatesConfig.reading {} (Keyed.lookup? "templates" root.asTable.2) settings.templates := by
  let builtIn : TemplatesConfig := {}
  have backend : Answers Setting.text builtIn.backend (root.value? "templates" "backend") settings.templates.backend :=
    answered .backend
  have place : Answers Setting.text builtIn.root (root.value? "templates" "root") settings.templates.root := answered .root
  have cached : Answers Setting.flag builtIn.cacheCompiled (root.value? "templates" "cache_compiled")
    settings.templates.cacheCompiled := answered .cacheCompiled
  apply table.answers
  · intro silent
    rw [silent] at backend place cached
    exact congr (congr (congrArg TemplatesConfig.mk backend) place) cached
  · intro origin members same
    rw [same] at backend place cached
    refine (Setting.Section.bind_get backend 0 _).trans ?_
    refine (Setting.Section.bind_get place 1 _).trans ?_
    exact Setting.Section.bind_get cached 2 _

private theorem MailConfig.reading_answers (table : root.HasTable "mail")
    (answered : ∀ key : SettingKey, key.Answered root settings) :
    Answers MailConfig.reading {} (Keyed.lookup? "mail" root.asTable.2) settings.mail := by
  let builtIn : MailConfig := {}
  have transport : Answers Setting.text builtIn.transport (root.value? "mail" "transport") settings.mail.transport :=
    answered .transport
  have sender : Answers Setting.text builtIn.fromAddress (root.value? "mail" "from_address") settings.mail.fromAddress :=
    answered .fromAddress
  have called : Answers (Setting.optional Setting.text) builtIn.fromName (root.value? "mail" "from_name") settings.mail.fromName :=
    answered .fromName
  have subject : Answers Setting.text builtIn.subjectField (root.value? "mail" "subject_field") settings.mail.subjectField :=
    answered .subjectField
  apply table.answers
  · intro silent
    rw [silent] at transport sender called subject
    exact congr (congr (congr (congrArg MailConfig.mk transport) sender) called) subject
  · intro origin members same
    rw [same] at transport sender called subject
    refine (Setting.Section.bind_get transport 0 _).trans ?_
    refine (Setting.Section.bind_get sender 1 _).trans ?_
    refine (Setting.Section.bind_get called 2 _).trans ?_
    exact Setting.Section.bind_get subject 3 _

private theorem TracingConfig.reading_answers (table : root.HasTable "otel")
    (answered : ∀ key : SettingKey, key.Answered root settings) :
    Answers TracingConfig.reading {} (Keyed.lookup? "otel" root.asTable.2) settings.tracing := by
  let builtIn : TracingConfig := {}
  have enabled : Answers Setting.flag builtIn.enabled (root.value? "otel" "enabled") settings.tracing.enabled :=
    answered .tracing
  have endpoint : Answers Setting.text builtIn.endpoint (root.value? "otel" "endpoint") settings.tracing.endpoint :=
    answered .endpoint
  have service : Answers Setting.text builtIn.serviceName (root.value? "otel" "service_name") settings.tracing.serviceName :=
    answered .serviceName
  have ratio : Answers Setting.ratio builtIn.samplingRatio (root.value? "otel" "sampling_ratio") settings.tracing.samplingRatio :=
    answered .samplingRatio
  apply table.answers
  · intro silent
    rw [silent] at enabled endpoint service ratio
    exact congr (congr (congr (congrArg TracingConfig.mk enabled) endpoint) service) ratio
  · intro origin members same
    rw [same] at enabled endpoint service ratio
    refine (Setting.Section.bind_get enabled 0 _).trans ?_
    refine (Setting.Section.bind_get endpoint 1 _).trans ?_
    refine (Setting.Section.bind_get service 2 _).trans ?_
    exact Setting.Section.bind_get ratio 3 _

/-- Settings are read if each place answers for its own. -/
theorem Settings.reading_of_answered (whole : root.isTable = true) (tables : ∀ key : SettingKey, root.HasTable key.title)
    (answered : ∀ key : SettingKey, key.Answered root settings) : Settings.reading root = .ok settings := by
  obtain ⟨origin,same⟩ := Setting.exists_of_isTable whole
  rw [same]
  refine (Setting.Section.bind_get (ServerConfig.reading_answers (tables .host) answered) 0 _).trans ?_
  refine (Setting.Section.bind_get (TemplatesConfig.reading_answers (tables .root) answered) 1 _).trans ?_
  refine (Setting.Section.bind_get (MailConfig.reading_answers (tables .transport) answered) 2 _).trans ?_
  exact Setting.Section.bind_get (TracingConfig.reading_answers (tables .tracing) answered) 3 _

/-- If each place can be read, there are settings. -/
theorem Settings.exists_of_reads (whole : root.isTable = true) (tables : ∀ key : SettingKey, root.HasTable key.title)
    (reads : ∀ (key : SettingKey) (s : Setting), root.value? key.title key.name = some s → key.Reads s) :
    ∃ settings, Settings.reading root = .ok settings ∧ ∀ key : SettingKey, key.Answered root settings := by
  have answers (key : SettingKey) : ∃ value, Answers key.reading (key.of {}) (root.value? key.title key.name) value :=
    Setting.Answers.exists (reads key) _
  choose value answer using answers
  have answered (key : SettingKey) : key.Answered root (.ofValues value) := by
    rw [SettingKey.Answered,key.of_ofValues]
    exact answer key
  exact ⟨_,Settings.reading_of_answered whole tables answered,answered⟩

end Letterpress
