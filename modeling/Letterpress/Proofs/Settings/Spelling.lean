import Letterpress.Proofs.Layering

/-! Texts in the environment. A text arrives as it is if it reads as no flag and as no number; if it does, it arrives in the spelling
of what it was read as. -/
namespace Letterpress
open Setting (Answers)

variable {value : String} {settings : Settings}

private theorem Disk.find_empty (root : String) (parts : List String) (content : String) :
    (Disk.empty root).find [] parts ≠ .ok (.text content) := by
  induction parts with
  | nil => simp [find, entry?]
  | cons s rest ih =>
    have nothing (parts : List String) : (Disk.empty root).find [s] parts = .error .missing := by
      cases parts with
      | nil => rfl
      | cons => rfl
    rw [find]
    simp only [ entry?,List.isEmpty_nil,if_true,List.nil_append,nothing]
    split
    · exact ih
    · split
      · simp
      · split
        · simp
        · simp

private theorem Disk.text?_empty (root path : String) : (Disk.empty root).text? path = none := by
  rw [text?,read]
  split
  · rfl
  · split
    · next found => exact absurd found (find_empty root _ _)
    · rfl
    · rfl
    · rfl

private theorem Disk.settings_empty (root name : String) : (Disk.empty root).settings name = .ok [] := by
  have unfound : (Disk.empty root).settingsFile? name = none := by
    simp [settingsFile?,text?_empty]
  rw [settings,unfound]

private theorem Environment.within_empty (environment : Environment) (root : String) :
    environment.within (.empty root) = environment := by
  rw [within,Disk.text?_empty]

/-- A text as it arrives: the word for a flag in lower case, a number as it is printed, and else the text itself. -/
def spelled (value : String) : String :=
  if Text.lower value = "true" ∨ Text.lower value = "false" then Text.lower value
  else
    match Decimal.signed? value.toList with
    | some n => toString n
    | none =>
      match Decimal.float? value.toList with
      | some x => Decimal.plain x
      | none => value

private theorem Environment.text_setting {key : String} (single : key ≠ "server.cors_origins") (value : String) :
    Setting.text (Environment.setting key value) = .ok (spelled value) := by
  rw [setting,spelled]
  by_cases yes : Text.lower value = "true"
  · rw [if_pos yes,if_pos (.inl yes),yes]
    rfl
  · by_cases no : Text.lower value = "false"
    · rw [if_neg yes,if_pos no,if_pos (.inr no),no]
      rfl
    · rw [if_neg yes,if_neg no,if_neg (not_or.mpr ⟨yes,no⟩)]
      cases Decimal.signed? value.toList with
      | some n => rfl
      | none =>
        cases Decimal.float? value.toList with
        | some x => rfl
        | none =>
          simp only [if_neg single]
          rfl

inductive TextKey
  | host
  | backend
  | root
  | transport
  | fromAddress
  | fromName
  | subjectField
  | endpoint
  | serviceName
  deriving DecidableEq, Repr

namespace TextKey

def key : TextKey → SettingKey
  | host => .host
  | backend => .backend
  | root => .root
  | transport => .transport
  | fromAddress => .fromAddress
  | fromName => .fromName
  | subjectField => .subjectField
  | endpoint => .endpoint
  | serviceName => .serviceName

def of : TextKey → Settings → Option String
  | host, s => some s.server.host
  | backend, s => some s.templates.backend
  | root, s => some s.templates.root
  | transport, s => some s.mail.transport
  | fromAddress, s => some s.mail.fromAddress
  | fromName, s => s.mail.fromName
  | subjectField, s => some s.mail.subjectField
  | endpoint, s => some s.tracing.endpoint
  | serviceName, s => some s.tracing.serviceName

/-- What can be read as a text can be read as the setting, and is all that the setting is. -/
theorem reads_of_text (text : TextKey) {s : Setting} (read : Setting.text s = .ok value) :
    text.key.Reads s ∧ ∀ settings, text.key.reading s = .ok (text.key.of settings) → text.of settings = some value := by
  have optional : Setting.optional Setting.text s = .ok (some value) := by
    unfold Setting.optional
    split
    · contradiction
    · rw [read]
      rfl
  cases text with
  | fromName =>
    refine ⟨⟨_,optional⟩,fun settings same => ?_⟩
    exact (Except.ok.inj (optional.symm.trans same)).symm
  | _ =>
    refine ⟨⟨value,read⟩,fun settings same => ?_⟩
    exact congrArg some (Except.ok.inj (read.symm.trans same)).symm

end TextKey

private theorem Environment.settings_variable (key : SettingKey) (value : String) :
    Environment.settings [(key.variable, value)] = [(key.dotted, Environment.setting key.dotted value)] := by
  simp only [settings,List.filterMap_cons,key.key?_variable]
  rfl

/-- A variable alone sets its key, and everything else is as built in. -/
theorem Settings.exists_of_variable {key : SettingKey} (reads : key.Reads (Environment.setting key.dotted value))
    (directory : String) : ∃ settings, Settings.load [(key.variable, value)] (.empty directory) = .ok settings ∧
      key.reading (Environment.setting key.dotted value) = .ok (key.of settings) ∧
        ∀ other : SettingKey, other ≠ key → other.of settings = other.of {} := by
  have typed : WellTyped (Environment.settings [(key.variable, value)]) := by
    intro other entry member
    rw [Environment.settings_variable,List.mem_singleton] at member
    rw [member]
    exact SettingKey.fits_dotted reads other
  have silent : WellTyped [] := fun _ => List.forall_mem_nil _
  rw [← Environment.within_empty [(key.variable, value)] directory] at typed
  obtain ⟨settings,loaded,answers⟩ := Settings.exists_of_layers (Disk.settings_empty directory _) (Disk.settings_empty directory _)
    silent silent typed
  simp only [Environment.within_empty,← Environment.lookup?_settings,Environment.settings_variable,Keyed.lookup?] at answers
  refine ⟨settings,loaded,?_,fun other different => ?_⟩
  · have answer := answers key
    rwa [if_pos rfl] at answer
  · have answer := answers other
    rwa [if_neg fun same => different (SettingKey.eq_of_dotted same)] at answer

/-- A text that is set in the environment arrives in its spelling, and no other setting is touched. -/
theorem environment_texts_are_spelled (text : TextKey) (value directory : String) : ∃ settings,
    Settings.load [(text.key.variable, value)] (.empty directory) = .ok settings ∧ text.of settings = some (spelled value) ∧
      ∀ other : SettingKey, other ≠ text.key → other.of settings = other.of {} := by
  have single : text.key.dotted ≠ "server.cors_origins" := by cases text <;> decide
  have reads := text.reads_of_text (Environment.text_setting single value)
  obtain ⟨settings,loaded,read,others⟩ := Settings.exists_of_variable reads.1 directory
  exact ⟨settings,loaded,reads.2 settings read,others⟩

/-- A name of three digits is taken for a number. -/
theorem agent_loses_zeros : ∃ settings,
    Settings.load [("MAILER__MAIL__FROM_NAME", "007")] (.empty "") = .ok settings ∧ settings.mail.fromName = some "7" := by
  have single : TextKey.fromName.key.dotted ≠ "server.cors_origins" := by decide
  have reads := TextKey.fromName.reads_of_text (Environment.text_setting single "007")
  obtain ⟨settings,loaded,read,_⟩ := Settings.exists_of_variable reads.1 ""
  have titled : SettingKey.fromName.variable = "MAILER__MAIL__FROM_NAME" := by decide +kernel
  have spelling : spelled "007" = "7" := by decide +kernel
  rw [TextKey.key,titled] at loaded
  refine ⟨settings,loaded,?_⟩
  rw [← spelling]
  exact reads.2 settings read

end Letterpress
