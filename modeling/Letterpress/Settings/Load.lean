import Letterpress.Json5.Reader
import Letterpress.Ron.Reader
import Letterpress.Setting.Merge
import Letterpress.Setting.Reading
import Letterpress.Settings.EnvironmentFile
import Letterpress.Settings.Basic
import Letterpress.Store.Disk
import Letterpress.Toml.Reader
import Letterpress.Yaml.Reader

/-! Where settings come from. What is built in gives way to the file with defaults, that to the file for the mode in which
the program runs, and that to the environment. -/
namespace Letterpress
open Setting (Section Reading)

inductive FileFormat
  | toml
  | json
  | yaml
  | ini
  | ron
  | json5
  deriving DecidableEq, Repr

namespace FileFormat

def all : List FileFormat := [toml, json, yaml, ini, ron, json5]

def endings : FileFormat → List String
  | toml => ["toml"]
  | json => ["json"]
  | yaml => ["yaml", "yml"]
  | ini => ["ini"]
  | ron => ["ron"]
  | json5 => ["json5"]

def membersOf? (origin : String) : Json → Option (List (String × Setting))
  | .object members => some (Setting.membersOfJson (some origin) members)
  | _ => none

/-- The members of a file; nothing if its text is not in the format or is no table. -/
def members? (format : FileFormat) (origin text : String) : Option (List (String × Setting)) :=
  match format with
  | toml => (Toml.ofText? text).map (Setting.membersOfToml (some origin))
  | json => ((Json.ofText text).toOption).bind (membersOf? origin)
  | yaml =>
    match Yaml.ofText? text with
    | some (some value) => (value.toJson?).bind (membersOf? origin)
    | some none => some []
    | none => none
  | ini => (Ini.ofText? text).map (Setting.membersOfIni (some origin))
  | ron => (Ron.ofText? text).bind (membersOf? origin)
  | json5 => (Json5.ofText? text).bind (membersOf? origin)

end FileFormat

/-- What follows the last point in the name of a file, unless the name begins with it. -/
def ending? (name : String) : Option String :=
  match Text.fields (· == '.') name.toList with
  | [] | [_] | [[], _] => none
  | parts => parts.getLast?.map String.ofList

/-- A file that was found: its format, its path and its text. -/
structure SettingsFile where
  format : FileFormat
  path : String
  text : String
  deriving DecidableEq

namespace Disk

def text? (disk : Disk) (path : String) : Option String := (disk.read path).toOption

/-- The file with settings that goes by a name. A file of just this name has to have the ending of a format; if there is
none, the endings are tried. -/
def settingsFile? (disk : Disk) (name : String) : Option SettingsFile :=
  let way := steps name
  let path := "/".intercalate way
  match disk.text? name with
  | some text =>
    (FileFormat.all.find? fun format => (way.getLast?.bind ending?).any format.endings.contains).map fun format =>
      ⟨format, path, text⟩
  | none =>
    if way.getLast? = some ".." then none
    else FileFormat.all.findSome? fun format => format.endings.findSome? fun ending =>
      let path := path ++ "." ++ ending
      (disk.text? path).map fun text => ⟨format, path, text⟩

/-- The settings in a file, if there is one. The case of their keys does not matter. -/
def settings (disk : Disk) (name : String) : Except SettingsError (List (String × Setting)) :=
  match disk.settingsFile? name with
  | none => .ok []
  | some file =>
    match file.format.members? file.path file.text with
    | some members => .ok (Setting.loweredMembers members)
    | none => .error .malformedFile

end Disk

def ServerConfig.reading : Reading ServerConfig :=
  Setting.sectionOf "ServerConfig" fun s => do
    let builtIn : ServerConfig := {}
    return {
      host := ← s.get "host" 0 builtIn.host Setting.text
      port := ← s.get "port" 1 builtIn.port Setting.port
      corsOrigins := ← s.get "cors_origins" 2 builtIn.corsOrigins (Setting.listOf Setting.text)
      bodyLimit := ← s.get "body_limit_bytes" 3 builtIn.bodyLimit Setting.word }

def TemplatesConfig.reading : Reading TemplatesConfig :=
  Setting.sectionOf "TemplatesConfig" fun s => do
    let builtIn : TemplatesConfig := {}
    return {
      backend := ← s.get "backend" 0 builtIn.backend Setting.text
      root := ← s.get "root" 1 builtIn.root Setting.text
      cacheCompiled := ← s.get "cache_compiled" 2 builtIn.cacheCompiled Setting.flag }

def MailConfig.reading : Reading MailConfig :=
  Setting.sectionOf "MailConfig" fun s => do
    let builtIn : MailConfig := {}
    return {
      transport := ← s.get "transport" 0 builtIn.transport Setting.text
      fromAddress := ← s.get "from_address" 1 builtIn.fromAddress Setting.text
      fromName := ← s.get "from_name" 2 builtIn.fromName (Setting.optional Setting.text)
      subjectField := ← s.get "subject_field" 3 builtIn.subjectField Setting.text }

def TracingConfig.reading : Reading TracingConfig :=
  Setting.sectionOf "OtelConfig" fun s => do
    let builtIn : TracingConfig := {}
    return {
      enabled := ← s.get "enabled" 0 builtIn.enabled Setting.flag
      endpoint := ← s.get "endpoint" 1 builtIn.endpoint Setting.text
      serviceName := ← s.get "service_name" 2 builtIn.serviceName Setting.text
      samplingRatio := ← s.get "sampling_ratio" 3 builtIn.samplingRatio Setting.ratio }

def Settings.reading : Reading Settings :=
  Setting.sectionOf "Settings" fun s => do
    let builtIn : Settings := {}
    return {
      server := ← s.get "server" 0 builtIn.server ServerConfig.reading
      templates := ← s.get "templates" 1 builtIn.templates TemplatesConfig.reading
      mail := ← s.get "mail" 2 builtIn.mail MailConfig.reading
      tracing := ← s.get "otel" 3 builtIn.tracing TracingConfig.reading }

/-- The settings that other settings are laid over. -/
def builtInSettings : List (String × Setting) :=
  let builtIn : Settings := {}
  [("server.host", .ofText builtIn.server.host), ("server.port", .ofNat builtIn.server.port),
    ("templates.backend", .ofText builtIn.templates.backend), ("templates.root", .ofText builtIn.templates.root),
    ("mail.transport", .ofText builtIn.mail.transport)]

def Environment.mode (environment : Environment) : String :=
  (Keyed.lookup? "RUN_MODE" environment).getD "development"

/-- The environment of a program that is started in a directory. -/
def Environment.within (environment : Environment) (disk : Disk) : Environment :=
  match disk.text? ".env" with
  | some text => environment.withFile text
  | none => environment

/-- Loads the settings of a program that is started in a directory. -/
def Settings.load (environment : Environment) (disk : Disk) : Except SettingsError Settings := do
  let environment := environment.within disk
  let defaults ← disk.settings "config/default"
  let forMode ← disk.settings ("config/" ++ environment.mode)
  let given := [defaults, forMode, environment.settings].foldl Setting.overlay (.table none [])
  Settings.reading (((Setting.table none []).overlay builtInSettings).overlay given.asTable.2)

end Letterpress
