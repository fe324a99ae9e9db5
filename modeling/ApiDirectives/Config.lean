import ApiDirectives.Checked
import ApiDirectives.Files.Encoding
import ApiDirectives.Files.Entry
import ApiDirectives.Format.Yaml.Datum
import ApiDirectives.Resolve.Dialect

/-!
# Configuration

Settings of a run, from a YAML file beside the sources. Unknown settings are refused, and every
faulty one is reported. Relative paths in the file start at the file's directory.
-/

namespace ApiDirectives

open Yaml (Datum)

/-- The settings of a run. -/
structure Config where
  source : FilePath := {}
  output : Option FilePath := none
  format : String := "auto"
  indent : Int := 2
  version : String := defaultVersion
  exclude : List String := []
  includeTests : Bool := false
  strict : Bool := false
  deriving Repr, DecidableEq, Inhabited

/-- The names a configuration file may have, the first one found counts. -/
def configNames : List String := [".bangspec.yml", ".bangspec.yaml"]

/-! ## Settings -/

/-- A scalar as a value; bytes count as the text they encode. -/
def scalarValue? : Datum → Option Value
  | .null => some .null
  | .bool b => some (.bool b)
  | .int n => some (.int n)
  | .float x => some (.float x)
  | .str s => some (.str s)
  | .bytes bs => (Text.decodeUtf8 bs).toOption.map fun cs => .str (String.ofList cs)
  | _ => none

/-- A scalar that passes a check; anything else has a given fault. -/
def scalarSetting {α : Type} (check : Value → Checked α) (otherwise : FaultKind) (d : Datum) :
    Checked α :=
  match scalarValue? d with
  | some v => check v
  | none => .fault otherwise

/-- A text. -/
def textSetting (d : Datum) : Checked String :=
  match d with
  | .bytes _ => scalarSetting Value.text .notUnicode d
  | _ => scalarSetting Value.text .notText d

/-- A path, which only a text can be. -/
def pathSetting : Datum → Checked FilePath
  | .str s => .ok (.ofString s)
  | _ => .fault .notPath

/-- A path or nothing. -/
def optionalPathSetting : Datum → Checked (Option FilePath)
  | .null => .ok none
  | d => some <$> pathSetting d

/-- An integer. -/
def wholeSetting (d : Datum) : Checked Int :=
  match d with
  | .bytes _ => scalarSetting Value.whole .unreadableInteger d
  | _ => scalarSetting Value.whole .notInteger d

/-- A truth value. -/
def truthSetting (d : Datum) : Checked Bool :=
  match d with
  | .bytes _ => scalarSetting Value.truth .unreadableTruth d
  | _ => scalarSetting Value.truth .notTruth d

/-- A list of texts; a set will do. -/
def textListSetting : Datum → Checked (List String)
  | .list ds | .set ds => Checked.eachFrom 0 textSetting ds
  | _ => .fault .notList

/-- The settings by name, in order. -/
def settingNames : List String :=
  ["source", "output", "format", "indent", "openapi_version", "exclude", "include_tests", "strict"]

/-- One setting, which may be left out. -/
def setting {α : Type} (name : String) (absent : α) (check : Datum → Checked α)
    (entries : List (String × Datum)) : Checked α :=
  match entries.lookup name with
  | some d => Checked.under name (check d)
  | none => .ok absent

/-- No other settings than the known ones. -/
def noOthers : List (String × Datum) → Checked Unit
  | [] => .ok ()
  | (name, _) :: r =>
    (fun _ _ => ()) <$> (if settingNames.contains name then .ok ()
      else Checked.under name (.fault .unknownMember) : Checked Unit) <*> noOthers r

/-- Reads all settings. -/
def Config.ofEntries (entries : List (String × Datum)) : Checked Config :=
  let base : Config := {}
  (fun _ config => config) <$> noOthers entries <*>
    (Config.mk <$> setting "source" base.source pathSetting entries
      <*> setting "output" base.output optionalPathSetting entries
      <*> setting "format" base.format textSetting entries
      <*> setting "indent" base.indent wholeSetting entries
      <*> setting "openapi_version" base.version textSetting entries
      <*> setting "exclude" base.exclude textListSetting entries
      <*> setting "include_tests" base.includeTests truthSetting entries
      <*> setting "strict" base.strict truthSetting entries)

/-! ## Files -/

/-- Why there is no configuration. -/
inductive ConfigFault where
  | unreadable (path : FilePath) (fault : FileFault)
  | undecodable (fault : Text.DecodeFault)
  | notYaml (path : FilePath) (problem : Yaml.Problem)
  | badScalar (fault : Yaml.ScalarFault)
  | noMapping (path : FilePath)
  | keysNotText
  | invalid (path : FilePath) (faults : List Fault)

/-- The wording of a fault. -/
def ConfigFault.message : ConfigFault → String
  | .unreadable path fault => "cannot read " ++ path.render ++ ": " ++ fault.message
  | .undecodable fault => fault.message
  | .notYaml path problem => "invalid YAML in " ++ path.render ++ ": " ++ problem.message
  | .badScalar fault => fault.message
  | .noMapping path => path.render ++ " must contain a mapping at the top level"
  | .keysNotText => "keywords must be strings"
  | .invalid path faults =>
    "invalid configuration in " ++ path.render ++ ": "
      ++ Text.joined "; " (faults.map fun f => f.message)

/-- Entries whose keys are all texts. -/
def textKeys? : List (Datum × Datum) → Option (List (String × Datum))
  | [] => some []
  | (.str k, d) :: r => (textKeys? r).map ((k, d) :: ·)
  | _ => none

/-- The settings that a text holds; `path` is where it is from. -/
def Config.ofText (path : FilePath) (text : List Char) : Except ConfigFault Config :=
  match Yaml.read text with
  | .error (.invalid problem) => .error (.notYaml path problem)
  | .error (.unreadable fault) => .error (.badScalar fault)
  | .ok d =>
    match if d.isEmpty then Datum.table [] else d with
    | .table entries =>
      match textKeys? entries with
      | none => .error .keysNotText
      | some entries =>
        match Config.ofEntries entries with
        | .ok config => .ok config
        | .error faults => .error (.invalid path faults)
    | _ => .error (.noMapping path)

/-- The settings with their paths seen from a directory. -/
def Config.seenFrom (config : Config) (base : FilePath) : Config :=
  { config with source := base.join config.source, output := config.output.map base.join }

/-- Reads a configuration file. -/
def Files.loadConfig (f : Files) (path : FilePath) : Except ConfigFault Config :=
  match f.read path with
  | .error fault => .error (.unreadable path fault)
  | .ok bytes =>
    match Text.decodeUtf8 bytes with
    | .error fault => .error (.undecodable fault)
    | .ok text => (Config.ofText path (withLineFeeds text)).map (·.seenFrom path.parent)

/-- The configuration file in a directory, or in the directory of a file. -/
def Files.findConfig (f : Files) (start : FilePath) : Option FilePath :=
  let directory := if f.isDirectory start then start else start.parent
  (configNames.map fun name => directory.join { parts := [name] }).find? f.isFile

end ApiDirectives
