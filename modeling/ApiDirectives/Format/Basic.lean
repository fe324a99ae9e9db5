import ApiDirectives.Document.Written
import ApiDirectives.Files.Path
import ApiDirectives.Format.Json
import ApiDirectives.Format.Yaml.Writer

/-!
# Output formats

A document is written as JSON or as YAML.
-/

namespace ApiDirectives

/-- The formats of documents. -/
inductive Format where
  | json
  | yaml
  deriving Repr, DecidableEq, Inhabited

namespace Format

/-- The word for a format. -/
def name : Format → String
  | .json => "json"
  | .yaml => "yaml"

/-- Reads the name of a format in letters of any case; YAML has a short name. -/
def ofName? (s : String) : Option Format :=
  match Text.lowerAscii s with
  | "json" => some .json
  | "yaml" => some .yaml
  | "yml" => some .yaml
  | _ => none

/-- The wording for a name that is no format's. -/
def unknownMessage (s : String) : String :=
  "unknown format: " ++ s ++ " (supported: json, yaml)"

/-- The format of a file by its suffix; YAML unless it says JSON. -/
def ofPath (p : FilePath) : Format :=
  if Text.lowerAscii p.suffix = ".json" then .json else .yaml

end Format

/-- A document as text in a format, with an indentation width. -/
def Document.text (d : Document) (f : Format) (width : Int := 2) : String :=
  match f with
  | .json => Json.text width d.written
  | .yaml => Yaml.text width d.written

end ApiDirectives
