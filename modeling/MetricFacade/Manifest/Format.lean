import MetricFacade.File.Path
import MetricFacade.Manifest.Decoding
import MetricFacade.Json.Reader
import MetricFacade.Toml.Reader
import MetricFacade.Yaml.Reader

/-!
# Formats of manifests

The extension of a file says which format its text is in.
-/
namespace MetricFacade.Manifest

inductive Format where
  | toml
  | yaml
  | json
  deriving Repr, DecidableEq

namespace Format

def name : Format → String
  | toml => "TOML"
  | yaml => "YAML"
  | json => "JSON"

def ofExtension? : String → Option Format
  | "toml" => some toml
  | "yml" | "yaml" => some yaml
  | "json" => some json
  | _ => none

def ofPath? (path : String) : Option Format := do
  ofExtension? (← File.extension? path)

def document : Format → String → Document
  | toml => Toml.read
  | yaml => Yaml.read
  | json => Json.read Json.NumberParts.node

def dialect : Format → Dialect
  | toml => Dialect.toml
  | yaml => Dialect.yaml
  | json => Dialect.json

end Format

/-- The manifest that a text in this format holds. -/
def parse (format : Format) (text : String) : Except Fault Manifest :=
  ofDocument format.dialect (format.document text)

end MetricFacade.Manifest
