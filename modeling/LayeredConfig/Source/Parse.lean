import LayeredConfig.Failure
import LayeredConfig.Source.Flatten
import LayeredConfig.Source.Format
import LayeredConfig.Yaml.Document

/-!
# Reading a source

The bytes of a source become a map of raw values (`Source.parse`). The suffix of the identifier says in which
format they are read; a primary source may have any suffix and is a properties text then. A structured source
holds a map, or nothing, which is an empty map; its map is flattened.
-/

namespace LayeredConfig.Source

def refuse {α : Type} (identifier : Text) (fault : SourceFault) (line : Option Nat) : Except Failure α :=
  .error (.source ⟨fault, some identifier, line⟩)

def parseProperties (identifier : Text) (text : Text) : Except Failure (OrderedMap RawValue) :=
  match Properties.read text with
  | .ok m => .ok (m.mapValues RawValue.text)
  | .error e => refuse identifier (.properties e.fault) (some e.line)

/-- The value that a YAML text holds, if any. -/
def readYaml (identifier : Text) (text : Text) : Except Failure (Option Value) :=
  match Yaml.read text with
  | .ok v => .ok v
  | .error .malformed => refuse identifier .yaml none
  | .error (.scalar e) => .error (.scalar e)

/-- The value that a JSON text holds; a text of white space holds none. -/
def readJson (identifier : Text) (text : Text) : Except Failure (Option Value) :=
  if text.isWhite then .ok none
  else
    match Json.read text with
    | .ok j => .ok (some j.toValue)
    | .error (.syntactic fault position) =>
      refuse identifier (.json (Json.describe text fault position)) (some (Json.lineAt text position))
    | .error (.digits e) => .error (.digits e)

def ofValue (identifier : Text) : Option Value → Except Failure (OrderedMap RawValue)
  | none | some (.atom .null) => .ok .empty
  | some (.map entries) =>
    match Value.flatten entries with
    | .ok m => .ok m
    | .error (.notScalar key kind) => refuse identifier (.notScalar key kind) none
    | .error (.digits e) => .error (.digits e)
  | some v => refuse identifier (.rootNotMap v.kind) none

/-- Reads the bytes of a source. If `strict`, a suffix without a format is refused. -/
def parse (identifier : Text) (data : List UInt8) (strict : Bool) : Except Failure (OrderedMap RawValue) :=
  let format := Format.of? identifier
  if strict && format.isNone then refuse identifier (.unsupportedFormat (Format.suffixOf identifier)) none
  else
    match Utf8.decode data with
    | .error e => refuse identifier (.notUtf8 e) none
    | .ok text =>
      match format with
      | some .yaml => do ofValue identifier (← readYaml identifier text)
      | some .json => do ofValue identifier (← readJson identifier text)
      | _ => parseProperties identifier text

end LayeredConfig.Source
