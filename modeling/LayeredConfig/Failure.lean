import LayeredConfig.Json.Reader
import LayeredConfig.Properties.Reader
import LayeredConfig.Text.Utf8
import LayeredConfig.Yaml.Failure

/-!
# Failures

Everything that an operation of the library can fail with, by cause. `Failure.message` is the one place where
causes are put into words.

* `StorageError`: the place where sources live refuses an access.
* `SourceError`: a source cannot be read; it names the source, and the line if one is known.
* `Failure`: any failure. Some are failures of the configuration (`Failure.isOfConfiguration`), which a
  configuration remembers when its first load fails; the others come from a value that cannot be converted.
-/

namespace LayeredConfig

inductive PathFault
  | missing
  /-- A part of the path that has to be a directory is something else. -/
  | notDirectory
  /-- The path is in use as it is. -/
  | busy
  | exists
  /-- A file was expected. -/
  | isDirectory
  | nameTooLong
  | linkLoop
  deriving DecidableEq

namespace PathFault

def number : PathFault → Nat
  | .missing => 2
  | .busy => 16
  | .exists => 17
  | .notDirectory => 20
  | .isDirectory => 21
  | .nameTooLong => 36
  | .linkLoop => 40

def wording : PathFault → Text
  | .missing => "No such file or directory"
  | .busy => "Device or resource busy"
  | .exists => "File exists"
  | .notDirectory => "Not a directory"
  | .isDirectory => "Is a directory"
  | .nameTooLong => "File name too long"
  | .linkLoop => "Too many levels of symbolic links"

end PathFault

inductive StorageError
  | denied (reason : Text)
  | absent (identifier : Text)
  /-- A path cannot be used; a renaming has a second path. -/
  | path (fault : PathFault) (path : Text) (target : Option Text)
  deriving DecidableEq

def StorageError.message : StorageError → Text
  | .denied reason => reason
  | .absent identifier => identifier
  | .path fault p target =>
    let second : Text :=
      match target with
      | none => []
      | some q => " -> " ++ q.quoted
    "[Errno " ++ Text.ofNat fault.number ++ "] " ++ fault.wording ++ ": " ++ p.quoted ++ second

inductive SourceFault
  | unsupportedFormat (suffix : Text)
  | rootNotMap (kind : Text)
  | notUtf8 (e : Utf8.DecodeError)
  /-- The text is no JSON; the words say what is wrong where. -/
  | json (description : Text)
  | yaml
  | properties (fault : Properties.Fault)
  /-- The value at a key is of a kind that no configuration holds. -/
  | notScalar (key kind : Text)
  /-- The source cannot be accessed. -/
  | unreadable (e : StorageError)
  deriving DecidableEq

/-- The wording of a fault of a source. What a YAML reader has to say about a text is left open. -/
def SourceFault.message : SourceFault → Text
  | .unsupportedFormat suffix =>
    "Formato não suportado: " ++ (if suffix.isEmpty then ("<none>" : Text) else suffix)
  | .rootNotMap kind => "Config root deve ser um mapa, recebido: " ++ kind
  | .notUtf8 e => "Conteúdo não é UTF-8 válido: " ++ e.message
  | .json description => "JSON inválido: " ++ description
  | .yaml => "YAML inválido: *"
  | .properties fault => fault.message
  | .notScalar key kind => "Valor não escalar para a chave '" ++ key ++ "': " ++ kind
  | .unreadable e => "Fonte ilegível: " ++ e.message

structure SourceError where
  fault : SourceFault
  source : Option Text
  /-- The line, counted from one, if known. -/
  line : Option Nat
  deriving DecidableEq

/-- The wording of a source error, with the place in brackets where the source is known. -/
def SourceError.message (e : SourceError) : Text :=
  match e.source with
  | none => e.fault.message
  | some source =>
    let line : Text :=
      match e.line with
      | none => []
      | some n => ":" ++ Text.ofNat n
    e.fault.message ++ " [" ++ source ++ line ++ "]"

/-- Where a value that is no raw value was offered. -/
inductive Misfit
  /-- A value of this kind was to be presented as a text. -/
  | presented (kind : Text)
  /-- A value of this kind was to be set at a key. -/
  | set (key kind : Text)
  /-- A value was to be merged at a key from a source. -/
  | merged (key source : Text)
  /-- A value was among the changes of a key. -/
  | changed (key : Text)
  deriving DecidableEq

def Misfit.message : Misfit → Text
  | .presented kind => "Valor de configuração deve ser str ou sequência de str, recebido: " ++ kind
  | .set key kind =>
    "Valor para '" ++ key ++ "' deve ser str ou sequência não vazia de str, recebido: " ++ kind
  | .merged key source =>
    "Valor para '" ++ key ++ "' em " ++ source ++ " deve ser str ou sequência não vazia de str"
  | .changed key => "Valor para '" ++ key ++ "' deve ser str ou sequência não vazia de str"

inductive Failure
  /-- The primary source was not found; where it was looked for, if that is told. -/
  | notFound (name : Text) (searched : Option (List Text))
  | source (e : SourceError)
  | misfit (m : Misfit)
  | unsaved (location : Text) (e : StorageError)
  | storage (e : StorageError)
  /-- A key is not a text or is empty. -/
  | badKey
  /-- A prefix is not a text or has nothing but dots and blanks. -/
  | badPrefix
  /-- The prefix of a view within a view is of this kind. -/
  | prefixNotText (kind : Text)
  /-- What a fingerprint is wanted of is no map but of this kind. -/
  | notMap (kind : Text)
  | unencodable (e : Utf8.EncodeError)
  | digits (e : DigitLimitError)
  /-- A scalar of a YAML document cannot be converted. -/
  | scalar (e : Yaml.ScalarError)
  | nullInPath
  /-- A path without a name cannot be given a suffix. -/
  | namelessPath (path : Text)
  | unknownLevel (name : Text)
  /-- A level of a log is neither an integer nor a text; its wording. -/
  | badLevel (shown : Text)
  deriving DecidableEq

namespace Failure

def message : Failure → Text
  | .notFound name searched =>
    let places : Text :=
      match searched with
      | none => []
      | some roots => " (searched: " ++ Text.join ", " roots ++ ")"
    "Unable to find '" ++ name ++ "' file" ++ places
  | .source e => e.message
  | .misfit m => m.message
  | .unsaved location e => "Falha ao gravar configuração em " ++ location ++ ": " ++ e.message
  | .storage e => e.message
  | .badKey => "key must be a non-empty string"
  | .badPrefix => "prefix must be a non-empty string"
  | .prefixNotText kind => "'" ++ kind ++ "' object has no attribute 'rstrip'"
  | .notMap kind => "Config para hashing deve ser um mapa, recebido: " ++ kind
  | .unencodable e => e.message
  | .digits e => e.message
  | .scalar e => e.message
  | .nullInPath => "embedded null byte"
  | .namelessPath path => "PosixPath(" ++ path.quoted ++ ") has an empty name"
  | .unknownLevel name => "Unknown level: " ++ name.quoted
  | .badLevel shown => "Level not an integer or a valid string: " ++ shown

/-- Whether a failure is one of the configuration, and not of a conversion or an access. -/
def isOfConfiguration : Failure → Bool
  | .notFound _ _ | .source _ | .misfit _ | .unsaved _ _ => true
  | _ => false

end Failure

end LayeredConfig
