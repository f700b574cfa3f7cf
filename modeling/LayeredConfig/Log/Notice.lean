import LayeredConfig.Log.Level
import LayeredConfig.Override

/-!
# Notices

Everything that the library reports while it works. A `Notice` says what happened; `Notice.record` puts it into a
log record: its level, the logger of the part of the library that reports it, its message, and the context by
which tools find the key and the sources in question.
-/

namespace LayeredConfig.Log

/-- A part of the library that reports. -/
inductive Component
  | namespace
  | loader
  /-- The file tree where sources live. -/
  | sources
  | persister
  | configuration
  deriving DecidableEq

/-- The logger above all loggers of the library. -/
def rootLogger : Text := "lsc_config"

def Component.logger : Component → Text
  | .namespace => "lsc_config.core.config.namespace"
  | .loader => "lsc_config.core.config.loader"
  | .sources => "lsc_config.core.config.sources"
  | .persister => "lsc_config.core.config.persister"
  | .configuration => "lsc_config.core.config.configuration"

structure Record where
  level : Level
  logger : Text
  message : Text
  /-- Named values for tools. -/
  context : List (Text × Json)

/-- Something that the library reports. -/
inductive Notice
  | loading (identifier : Text)
  | adding (identifier : Text)
  | ignoring (identifier : Text)
  | loaded (keys sources overrides : Nat) (fingerprint : Text)
  | overridden (o : Override)
  | noDirectory (name : Text)
  | saved (path : Text)
  | unsaved (location : Text) (e : StorageError)
  | unloadable (name : Text) (e : Failure)
  deriving DecidableEq

namespace Notice

/-- The name of the context that holds a key. -/
def keyField : Text := "config_key"

/-- The name of the context that holds a source. -/
def sourceField : Text := "config_source"

/-- The name of the context that holds the source of a replaced value. -/
def previousSourceField : Text := "previous_source"

/-- A text that may be missing, as context. -/
def optional : Option Text → Json
  | some t => .text t
  | none => .null

def record : Notice → Record
  | .loading identifier =>
    ⟨.debug, Component.loader.logger, "Loading configuration url : " ++ identifier, []⟩
  | .adding identifier =>
    ⟨.debug, Component.loader.logger, "Adding configuration : " ++ identifier, []⟩
  | .ignoring identifier =>
    ⟨.debug, Component.loader.logger,
      "Ignoring supplementary candidate with unsupported format: " ++ identifier, []⟩
  | .loaded keys sources overrides fingerprint =>
    ⟨.debug, Component.loader.logger,
      "Configuration loaded: " ++ Text.ofNat keys ++ " keys, " ++ Text.ofNat sources ++
        " supplementary sources, " ++ Text.ofNat overrides ++ " conflicts, fingerprint=" ++ fingerprint,
      []⟩
  | .overridden o =>
    ⟨.warning, Component.namespace.logger,
      "Property " ++ o.key ++ " (" ++ o.incoming.decoded ++ ") in file " ++ o.source ++
        " override main value (" ++ o.existing.decoded ++ ")",
      [(keyField, .text o.key), (sourceField, .text o.source),
        (previousSourceField, optional o.previousSource)]⟩
  | .noDirectory name =>
    ⟨.debug, Component.sources.logger, "No supplementary directory '" ++ name ++ "' found", []⟩
  | .saved path =>
    ⟨.info, Component.sources.logger, "Saved configuration: " ++ path, []⟩
  | .unsaved location e =>
    ⟨.error, Component.persister.logger,
      "Unable to save configuration to " ++ location ++ ": " ++ e.message, [(sourceField, .text location)]⟩
  | .unloadable name e =>
    ⟨.error, Component.configuration.logger, "Unable to load '" ++ name ++ "': " ++ e.message,
      [(sourceField, .text name)]⟩

end Notice

end LayeredConfig.Log
