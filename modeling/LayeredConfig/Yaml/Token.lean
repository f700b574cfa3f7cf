import LayeredConfig.Yaml.Failure

/-!
# YAML tokens

The smallest parts of a YAML text that carry structure. Indentation shows as tokens too: the start of a block
collection and its end. A text that is refused still has the tokens before the fault, so a `TokenStream` holds
tokens and, if reading stopped early, the reason.
-/

namespace LayeredConfig.Yaml

/-- A line that speaks to the reader of a document. -/
inductive Directive
  /-- The version of the format that a document is written in. -/
  | version (major minor : Nat)
  /-- A handle for the beginning of tags. -/
  | tag (handle start : Text)
  | reserved
  deriving DecidableEq

inductive Token
  | streamStart
  | streamEnd
  | directive (d : Directive)
  /-- The mark before a document. -/
  | documentStart
  /-- The mark behind a document. -/
  | documentEnd
  /-- The indentation of a block sequence begins. -/
  | blockSequenceStart
  /-- The indentation of a block mapping begins. -/
  | blockMappingStart
  /-- The indentation of a block collection ends. -/
  | blockEnd
  /-- An opening bracket. -/
  | flowSequenceStart
  /-- A closing bracket. -/
  | flowSequenceEnd
  /-- An opening brace. -/
  | flowMappingStart
  /-- A closing brace. -/
  | flowMappingEnd
  /-- The hyphen before an item. -/
  | blockEntry
  /-- The comma between items. -/
  | flowEntry
  | key
  | value
  /-- The name of a node that is meant again. -/
  | alias (name : Text)
  /-- The name that the next node is given. -/
  | anchor (name : Text)
  /-- The tag of the next node: a handle, if it has one, and the rest. -/
  | tag (handle : Option Text) (suffix : Text)
  /-- The text of a scalar; `plain` if it stands without quotes. -/
  | scalar (text : Text) (plain : Bool)
  deriving DecidableEq

/-- The tokens of a text, as far as it can be read. -/
structure TokenStream where
  tokens : List Token
  /-- Why reading stopped before the end, if it did. -/
  failure : Option Failure

end LayeredConfig.Yaml
