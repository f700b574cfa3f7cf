import LayeredConfig.Source.Path

/-!
# Formats of sources

The suffix of a source, in any case, says in which format it is written.
-/

namespace LayeredConfig

inductive Format
  /-- Lines of keys and values. -/
  | properties
  | yaml
  | json
  deriving DecidableEq

namespace Format

/-- The format that goes with a suffix in lower case. -/
def ofSuffix? (suffix : Text) : Option Format :=
  if suffix = (".properties" : Text) then some .properties
  else if suffix = (".yaml" : Text) || suffix = (".yml" : Text) then some .yaml
  else if suffix = (".json" : Text) then some .json
  else none

def suffixOf (identifier : Text) : Text :=
  (Path.ofText identifier).suffix.lowerCase

def of? (identifier : Text) : Option Format :=
  ofSuffix? (suffixOf identifier)

end Format

end LayeredConfig
