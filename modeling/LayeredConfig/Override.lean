import LayeredConfig.RawValue

/-!
# Overrides

The audit record of a key that one source had defined and another one defines again.
-/

namespace LayeredConfig

/-- A key was defined again. -/
structure Override where
  key : Text
  /-- The new value, which holds from now on. -/
  incoming : RawValue
  existing : RawValue
  source : Text
  /-- The source of the value that is replaced, if known. -/
  previousSource : Option Text
  deriving DecidableEq

end LayeredConfig
