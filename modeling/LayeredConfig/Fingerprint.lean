import LayeredConfig.Digest.Sha256
import LayeredConfig.Failure
import LayeredConfig.Json.Writer
import LayeredConfig.RawValue

/-!
# Fingerprints

The fingerprint of a map is the SHA-256 digest of its canonical text: compact JSON with the members of each object
in the order of their names. So the order in which keys were written does not show in it.
-/

namespace LayeredConfig

def Json.canonical (j : Json) : Text :=
  j.write .compact

def RawValue.toJson : RawValue → Json
  | .text t => .text t
  | .list head tail => .list ((head :: tail).map Json.text)

namespace Fingerprint

/-- The digest of a text in UTF-8. -/
def ofText (t : Text) : Except Failure Text :=
  match Utf8.encode t with
  | .ok bytes => .ok (Sha256.hex bytes)
  | .error e => .error (.unencodable e)

/-- The fingerprint of a value, which has to be an object. -/
def ofJson (j : Json) : Except Failure Text :=
  match j with
  | .object _ => ofText j.canonical
  | _ => .error (.notMap j.toValue.kind)

def ofRaw (m : OrderedMap RawValue) : Except Failure Text :=
  ofJson (.ofMap (m.mapValues RawValue.toJson))

def ofTexts (m : OrderedMap Text) : Except Failure Text :=
  ofJson (.ofMap (m.mapValues Json.text))

end Fingerprint

end LayeredConfig
