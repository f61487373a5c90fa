import Covey.Lib.Json

/-!
# The canonical text of a JSON value

`canonical_json` (proof_apply.rs:3834-3872) sorts the keys of every object before it prints it; the
seal digests and the signatures of the apply proof are taken over this text.

* `canonicalJson_eq_iff`: the canonical text determines the value up to the order of keys.
-/

namespace Covey.Proof

/-- `serde_json::Value`: an object is a map, so its keys differ. -/
structure Value where
  json : Json
  keys : json.DistinctKeys

/-- `canonical_json` (proof_apply.rs:3834-3872), the text under every seal digest and signature. -/
def canonicalJson (v : Value) : List Char := v.json.canonical

/-- **The canonical text is injective and independent of the order of keys**: two values have one
    text if and only if they are equal when the order of the keys of objects is ignored. -/
theorem canonicalJson_eq_iff (v w : Value) :
    canonicalJson v = canonicalJson w ↔ v.json.Same w.json :=
  Json.canonical_eq_iff_same v.keys w.keys

end Covey.Proof
