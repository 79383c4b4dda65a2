import SqlLayer.Json
import SqlLayer.Value

/-!
# Values as JSON

Bytes become an array of numbers, dates and times become texts, and a double that is not finite
becomes `null`.
-/

namespace SqlLayer

/-- A value as a JSON tree. -/
def Value.toJson : Value → Json
  | .null => .null
  | .int n => .int n.toInt
  | .float x => if x.isFinite then .float x else .null
  | .text s => .text s
  | .bytes b => .array (b.map fun x => .int x.toNat)
  | .date d => .text d.text
  | .time t => .text t.preciseText
  | .dateTime t => .text t.preciseText

end SqlLayer
