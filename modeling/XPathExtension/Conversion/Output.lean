import XPathExtension.Conversion.Slot

/-!
Outputs: sequences under construction. The items of native values are put after those that are there
already, and the first value that has no item ends the construction.
-/

namespace XPathExtension.Slot

variable (s : Slot)

mutual

/-- Put the items of a native value at the end. -/
def push (ns : Namespaces) (out : Sequence) : NativeValue → Except ConversionError Sequence
  | .unit => .ok out
  | .null => .ok out
  | .sequence vs => pushAll ns out vs
  | v => return out ++ [← s.deliverItem v ns]

def pushAll (ns : Namespaces) (out : Sequence) : List NativeValue → Except ConversionError Sequence
  | [] => .ok out
  | v :: vs => do pushAll ns (← push ns out v) vs

end

end XPathExtension.Slot
