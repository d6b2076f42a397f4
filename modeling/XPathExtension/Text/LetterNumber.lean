import XPathExtension.Text.CharClass

/-!
Numerals written with letters, such as Roman ones (Unicode general category Nl, version 15).
-/

namespace XPathExtension.Text

/-- Characters of the general category Nl. -/
def letterNumber : CharClass where
  ranges := [
    (0x16EE, 0x16F0), (0x2160, 0x2182), (0x2185, 0x2188), (0x3007, 0x3007), (0x3021, 0x3029),
    (0x3038, 0x303A), (0xA6E6, 0xA6EF), (0x10140, 0x10174), (0x10341, 0x10341),
    (0x1034A, 0x1034A), (0x103D1, 0x103D5), (0x12400, 0x1246E)]

end XPathExtension.Text
