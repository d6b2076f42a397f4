/-!
Binary floating-point numbers of the interchange formats, with one value for all NaNs. A finite
magnitude is given by its position in the list of magnitudes in ascending order, so that equality
of values is equality of bits and the next larger magnitude has the next position.
-/

namespace XPathExtension

/-- An interchange format: the widths of its fraction and exponent fields. -/
structure Binary.Format where
  fractionBits : Nat
  exponentBits : Nat
deriving DecidableEq, Repr

namespace Binary.Format

def binary64 : Format := ⟨52, 11⟩

def binary32 : Format := ⟨23, 8⟩

/-- How many finite magnitudes there are; also the position of infinity after them. -/
def magnitudes (f : Format) : Nat := (Nat.pow 2 f.exponentBits - 1) * Nat.pow 2 f.fractionBits

/-- The exponent of the last place of the smallest magnitudes. -/
def minExponent (f : Format) : Int := 2 - (Nat.pow 2 (f.exponentBits - 1) : Int) - f.fractionBits

def signBit (f : Format) : Nat := Nat.pow 2 (f.exponentBits + f.fractionBits)

end Binary.Format

/-- A number of the format `f`. -/
inductive Binary (f : Binary.Format) where
  | nan
  | infinite (negative : Bool)
  | finite (negative : Bool) (magnitude : Fin f.magnitudes)
deriving DecidableEq

abbrev Binary64 := Binary .binary64

abbrev Binary32 := Binary .binary32

namespace Binary

variable {f : Format}

/-- The magnitude at position `k` is `significand * 2 ^ exponent`. -/
structure Magnitude where
  significand : Nat
  exponent : Int
deriving DecidableEq, Repr

/-- The magnitude at a position: equally spaced below the first full significand, and from there on
with a leading bit that is not stored. -/
def magnitudeAt (f : Format) (k : Nat) : Magnitude :=
  let full := Nat.pow 2 f.fractionBits
  if k / full = 0 then ⟨k, f.minExponent⟩
  else ⟨full + k % full, f.minExponent + (k / full - 1 : Nat)⟩

/-- The number at position `k` with the given sign; past the finite ones it is infinite. -/
def ofPosition (f : Format) (negative : Bool) (k : Nat) : Binary f :=
  if h : k < f.magnitudes then .finite negative ⟨k, h⟩ else .infinite negative

/-- Zero with the given sign. -/
def zero (f : Format) (negative : Bool) : Binary f := ofPosition f negative 0

def isFinite : Binary f → Bool
  | .finite .. => true
  | _ => false

def isNaN : Binary f → Bool
  | .nan => true
  | _ => false

/-- Both zeros, and nothing else. -/
def isZero : Binary f → Bool
  | .finite _ k => k.val == 0
  | _ => false

def abs : Binary f → Binary f
  | .nan => .nan
  | .infinite _ => .infinite false
  | .finite _ k => .finite false k

/-- The bit pattern; every NaN has the pattern of the quiet one. -/
def toBits : Binary f → Nat
  | .nan => f.magnitudes + Nat.pow 2 (f.fractionBits - 1)
  | .infinite negative => (if negative then f.signBit else 0) + f.magnitudes
  | .finite negative k => (if negative then f.signBit else 0) + k.val

def ofBits (f : Format) (bits : Nat) : Binary f :=
  let negative := decide (f.signBit ≤ bits)
  let k := bits % f.signBit
  if f.magnitudes < k then .nan else ofPosition f negative k

/-- The integer part of a finite number, toward zero. -/
def truncate? : Binary f → Option Int
  | .finite negative k =>
    let v := magnitudeAt f k
    let n := if 0 ≤ v.exponent then v.significand * Nat.pow 2 v.exponent.toNat
      else v.significand / Nat.pow 2 (-v.exponent).toNat
    some (if negative then -(n : Int) else n)
  | _ => none

end Binary

end XPathExtension
