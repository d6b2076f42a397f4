import XPathExtension.Native.HostType

/-!
Passages: how the values of a type become native values and are read back. Lists, values that may be
absent and enumerations have passages made from those of their elements and from the texts of their
variants, and the passages of the host types are made in this way.
-/

namespace XPathExtension

/-- The two ways between the values of a type and native values. -/
structure Passage (α : Type) where
  toNative : α → Except Error NativeValue
  fromNative : NativeValue → Except NativeError α

namespace Passage

variable {α : Type}

def base (t : BaseType) : Passage t.Value := ⟨fun x => .ok (t.toNative x), t.fromNative⟩

/-- Variants travel as texts. The type says how they are written and which texts it reads. -/
def enumeration (name : String) (display : α → String) (ofText? : String → Option α) :
    Passage α where
  toNative x := .ok (.string (display x))
  fromNative v := do
    let s ← v.toText
    match ofText? s with
    | some x => .ok x
    | none => .error (.unknownVariant s name)

variable (p : Passage α)

/-- A list also takes one bare value, and an absent one as no values. -/
def list : Passage (List α) where
  toNative xs := .sequence <$> xs.mapM p.toNative
  fromNative
    | .sequence vs => vs.mapM p.fromNative
    | .null => .ok []
    | v => return [← p.fromNative v]

def option : Passage (Option α) where
  toNative
    | none => .ok .null
    | some x => p.toNative x
  fromNative
    | .null => .ok none
    | v => return some (← p.fromNative v)

def unit : Passage Unit where
  toNative _ := .ok .unit
  fromNative
    | .unit => .ok ()
    | v => .error (v.mismatch "unit")

end Passage

def HostType.passage : (t : HostType) → Passage t.Value
  | base t => .base t
  | list t => t.passage.list
  | option t => t.passage.option
  | unit => .unit

end XPathExtension
