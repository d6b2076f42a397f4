import XPathExtension.Native.HostType

/-!
Native functions: typed functions of the host that queries call. A function takes values of its
parameter types and works on the state of its module instance.
-/

namespace XPathExtension

@[reducible] def HostType.Arguments : List HostType → Type
  | [] => Unit
  | t :: ts => t.Value × HostType.Arguments ts

/-- Why native values are no arguments. -/
inductive ArgumentError where
  /-- There are fewer values than parameters. -/
  | missing
  | native (fault : NativeError)
deriving DecidableEq, Repr

def ArgumentError.toError : ArgumentError → Error
  | missing => .ofCode .xpst0017 "missing argument for native call"
  | native e => e.toError

/-- Read native values as arguments, from the first parameter on; further values are not looked
at. -/
def HostType.readArguments :
    (ts : List HostType) → List NativeValue → Except ArgumentError (HostType.Arguments ts)
  | [], _ => .ok ()
  | _ :: _, [] => .error .missing
  | t :: ts, v :: vs => do
    let a ← (t.fromNative v).mapError .native
    return (a, ← HostType.readArguments ts vs)

/-- A function of the host over module states `M`. Methods use the state; functions of a module that
is never instantiated cannot. -/
structure NativeFunction (M : Type) where
  parameters : List HostType
  result : HostType
  isMethod : Bool
  body : HostType.Arguments parameters → M → Except Error result.Value × M

namespace NativeFunction

variable {M : Type}

def ofFallible (parameters : List HostType) (result : HostType)
    (body : HostType.Arguments parameters → Except Error result.Value) : NativeFunction M :=
  ⟨parameters, result, false, fun a m => (body a, m)⟩

def ofFunction (parameters : List HostType) (result : HostType)
    (body : HostType.Arguments parameters → result.Value) : NativeFunction M :=
  ofFallible parameters result fun a => .ok (body a)

def ofMethod (parameters : List HostType) (result : HostType)
    (body : HostType.Arguments parameters → M → Except Error result.Value × M) :
    NativeFunction M :=
  ⟨parameters, result, true, body⟩

/-- Call a function with native values. It does not run if they are no arguments. -/
def call (f : NativeFunction M) (vs : List NativeValue) (m : M) : Except Error NativeValue × M :=
  match HostType.readArguments f.parameters vs with
  | .error e => (.error e.toError, m)
  | .ok a => (f.body a m).map (Except.map f.result.toNative) id

section

variable {p : HostType} {ts : List HostType} {v : NativeValue} {vs : List NativeValue}
  {result : HostType} {isMethod : Bool}
  {body : HostType.Arguments (p :: ts) → M → Except Error result.Value × M} {m : M}

/-- A function whose arguments are all read runs on them. -/
theorem call_cons {x : p.Value} {xs : HostType.Arguments ts} (hx : p.fromNative v = .ok x)
    (hxs : HostType.readArguments ts vs = .ok xs) :
    call ⟨p :: ts, result, isMethod, body⟩ (v :: vs) m =
      (body (x, xs) m).map (Except.map result.toNative) id := by
  have hread : HostType.readArguments (p :: ts) (v :: vs) = .ok (x, xs) := by
    rw [HostType.readArguments, hx, hxs]
    rfl
  rw [call, hread]

theorem call_cons_of_error {f : NativeError} (hf : p.fromNative v = .error f) :
    call ⟨p :: ts, result, isMethod, body⟩ (v :: vs) m = (.error f.toError, m) := by
  have hread : HostType.readArguments (p :: ts) (v :: vs) = .error (.native f) := by
    rw [HostType.readArguments, hf]
    rfl
  rw [call, hread]
  rfl

end

end NativeFunction

end XPathExtension
