import XPathExtension.Module

/-!
Callables: what a query calls under one name. A callable has a table of overloads by arity, from
which the number of arguments selects the one to call, and a table of the result types that are
announced for each number of arguments.
-/

namespace XPathExtension

/-- A function to call for one number of arguments, with the conversions around it. -/
structure Overload (M : Type) where
  arity : Nat
  native : NativeFunction M
  inputs : List Slot
  output : Slot

/-- The functions of one name. -/
structure Callable (M : Type) where
  identity : ExpandedName
  moduleName : String
  /-- The parameter types of the overload with the most parameters. -/
  argumentTypes : List SequenceType
  /-- The result types from the least arity on; there is none where an overload is missing. -/
  resultTypes : List (Option SequenceType)
  minArity : Nat
  maxArity : Nat
  hasSideEffects : Bool
  /-- The overloads by ascending arity. -/
  dispatch : List (Overload M)

namespace Overload

variable {M : Type}

def ofBound (f : DescribedFunction M) : Overload M :=
  ⟨f.description.arity, f.native, f.description.parameters.map (·.slot), f.description.result⟩

/-- The place of a call in messages: the function and the number of arguments. -/
def place (name : ExpandedName) (n : Nat) : String := name.text ++ "#" ++ toString n

variable (o : Overload M) (name : ExpandedName) (ns : Namespaces) (args : List Sequence)

/-- The native values of the arguments. The first one that is refused is blamed. -/
def receiveAll : Except Error (List NativeValue) :=
  (o.inputs.zip args).zipIdx.mapM fun ((slot, arg), k) =>
    (slot.receive arg ns).mapError fun e =>
      e.toError.inContext (place name args.length ++ " argument " ++ toString (k + 1))

/-- Call the function under its name on the state of a module instance. -/
def call (state : M) : Except Error Sequence × M :=
  match o.receiveAll name ns args with
  | .error e => (.error e, state)
  | .ok vs =>
    match o.native.call vs state with
    | (.error e, state) => (.error (e.inContext (place name args.length)), state)
    | (.ok v, state) =>
      ((o.output.deliver ns v).mapError fun e =>
        e.toError.inContext (place name args.length ++ " result"), state)

end Overload

/-- Search ascending keys between two positions for a key, by halving. -/
def searchBetween (keys : List Nat) (key low high : Nat) : Option Nat :=
  if low < high then
    let middle := (low + high) / 2
    match keys[middle]? with
    | none => none
    | some k =>
      if k = key then some middle
      else if k < key then searchBetween keys key (middle + 1) high
      else searchBetween keys key low middle
  else none
termination_by high - low

namespace Callable

variable {M : Type}

def ofGroup (m : Module M) (g : OverloadSet) : Callable M :=
  let functions := g.select m.functions
  let descriptions := functions.map (·.description)
  { identity := g.name
    moduleName := m.name
    argumentTypes := ((descriptions.getLast?.map (·.parameters)).getD []).map (·.slot.type)
    resultTypes := (List.range (g.maxArity - g.minArity + 1)).map fun i =>
      (descriptions.find? fun d => d.arity = g.minArity + i).map (·.announced)
    minArity := g.minArity
    maxArity := g.maxArity
    hasSideEffects := descriptions.any (·.sideEffects)
    dispatch := functions.map .ofBound }

variable (c : Callable M)

def arities : List Nat := c.dispatch.map (·.arity)

def overload? (n : Nat) : Option (Overload M) :=
  (searchBetween c.arities n 0 c.dispatch.length).bind fun i => c.dispatch[i]?

/-- The error of a number of arguments without an overload. -/
def noOverload (n : Nat) : Error :=
  .ofCode .xpst0017
    ("function " ++ c.identity.text ++ " has no overload taking " ++ toString n ++ " arguments")

/-- The type announced for the result of a call with a number of arguments. -/
def resultType (n : Nat) : Except Error SequenceType :=
  match if n < c.minArity then none else (c.resultTypes[n - c.minArity]?).join with
  | some t => .ok t
  | none => .error (c.noOverload n)

/-- Call the overload for the number of arguments on the state of a module instance. -/
def invoke (ns : Namespaces) (args : List Sequence) (state : M) : Except Error Sequence × M :=
  match c.overload? args.length with
  | none => (.error (c.noOverload args.length), state)
  | some o => o.call c.identity ns args state

end Callable

/-- The callables of a module, one for each group of functions. -/
def Module.callables {M : Type} (m : Module M) : List (Callable M) := m.groups.map (.ofGroup m)

end XPathExtension
