import XPathExtension.Callable

/-!
Diagnostics: what is found on callables and modules when a batch is compiled. Errors fail the batch;
warnings point at calls that fail or convert their arguments otherwise than the widest overload
declares.
-/

namespace XPathExtension

def numbersText (ns : List Nat) : String :=
  "[" ++ String.intercalate ", " (ns.map toString) ++ "]"

inductive Severity where
  | warning | error
deriving DecidableEq, Repr

/-- Something found on a function or on a module. -/
inductive Finding where
  | reservedNamespace (ns : String)
  | noOverloads
  | unordered (arities : List Nat)
  | rangeMismatch (minArity maxArity : Nat) (arities : List Nat)
  | resultTableSize
  | argumentTypeCount
  | inputCount (arity inputs : Nat)
  | noResultType (arity : Nat)
  /-- Another module of the batch has a function of this name. -/
  | clash (owner : String)
  /-- Numbers of arguments in the range without an overload. -/
  | gap (arities : List Nat)
  /-- The type at a position is not the one of the widest overload. -/
  | otherType (position arity : Nat) (actual declared : SequenceType)
deriving DecidableEq, Repr

namespace Finding

def severity : Finding → Severity
  | gap _ | otherType .. => .warning
  | _ => .error

def message : Finding → String
  | reservedNamespace ns => "namespace " ++ ns ++ " is reserved"
  | noOverloads => "no overloads"
  | unordered ns => "dispatch table not strictly ordered by arity: " ++ numbersText ns
  | rangeMismatch lo hi ns =>
    "arity range " ++ toString lo ++ "..=" ++ toString hi ++ " does not match overloads " ++
      numbersText ns
  | resultTableSize => "result type table does not cover the arity range"
  | argumentTypeCount => "declared argument types do not match the highest arity"
  | inputCount n k => "overload #" ++ toString n ++ " has " ++ toString k ++ " input conversions"
  | noResultType n => "overload #" ++ toString n ++ " has no result type"
  | clash owner => "function already provided by module '" ++ owner ++ "'"
  | gap ns => "no overload for arities " ++ numbersText ns ++ "; such calls fail"
  | otherType k n actual declared =>
    "parameter " ++ toString (k + 1) ++ " of #" ++ toString n ++ " is " ++ actual.text ++
      " but declared as " ++ declared.text

end Finding

/-- A finding and where it was made. -/
structure Diagnostic where
  moduleName : String
  function : String
  finding : Finding
deriving DecidableEq, Repr

namespace Callable

variable {M : Type} (c : Callable M)

/-- Every key is less than the next one. -/
def isAscending : List Nat → Bool
  | a :: b :: r => decide (a < b) && isAscending (b :: r)
  | _ => true

def overloadFaults (o : Overload M) : List Finding :=
  (if o.inputs.length = o.arity then [] else [.inputCount o.arity o.inputs.length]) ++
    match c.resultType o.arity with
    | .ok _ => []
    | .error _ => [.noResultType o.arity]

/-- What is wrong with the tables, given that they cover the range of arities. -/
def tableFaults : List Finding :=
  (if c.resultTypes.length = c.maxArity - c.minArity + 1 then [] else [.resultTableSize]) ++
    (if c.argumentTypes.length = c.maxArity then [] else [.argumentTypeCount]) ++
    c.dispatch.flatMap c.overloadFaults

/-- The numbers of arguments in the range without an overload. -/
def gaps : List Nat :=
  (List.range' c.minArity (c.maxArity - c.minArity + 1)).filter fun n => !c.arities.contains n

/-- The positions of an overload where its type is not the declared one. -/
def otherTypes (o : Overload M) : List Finding :=
  (o.inputs.zip c.argumentTypes).zipIdx.filterMap fun ((slot, declared), k) =>
    if slot.type = declared then none else some (.otherType k o.arity slot.type declared)

def warnings : List Finding :=
  (if c.gaps.isEmpty then [] else [.gap c.gaps]) ++ c.dispatch.flatMap c.otherTypes

/-- All that is found on a callable. Tables that miss the range of arities are not looked into. -/
def findings : List Finding :=
  if c.arities.isEmpty then [.noOverloads]
  else
    (if isAscending c.arities then [] else [.unordered c.arities]) ++
      if c.arities.head? = some c.minArity ∧ c.arities.getLast? = some c.maxArity then
        c.tableFaults ++ c.warnings
      else [.rangeMismatch c.minArity c.maxArity c.arities]

end Callable

def Module.diagnostics {M : Type} (m : Module M) : List Diagnostic :=
  (if m.ns ∈ Namespace.reserved then [⟨m.name, "*", .reservedNamespace m.ns⟩] else []) ++
    m.callables.flatMap fun c => c.findings.map fun f => ⟨m.name, c.identity.text, f⟩

end XPathExtension
