import XPathExtension.Callable

/-!
Dispatch plans: readable accounts of the functions of a module, their overloads and the conversions
around each one.
-/

namespace XPathExtension

def planLine (s : String) : String := s ++ "\n"

def commaSeparated (ss : List String) : String := String.intercalate ", " ss

namespace Callable

variable {M : Type} (c : Callable M)

/-- The line of an overload: its conversions, its native result and the announced type. -/
def overloadLine (o : Overload M) : String :=
  let inputs := o.inputs.map fun s => s.native.name ++ " <- " ++ s.type.text
  let announced := (c.resultTypes[o.arity - c.minArity]?).join
  planLine ("  #" ++ toString o.arity ++ ": (" ++ commaSeparated inputs ++ ") -> " ++
    o.output.native.name ++ " as " ++ (announced.map SequenceType.text).getD "?")

/-- The plan of a callable: a headline, the declared types and the overloads. -/
def plan : String :=
  planLine (c.identity.text ++ " [" ++ toString c.minArity ++ "..=" ++ toString c.maxArity ++
      "] module=" ++ c.moduleName ++ if c.hasSideEffects then " side-effects" else "") ++
    planLine ("  declared (" ++ commaSeparated (c.argumentTypes.map SequenceType.text) ++ ")") ++
    String.join (c.dispatch.map c.overloadLine)

end Callable

/-- The plan of a module: a headline, the dependencies and the callables. -/
def Module.plan {M : Type} (m : Module M) : String :=
  planLine ("module " ++ m.name ++ " (" ++ m.typeName ++ ") namespace=" ++ m.ns ++
      if m.isStatic then " static" else "") ++
    String.join (m.dependencies.map fun d =>
      planLine ("  dependency " ++ d.property ++ ": " ++ d.injection.typeName)) ++
    String.join (m.callables.map Callable.plan)

end XPathExtension
