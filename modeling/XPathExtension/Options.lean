import XPathExtension.Json.Scanner

/-!
Options of loading. They are read from JSON, as an object whose other members are passed over or as
an array in the order of the fields; what is left out has its default.
-/

namespace XPathExtension

/-- Options of loading a batch of modules. -/
structure LoadOptions where
  /-- The directory that gets the plans of the modules. -/
  planDirectory : Option String := none
  /-- Warnings fail the batch as errors do. -/
  failOnWarnings : Bool := false
deriving DecidableEq, Repr

namespace LoadOptions

open Json

/-- The fields of an object that were met so far. -/
structure Fields where
  planDirectory : Option (Option String) := none
  failOnWarnings : Option Bool := none

def Fields.options (f : Fields) : LoadOptions :=
  ⟨f.planDirectory.getD none, f.failOnWarnings.getD false⟩

/-- The colon and the value of a member. A field may be met once. -/
def readField (f : Fields) (name : String) : Scanner Fields := fun cs =>
  if name = "dump_dir" then
    if f.planDirectory.isSome then .error .mistyped
    else do
      let (d, r) ← optionalString (← colon cs)
      return ({ f with planDirectory := some d }, r)
  else if name = "fail_on_warnings" then
    if f.failOnWarnings.isSome then .error .mistyped
    else do
      let (b, r) ← boolean (← colon cs)
      return ({ f with failOnWarnings := some b }, r)
  else return (f, ← skipValue (← colon cs))

/-- A member and those after it, to the closing brace. Each takes a character at least. -/
def readMembers : (fuel : Nat) → Fields → Scanner Fields
  | 0, _, _ => .error .truncated
  | fuel + 1, f, cs => do
    let (name, r) ← memberName string cs
    let (f, r) ← readField f name r
    match skipSpace r with
    | '\x7d' :: r => .ok (f, r)
    | ',' :: r =>
      match skipSpace r with
      | '\x7d' :: _ => .error .malformed
      | r => readMembers fuel f r
    | [] => .error .truncated
    | _ :: _ => .error .malformed

def readObject : Scanner LoadOptions := fun cs =>
  match skipSpace cs with
  | '\x7d' :: r => .ok ({}, r)
  | r => return (← readMembers r.length {} r).map Fields.options id

def closeArray (cs : List Char) : Except Fault (List Char) :=
  match skipSpace cs with
  | ']' :: r => .ok r
  | [] => .error .truncated
  | _ :: _ => .error .malformed

def readArray : Scanner LoadOptions := fun cs =>
  match skipSpace cs with
  | ']' :: r => .ok ({}, r)
  | [] => .error .truncated
  | r => do
    let (d, r) ← optionalString r
    match skipSpace r with
    | ',' :: r =>
      match skipSpace r with
      | ']' :: _ => .error .malformed
      | [] => .error .truncated
      | r =>
        let (b, r) ← boolean r
        return (⟨d, b⟩, ← closeArray r)
    | r => return (⟨d, false⟩, ← closeArray r)

def ofJson (text : String) : Except Fault LoadOptions := do
  let (o, r) ←
    match skipSpace text.toList with
    | '\x7b' :: r => readObject r
    | '[' :: r => readArray r
    | r => .error (otherValue r)
  if (skipSpace r).isEmpty then .ok o else .error .malformed

/-- The options with a directory from outside; an empty name counts as none. -/
def ofDirectory (directory : Option String) : LoadOptions :=
  ⟨directory.filter fun d => d != "", false⟩

end LoadOptions

end XPathExtension
