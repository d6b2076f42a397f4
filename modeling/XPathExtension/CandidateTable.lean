import XPathExtension.Registry

/-!
The table of candidates. Each name has its registrations in the order in which they are tried, and
the order is made anew each time one is added: narrower ranges first, of equally narrow ones those
that start first, and of equal ones those that were there before.
-/

namespace XPathExtension

/-- Names with their candidates, each name once. -/
structure CandidateTable (α : Type) where
  entries : List (ExpandedName × List (Registration α)) := []

namespace CandidateTable

variable {α : Type} (t : CandidateTable α)

def candidates? (name : ExpandedName) : Option (List (Registration α)) := t.entries.lookup name

/-- The first entry of a name, changed; a name without an entry gets one from nothing. -/
def update (name : ExpandedName) (f : List (Registration α) → List (Registration α)) :
    List (ExpandedName × List (Registration α)) → List (ExpandedName × List (Registration α))
  | [] => [(name, f [])]
  | (key, rs) :: es => if name = key then (key, f rs) :: es else (key, rs) :: update name f es

/-- Put a registration behind the others of its name and sort them. -/
def register (r : Registration α) : CandidateTable α :=
  ⟨update r.name (fun rs => Insertion.sort Registration.le (rs ++ [r])) t.entries⟩

/-- The first candidate that covers the number of arguments. -/
def resolve (name : ExpandedName) (n : Nat) : Except ResolutionError (Registration α) :=
  match t.candidates? name with
  | none => .error (.unknown name)
  | some rs =>
    match rs.find? (·.covers n) with
    | some r => .ok r
    | none => .error (.wrongArity name (Registry.availableArities rs))

theorem lookup_update (name other : ExpandedName)
    (f : List (Registration α) → List (Registration α))
    (es : List (ExpandedName × List (Registration α))) :
    (update name f es).lookup other =
      if other = name then some (f ((es.lookup name).getD [])) else es.lookup other := by
  induction es with
  | nil =>
    by_cases h : other = name
    · simp [update, h]
    · have hother : (other == name) = false := by simpa using h
      simp [update, List.lookup_cons, h, hother]
  | cons e es ih =>
    obtain ⟨key, rs⟩ := e
    by_cases hkey : name = key
    · subst hkey
      by_cases h : other = name
      · simp [update, h]
      · have hother : (other == name) = false := by simpa using h
        simp [update, List.lookup_cons, h, hother]
    · have hname : (name == key) = false := by simpa using hkey
      rw [update, if_neg hkey, List.lookup_cons, List.lookup_cons, List.lookup_cons, hname, ih]
      by_cases hother : other = key
      · subst hother
        have hne : other ≠ name := fun h => hkey h.symm
        simp [hne]
      · have hskip : (other == key) = false := by simpa using hother
        simp [hskip]

/-- A registration changes the candidates of its name only. -/
theorem candidates?_register (r : Registration α) (name : ExpandedName) :
    (t.register r).candidates? name =
      if name = r.name then
        some (Insertion.sort Registration.le ((t.candidates? r.name).getD [] ++ [r]))
      else t.candidates? name :=
  lookup_update r.name name _ t.entries

end CandidateTable

end XPathExtension
