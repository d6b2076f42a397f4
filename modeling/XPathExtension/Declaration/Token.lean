import XPathExtension.Declaration
import XPathExtension.Text.Alphabetic

/-!
Tokens of declared sequence types: names, quoted literals and marks, with white space between them.
A name is as long as it can be, and a colon belongs to one only if a name stands on both sides.
-/

namespace XPathExtension.Declaration

inductive Token where
  | name (name : LexicalName)
  | literal (text : List Char)
  | leftParen
  | rightParen
  | comma
  | questionMark
  | asterisk
  | plusSign
deriving DecidableEq, Repr

namespace Token

def isSpace (c : Char) : Bool := c == ' ' || c == '\t' || c == '\r' || c == '\n'

def isNameStart (c : Char) : Bool := Text.isLetter c || c == '_'

def isNamePart (c : Char) : Bool :=
  Text.isLetter c || Text.isDecimalDigit c || c == '_' || c == '-' || c == '.'

def mark? : Char → Option Token
  | '(' => some leftParen
  | ')' => some rightParen
  | ',' => some comma
  | '?' => some questionMark
  | '*' => some asterisk
  | '+' => some plusSign
  | _ => none

/-- The name that starts with `c`, and the rest. -/
def takeName (c : Char) (r : List Char) : LexicalName × List Char :=
  let first := String.ofList (c :: r.takeWhile isNamePart)
  match r.dropWhile isNamePart with
  | ':' :: d :: r' =>
    if isNameStart d then
      (⟨some first, String.ofList (d :: r'.takeWhile isNamePart)⟩, r'.dropWhile isNamePart)
    else (⟨none, first⟩, ':' :: d :: r')
  | r' => (⟨none, first⟩, r')

/-- The literal up to the next `quote`, and the rest. -/
def takeLiteral? (quote : Char) (r : List Char) : Option (List Char × List Char) :=
  match r.dropWhile (· ≠ quote) with
  | [] => none
  | _ :: rest => some (r.takeWhile (· ≠ quote), rest)

/-- The token that starts with `c`, and the rest. -/
def take? (c : Char) (r : List Char) : Option (Token × List Char) :=
  match mark? c with
  | some t => some (t, r)
  | none =>
    if isNameStart c then
      let (n, rest) := takeName c r
      some (name n, rest)
    else if c = '"' ∨ c = '\'' then (takeLiteral? c r).map fun (s, rest) => (literal s, rest)
    else none

theorem length_dropWhile_le (p : Char → Bool) (cs : List Char) :
    (cs.dropWhile p).length ≤ cs.length :=
  (List.dropWhile_sublist p).length_le

theorem takeName_length_le (c : Char) (r : List Char) :
    (takeName c r).2.length ≤ r.length := by
  have h := length_dropWhile_le isNamePart r
  unfold takeName
  split
  · next d r' e =>
    rw [e] at h
    split
    · have := length_dropWhile_le isNamePart r'
      simp only [List.length_cons] at h
      simp only
      omega
    · exact h
  · next e => exact h

theorem takeLiteral?_length_le {q : Char} {r s rest : List Char}
    (h : takeLiteral? q r = some (s, rest)) : rest.length ≤ r.length := by
  have hd := length_dropWhile_le (· ≠ q) r
  unfold takeLiteral? at h
  split at h
  · simp at h
  · next c' rest' e =>
    simp only [Option.some.injEq, Prod.mk.injEq] at h
    obtain ⟨_, rfl⟩ := h
    have hl : rest'.length + 1 = (r.dropWhile fun c => decide (c ≠ q)).length := by rw [e]; rfl
    omega

theorem take?_length_le {c : Char} {r rest : List Char} {t : Token}
    (h : take? c r = some (t, rest)) : rest.length ≤ r.length := by
  unfold take? at h
  split at h
  · simp only [Option.some.injEq, Prod.mk.injEq] at h
    exact Nat.le_of_eq (by rw [h.2])
  · split at h
    · simp only [Option.some.injEq, Prod.mk.injEq] at h
      rw [← h.2]
      exact takeName_length_le c r
    · split at h
      · obtain ⟨⟨s, rest'⟩, hs, he⟩ := Option.map_eq_some_iff.1 h
        simp only [Prod.mk.injEq] at he
        rw [← he.2]
        exact takeLiteral?_length_le hs
      · simp at h

/-- The tokens of a text, if it consists of tokens and white space only. -/
def scan? : List Char → Option (List Token)
  | [] => some []
  | c :: r =>
    if isSpace c then scan? r
    else
      match h : take? c r with
      | none => none
      | some (t, rest) =>
        have : rest.length < r.length + 1 := Nat.lt_succ_of_le (take?_length_le h)
        (scan? rest).map (t :: ·)
termination_by cs => cs.length

example : scan? "xs:double +".toList = some [name ⟨some "xs", "double"⟩, plusSign] := by
  decide +kernel

end Token

end XPathExtension.Declaration
