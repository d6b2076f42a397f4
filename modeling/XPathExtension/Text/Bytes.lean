/-!
The bytes of texts: how many the UTF-8 encoding of a text has, and cutting a text after so many of
them.
-/

namespace XPathExtension.Text

/-- How many bytes the encoding of a text has. -/
def byteCount : List Char → Nat
  | [] => 0
  | c :: r => c.utf8Size + byteCount r

/-- Split a text after `n` bytes of its encoding, which has to be between two characters. -/
def splitBytes? : Nat → List Char → Option (List Char × List Char)
  | 0, cs => some ([], cs)
  | _ + 1, [] => none
  | n + 1, c :: r =>
    if c.utf8Size ≤ n + 1 then
      (splitBytes? (n + 1 - c.utf8Size) r).map fun (a, b) => (c :: a, b)
    else none

theorem byteCount_append (a b : List Char) : byteCount (a ++ b) = byteCount a + byteCount b := by
  induction a with
  | nil => simp [byteCount]
  | cons c a ih => simp [byteCount, ih, Nat.add_assoc]

/-- A split loses nothing and cuts after the bytes asked for. -/
theorem splitBytes?_eq_some {n : Nat} {cs a b : List Char} (h : splitBytes? n cs = some (a, b)) :
    cs = a ++ b ∧ byteCount a = n := by
  induction cs generalizing n a b with
  | nil =>
    cases n with
    | zero => simp_all [splitBytes?, byteCount]
    | succ n => simp [splitBytes?] at h
  | cons c r ih =>
    cases n with
    | zero =>
      simp only [splitBytes?, Option.some.injEq, Prod.mk.injEq] at h
      obtain ⟨rfl, rfl⟩ := h
      exact ⟨rfl, rfl⟩
    | succ n =>
      rw [splitBytes?] at h
      split at h
      · next hc =>
        obtain ⟨⟨a', b'⟩, hs, he⟩ := Option.map_eq_some_iff.1 h
        simp only [Prod.mk.injEq] at he
        obtain ⟨rfl, rfl⟩ := he
        obtain ⟨hr, hn⟩ := ih hs
        exact ⟨by rw [hr, List.cons_append], by rw [byteCount, hn]; omega⟩
      · cases h

end XPathExtension.Text
