import XPathExtension.Text.GraphemeExtender
import XPathExtension.Text.Unprintable

/-!
Quoted texts for diagnostics: a text between double quotes in which every character can be told
apart. Quotes and backslashes get a backslash, the usual controls their letter, and a character
that has no glyph of its own, or that would join its neighbour, its code point in braces.
-/

namespace XPathExtension.Text

/-- The code point of `c` as `\u` and hexadecimal digits in braces. -/
def codePointEscape (c : Char) : List Char :=
  ['\\', 'u', '\x7b'] ++ Nat.toDigits 16 c.toNat ++ ['\x7d']

/-- How one character of a quoted text is written. -/
def escapeChar (c : Char) : List Char :=
  if c = '\x00' then ['\\', '0']
  else if c = '\t' then ['\\', 't']
  else if c = '\r' then ['\\', 'r']
  else if c = '\n' then ['\\', 'n']
  else if c = '\\' ∨ c = '"' then ['\\', c]
  else if graphemeExtender.contains c || unprintable.contains c then codePointEscape c
  else [c]

/-- `s` between double quotes. -/
def quoted (s : String) : String :=
  String.ofList (['"'] ++ s.toList.flatMap escapeChar ++ ['"'])

example : quoted "a\"b\n" = "\"a\\\"b\\n\"" := by decide +kernel

end XPathExtension.Text
