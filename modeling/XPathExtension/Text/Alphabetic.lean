import XPathExtension.Text.AlphabeticMark
import XPathExtension.Text.DecimalDigit
import XPathExtension.Text.Letter
import XPathExtension.Text.LetterNumber
import XPathExtension.Text.OtherNumber

/-!
Letters, alphabetic characters and numerals, put together from the tables. Alphabetic characters
include all letters, and numerals all decimal digits.
-/

namespace XPathExtension.Text

def isLetter (c : Char) : Bool := letter.contains c

def isDecimalDigit (c : Char) : Bool := decimalDigit.contains c

/-- The Unicode property Alphabetic. -/
def isAlphabetic (c : Char) : Bool :=
  letter.contains c || letterNumber.contains c || alphabeticMark.contains c

/-- The Unicode general categories Nd, Nl and No. -/
def isNumeral (c : Char) : Bool :=
  decimalDigit.contains c || letterNumber.contains c || otherNumber.contains c

theorem isAlphabetic_of_isLetter {c : Char} (h : isLetter c = true) : isAlphabetic c = true := by
  simp only [isLetter] at h
  simp [isAlphabetic, h]

theorem isNumeral_of_isDecimalDigit {c : Char} (h : isDecimalDigit c = true) :
    isNumeral c = true := by
  simp only [isDecimalDigit] at h
  simp [isNumeral, h]

end XPathExtension.Text
