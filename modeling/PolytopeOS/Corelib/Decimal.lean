import PolytopeOS.Corelib.Scan

/-!
# Unsigned numbers in text

What `str::trim` and `str::parse` do with the text of a number, and how a format
shows one in hexadecimal.
-/

namespace Corelib

/-- `str::trim`. -/
def trim (text : List Char) : List Char := (text.dropWhile isWhitespace).rdropWhile isWhitespace

/-- A plus sign may stand before the digits. -/
def unsignedDigits : List Char → List Char
  | '+' :: digits => digits
  | digits => digits

/-- `str::parse` for a 64-bit unsigned number. -/
def parseU64 (text : List Char) : Option ℕ :=
  let digits := unsignedDigits text
  if digits = [] ∨ ¬digits.all Char.isDigit then none
  else
    let value := Nat.ofDigitChars 10 digits 0
    if value < 2 ^ 64 then some value else none

/-- A number as the format `#x` writes it. -/
def hex (value : ℕ) : String := "0x" ++ String.ofList (Nat.toDigits 16 value)

end Corelib
