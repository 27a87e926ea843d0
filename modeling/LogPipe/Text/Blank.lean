/-!
# Blank characters

A character is blank when it has the Unicode property `White_Space`.
Trimming removes blanks at both ends of a text and nothing else.
-/

namespace LogPipe.Text

/-- Whether a character has the property `White_Space`. -/
def isBlank (c : Char) : Bool :=
  let n := c.toNat
  (9 ≤ n && n ≤ 13) || n == 32 || n == 0x85 || n == 0xA0 || n == 0x1680 ||
    (0x2000 ≤ n && n ≤ 0x200A) || n == 0x2028 || n == 0x2029 || n == 0x202F ||
    n == 0x205F || n == 0x3000

/-- The text without its leading blanks. -/
def trimLeft (text : List Char) : List Char :=
  text.dropWhile isBlank

/-- The text without its trailing blanks. -/
def trimRight (text : List Char) : List Char :=
  (text.reverse.dropWhile isBlank).reverse

/-- The text without blanks at either end. -/
def trim (text : List Char) : List Char :=
  trimRight (trimLeft text)

/-- The string without blanks at either end. -/
def trimmed (text : String) : String :=
  String.ofList (trim text.toList)

/-- A space is blank, a zero-width space is not. -/
example : isBlank ' ' = true ∧ isBlank '\u200b' = false := by decide

end LogPipe.Text
