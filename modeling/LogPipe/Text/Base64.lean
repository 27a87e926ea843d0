/-!
# Base64

Three bytes are written as four characters of a 64-letter alphabet; a shorter last group is
filled up with equals signs. Reading accepts exactly what writing produces: the padding is
required and the unused bits of the last character are zero.
-/

namespace LogPipe.Text.Base64

/-- The character of a six-bit value. -/
def symbol (value : Nat) : Char :=
  if value < 26 then Char.ofNat (65 + value)
  else if value < 52 then Char.ofNat (71 + value)
  else if value < 62 then Char.ofNat (value - 4)
  else if value == 62 then '+'
  else '/'

/-- The six-bit value of a character. -/
def value? (c : Char) : Option Nat :=
  if 'A' ≤ c && c ≤ 'Z' then some (c.toNat - 65)
  else if 'a' ≤ c && c ≤ 'z' then some (c.toNat - 71)
  else if '0' ≤ c && c ≤ '9' then some (c.toNat + 4)
  else if c == '+' then some 62
  else if c == '/' then some 63
  else none

/-- The written form of bytes. -/
def encodeBytes : List Nat → List Char
  | [] => []
  | [a] => [symbol (a / 4), symbol (a % 4 * 16), '=', '=']
  | [a, b] => [symbol (a / 4), symbol (a % 4 * 16 + b / 16), symbol (b % 16 * 4), '=']
  | a :: b :: c :: rest =>
      symbol (a / 4) :: symbol (a % 4 * 16 + b / 16) :: symbol (b % 16 * 4 + c / 64) ::
        symbol (c % 64) :: encodeBytes rest

/-- The bytes of a written form. -/
def decodeBytes? : List Char → Option (List Nat)
  | [] => some []
  | [a, b, '=', '='] => do
      let a ← value? a
      let b ← value? b
      if b % 16 == 0 then some [a * 4 + b / 16] else none
  | [a, b, c, '='] => do
      let a ← value? a
      let b ← value? b
      let c ← value? c
      if c % 4 == 0 then some [a * 4 + b / 16, b % 16 * 16 + c / 4] else none
  | a :: b :: c :: d :: rest => do
      let a ← value? a
      let b ← value? b
      let c ← value? c
      let d ← value? d
      let bytes ← decodeBytes? rest
      some ((a * 4 + b / 16) :: (b % 16 * 16 + c / 4) :: (c % 4 * 64 + d) :: bytes)
  | _ => none

/-- The written form of a text. -/
def encode (text : String) : String :=
  String.ofList (encodeBytes (text.toUTF8.toList.map UInt8.toNat))

/-- The text of a written form, when its bytes are a text. -/
def decode? (text : List Char) : Option String :=
  (decodeBytes? text).bind fun bytes =>
    String.fromUTF8? ⟨(bytes.map fun byte => byte.toUInt8).toArray⟩

end LogPipe.Text.Base64
