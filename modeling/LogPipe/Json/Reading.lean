import LogPipe.Decimal.Reading
import LogPipe.Json.Basic

/-!
# Reading JSON text

The grammar is that of JSON, without any extension. Numbers without a fraction and an
exponent that fit into 64 bits stay integers. Other numbers are computed from the digits
that fit into 64 bits and one scaling by a power of ten, which may be off in the last bit;
a number too large for a float is an error. Values may be nested 127 deep.
-/

namespace LogPipe.Json

open LogPipe.Decimal

/-- Whether a character is blank in JSON text. -/
def isBlank (c : Char) : Bool :=
  c == ' ' || c == '\n' || c == '\t' || c == '\r'

/-- The text without its leading blanks. -/
def skipBlanks (text : List Char) : List Char :=
  text.dropWhile isBlank

/-- Takes digits into a number as long as it fits into 64 bits; also returns the digits
left over. -/
def gather (significand : Nat) : List Char → Nat × List Char
  | [] => (significand, [])
  | c :: rest =>
      let next := 10 * significand + (c.toNat - 48)
      if next < twoTo 64 then gather next rest else (significand, c :: rest)

/-- A power of ten as the nearest float. -/
def powerOfTen (exponent : Nat) : Float :=
  Float.ofScientific 1 false exponent

/-- Scales a float by a power of ten; nothing when the result is too large. Small results
are reached in steps of `10 ^ 308`, at most `fuel` of them. -/
def scale? (x : Float) (exponent : Int) : Nat → Option Float
  | 0 => some x
  | fuel + 1 =>
      if exponent.natAbs ≤ 308 then
        if 0 ≤ exponent then
          let scaled := x * powerOfTen exponent.natAbs
          if scaled.isInf then none else some scaled
        else
          some (x / powerOfTen exponent.natAbs)
      else if x == 0.0 then some x
      else if 0 ≤ exponent then none
      else scale? (x / powerOfTen 308) (exponent + 308) fuel

/-- The float of a sign, a significand and an exponent. -/
def floatOfParts? (negative : Bool) (significand : Nat) (exponent : Int) : Option Float :=
  (scale? (Float.ofNat significand) exponent 4).map fun x => if negative then -x else x

/-- Reads an exponent after its mark; returns the float and the rest. -/
def readExponent? (negative : Bool) (significand : Nat) (start : Int) (text : List Char) :
    Option (Float × List Char) :=
  let (down, digitsAndRest) :=
    match text with
    | '+' :: rest => (false, rest)
    | '-' :: rest => (true, rest)
    | rest => (false, rest)
  let digits := digitsAndRest.takeWhile isDigit
  let rest := digitsAndRest.dropWhile isDigit
  if digits.isEmpty then none
  else
    let exponent : Int := digitsValue digits
    if twoTo 31 ≤ exponent then
      if significand != 0 && !down then none
      else some (if negative then -0.0 else 0.0, rest)
    else
      (floatOfParts? negative significand (if down then start - exponent else start + exponent)).map
        fun x => (x, rest)

/-- Reads the rest of a number after its integer digits. `left` is the number of integer
digits that did not fit. -/
def readNumberTail? (negative : Bool) (significand left : Nat) (text : List Char) :
    Option (Json × List Char) :=
  match text with
  | '.' :: rest =>
      let digits := rest.takeWhile isDigit
      let rest := rest.dropWhile isDigit
      if digits.isEmpty then none
      else
        let (significand, unused) := gather significand digits
        let exponent : Int := (left : Int) - (digits.length - unused.length : Nat)
        match rest with
        | 'e' :: rest | 'E' :: rest =>
            (readExponent? negative significand exponent rest).map fun (x, rest) =>
              (.float x, rest)
        | rest =>
            (floatOfParts? negative significand exponent).map fun x => (.float x, rest)
  | 'e' :: rest | 'E' :: rest =>
      (readExponent? negative significand left rest).map fun (x, rest) => (.float x, rest)
  | rest =>
      if left != 0 then
        (floatOfParts? negative significand left).map fun x => (.float x, rest)
      else if !negative then
        some (.int significand, rest)
      else if significand == 0 || twoTo 63 < significand then
        some (.float (-(Float.ofNat significand)), rest)
      else
        some (.int (-(significand : Int)), rest)

/-- Reads a number after its sign. -/
def readNumber? (negative : Bool) (text : List Char) : Option (Json × List Char) :=
  let digits := text.takeWhile isDigit
  let rest := text.dropWhile isDigit
  if digits.isEmpty || (digits.head? == some '0' && digits.length != 1) then none
  else
    let (significand, unused) := gather 0 digits
    readNumberTail? negative significand unused.length rest

/-- The value of a hexadecimal digit. -/
def hexDigit? (c : Char) : Option Nat :=
  if isDigit c then some (c.toNat - 48)
  else if 'a' ≤ c && c ≤ 'f' then some (c.toNat - 87)
  else if 'A' ≤ c && c ≤ 'F' then some (c.toNat - 55)
  else none

/-- The value of four hexadecimal digits. -/
def hexValue? (a b c d : Char) : Option Nat := do
  let a ← hexDigit? a
  let b ← hexDigit? b
  let c ← hexDigit? c
  let d ← hexDigit? d
  pure (((a * 16 + b) * 16 + c) * 16 + d)

/-- The character of an escape with one letter. -/
def shortEscape? (c : Char) : Option Char :=
  if c == '"' || c == '\\' || c == '/' then some c
  else if c == 'b' then some '\x08'
  else if c == 'f' then some '\x0c'
  else if c == 'n' then some '\n'
  else if c == 'r' then some '\r'
  else if c == 't' then some '\t'
  else none

/-- Reads a string after its opening quote; returns its characters and the rest. Two
escapes may name the halves of one character; a half alone is an error. -/
def readString? : List Char → Option (List Char × List Char)
  | [] => none
  | '"' :: rest => some ([], rest)
  | '\\' :: 'u' :: a :: b :: c :: d :: rest =>
      match hexValue? a b c d with
      | none => none
      | some high =>
          if 0xDC00 ≤ high && high ≤ 0xDFFF then none
          else if 0xD800 ≤ high && high ≤ 0xDBFF then
            match rest with
            | '\\' :: 'u' :: e :: f :: g :: h :: rest =>
                match hexValue? e f g h with
                | none => none
                | some low =>
                    if 0xDC00 ≤ low && low ≤ 0xDFFF then
                      let code := 0x10000 + (high - 0xD800) * 0x400 + (low - 0xDC00)
                      (readString? rest).map fun (cs, rest) => (Char.ofNat code :: cs, rest)
                    else
                      none
            | _ => none
          else
            (readString? rest).map fun (cs, rest) => (Char.ofNat high :: cs, rest)
  | '\\' :: c :: rest =>
      match shortEscape? c with
      | none => none
      | some c => (readString? rest).map fun (cs, rest) => (c :: cs, rest)
  | c :: rest =>
      if c == '\\' || c.toNat < 32 then none
      else (readString? rest).map fun (cs, rest) => (c :: cs, rest)

/-- Reads an expected word. -/
def readWord? (word : List Char) (value : Json) (text : List Char) : Option (Json × List Char) :=
  if word.isPrefixOf text then some (value, text.drop word.length) else none

mutual

/-- Reads a value from the front. `depth` is the number of containers that may still be
opened; `fuel` bounds the number of steps. -/
def readValue? (depth : Nat) (text : List Char) : Nat → Option (Json × List Char)
  | 0 => none
  | fuel + 1 =>
      match skipBlanks text with
      | [] => none
      | 'n' :: rest => readWord? ['u', 'l', 'l'] .null rest
      | 't' :: rest => readWord? ['r', 'u', 'e'] (.bool true) rest
      | 'f' :: rest => readWord? ['a', 'l', 's', 'e'] (.bool false) rest
      | '-' :: rest => readNumber? true rest
      | '"' :: rest =>
          (readString? rest).map fun (cs, rest) => (.string (String.ofList cs), rest)
      | '[' :: rest =>
          match depth with
          | 0 => none
          | depth + 1 =>
              match skipBlanks rest with
              | ']' :: rest => some (.array [], rest)
              | rest =>
                  (readItems? depth rest fuel).map fun (items, rest) => (.array items, rest)
      | '\x7b' :: rest =>
          match depth with
          | 0 => none
          | depth + 1 =>
              match skipBlanks rest with
              | '\x7d' :: rest => some (.object [], rest)
              | rest =>
                  (readMembers? depth rest fuel).map fun (members, rest) =>
                    (.object members, rest)
      | rest => readNumber? false rest

/-- Reads the items of an array up to its closing bracket. -/
def readItems? (depth : Nat) (text : List Char) : Nat → Option (List Json × List Char)
  | 0 => none
  | fuel + 1 =>
      match readValue? depth text fuel with
      | none => none
      | some (item, rest) =>
          match skipBlanks rest with
          | ',' :: rest =>
              (readItems? depth rest fuel).map fun (items, rest) => (item :: items, rest)
          | ']' :: rest => some ([item], rest)
          | _ => none

/-- Reads the members of an object up to its closing brace. -/
def readMembers? (depth : Nat) (text : List Char) :
    Nat → Option (List (String × Json) × List Char)
  | 0 => none
  | fuel + 1 =>
      match skipBlanks text with
      | '"' :: rest =>
          match readString? rest with
          | none => none
          | some (name, rest) =>
              match skipBlanks rest with
              | ':' :: rest =>
                  match readValue? depth rest fuel with
                  | none => none
                  | some (value, rest) =>
                      let member := (String.ofList name, value)
                      match skipBlanks rest with
                      | ',' :: rest =>
                          (readMembers? depth rest fuel).map fun (members, rest) =>
                            (member :: members, rest)
                      | '\x7d' :: rest => some ([member], rest)
                      | _ => none
              | _ => none
      | _ => none

end

/-- The number of containers that may be nested. -/
def maxDepth : Nat := 127

/-- Steps enough to read, or to skip, any value of a text. -/
def stepsFor (text : List Char) : Nat :=
  2 * text.length + 2

/-- The value of a whole text, with the members of objects as written. -/
def readRaw? (text : String) : Option Json :=
  let chars := text.toList
  match readValue? maxDepth chars (stepsFor chars) with
  | some (value, rest) => if (skipBlanks rest).isEmpty then some value else none
  | none => none

/-- The value of a whole text, with repeated member names merged. -/
def read? (text : String) : Option Json :=
  (readRaw? text).map merged

end LogPipe.Json
