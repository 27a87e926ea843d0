import LogPipe.Json.Reading

/-!
# Skipping JSON values

A reader that has no use for a value skips it. What is skipped has to be well formed, but
it need not have a value: numbers may be of any size, an escape may name half a character,
and containers may be nested to any depth.
-/

namespace LogPipe.Json

open LogPipe.Decimal

/-- Skips the rest of a string after its opening quote. -/
def skipString? : List Char → Option (List Char)
  | [] => none
  | '"' :: rest => some rest
  | '\\' :: 'u' :: a :: b :: c :: d :: rest =>
      match hexValue? a b c d with
      | none => none
      | some _ => skipString? rest
  | '\\' :: c :: rest =>
      match shortEscape? c with
      | none => none
      | some _ => skipString? rest
  | c :: rest => if c == '\\' || c.toNat < 32 then none else skipString? rest

/-- Skips digits, of which there has to be one at least. -/
def skipDigits? (text : List Char) : Option (List Char) :=
  if (text.takeWhile isDigit).isEmpty then none else some (text.dropWhile isDigit)

/-- Skips an exponent, where there is one. -/
def skipExponent? (text : List Char) : Option (List Char) :=
  match text with
  | 'e' :: '+' :: rest | 'e' :: '-' :: rest | 'E' :: '+' :: rest | 'E' :: '-' :: rest =>
      skipDigits? rest
  | 'e' :: rest | 'E' :: rest => skipDigits? rest
  | rest => some rest

/-- Skips a fraction, where there is one. -/
def skipFraction? (text : List Char) : Option (List Char) :=
  match text with
  | '.' :: rest => skipDigits? rest
  | rest => some rest

/-- Skips a number after its sign. A zero in front has to be the only digit before the
fraction. -/
def skipNumber? (text : List Char) : Option (List Char) :=
  let digits := text.takeWhile isDigit
  if digits.isEmpty || (digits.head? == some '0' && digits.length != 1) then none
  else (skipFraction? (text.dropWhile isDigit)).bind skipExponent?

/-- Skips an expected word. -/
def skipWord? (word text : List Char) : Option (List Char) :=
  if word.isPrefixOf text then some (text.drop word.length) else none

mutual

/-- Skips a value. `fuel` bounds the number of steps. -/
def skipValue? (text : List Char) : Nat → Option (List Char)
  | 0 => none
  | fuel + 1 =>
      match skipBlanks text with
      | [] => none
      | 'n' :: rest => skipWord? ['u', 'l', 'l'] rest
      | 't' :: rest => skipWord? ['r', 'u', 'e'] rest
      | 'f' :: rest => skipWord? ['a', 'l', 's', 'e'] rest
      | '-' :: rest => skipNumber? rest
      | '"' :: rest => skipString? rest
      | '[' :: rest =>
          match skipBlanks rest with
          | ']' :: rest => some rest
          | rest => skipItems? rest fuel
      | '\x7b' :: rest =>
          match skipBlanks rest with
          | '\x7d' :: rest => some rest
          | rest => skipMembers? rest fuel
      | rest => skipNumber? rest

/-- Skips the items of an array and its closing bracket. -/
def skipItems? (text : List Char) : Nat → Option (List Char)
  | 0 => none
  | fuel + 1 =>
      match skipValue? text fuel with
      | none => none
      | some rest =>
          match skipBlanks rest with
          | ',' :: rest => skipItems? rest fuel
          | ']' :: rest => some rest
          | _ => none

/-- Skips the members of an object and its closing brace. -/
def skipMembers? (text : List Char) : Nat → Option (List Char)
  | 0 => none
  | fuel + 1 =>
      match skipBlanks text with
      | '"' :: rest =>
          match skipString? rest with
          | none => none
          | some rest =>
              match skipBlanks rest with
              | ':' :: rest =>
                  match skipValue? rest fuel with
                  | none => none
                  | some rest =>
                      match skipBlanks rest with
                      | ',' :: rest => skipMembers? rest fuel
                      | '\x7d' :: rest => some rest
                      | _ => none
              | _ => none
      | _ => none

end

end LogPipe.Json
