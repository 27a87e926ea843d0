import LogPipe.Text.CaseTables
import LogPipe.Text.Ranges

/-!
# Letter case

The case mappings of whole texts follow the Unicode tables, including characters that
become several, and a capital sigma at the end of a word. Names and keywords are compared
by the case of ASCII letters only.

Two characters are variants of each other when their simple case foldings agree. For most
characters the variants are given by the mappings to lower and to upper case; the others
are listed.
-/

namespace LogPipe.Text

/-- The mapping of one character by a table. -/
def mapCase (expansions : List (Nat × List Nat)) (runs : List CaseRun) (c : Char) : List Char :=
  let n := c.toNat
  match expansions.lookup n with
  | some codes => codes.map Char.ofNat
  | none =>
      match runs.find? fun run =>
          run.first ≤ n && n ≤ run.last && (n - run.first) % run.step == 0 with
      | some run => [Char.ofNat ((n : Int) + run.offset).toNat]
      | none => [c]

/-- The lower-case mapping of one character. -/
def lowerChar (c : Char) : List Char :=
  if c.toNat < 128 then [c.toLower] else mapCase lowerExpansions lowerRuns c

/-- The upper-case mapping of one character. -/
def upperChar (c : Char) : List Char :=
  if c.toNat < 128 then [c.toUpper] else mapCase upperExpansions upperRuns c

/-- Whether the first character that matters for word boundaries has case. -/
def startsCased (text : List Char) : Bool :=
  match text.dropWhile fun c => inRanges caseIgnorableRanges c.toNat with
  | c :: _ => inRanges casedRanges c.toNat
  | [] => false

/-- Lower-cases a text, given the characters before it from the last to the first. -/
def lowerFrom (before : List Char) : List Char → List Char
  | [] => []
  | c :: rest =>
      let mapped :=
        if c == '\u03a3' then
          [if startsCased before && !startsCased rest then '\u03c2' else '\u03c3']
        else
          lowerChar c
      mapped ++ lowerFrom (c :: before) rest

/-- The lower-case form of a text. -/
def lower (text : String) : String :=
  String.ofList (lowerFrom [] text.toList)

/-- The upper-case form of a text. -/
def upper (text : String) : String :=
  String.ofList (text.toList.flatMap upperChar)

/-- A text with its ASCII capitals in lower case. -/
def asciiLower (text : String) : String :=
  String.ofList (text.toList.map Char.toLower)

/-- Whether two texts are equal up to the case of ASCII letters. -/
def sameIgnoringCase (left right : String) : Bool :=
  asciiLower left == asciiLower right

/-! ## Characters that differ in case only -/

/-- The sets of variants that the two case mappings do not give. -/
def caseOrbits : List (List Nat) := [
    [0x4B, 0x6B, 0x212A], [0x53, 0x73, 0x17F], [0xB5, 0x39C, 0x3BC], [0xC5, 0xE5, 0x212B],
    [0xDF, 0x1E9E], [0x131], [0x1C4, 0x1C5, 0x1C6], [0x1C7, 0x1C8, 0x1C9],
    [0x1CA, 0x1CB, 0x1CC], [0x1F1, 0x1F2, 0x1F3], [0x345, 0x399, 0x3B9, 0x1FBE],
    [0x390, 0x1FD3], [0x392, 0x3B2, 0x3D0], [0x395, 0x3B5, 0x3F5], [0x398, 0x3B8, 0x3D1, 0x3F4],
    [0x39A, 0x3BA, 0x3F0], [0x3A0, 0x3C0, 0x3D6], [0x3A1, 0x3C1, 0x3F1], [0x3A3, 0x3C2, 0x3C3],
    [0x3A6, 0x3C6, 0x3D5], [0x3A9, 0x3C9, 0x2126], [0x3B0, 0x1FE3], [0x412, 0x432, 0x1C80],
    [0x414, 0x434, 0x1C81], [0x41E, 0x43E, 0x1C82], [0x421, 0x441, 0x1C83],
    [0x422, 0x442, 0x1C84, 0x1C85], [0x42A, 0x44A, 0x1C86], [0x462, 0x463, 0x1C87],
    [0x1C88, 0xA64A, 0xA64B], [0x1E60, 0x1E61, 0x1E9B], [0x1F80, 0x1F88], [0x1F81, 0x1F89],
    [0x1F82, 0x1F8A], [0x1F83, 0x1F8B], [0x1F84, 0x1F8C], [0x1F85, 0x1F8D], [0x1F86, 0x1F8E],
    [0x1F87, 0x1F8F], [0x1F90, 0x1F98], [0x1F91, 0x1F99], [0x1F92, 0x1F9A], [0x1F93, 0x1F9B],
    [0x1F94, 0x1F9C], [0x1F95, 0x1F9D], [0x1F96, 0x1F9E], [0x1F97, 0x1F9F], [0x1FA0, 0x1FA8],
    [0x1FA1, 0x1FA9], [0x1FA2, 0x1FAA], [0x1FA3, 0x1FAB], [0x1FA4, 0x1FAC], [0x1FA5, 0x1FAD],
    [0x1FA6, 0x1FAE], [0x1FA7, 0x1FAF], [0x1FB3, 0x1FBC], [0x1FC3, 0x1FCC], [0x1FF3, 0x1FFC],
    [0xFB05, 0xFB06]]

/-- The mapping of a character, when it is a single other one. -/
def singleMapping (mapping : Char → List Char) (c : Char) : List Char :=
  match mapping c with
  | [mapped] => if mapped == c then [] else [mapped]
  | _ => []

/-- The character and all that differ from it in case only. -/
def caseVariants (c : Char) : List Char :=
  match caseOrbits.find? fun orbit => orbit.contains c.toNat with
  | some orbit => orbit.map Char.ofNat
  | none => c :: (singleMapping lowerChar c ++ singleMapping upperChar c)

end LogPipe.Text
