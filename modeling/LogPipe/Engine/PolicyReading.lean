import LogPipe.Json.Skipping
import LogPipe.Text.Blank

/-!
# Policies

A policy holds the defaults of an engine and its limits. A limit only refuses; it never
cuts a table down.
-/

namespace LogPipe

open LogPipe.Text

/-- The defaults and limits of an engine. -/
structure Policy where
  /-- The rows that `head` keeps when no count is given. -/
  headCount : Nat := 5
  /-- The bucket width of `bin` and `timechart` when no span is given. -/
  span : String := "1h"
  /-- How deep subsearches and macros may be nested. -/
  nesting : Nat := 8
  /-- The most rows a table may have, if there is a limit. -/
  rowCap : Option Nat := none
deriving DecidableEq, Repr

/-- What is wrong with the values of a policy. -/
inductive PolicyFault where
  | headCount
  | span
deriving DecidableEq, Repr

/-- The text of the fault. -/
def PolicyFault.message : PolicyFault → String
  | .headCount => "default_head_count must be at least 1"
  | .span => "default_span must not be empty"

/-- What a policy refuses, and why a text is no policy. -/
inductive PolicyError where
  | tooManyRows (subject : String) (rows cap : Nat)
  | tooDeep (depth limit : Nat)
  | invalid (fault : PolicyFault)
  | malformed
deriving DecidableEq, Repr

/-- The text of the error. -/
def PolicyError.message : PolicyError → String
  | .tooManyRows subject rows cap =>
      subject ++ " produced " ++ toString rows ++ " rows, above the row cap of " ++ toString cap
  | .tooDeep depth limit =>
      "subsearch nesting depth " ++ toString depth ++ " exceeds the limit of " ++ toString limit
  | .invalid fault => "invalid runtime policy: " ++ fault.message
  | .malformed => "the text is not the JSON form of a policy"

namespace Policy

/-- Refuses a table that has too many rows. -/
def admitRows (policy : Policy) (subject : String) (rows : Nat) : Except PolicyError Unit :=
  match policy.rowCap with
  | none => .ok ()
  | some cap => if cap < rows then .error (.tooManyRows subject rows cap) else .ok ()

/-- Refuses a nesting that is too deep. -/
def admitDepth (policy : Policy) (depth : Nat) : Except PolicyError Unit :=
  if policy.nesting < depth then .error (.tooDeep depth policy.nesting) else .ok ()

/-- Refuses a policy whose defaults make no sense. -/
def validate (policy : Policy) : Except PolicyError Policy :=
  if policy.headCount == 0 then .error (.invalid .headCount)
  else if (trim policy.span.toList).isEmpty then .error (.invalid .span)
  else .ok policy

end Policy

end LogPipe

/-!
## Reading policies

A policy is read from JSON, where every part may be left out: from an object that names
the parts, or from an array of the first parts in order. Members of an object that name no
part are skipped.
-/

namespace LogPipe.Policy

open LogPipe.Decimal LogPipe.Json

/-- A natural number below `2 ^ 64` in JSON. -/
def natOfJson? : Json → Option Nat
  | .int value => if 0 ≤ value && value < twoTo 64 then some value.toNat else none
  | _ => none

/-- Sets the head count. -/
def setHeadCount (value : Json) (policy : Policy) : Option Policy :=
  (natOfJson? value).map fun count => { policy with headCount := count }

/-- Sets the span. -/
def setSpan (value : Json) (policy : Policy) : Option Policy :=
  match value with
  | .string span => some { policy with span := span }
  | _ => none

/-- Sets the nesting limit. -/
def setNesting (value : Json) (policy : Policy) : Option Policy :=
  (natOfJson? value).map fun limit => { policy with nesting := limit }

/-- Sets the row cap, or takes it away. -/
def setRowCap (value : Json) (policy : Policy) : Option Policy :=
  match value with
  | .null => some { policy with rowCap := none }
  | value => (natOfJson? value).map fun cap => { policy with rowCap := some cap }

/-- The parts of a policy in order, each with its name in JSON. -/
def parts : List (String × (Json → Policy → Option Policy)) :=
  [("default_head_count", setHeadCount), ("default_span", setSpan),
    ("max_subsearch_depth", setNesting), ("row_cap", setRowCap)]

/-- Sets parts in order from a list of values, which may end early. -/
def ofItems? : List (String × (Json → Policy → Option Policy)) → List Json → Policy →
    Option Policy
  | _, [], policy => some policy
  | [], _ :: _, _ => none
  | (_, set) :: parts, value :: values, policy =>
      (set value policy).bind (ofItems? parts values)

/-- Reads the value of a member of a policy and sets the part that it names. A part may be
given once. -/
def readPart? (given : List String) (name : String) (text : List Char) (policy : Policy) :
    Option (Policy × List Char) :=
  match parts.lookup name with
  | none => (skipValue? text (stepsFor text)).map fun rest => (policy, rest)
  | some set =>
      if given.contains name then none
      else
        match readValue? maxDepth text (stepsFor text) with
        | none => none
        | some (value, rest) => (set value policy).map fun policy => (policy, rest)

/-- Reads the members of a policy up to the closing brace, at most `fuel` of them. -/
def readParts? (given : List String) (text : List Char) (policy : Policy) :
    Nat → Option (Policy × List Char)
  | 0 => none
  | fuel + 1 =>
      match skipBlanks text with
      | '"' :: rest =>
          match readString? rest with
          | none => none
          | some (name, rest) =>
              let name := String.ofList name
              match skipBlanks rest with
              | ':' :: rest =>
                  match readPart? given name rest policy with
                  | none => none
                  | some (policy, rest) =>
                      match skipBlanks rest with
                      | ',' :: rest => readParts? (name :: given) rest policy fuel
                      | '\x7d' :: rest => some (policy, rest)
                      | _ => none
              | _ => none
      | _ => none

/-- Reads an object of parts after its opening brace. -/
def readObject? (text : List Char) : Option (Policy × List Char) :=
  match skipBlanks text with
  | '\x7d' :: rest => some ({}, rest)
  | rest => readParts? [] rest {} rest.length

/-- Reads a policy whose values need not make sense. -/
def read? (text : String) : Option Policy :=
  match skipBlanks text.toList with
  | '\x7b' :: rest =>
      match readObject? rest with
      | some (policy, rest) => if (skipBlanks rest).isEmpty then some policy else none
      | none => none
  | _ =>
      match readRaw? text with
      | some (.array values) => ofItems? parts values {}
      | _ => none

/-- Reads a policy. -/
def ofText (text : String) : Except PolicyError Policy :=
  match read? text with
  | some policy => policy.validate
  | none => .error .malformed

end LogPipe.Policy
