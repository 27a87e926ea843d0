import LogPipe.Pattern.CharSet

/-!
# Text patterns

A pattern is a regular expression. Where it can match in several ways, earlier
alternatives and longer or shorter repetitions are preferred as it says.
-/

namespace LogPipe

namespace Pattern

/-- What the characters around a position may have to be for words. -/
inductive WordTest where
  | boundary
  | noBoundary
  | start
  | stop
  | startHalf
  | stopHalf
deriving DecidableEq, Repr

/-- A condition on a position between two characters. With `crlf`, a carriage return ends
lines, too. -/
inductive Assertion where
  | textStart
  | textStop
  | lineStart (crlf : Bool)
  | lineStop (crlf : Bool)
  | word (test : WordTest) (ascii : Bool)
deriving DecidableEq, Repr

/-- Whether the condition holds between the characters before and after a position. -/
def Assertion.holds (assertion : Assertion) (before after : Option Char) : Bool :=
  match assertion with
  | .textStart => before.isNone
  | .textStop => after.isNone
  | .lineStart crlf =>
      before.isNone || before == some '\n' ||
        (crlf && before == some '\r' && after != some '\n')
  | .lineStop crlf =>
      if crlf then
        after.isNone || after == some '\r' || (after == some '\n' && before != some '\r')
      else
        after.isNone || after == some '\n'
  | .word test ascii =>
      let left := before.any (CharSet.wordChars ascii).contains
      let right := after.any (CharSet.wordChars ascii).contains
      match test with
      | .boundary => left != right
      | .noBoundary => left == right
      | .start => !left && right
      | .stop => left && !right
      | .startHalf => !left
      | .stopHalf => !right

end Pattern

/-- A regular expression. -/
inductive Pattern where
  | empty
  | char (set : Pattern.CharSet)
  | check (assertion : Pattern.Assertion)
  | sequence (first second : Pattern)
  | either (first second : Pattern)
  | repeated (body : Pattern) (least : Nat) (most : Option Nat) (greedy : Bool)
  | group (index : Nat) (name : Option String) (body : Pattern)
deriving DecidableEq, Repr

namespace Pattern

/-- Whether a pattern can match without a character. -/
def canBeEmpty : Pattern → Bool
  | .empty => true
  | .char _ => false
  | .check _ => true
  | .sequence first second => first.canBeEmpty && second.canBeEmpty
  | .either first second => first.canBeEmpty || second.canBeEmpty
  | .repeated body least _ _ => least == 0 || body.canBeEmpty
  | .group _ _ body => body.canBeEmpty

/-- The groups of a pattern in the order in which they are opened, with their names. -/
def groups : Pattern → List (Nat × Option String)
  | .empty => []
  | .char _ => []
  | .check _ => []
  | .sequence first second => first.groups ++ second.groups
  | .either first second => first.groups ++ second.groups
  | .repeated body _ _ _ => body.groups
  | .group index name body => (index, name) :: body.groups

/-- The size of a pattern with its counted repetitions written out. -/
def size : Pattern → Nat
  | .empty => 1
  | .char set => set.weight
  | .check _ => 1
  | .sequence first second => first.size + second.size
  | .either first second => first.size + second.size + 2
  | .repeated body least most _ => (body.size + 1) * Nat.max 1 (most.getD least)
  | .group _ _ body => body.size + 2

/-- The names of the named groups. -/
def groupNames (pattern : Pattern) : List String :=
  pattern.groups.filterMap Prod.snd

end Pattern

end LogPipe

/-!
## Programs of patterns

A pattern is turned into a list of instructions for a machine that follows several threads
through a text at once. Where a thread splits, the first address is preferred. A repetition
of a body that may be empty enters the body before it asks whether to go on.
-/

namespace LogPipe.Pattern

/-- An instruction; what it does not say otherwise goes on at the next address. -/
inductive Instruction where
  | char (set : CharSet)
  | check (assertion : Assertion)
  | split (preferred other : Nat)
  | jump (target : Nat)
  /-- Notes the position in a slot. A group has two slots, for its start and its end. -/
  | save (slot : Nat)
  | accept
deriving DecidableEq, Repr

/-- A split that prefers to enter a body when it is greedy. -/
def choice (greedy : Bool) (enter leave : Nat) : Instruction :=
  if greedy then .split enter leave else .split leave enter

/-- The code of a body several times in a row, from a start address. -/
def codeTimes (body : Nat → List Instruction) (start : Nat) : Nat → List Instruction
  | 0 => []
  | count + 1 =>
      let first := body start
      first ++ codeTimes body (start + first.length) count

/-- The code of a body that may be left out in each of several nested places. -/
def codeOptional (body : Nat → List Instruction) (greedy : Bool) (stop start : Nat) :
    Nat → List Instruction
  | 0 => []
  | count + 1 =>
      let first := body (start + 1)
      choice greedy (start + 1) stop ::
        (first ++ codeOptional body greedy stop (start + 1 + first.length) count)

/-- The code of a body at least once. -/
def codeSome (body : Nat → List Instruction) (greedy : Bool) (start : Nat) :
    List Instruction :=
  let first := body start
  first ++ [choice greedy start (start + first.length + 1)]

/-- The code of a body any number of times. -/
def codeAny (body : Nat → List Instruction) (canBeEmpty greedy : Bool) (start : Nat) :
    List Instruction :=
  let first := body (start + 1)
  let stop := start + first.length + 2
  choice greedy (start + 1) stop ::
    (first ++ [if canBeEmpty then choice greedy (start + 1) stop else .jump start])

/-- The code of a repetition. -/
def codeRepeated (body : Nat → List Instruction) (canBeEmpty greedy : Bool) (start least : Nat)
    (most : Option Nat) : List Instruction :=
  match most with
  | none =>
      match least with
      | 0 => codeAny body canBeEmpty greedy start
      | least + 1 =>
          let first := codeTimes body start least
          first ++ codeSome body greedy (start + first.length)
  | some most =>
      let first := codeTimes body start least
      let middle := start + first.length
      let stop := middle + (most - least) * ((body 0).length + 1)
      first ++ codeOptional body greedy stop middle (most - least)

/-- The code of a pattern from a start address. -/
def code : Pattern → Nat → List Instruction
  | .empty, _ => []
  | .char set, _ => [.char set]
  | .check assertion, _ => [.check assertion]
  | .sequence first second, start =>
      let first := code first start
      first ++ code second (start + first.length)
  | .either first second, start =>
      let first := code first (start + 1)
      let middle := start + 1 + first.length
      let second := code second (middle + 1)
      .split (start + 1) (middle + 1) ::
        (first ++ .jump (middle + 1 + second.length) :: second)
  | .repeated body least most greedy, start =>
      codeRepeated (code body) body.canBeEmpty greedy start least most
  | .group index _ body, start =>
      .save (2 * index) :: (code body (start + 1) ++ [.save (2 * index + 1)])

/-- The program of a pattern. -/
def program (pattern : Pattern) : Array Instruction :=
  (code pattern 0 ++ [Instruction.accept]).toArray

end LogPipe.Pattern
