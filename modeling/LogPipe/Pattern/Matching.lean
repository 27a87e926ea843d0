import LogPipe.Pattern.Basic
import LogPipe.Pattern.Reading

/-!
# Matching patterns

A machine reads a text once and keeps a list of threads, most preferred first, with at most
one thread per instruction. The leftmost match is found, and among those that start there
the most preferred one. Matches of a whole text do not overlap.
-/

namespace LogPipe.Pattern

/-- The positions noted by a thread: the start of the match in front, then slots of groups. -/
abbrev Slots := Array (Option Nat)

/-- A thread waiting at an instruction. -/
structure Thread where
  address : Nat
  slots : Slots

/-- The threads at one position, and which instructions have been reached there. -/
structure Front where
  reached : Array Bool
  threads : Array Thread

/-- No threads yet. -/
def Front.none (size : Nat) : Front :=
  ⟨Array.replicate size false, #[]⟩

/-- A position between two characters of a text. -/
structure Place where
  position : Nat
  before : Option Char
  after : Option Char

/-- Follows a thread from an address to the instructions at which it waits for a character,
in at most `fuel` steps in a row. An instruction that was reached before is not followed
again. -/
def follow (program : Array Instruction) (place : Place) :
    Nat → Nat → Slots → Front → Front
  | 0, _, _, front => front
  | fuel + 1, address, slots, front =>
      if front.reached.getD address true then front
      else
        let front : Front := { front with reached := front.reached.setIfInBounds address true }
        match program[address]? with
        | some (.split preferred other) =>
            follow program place fuel other slots
              (follow program place fuel preferred slots front)
        | some (.jump target) => follow program place fuel target slots front
        | some (.check assertion) =>
            if assertion.holds place.before place.after then
              follow program place fuel (address + 1) slots front
            else front
        | some (.save slot) =>
            follow program place fuel (address + 1)
              (slots.setIfInBounds slot (some place.position)) front
        | some _ => { front with threads := front.threads.push ⟨address, slots⟩ }
        | none => front

/-- Lets threads read a character, most preferred first. A thread that accepts cuts off the
threads after it. Returns the next front and the slots of an accepting thread. -/
def advance (program : Array Instruction) (place : Place) (c : Char) :
    List Thread → Front → Front × Option Slots
  | [], front => (front, none)
  | thread :: threads, front =>
      match program[thread.address]? with
      | some .accept => (front, some thread.slots)
      | some (.char set) =>
          let front :=
            if set.contains c then
              follow program place (program.size + 1) (thread.address + 1) thread.slots front
            else front
          advance program place c threads front
      | _ => advance program place c threads front

/-- The slots of the first thread that accepts. -/
def accepted (program : Array Instruction) (threads : List Thread) : Option Slots :=
  (threads.find? fun thread => program[thread.address]? == some .accept).map Thread.slots

/-- Runs the machine to the end of a text. As long as nothing has been accepted, a new
thread starts at every position. -/
def run (program : Array Instruction) (slotCount : Nat) (position : Nat) (front : Front)
    (best : Option Slots) (before : Option Char) (text : List Char) : Option Slots :=
  let place : Place := ⟨position, before, text.head?⟩
  let front :=
    if best.isNone then
      follow program place (program.size + 1) 0
        ((Array.replicate slotCount none).setIfInBounds 0 (some position)) front
    else front
  match text with
  | [] => (accepted program front.threads.toList).or best
  | c :: rest =>
      if best.isSome && front.threads.isEmpty then best
      else
        let next : Place := ⟨position + 1, some c, rest.head?⟩
        let (following, found) :=
          advance program next c front.threads.toList (Front.none program.size)
        -- The accepting position is the one before the character was read.
        let best := (found.map fun slots => slots.setIfInBounds 1 (some position)).or best
        run program slotCount (position + 1) following best (some c) rest

/-- A pattern that is ready to be matched. -/
structure Matcher where
  program : Array Instruction
  groups : List (Nat × Option String)
  slotCount : Nat

/-- The matcher of a pattern. -/
def matcher (pattern : Pattern) : Matcher :=
  let groups := pattern.groups
  ⟨pattern.program, groups, 2 * (groups.foldl (fun most group => Nat.max most group.1) 0) + 2⟩

/-- Reads a text as a pattern and prepares it. -/
def compile (flags : Flags) (text : String) : Except PatternFault Matcher :=
  (ofText flags text).map matcher

/-- The place of a match in a text, and those of its groups by number. -/
structure Match where
  start : Nat
  stop : Nat
  groups : List (Nat × Nat × Nat)

namespace Matcher

/-- The names of the named groups, by number. -/
def names (matcher : Matcher) : List String :=
  matcher.groups.filterMap Prod.snd

/-- The number of a named group. -/
def groupNumber? (matcher : Matcher) (name : String) : Option Nat :=
  (matcher.groups.find? fun group => group.2 == some name).map Prod.fst

/-- The match that slots describe; `length` is that of the text. -/
def matchOf (matcher : Matcher) (length : Nat) (slots : Slots) : Match :=
  ⟨(slots.getD 0 none).getD 0, (slots.getD 1 none).getD length,
    matcher.groups.filterMap fun (index, _) =>
      match slots.getD (2 * index) none, slots.getD (2 * index + 1) none with
      | some start, some stop => some (index, start, stop)
      | _, _ => none⟩

/-- The first match that starts at a position or after it. -/
def findFrom (matcher : Matcher) (text : List Char) (position : Nat) : Option Match :=
  let before := if position == 0 then none else text[position - 1]?
  (run matcher.program matcher.slotCount position (Front.none matcher.program.size) none before
    (text.drop position)).map (matcher.matchOf text.length)

/-- Whether a pattern matches somewhere in a text. -/
def isMatch (matcher : Matcher) (text : String) : Bool :=
  (matcher.findFrom text.toList 0).isSome

/-- The matches from a position on, at most `rounds` of them. A match that is empty and
starts where the last one ended is passed over by starting one character later. -/
def matchesFrom (matcher : Matcher) (text : List Char) (position : Nat)
    (lastStop : Option Nat) : Nat → List Match
  | 0 => []
  | rounds + 1 =>
      let found :=
        match matcher.findFrom text position with
        | none => none
        | some found =>
            if found.start == found.stop && lastStop == some found.stop then
              if position < text.length then matcher.findFrom text (position + 1) else none
            else some found
      match found with
      | none => []
      | some found =>
          found :: matcher.matchesFrom text found.stop (some found.stop) rounds

/-- The matches of a text from left to right, at most `limit` of them if there is one. -/
def allMatches (matcher : Matcher) (text : List Char) (limit : Option Nat) : List Match :=
  matcher.matchesFrom text 0 none (Nat.min (limit.getD (text.length + 2)) (text.length + 2))

end Matcher

/-- The part of a text that a group has matched. -/
def Match.group? (found : Match) (text : List Char) (number : Nat) : Option (List Char) :=
  (if number == 0 then some (found.start, found.stop) else found.groups.lookup number).map
    fun (start, stop) => (text.drop start).take (stop - start)

end LogPipe.Pattern
