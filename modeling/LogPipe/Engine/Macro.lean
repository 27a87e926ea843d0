import LogPipe.Query.Block
import LogPipe.Query.Split

/-!
# Macros

A macro is a named template of pipeline text. A call is written between backquotes, as a
name or as a name with arguments in parentheses, and an argument `key=value` replaces the
placeholder `$key$` of the template.  Placeholders are found from left to right and do not
overlap; what replaces one is not searched again.
-/

namespace LogPipe.Text

/-- Replaces the occurrences of a pattern in the rest of a text. The next `skipped`
characters belong to an occurrence that has been replaced already. -/
def replaceFrom (pattern replacement : List Char) (skipped : Nat) : List Char → List Char
  | [] => []
  | c :: rest =>
      match skipped with
      | skipped + 1 => replaceFrom pattern replacement skipped rest
      | 0 =>
          if pattern.isPrefixOf (c :: rest) then
            replacement ++ replaceFrom pattern replacement (pattern.length - 1) rest
          else
            c :: replaceFrom pattern replacement 0 rest

/-- The text with every occurrence of a non-empty pattern replaced. -/
def replaceAll (text pattern replacement : String) : String :=
  String.ofList (replaceFrom pattern.toList replacement.toList 0 text.toList)

end LogPipe.Text

namespace LogPipe

open LogPipe.Query LogPipe.Text

/-- The name and the arguments of a macro call. -/
structure MacroCall where
  name : String
  arguments : List (String × String) := []
deriving DecidableEq, Repr

namespace MacroCall

/-- The argument a text stands for; one without an equals sign is no argument. -/
def argument? (text : String) : Option (String × String) :=
  (splitAssignment text).map fun (key, value) => (key, unquote value)

/-- Reads a call from the text between the backquotes. Arguments have to end in a closing
parenthesis that is the last character. -/
def ofText? (text : String) : Option MacroCall :=
  let call := trim text.toList
  match call.dropWhile fun c => c != '(' with
  | [] => some { name := String.ofList call }
  | _ :: body =>
      if body.getLast? == some ')' then
        let name := trim (call.takeWhile fun c => c != '(')
        match splitArguments (String.ofList body.dropLast) with
        | .ok pieces => some ⟨String.ofList name, pieces.filterMap argument?⟩
        | .error _ => none
      else none

end MacroCall

/-- Templates by name. -/
abbrev Macros := List (String × String)

namespace Macros

/-- The template with its placeholders replaced, one argument after the other. -/
def substitute (template : String) (arguments : List (String × String)) : String :=
  arguments.foldl (fun text argument => replaceAll text ("$" ++ argument.1 ++ "$") argument.2)
    template

/-- The pipeline text of a call; nothing when there is no macro of the name. -/
def expand? (macros : Macros) (call : MacroCall) : Option String :=
  (macros.lookup call.name).map fun template => substitute template call.arguments

end Macros

end LogPipe
