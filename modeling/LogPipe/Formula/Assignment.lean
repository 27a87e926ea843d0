import LogPipe.Formula.Evaluate
import LogPipe.Formula.Reading
import LogPipe.Query.Block
import LogPipe.Query.Split

/-!
# Assignments

A clause of assignments `field = formula`, separated by commas. All of them are read before
the first one is evaluated, and each sees the columns that the earlier ones wrote.
-/

namespace LogPipe

open LogPipe.Query LogPipe.Text

/-- A field and the formula of its cells, with the text it was read from. -/
structure Assignment where
  field : String
  formula : Formula
  source : String
deriving Repr

namespace Assignment

/-- The name of a field, without its quotes when it starts with a double or single one. -/
def fieldName (field : String) : String :=
  if (field.toList.head?).any fun c => c == '"' || c == '\'' then unquote field else field

/-- Whether a name is a single word that is surrounded by nothing but blanks. -/
def isSingleWord (name : String) : Bool :=
  let word := Text.trim name.toList
  !word.isEmpty && !word.any isBlank

/-- Reads one assignment. -/
def ofText (text : String) : Except FormulaError Assignment :=
  match splitAssignment text with
  | none => .error (.invalidAssignment text)
  | some (field, formula) =>
      let field := fieldName field
      if formula.isEmpty || !isSingleWord field then .error (.invalidAssignment text)
      else
        match Formula.ofText formula with
        | .error fault => .error (.malformed formula fault)
        | .ok tree => .ok ⟨field, tree, text⟩

/-- Reads texts as assignments, stopping at the first that is none. -/
def ofTexts : List String → Except FormulaError (List Assignment)
  | [] => .ok []
  | text :: texts =>
      match ofText text with
      | .error error => .error error
      | .ok assignment =>
          match ofTexts texts with
          | .error error => .error error
          | .ok assignments => .ok (assignment :: assignments)

/-- Reads a clause of assignments; there has to be at least one. -/
def ofClause (text : String) : Except FormulaError (List Assignment) :=
  match splitArguments text with
  | .error error => .error (.lex error)
  | .ok [] => .error (.invalidAssignment text)
  | .ok pieces => ofTexts pieces

/-- Writes the columns of assignments into a table, one after the other. -/
def applyAll (table : Table) : List Assignment → Formula.Drawing Table
  | [] => pure table
  | assignment :: assignments => do
      let column ← Formula.evaluate table assignment.formula
      let next ← Formula.Drawing.fixed
        ((table.withColumn assignment.field column).mapError .table)
      applyAll next assignments

/-- Reads a clause of assignments and writes their columns into a table, with a fresh
generator. -/
def applyClause (table : Table) (text : String) (seed : Nat) : Except FormulaError Table :=
  match ofClause text with
  | .error error => .error error
  | .ok assignments => ((applyAll table assignments).run (Generator.ofSeed seed)).1

end Assignment

end LogPipe
