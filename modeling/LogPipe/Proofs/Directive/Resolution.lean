import LogPipe.Directive.Basic
import LogPipe.Proofs.Query.Reading

/-!
# Arguments as tokens and as text

A directive has its arguments twice, as the tokens of its segment and as text, and some
directives read the text again.  Both are the same arguments: reading the text gives the tokens,
which only stand further left in it.
-/

namespace LogPipe

open LogPipe.Query LogPipe.Text String

namespace Query

/-- What is promised of a segment: its text has no blanks around it, and its tokens are those of
its text. -/
structure Segment.IsRead (segment : Segment) : Prop where
  tight : Tight segment.text.toList
  lexed : lex segment.text = .ok segment.tokens

theorem isRead_of_readSegments {query : String} {index : Nat} {found : List (Nat × List Char)}
    {segments : List Segment} (read : readSegments query index found = .ok segments) :
    ∀ segment ∈ segments, segment.IsRead := by
  induction found generalizing index segments with
  | nil =>
      cases read
      intro segment member
      cases member
  | cons entry rest induction =>
      rw [readSegments] at read
      split at read
      · cases read
      · obtain ⟨tokens, lexed, afterTokens⟩ := Except.bind_eq_ok_iff.mp read
        obtain ⟨later, laterRead, finished⟩ := Except.bind_eq_ok_iff.mp afterTokens
        cases finished
        refine List.forall_mem_cons.mpr ⟨⟨?_, lexed⟩, induction laterRead⟩
        rw [toList_ofList]
        exact tight_trim entry.2

theorem isRead_of_splitQuery {query : String} {parts : SplitQuery}
    (split : splitQuery query = .ok parts) : ∀ segment ∈ parts.segments, segment.IsRead := by
  obtain ⟨found, -, afterSplit⟩ := Except.bind_eq_ok_iff.mp split
  obtain ⟨tokens, -, afterTokens⟩ := Except.bind_eq_ok_iff.mp afterSplit
  obtain ⟨segments, read, finished⟩ := Except.bind_eq_ok_iff.mp afterTokens
  cases finished
  exact isRead_of_readSegments read

/-- Behind a first token that opens no bracket, the text of a segment is read as a text of its
own. -/
theorem Segment.IsRead.exists_lex_argumentText {segment : Segment} (isRead : segment.IsRead)
    {first : Token} {rest : List Token} (tokens : segment.tokens = first :: rest)
    (plain : first.kind ≠ .punctuation) :
    ∃ front others, segment.text.toList = front ++ segment.argumentText.toList ∧
      lex segment.argumentText = .ok others ∧ rest = others.map (Token.shift (utf8Len front)) := by
  have lexed := isRead.lexed
  rw [tokens] at lexed
  obtain ⟨inner, after, behind, read⟩ := exists_lexFrom_behind lexed
  obtain rfl : inner = [] := List.map_eq_nil_iff.mp (behind.lexeme.inner_eq plain)
  obtain ⟨gap, -, split, place⟩ := behind.split
  rw [← List.append_assoc] at split
  have stop : first.stop = utf8Len (gap ++ first.value.toList) := by
    rw [Token.stop, place, utf8Len_append, Nat.zero_add]
    simp
  have last : ∀ c, after.getLast? = some c → isBlank c = false := by
    intro c isLast
    apply isRead.tight.last
    rw [split, List.getLast?_append, isLast, Option.some_or]
  have text : segment.argumentText = ofList (trimLeft after) := by
    simp only [Segment.argumentText, tokens, stop, split, dropBytes_utf8Len_append,
      trim_eq_trimLeft last]
  obtain ⟨middle, middleBlank, cut⟩ := exists_trimLeft_append after
  rw [cut, lexFrom_blank_append middleBlank, stop, ← utf8Len_append] at read
  obtain ⟨others, alone, same⟩ := exists_lex_of_lexFrom read
  refine ⟨gap ++ first.value.toList ++ middle, others, ?_, by rwa [text], same⟩
  rw [text, toList_ofList, List.append_assoc, ← cut]
  exact split

end Query

namespace Invocation

theorem kind_of_directive? {token : Token} {directive : Directive}
    (called : directive? token = some directive) : token.kind ≠ .punctuation := by
  intro punctuation
  rw [directive?, isMacroCall, punctuation] at called
  cases called

/-- The text of a resolved segment's arguments is read as the tokens of its arguments, which all
stand further right by what the segment holds in front of that text. -/
theorem lex_text {query : String} {parts : SplitQuery} (split : splitQuery query = .ok parts)
    {segment : Segment} (member : segment ∈ parts.segments) {invocation : Invocation}
    (resolved : ofSegment? segment = some invocation) :
    ∃ front tokens, segment.text.toList = front ++ invocation.text.toList ∧
      lex invocation.text = .ok tokens ∧
      invocation.arguments = tokens.map (Token.shift (utf8Len front)) := by
  have isRead := isRead_of_splitQuery split segment member
  obtain ⟨keyword, isFirst, resolved⟩ := Option.bind_eq_some_iff.mp resolved
  obtain ⟨rest, tokens⟩ := List.head?_eq_some_iff.mp isFirst
  cases called : directive? keyword with
  | some directive =>
      rw [called] at resolved
      cases resolved
      simp only [Segment.arguments, tokens, List.tail_cons]
      exact isRead.exists_lex_argumentText tokens (kind_of_directive? called)
  | none =>
      -- An assignment keeps its whole segment.
      rw [called] at resolved
      simp only at resolved
      split at resolved
      · cases resolved
        exact ⟨[], segment.tokens, rfl, isRead.lexed, (List.map_id segment.tokens).symm⟩
      · cases resolved

/-- A query whose second stage has its arguments right behind its keyword. -/
def quotedQuery : SplitQuery where
  indexClause := "i"
  indexTokens := [⟨.identifier, "i", 0⟩]
  segments := [
    ⟨0, "total = 1", [⟨.identifier, "total", 0⟩, ⟨.operator, "=", 6⟩, ⟨.number, "1", 8⟩]⟩,
    ⟨1, "rex\"a b\" -c", [⟨.identifier, "rex", 0⟩, ⟨.quotedLiteral, "\"a b\"", 3⟩,
      ⟨.operator, "-", 9⟩, ⟨.identifier, "c", 10⟩]⟩]

theorem lex_text_quoted :
    ∃ invocation, splitQuery "i | total = 1 | rex\"a b\" -c" = .ok quotedQuery ∧
      (quotedQuery.segments[1]?).bind ofSegment? = some invocation ∧
      ∃ front tokens, "rex\"a b\" -c".toList = front ++ invocation.text.toList ∧
        lex invocation.text = .ok tokens ∧
        invocation.arguments = tokens.map (Token.shift (utf8Len front)) := by
  have split : splitQuery "i | total = 1 | rex\"a b\" -c" = .ok quotedQuery := by
    decide +kernel
  have member : quotedQuery.segments[1] ∈ quotedQuery.segments := List.getElem_mem _
  have resolved : ofSegment? quotedQuery.segments[1] = some ⟨.rex, ⟨.identifier, "rex", 0⟩,
      quotedQuery.segments[1].arguments, "\"a b\" -c"⟩ := by
    decide +kernel
  exact ⟨_, split, resolved, lex_text split member resolved⟩

end Invocation

end LogPipe
