import LogPipe.Json.Reading
import LogPipe.Proofs.Decimal.Numerals

/-!
# The text of exact values

The reader of JSON text undoes what the writer does to a character, so every string is read
back up to its closing quote.  An integer of 64 bits is read back in front of anything that
cannot go on with its digits.

A value is exact when its text says everything about it: it has no floats, its integers have
64 bits, and no object has a name twice.  The text of such a value starts with a character
that shows what kind of value follows, and it is of visible characters only, so it fits on one
line.
-/

namespace LogPipe.Json

open LogPipe.Decimal

section Strings

variable {rest : List Char}

/-- The two hexadecimal digits of a control character. -/
theorem hexValue?_control : ∀ code < 32,
    hexValue? '0' '0' (Nat.digitChar (code / 16)) (Nat.digitChar (code % 16)) = some code := by
  decide

theorem readString?_unicode {c : Char} (control : c.toNat < 32) :
    readString? ('\\' :: 'u' :: '0' :: '0' :: Nat.digitChar (c.toNat / 16) ::
        Nat.digitChar (c.toNat % 16) :: rest) =
      (readString? rest).map fun (cs, rest) => (c :: cs, rest) := by
  have noLow : ¬(0xDC00 ≤ c.toNat ∧ c.toNat ≤ 0xDFFF) := by omega
  have noHigh : ¬(0xD800 ≤ c.toNat ∧ c.toNat ≤ 0xDBFF) := by omega
  rw [readString?]
  simp only [hexValue?_control c.toNat control, Bool.and_eq_true, decide_eq_true_eq, noLow, noHigh,
    if_false, Char.ofNat_toNat]

theorem readString?_plain {c : Char} (noQuote : c ≠ '"') (noBackslash : c ≠ '\\')
    (visible : ¬c.toNat < 32) :
    readString? (c :: rest) = (readString? rest).map fun (cs, rest) => (c :: cs, rest) := by
  rw [readString?.eq_def]
  split
  · contradiction
  · next same => exact absurd (List.cons.inj same).1 noQuote
  · next same => exact absurd (List.cons.inj same).1 noBackslash
  · next same => exact absurd (List.cons.inj same).1 noBackslash
  · next same =>
      obtain ⟨rfl, rfl⟩ := List.cons.inj same
      simp [noBackslash, visible]

/-- An escaped character is read as the character. -/
theorem readString?_escapeChar (c : Char) :
    readString? (escapeChar c ++ rest) =
      (readString? rest).map fun (cs, rest) => (c :: cs, rest) := by
  unfold escapeChar
  by_cases quote : c = '"'
  · subst quote
    rfl
  by_cases backslash : c = '\\'
  · subst backslash
    rfl
  by_cases backspace : c = '\x08'
  · subst backspace
    rfl
  by_cases formFeed : c = '\x0c'
  · subst formFeed
    rfl
  by_cases lineBreak : c = '\n'
  · subst lineBreak
    rfl
  by_cases carriageReturn : c = '\r'
  · subst carriageReturn
    rfl
  by_cases tab : c = '\t'
  · subst tab
    rfl
  simp only [beq_iff_eq, quote, backslash, backspace, formFeed, lineBreak, carriageReturn, tab,
    if_false]
  split
  · next control => exact readString?_unicode control
  · next visible => exact readString?_plain quote backslash visible

theorem readString?_flatMap (chars : List Char) :
    readString? (chars.flatMap escapeChar ++ '"' :: rest) = some (chars, rest) := by
  induction chars with
  | nil => rfl
  | cons c chars induction =>
      rw [List.flatMap_cons, List.append_assoc, readString?_escapeChar, induction]
      rfl

theorem toList_writeString (text : String) :
    (writeString text).toList = '"' :: text.toList.flatMap escapeChar ++ ['"'] := by
  rw [writeString, String.toList_ofList]

end Strings

/-- What may stand behind a value in written text. -/
def Closes (rest : List Char) : Prop :=
  ∀ c, rest.head? = some c → c = ',' ∨ c = ']' ∨ c = '\x7d'

theorem closes_nil : Closes [] :=
  nofun

theorem closes_comma (rest : List Char) : Closes (',' :: rest) :=
  fun _ isHead => .inl (Option.some.inj isHead).symm

theorem closes_bracket (rest : List Char) : Closes (']' :: rest) :=
  fun _ isHead => .inr (.inl (Option.some.inj isHead).symm)

theorem closes_brace (rest : List Char) : Closes ('\x7d' :: rest) :=
  fun _ isHead => .inr (.inr (Option.some.inj isHead).symm)

section Integers

variable {number : Nat} {negative : Bool} {rest : List Char}

/-- The number that digits make up behind a significand. -/
def digitsFrom (significand : Nat) (digits : List Char) : Nat :=
  digits.foldl (fun value c => 10 * value + (c.toNat - 48)) significand

theorem le_digitsFrom (digits : List Char) (significand : Nat) :
    significand ≤ digitsFrom significand digits := by
  induction digits generalizing significand with
  | nil => exact Nat.le_refl _
  | cons c digits induction =>
      have further := induction (10 * significand + (c.toNat - 48))
      rw [digitsFrom, List.foldl_cons, ← digitsFrom]
      omega

/-- Digits are taken as long as the number they make up fits. -/
theorem gather_of_fits {digits : List Char} {significand : Nat}
    (fits : digitsFrom significand digits < twoTo 64) :
    gather significand digits = (digitsFrom significand digits, []) := by
  induction digits generalizing significand with
  | nil => rfl
  | cons c digits induction =>
      rw [digitsFrom, List.foldl_cons, ← digitsFrom] at fits
      have next := Nat.lt_of_le_of_lt (le_digitsFrom digits _) fits
      rw [gather, if_pos next, induction fits]
      rfl

theorem gather_toDigits (fits : number < twoTo 64) :
    gather 0 (Nat.toDigits 10 number) = (number, []) := by
  have value : digitsFrom 0 (Nat.toDigits 10 number) = number := digitsValue_toDigits number
  rw [gather_of_fits (by rwa [value]), value]

theorem span_toDigits (closes : Closes rest) :
    (Nat.toDigits 10 number ++ rest).takeWhile isDigit = Nat.toDigits 10 number ∧
      (Nat.toDigits 10 number ++ rest).dropWhile isDigit = rest := by
  have digits : ∀ c ∈ Nat.toDigits 10 number, isDigit c = true :=
    fun c member => isDigit_of_mem_toDigits member
  rw [List.takeWhile_append_of_pos digits, List.dropWhile_append_of_pos digits]
  cases rest with
  | nil => exact ⟨List.append_nil _, rfl⟩
  | cons c rest =>
      have noDigit : ¬isDigit c = true := by
        rcases closes c rfl with rfl | rfl | rfl <;> decide
      rw [List.takeWhile_cons_of_neg noDigit, List.dropWhile_cons_of_neg noDigit]
      exact ⟨List.append_nil _, rfl⟩

theorem readNumberTail?_closes (closes : Closes rest) (significand : Nat) :
    readNumberTail? negative significand 0 rest =
      if !negative then some (.int significand, rest)
      else if significand == 0 || twoTo 63 < significand then
        some (.float (-(Float.ofNat significand)), rest)
      else some (.int (-(significand : Int)), rest) := by
  rw [readNumberTail?.eq_def]
  split
  · exact absurd (closes '.' rfl) (by decide)
  · exact absurd (closes 'e' rfl) (by decide)
  · exact absurd (closes 'E' rfl) (by decide)
  · rfl

/-- The digits of a number that fits into 64 bits are read as the number. -/
theorem readNumber?_toDigits (fits : number < twoTo 64) (closes : Closes rest) :
    readNumber? negative (Nat.toDigits 10 number ++ rest) =
      readNumberTail? negative number 0 rest := by
  obtain ⟨digits, left⟩ := @span_toDigits number rest closes
  have someDigit := List.isEmpty_eq_false_iff.mpr (toDigits_ne_nil number)
  have noPadding : ((Nat.toDigits 10 number).head? == some '0' &&
      (Nat.toDigits 10 number).length != 1) = false := by
    by_cases zero : number = 0
    · subst zero
      rfl
    · have positive := head?_toDigits_ne_zero (Nat.pos_of_ne_zero zero)
      rw [beq_eq_false_iff_ne.mpr positive, Bool.false_and]
  rw [readNumber?]
  simp only [digits, left, someDigit, noPadding, gather_toDigits fits]
  rfl

end Integers

/-! ## Exact values -/

/-- A value of which the text says everything. -/
inductive Exact : Json → Prop where
  | null : Exact .null
  | bool (value : Bool) : Exact (.bool value)
  | int {value : Int} (low : -(twoTo 63 : Int) ≤ value) (high : value < twoTo 64) :
      Exact (.int value)
  | string (value : String) : Exact (.string value)
  | array {items : List Json} (each : ∀ item ∈ items, Exact item) : Exact (.array items)
  | object {members : List (String × Json)} (distinct : (members.map Prod.fst).Nodup)
      (each : ∀ member ∈ members, Exact member.2) : Exact (.object members)

/-! ## Texts of values -/

/-- The text of the items of an array. -/
def itemsText (items : List Json) : List Char :=
  [','].intercalate (items.map fun item => item.write.toList)

/-- The text of a member of an object. -/
def memberText (member : String × Json) : List Char :=
  (writeString member.1).toList ++ ':' :: member.2.write.toList

/-- The text of the members of an object. -/
def membersText (members : List (String × Json)) : List Char :=
  [','].intercalate (members.map memberText)

theorem toList_write_int (value : Int) :
    (write (.int value)).toList =
      if value < 0 then '-' :: Nat.toDigits 10 value.natAbs
      else Nat.toDigits 10 value.natAbs :=
  toList_toString value

theorem toList_write_string (value : String) :
    (write (.string value)).toList = '"' :: (value.toList.flatMap escapeChar ++ ['"']) :=
  toList_writeString value

theorem writeItems_eq (items : List Json) : writeItems items = items.map write := by
  induction items with
  | nil => rw [writeItems, List.map_nil]
  | cons item items induction => rw [writeItems, induction, List.map_cons]

theorem writeMembers_eq (members : List (String × Json)) :
    writeMembers members =
      members.map fun member => writeString member.1 ++ ":" ++ member.2.write := by
  induction members with
  | nil => rw [writeMembers, List.map_nil]
  | cons member members induction => rw [writeMembers, induction, List.map_cons]

theorem toList_write_array (items : List Json) :
    (write (.array items)).toList = '[' :: (itemsText items ++ [']']) := by
  rw [write, String.toList_append, String.toList_append, String.toList_intercalate, writeItems_eq,
    List.map_map]
  rfl

theorem toList_write_object (members : List (String × Json)) :
    (write (.object members)).toList = '\x7b' :: (membersText members ++ ['\x7d']) := by
  have member : (String.toList ∘ fun member : String × Json =>
      writeString member.1 ++ ":" ++ member.2.write) = memberText := by
    funext member
    rw [Function.comp_apply, String.toList_append, String.toList_append, List.append_assoc]
    rfl
  rw [write, String.toList_append, String.toList_append, String.toList_intercalate,
    writeMembers_eq, List.map_map, member]
  rfl

theorem separated_cons_cons (first next : List Char) (others : List (List Char)) :
    [','].intercalate (first :: next :: others) =
      first ++ ',' :: [','].intercalate (next :: others) := by
  rw [List.intercalate_cons_cons, List.append_assoc, List.singleton_append]

theorem itemsText_cons_cons (item next : Json) (items : List Json) :
    itemsText (item :: next :: items) = item.write.toList ++ ',' :: itemsText (next :: items) :=
  separated_cons_cons _ _ _

theorem membersText_cons_cons (member next : String × Json) (members : List (String × Json)) :
    membersText (member :: next :: members) =
      memberText member ++ ',' :: membersText (next :: members) :=
  separated_cons_cons _ _ _

/-! ## First characters -/

variable {value : Json} {text : List Char}

theorem isBlank_of_isDigit {c : Char} (digit : isDigit c = true) : isBlank c = false := by
  rw [isBlank]
  simp only [Bool.or_eq_false_iff, beq_eq_false_iff_ne]
  refine ⟨⟨⟨?_, ?_⟩, ?_⟩, ?_⟩ <;> rintro rfl <;> exact absurd digit (by decide)

/-- The text starts with neither a blank nor a closing bracket. -/
def Begins (text : List Char) : Prop :=
  ∃ c others, text = c :: others ∧ isBlank c = false ∧ c ≠ ']'

theorem Begins.append (begins : Begins text) (rest : List Char) : Begins (text ++ rest) := by
  obtain ⟨c, others, rfl, visible, noBracket⟩ := begins
  exact ⟨c, others ++ rest, rfl, visible, noBracket⟩

theorem begins_write (exact : Exact value) : Begins value.write.toList := by
  cases exact with
  | null => exact ⟨'n', ['u', 'l', 'l'], rfl, by decide, by decide⟩
  | bool value =>
      cases value with
      | true => exact ⟨'t', ['r', 'u', 'e'], rfl, by decide, by decide⟩
      | false => exact ⟨'f', ['a', 'l', 's', 'e'], rfl, by decide, by decide⟩
  | int low high =>
      rw [toList_write_int]
      split
      · exact ⟨'-', _, rfl, by decide, by decide⟩
      · next value _ =>
          cases digits : Nat.toDigits 10 value.natAbs with
          | nil => exact absurd digits (toDigits_ne_nil _)
          | cons c others =>
              have digit : isDigit c = true :=
                isDigit_of_mem_toDigits (digits ▸ List.mem_cons_self)
              refine ⟨c, others, rfl, isBlank_of_isDigit digit, ?_⟩
              rintro rfl
              exact absurd digit (by decide)
  | string value =>
      rw [toList_write_string]
      exact ⟨'"', _, rfl, by decide, by decide⟩
  | array each =>
      rw [toList_write_array]
      exact ⟨'[', _, rfl, by decide, by decide⟩
  | object distinct each =>
      rw [toList_write_object]
      exact ⟨'\x7b', _, rfl, by decide, by decide⟩

theorem begins_itemsText {item : Json} (begins : Begins item.write.toList) (items : List Json) :
    Begins (itemsText (item :: items)) := by
  cases items with
  | nil => rwa [itemsText, List.map_singleton, List.intercalate_singleton]
  | cons next items =>
      rw [itemsText_cons_cons]
      exact begins.append _

theorem exists_membersText (member : String × Json) (members : List (String × Json)) :
    ∃ text, membersText (member :: members) = '"' :: text := by
  cases members with
  | nil =>
      rw [membersText, List.map_singleton, List.intercalate_singleton, memberText,
        toList_writeString]
      exact ⟨_, rfl⟩
  | cons next members =>
      rw [membersText_cons_cons, memberText, toList_writeString]
      exact ⟨_, rfl⟩

/-! ## Visible characters -/

/-- The text has no control character. -/
def Visible (text : List Char) : Prop :=
  ∀ c ∈ text, 32 ≤ c.toNat

instance (text : List Char) : Decidable (Visible text) :=
  List.decidableBAll _ text

theorem Visible.append {left right : List Char} (leftVisible : Visible left)
    (rightVisible : Visible right) : Visible (left ++ right) :=
  fun c member => (List.mem_append.mp member).elim (leftVisible c) (rightVisible c)

theorem Visible.cons {c : Char} (visible : 32 ≤ c.toNat) (others : Visible text) :
    Visible (c :: text) :=
  List.forall_mem_cons.mpr ⟨visible, others⟩

theorem visible_intercalate {texts : List (List Char)} (each : ∀ text ∈ texts, Visible text) :
    Visible ([','].intercalate texts) := by
  induction texts with
  | nil => exact nofun
  | cons text texts induction =>
      obtain ⟨first, others⟩ := List.forall_mem_cons.mp each
      cases texts with
      | nil => rwa [List.intercalate_singleton]
      | cons next texts =>
          rw [separated_cons_cons]
          exact first.append ((induction others).cons (by decide))

theorem visible_unicode : ∀ code < 32,
    Visible ['\\', 'u', '0', '0', Nat.digitChar (code / 16), Nat.digitChar (code % 16)] := by
  decide

theorem visible_escapeChar (c : Char) : Visible (escapeChar c) := by
  unfold escapeChar
  split
  · decide
  split
  · decide
  split
  · decide
  split
  · decide
  split
  · decide
  split
  · decide
  split
  · decide
  split
  · next control => exact visible_unicode c.toNat control
  · next visible => exact Visible.cons (Nat.not_lt.mp visible) nofun

theorem visible_writeString (text : String) : Visible (writeString text).toList := by
  rw [toList_writeString]
  refine Visible.cons (by decide) (Visible.append ?_ (by decide))
  intro c member
  obtain ⟨source, -, escaped⟩ := List.mem_flatMap.mp member
  exact visible_escapeChar source c escaped

theorem visible_toString (value : Int) : Visible (toString value).toList := by
  have digits : Visible (Nat.toDigits 10 value.natAbs) := by
    intro c member
    have digit := toNat_of_isDigit (isDigit_of_mem_toDigits member)
    omega
  rw [toList_toString]
  split
  · exact digits.cons (by decide)
  · exact digits

/-- No control character is written, whatever characters names and strings have. -/
theorem visible_write (exact : Exact value) : Visible value.write.toList := by
  induction exact with
  | null => decide
  | bool value => cases value <;> decide
  | @int value low high => exact visible_toString value
  | string value => exact visible_writeString value
  | array each induction =>
      rw [toList_write_array]
      refine Visible.cons (by decide) (Visible.append (visible_intercalate ?_) (by decide))
      intro text member
      obtain ⟨item, inside, rfl⟩ := List.mem_map.mp member
      exact induction item inside
  | object distinct each induction =>
      rw [toList_write_object]
      refine Visible.cons (by decide) (Visible.append (visible_intercalate ?_) (by decide))
      intro text member
      obtain ⟨entry, inside, rfl⟩ := List.mem_map.mp member
      exact (visible_writeString entry.1).append ((induction entry inside).cons (by decide))

end LogPipe.Json
