import LogPipe.Proofs.Codec.Delimited
import LogPipe.Proofs.Decimal.Layout

/-!
# Numbers as fields

A field of delimited text has no room for the kind of its cell.  Truth values and integers are
inferred from how they are written, and so are floats, since the shortest digits of a float are
rounded to the float again.  A whole float from `10 ^ 16` on is written without a point: as long as
a 64-bit integer has room for it, an integer is inferred, and its nearest float is the float.
-/

namespace LogPipe

open LogPipe.Decimal LogPipe.Text Float.Model Float.Model.UnpackedFloat

namespace Cell

section Spelled

variable {pointed negative : Bool} {text : List Char} {value : ℚ}

/-- A number without a point is inferred as an integer when it is a 64-bit integer. -/
theorem ofTrimmed_integer (spells : Spells false text value) {number : Nat}
    (same : value = number) (inRange : InRange (Binary.signed negative number)) :
    ofTrimmed (withSign negative text) = .int (.ofInt (Binary.signed negative number)) := by
  obtain ⟨other, otherSame, read⟩ := spells.exists_readInt? negative
  obtain rfl : number = other := by exact_mod_cast same.symm.trans otherSame
  rw [ofTrimmed, readInt64?, read, Option.bind_some, int64?_of_inRange inRange]

/-- Any other number is inferred as a float. -/
theorem exists_ofTrimmed_float (spells : Spells pointed text value)
    (outside : pointed = false → ∀ number : Nat, value = number →
      ¬InRange (Binary.signed negative number)) :
    ∃ (digits : Nat) (exponent : Int), value = digits * 10 ^ exponent ∧
      ofTrimmed (withSign negative text) = .float (if negative then -floatOfDecimal digits exponent
        else floatOfDecimal digits exponent) := by
  obtain ⟨digits, exponent, same, read⟩ := spells.exists_readFloat? negative
  have noInteger : readInt64? (withSign negative text) = none := by
    cases pointed with
    | true => rw [readInt64?, spells.readInt?_pointed negative, Option.bind_none]
    | false =>
        obtain ⟨number, isNumber, readInt⟩ := spells.exists_readInt? negative
        rw [readInt64?, readInt, Option.bind_some,
          int64?_of_not_inRange (outside rfl number isNumber)]
  have someDigit : (withSign negative text).any isDigit = true := by
    obtain ⟨first, rest, rfl, digit⟩ := spells.exists_head
    cases negative <;> simp [withSign, digit]
  refine ⟨digits, exponent, same, ?_⟩
  rw [ofTrimmed, noInteger]
  simp only [someDigit, if_true, read]

end Spelled

section Floats

variable {x : Float} {sign : Sign} {significand digits : Nat} {exponent place : Int}

/-- A decimal that is rounded to a float is read as the float, with its sign. -/
theorem signed_floatOfDecimal (stored : Stored significand place)
    (unpacked : x.toModel.unpack = .finite sign significand place stored.positive)
    (rounds : RoundsTo (digits * 10 ^ exponent) significand place) :
    (if isMinus sign then -floatOfDecimal digits exponent else floatOfDecimal digits exponent) =
      x := by
  have read := unpack_floatOfDecimal stored rounds
  apply eq_of_toModel_unpack_eq
  rw [unpacked]
  cases sign with
  | positive => exact read
  | negative =>
      rw [isMinus, if_pos rfl, unpack_neg, read]
      rfl

/-- The float nearest to an integer that is rounded to a float. -/
theorem ofInt_of_roundsTo (stored : Stored significand place)
    (unpacked : x.toModel.unpack = .finite sign significand place stored.positive)
    {number : Nat} (rounds : RoundsTo number significand place) :
    Float.ofInt (Binary.signed (isMinus sign) number) = x := by
  have whole : (number : ℚ) = number * 10 ^ (0 : ℤ) := by rw [zpow_zero, mul_one]
  rw [whole] at rounds
  have positive := rounds.digits_pos stored
  have read := signed_floatOfDecimal stored unpacked rounds
  cases sign with
  | positive => exact read
  | negative =>
      obtain ⟨before, rfl⟩ := Nat.exists_eq_succ_of_ne_zero (Nat.ne_of_gt positive)
      exact read

/-- The field of a float is its sign and its magnitude. -/
theorem toList_written_float (stored : Stored significand place)
    (unpacked : x.toModel.unpack = .finite sign significand place stored.positive) :
    (Cell.float x).written.toList =
      withSign (isMinus sign) (Layout.cell.magnitude significand place).toList := by
  have isNumber : x.isNaN = false := congrArg UnpackedFloat.isNaN unpacked
  have content := (parts_ofFloat x).content_eq unpacked (.finite sign stored)
  rw [written, writeFloat, isNumber, if_neg Bool.false_ne_true, Layout.write, content]
  cases sign <;> simp [withSign, isMinus]

/-- A float is inferred from the digits that it is written with. -/
theorem infer_written_finite (stored : Stored significand place)
    (unpacked : x.toModel.unpack = .finite sign significand place stored.positive) :
    infer (Cell.float x).written =
      ofTrimmed (withSign (isMinus sign) (Layout.cell.magnitude significand place).toList) := by
  have spells := spells_magnitude stored
  have text := toList_written_float stored unpacked
  have solid : ∀ c ∈ (Cell.float x).written.toList, isBlank c = false := by
    rw [text, withSign]
    split
    · exact List.forall_mem_cons.mpr ⟨by decide, spells.isBlank⟩
    · exact spells.isBlank
  have visible : (Cell.float x).written.toList ≠ [] := by
    obtain ⟨first, rest, shape, -⟩ := spells.exists_head
    rw [text, withSign, shape]
    split <;> exact List.cons_ne_nil _ _
  rw [infer_of_tight (tight_of_solid solid) visible, text]

/-- A float is inferred when its digits do not stand for a 64-bit integer. -/
theorem infer_written_eq_self (stored : Stored significand place)
    (unpacked : x.toModel.unpack = .finite sign significand place stored.positive)
    (outside : 10 ^ 16 ≤ (writtenDecimal significand place).value → ∀ number : Nat,
      (writtenDecimal significand place).value = number →
        ¬InRange (Binary.signed (isMinus sign) number)) :
    infer (Cell.float x).written = .float x := by
  have unread : (decide ((writtenDecimal significand place).exponent < 0) ||
      decide ((writtenDecimal significand place).value < 10 ^ 16)) = false →
      ∀ number : Nat, (writtenDecimal significand place).value = number →
        ¬InRange (Binary.signed (isMinus sign) number) := by
    intro noPoint
    rw [Bool.or_eq_false_iff, decide_eq_false_iff_not, decide_eq_false_iff_not] at noPoint
    exact outside (not_lt.mp noPoint.2)
  obtain ⟨digits, exponent, same, read⟩ :=
    exists_ofTrimmed_float (spells_magnitude stored) unread
  have rounds := roundsTo_writtenDecimal stored
  rw [same] at rounds
  rw [infer_written_finite stored unpacked, read, signed_floatOfDecimal stored unpacked rounds]

end Floats

section Bounds

variable {significand : Nat} {exponent : Int}

/-- The least float that is written without a point. -/
theorem stored_pointless : Stored (5 * 10 ^ 15) 1 :=
  ⟨by norm_num, by norm_num, by norm_num, by norm_num, Or.inl (by norm_num)⟩

/-- The least float for which a 64-bit integer has no room. -/
theorem stored_beyond : Stored (2 ^ 52) 11 :=
  ⟨by norm_num, by norm_num, by norm_num, by norm_num, Or.inl le_rfl⟩

theorem value_pointless : ((5 * 10 ^ 15 : ℕ) : ℚ) * 2 ^ (1 : ℤ) = 10 ^ 16 := by
  norm_num

theorem value_beyond : ((2 ^ 52 : ℕ) : ℚ) * 2 ^ (11 : ℤ) = 2 ^ 63 := by
  norm_num

theorem writtenDecimal_pointless : writtenDecimal (5 * 10 ^ 15) 1 = ⟨1, 16⟩ := by
  decide +kernel

theorem writtenDecimal_beyond : writtenDecimal (2 ^ 52) 11 = ⟨9223372036854776, 3⟩ := by
  decide +kernel

theorem writtenDecimal_lt_pointless (stored : Stored significand exponent)
    (below : (significand : ℚ) * 2 ^ exponent < 10 ^ 16) :
    (writtenDecimal significand exponent).value < 10 ^ 16 := by
  rw [← value_pointless] at below ⊢
  exact (roundsTo_writtenDecimal stored).lt_of_lt stored stored_pointless below

theorem pointless_le_writtenDecimal (stored : Stored significand exponent)
    (atLeast : 10 ^ 16 ≤ (significand : ℚ) * 2 ^ exponent) :
    10 ^ 16 ≤ (writtenDecimal significand exponent).value := by
  rw [← value_pointless] at atLeast
  obtain same | above := atLeast.eq_or_lt
  · obtain ⟨rfl, rfl⟩ := stored_pointless.unique stored same
    rw [writtenDecimal_pointless, Scientific.value]
    norm_num
  · rw [← value_pointless]
    exact ((roundsTo_writtenDecimal stored).gt_of_gt stored stored_pointless above).le

theorem writtenDecimal_lt_beyond (stored : Stored significand exponent)
    (below : (significand : ℚ) * 2 ^ exponent < 2 ^ 63) :
    (writtenDecimal significand exponent).value < 2 ^ 63 := by
  rw [← value_beyond] at below ⊢
  exact (roundsTo_writtenDecimal stored).lt_of_lt stored stored_beyond below

/-- The shortest digits of `2 ^ 63` stand for more than `2 ^ 63`. -/
theorem beyond_lt_writtenDecimal (stored : Stored significand exponent)
    (atLeast : 2 ^ 63 ≤ (significand : ℚ) * 2 ^ exponent) :
    2 ^ 63 < (writtenDecimal significand exponent).value := by
  rw [← value_beyond] at atLeast
  obtain same | above := atLeast.eq_or_lt
  · obtain ⟨rfl, rfl⟩ := stored_beyond.unique stored same
    rw [writtenDecimal_beyond, Scientific.value]
    norm_num
  · rw [← value_beyond]
    exact (roundsTo_writtenDecimal stored).gt_of_gt stored stored_beyond above

theorem inRange_signed {number : Nat} (below : number < 2 ^ 63) (negative : Bool) :
    InRange (Binary.signed negative number) := by
  have least : Int64.minValue.toInt = -2 ^ 63 := by decide
  have most : Int64.maxValue.toInt = 2 ^ 63 - 1 := by decide
  rw [InRange, least, most]
  cases negative <;> simp only [Binary.signed, Bool.false_eq_true, if_true, if_false] <;> omega

theorem not_inRange_signed {number : Nat} (above : 2 ^ 63 < number) (negative : Bool) :
    ¬InRange (Binary.signed negative number) := by
  have least : Int64.minValue.toInt = -2 ^ 63 := by decide
  have most : Int64.maxValue.toInt = 2 ^ 63 - 1 := by decide
  rw [InRange, least, most]
  cases negative <;> simp only [Binary.signed, Bool.false_eq_true, if_true, if_false] <;> omega

end Bounds

/-- The numbers for which a whole float is written like a 64-bit integer. -/
def LikeInteger (value : ℚ) : Prop :=
  10 ^ 16 ≤ |value| ∧ |value| < 2 ^ 63

section Finite

variable {x : Float} {value : ℚ}

theorem infer_written_zero {sign : Sign} (unpacked : x.toModel.unpack = .zero sign) :
    infer (Cell.float x).written = .float x := by
  rw [eq_zero_of_unpack unpacked]
  cases sign <;> decide +kernel

theorem infer_written_float (stands : (Binary.ofFloat x).value? = some value)
    (clear : ¬LikeInteger value) : infer (Cell.float x).written = .float x := by
  obtain ⟨sign, zero, -⟩ | ⟨sign, significand, exponent, stored, unpacked, magnitude⟩ :=
    (denotes stands).zero_or_finite
  · exact infer_written_zero zero
  · rw [LikeInteger, magnitude] at clear
    apply infer_written_eq_self stored unpacked
    intro pointless number same
    have atLeast : 10 ^ 16 ≤ (significand : ℚ) * 2 ^ exponent := by
      by_contra below
      exact absurd (writtenDecimal_lt_pointless stored (not_le.mp below)) (not_lt.mpr pointless)
    have beyond := beyond_lt_writtenDecimal stored (not_lt.mp fun below => clear ⟨atLeast, below⟩)
    rw [same] at beyond
    exact not_inRange_signed (by exact_mod_cast beyond) _

theorem exists_infer_written (stands : (Binary.ofFloat x).value? = some value)
    (like : LikeInteger value) :
    ∃ number, infer (Cell.float x).written = .int number ∧ floatOfInt number = x := by
  obtain ⟨sign, -, rfl⟩ | ⟨sign, significand, exponent, stored, unpacked, magnitude⟩ :=
    (denotes stands).zero_or_finite
  · rw [LikeInteger, abs_zero] at like
    exact absurd like.1 (by norm_num)
  · rw [LikeInteger, magnitude] at like
    have atLeast := pointless_le_writtenDecimal stored like.1
    have below := writtenDecimal_lt_beyond stored like.2
    have whole : 0 ≤ exponent := by
      by_contra negative
      have small : (significand : ℚ) < 2 ^ 53 := by exact_mod_cast stored.small
      have fraction : (significand : ℚ) * 2 ^ exponent < 10 ^ 16 := by
        calc
          (significand : ℚ) * 2 ^ exponent ≤ 2 ^ 53 * 2 ^ (0 : ℤ) := by
            gcongr
            · exact one_le_two
            · omega
          _ < 10 ^ 16 := by norm_num
      exact absurd like.1 (not_le.mpr fraction)
    have noFraction := exponent_writtenDecimal_nonneg stored.positive whole
      (like.2.trans (by norm_num))
    have spells := spells_magnitude stored
    rw [decide_eq_false (not_lt.mpr noFraction), decide_eq_false (not_lt.mpr atLeast),
      Bool.or_self] at spells
    obtain ⟨number, same, -⟩ := spells.exists_readInt? (isMinus sign)
    have rounds := roundsTo_writtenDecimal stored
    rw [same] at below rounds
    have inRange := inRange_signed (by exact_mod_cast below : number < 2 ^ 63) (isMinus sign)
    refine ⟨.ofInt (Binary.signed (isMinus sign) number), ?_, ?_⟩
    · rw [infer_written_finite stored unpacked, ofTrimmed_integer spells same inRange]
    · rw [floatOfInt, toInt_ofInt_of_inRange inRange]
      exact ofInt_of_roundsTo stored unpacked rounds

end Finite

/-- Truth values, integers, and finite floats that are not written like integers. -/
inductive Readable : Cell → Prop where
  | bool (value : Bool) : Readable (.bool value)
  | int (value : Int64) : Readable (.int value)
  | float {x : Float} {value : ℚ} (stands : (Binary.ofFloat x).value? = some value)
      (clear : ¬LikeInteger value) : Readable (.float x)

theorem Readable.infer_written {cell : Cell} (readable : Readable cell) :
    infer cell.written = cell := by
  cases readable with
  | bool value => exact infer_written_bool value
  | int value => exact infer_written_int value
  | float stands clear => exact infer_written_float stands clear

end Cell

namespace Codec

/-- A table of such cells, missing cells, and texts that read as nothing else. -/
structure Numeric (table : Table) : Prop where
  wellFormed : table.WellFormed
  someColumn : table.columns ≠ []
  unmarked : ∀ name, table.names.head? = some name → name.toList.head? ≠ some '\ufeff'
  cells : ∀ entry ∈ table.columns, ∀ cell ∈ entry.2.cells,
    cell.Readable ∨ cell = Cell.missingFor entry.2.kind ∨
      ∃ value, cell = .text value ∧ Cell.infer value = .text value
  canonical : ∀ entry ∈ table.columns, Column.lossy entry.2.cells = entry.2

/-- The column of cells that may have lost their missing markers. -/
theorem lossy_map_of_canonical {column : Column} {read : Cell → Cell}
    (canonical : Column.lossy column.cells = column)
    (each : ∀ cell ∈ column.cells,
      read cell = cell ∨ read cell = .null ∧ cell = Cell.missingFor column.kind) :
    Column.lossy (column.cells.map read) = column := by
  have kind : Column.lossyKind column.cells = column.kind := by
    rw [Column.lossy_eq] at canonical
    exact congrArg Column.kind canonical
  have readKind : Column.lossyKind (column.cells.map read) = column.kind := by
    rw [← kind, Column.lossyKind, Column.lossyKind, List.map_map]
    apply congrArg Kind.joinAll
    apply List.map_congr_left
    intro cell member
    obtain same | ⟨lost, isMarker⟩ := each cell member
    · exact congrArg Cell.kind same
    · rw [Function.comp_apply, lost, isMarker]
      cases column.kind <;> rfl
  refine Eq.trans ?_ canonical
  rw [Column.lossy_eq, Column.lossy_eq, readKind, kind, List.map_map]
  congr 1
  apply List.map_congr_left
  intro cell member
  obtain same | ⟨lost, isMarker⟩ := each cell member
  · exact congrArg (Column.coerce column.kind) same
  · rw [Function.comp_apply, lost, isMarker]
    cases column.kind <;> rfl

theorem Numeric.restorable {table : Table} (numeric : Numeric table) : Restorable table where
  wellFormed := numeric.wellFormed
  someColumn := numeric.someColumn
  unmarked := numeric.unmarked
  restored := by
    intro entry column
    apply lossy_map_of_canonical (numeric.canonical entry column)
    intro cell member
    obtain readable | marker | ⟨value, rfl, inferred⟩ := numeric.cells entry column cell member
    · exact Or.inl readable.infer_written
    · refine Or.inr ⟨?_, marker⟩
      rw [marker]
      cases entry.2.kind <;> exact Cell.infer_written_missing _
    · rw [Cell.written]
      exact Or.inl inferred

/-- A truth value, an integer and a finite float are inferred from their fields, and so a table of
them is read back.  Only a float from `10 ^ 16` to below `2 ^ 63` in magnitude is written without
a point: an integer is inferred, and the nearest float to that integer is the float. -/
theorem numbers_as_fields (cell : Cell) (x : Float) (value : ℚ) (delimiter : Char)
    (table : Table) :
    (cell.Readable → Cell.infer cell.written = cell) ∧
      ((Binary.ofFloat x).value? = some value → Cell.LikeInteger value →
        ∃ number, Cell.infer (Cell.float x).written = .int number ∧
          Cell.floatOfInt number = x) ∧
      (Separates delimiter → Numeric table →
        readDelimited delimiter (writeDelimited delimiter table) = .ok table) :=
  ⟨Cell.Readable.infer_written, Cell.exists_infer_written,
    fun separates numeric => numeric.restorable.readDelimited_eq separates⟩

/-- A table with a fraction, a whole float and a missing cell; `10 ^ 16` is written like an
integer, and `2 ^ 63` is not. -/
theorem numbers_as_fields_weights :
    let table : Table := ⟨3, [("weight", ⟨.float, [.float 0.1, .missing .nan, .float (-3.0)]⟩),
      ("id", ⟨.int, [.int 7, .int (-12), .int 0]⟩)]⟩
    readDelimited ',' (writeDelimited ',' table) = .ok table ∧
      (∃ number, Cell.infer (Cell.float 1e16).written = .int number ∧
        Cell.floatOfInt number = 1e16) ∧
      Cell.infer (Cell.float 9223372036854775808).written = .float 9223372036854775808 := by
  intro table
  have tenth : (Binary.ofFloat 0.1).value? = some ((7205759403792794 : ℚ) * 2 ^ (-56 : ℤ)) := by
    have content : Binary.ofFloat 0.1 = .finite false 7205759403792794 (-56) := by decide +kernel
    rw [content]
    rfl
  have three : (Binary.ofFloat (-3.0)).value? = some (((-3 : ℤ) : ℚ)) :=
    toInt?_eq_some_iff.mp (by decide +kernel)
  have large : (Binary.ofFloat 1e16).value? = some ((10 ^ 16 : ℤ) : ℚ) :=
    toInt?_eq_some_iff.mp (by decide +kernel)
  have beyond : (Binary.ofFloat 9223372036854775808).value? = some ((2 ^ 63 : ℤ) : ℚ) :=
    toInt?_eq_some_iff.mp (by decide +kernel)
  have clear : ∀ value : ℚ, |value| < 10 ^ 16 → ¬Cell.LikeInteger value := fun value below like =>
    absurd like.1 (not_le.mpr below)
  have numeric : Numeric table :=
    { wellFormed := by decide
      someColumn := by decide
      unmarked := by decide
      cells := by
        simp only [table, List.forall_mem_cons, List.not_mem_nil, false_imp_iff, implies_true,
          and_true]
        exact ⟨⟨Or.inl (.float tenth (clear _ (by norm_num [abs_of_pos]))), Or.inr (Or.inl rfl),
          Or.inl (.float three (clear _ (by norm_num)))⟩, Or.inl (.int _), Or.inl (.int _),
          Or.inl (.int _)⟩
      canonical := by decide +kernel }
  obtain ⟨kept, turned, restored⟩ :=
    numbers_as_fields (.float 9223372036854775808) 1e16 (10 ^ 16 : ℤ) ',' table
  refine ⟨restored separates_comma numeric, turned large ?_, kept (.float beyond ?_)⟩
  · rw [Cell.LikeInteger]
    norm_num
  · rw [Cell.LikeInteger]
    norm_num

/-- The field of `10 ^ 16` is inferred as an integer, and a column of it is read as integers. -/
theorem infer_written_large :
    Cell.infer (Cell.float 1e16).written = .int 10000000000000000 ∧
      Cell.infer (Cell.float 1e16).written ≠ .float 1e16 ∧
      readDelimited ',' (writeDelimited ',' ⟨1, [("v", ⟨.float, [.float 1e16]⟩)]⟩) =
        .ok ⟨1, [("v", ⟨.int, [.int 10000000000000000]⟩)]⟩ := by
  decide +kernel

end Codec

end LogPipe
