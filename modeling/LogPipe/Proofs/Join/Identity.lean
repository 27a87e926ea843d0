import LogPipe.Proofs.Decimal.Binary
import LogPipe.Proofs.Join.Pairing

/-!
# What a key identifies

Cells have one key when they are one value: both missing, equal, numbers that denote the same
number, or lists of such cells in the same order.  An integer and a float that denote the same
number have one key only below `9 * 10 ^ 15`.
-/

namespace LogPipe

open LogPipe.Decimal

/-- What a number denotes. -/
inductive Quantity where
  | finite (value : ℚ)
  | infinite (negative : Bool)

namespace Quantity

/-- The quantities for which integers and floats share their keys. -/
def Shared : Quantity → Prop
  | .finite value => |value| < 9 * 10 ^ 15
  | .infinite _ => False

end Quantity

/-- The quantity that the bits of a float stand for. -/
def Decimal.Binary.quantity? : Binary → Option Quantity
  | .nan => none
  | .infinite negative => some (.infinite negative)
  | .finite negative significand exponent =>
      some (.finite (signed negative significand * 2 ^ exponent))

namespace Cell

/-- The quantity that a number denotes. -/
def quantity? : Cell → Option Quantity
  | .int value => some (.finite value.toInt)
  | .float x => (Binary.ofFloat x).quantity?
  | _ => none

/-- Cells that are one value, where numbers of different kinds are only one value when their
quantity is shared between the kinds. -/
inductive Identical (shared : Quantity → Prop) : Cell → Cell → Prop where
  | missing {left right : Cell} (leftMissing : left.isMissing = true)
      (rightMissing : right.isMissing = true) : Identical shared left right
  | bool (value : Bool) : Identical shared (.bool value) (.bool value)
  | time (millis : Int64) : Identical shared (.time millis) (.time millis)
  | text (value : String) : Identical shared (.text value) (.text value)
  | number {left right : Cell} {quantity : Quantity} (ofLeft : left.quantity? = some quantity)
      (ofRight : right.quantity? = some quantity)
      (kinds : left.kind = right.kind ∨ shared quantity) : Identical shared left right
  | list {items others : List Cell} (each : List.Forall₂ (Identical shared) items others) :
      Identical shared (.list items) (.list others)

section Floats

variable {x y : Float} {quantity : Quantity} {value : ℚ}

theorem quantity?_eq_finite_iff {content : Binary} :
    content.quantity? = some (.finite value) ↔ content.value? = some value := by
  cases content <;> simp [Binary.quantity?, Binary.value?]

theorem quantity?_eq_infinite_iff {content : Binary} {negative : Bool} :
    content.quantity? = some (.infinite negative) ↔ content = .infinite negative := by
  cases content <;> simp [Binary.quantity?]

theorem isNaN_iff_quantity? : x.isNaN = true ↔ (Binary.ofFloat x).quantity? = none := by
  show x.toModel.unpack.isNaN = true ↔ _
  have known := parts_ofFloat x
  generalize x.toModel.unpack = unpacked, Binary.ofFloat x = content at known
  cases known <;> simp [Float.Model.UnpackedFloat.isNaN, Binary.quantity?]

theorem abs_infinite {negative : Bool} (infinite : Binary.ofFloat x = .infinite negative) :
    x.abs.toModel.unpack = .infinity .positive := by
  have known := parts_ofFloat x
  show (Float.Model.pack x.toModel.unpack.abs).unpack = _
  generalize x.toModel.unpack = unpacked at known
  rw [infinite] at known
  cases known
  exact (Parts.infinite .positive).unpack_pack

theorem value?_bound : (Binary.ofFloat 9.0e15).value? = some (9 * 10 ^ 15) := by
  have content : Binary.ofFloat 9.0e15 = .finite false 9000000000000000 0 := by decide +kernel
  rw [content, Binary.value?, Binary.signed_cast]
  norm_num

/-- Quantities are shared below the bound that floats are compared with. -/
theorem abs_lt_bound_iff (denotes : (Binary.ofFloat x).quantity? = some quantity) :
    x.abs < 9.0e15 ↔ quantity.Shared := by
  cases quantity with
  | finite value =>
      exact lt_iff_of_value? (value?_abs (quantity?_eq_finite_iff.mp denotes)) value?_bound
  | infinite negative =>
      refine iff_of_false ?_ id
      rw [lt_iff_ieeeOrder]
      show x.abs.toModel.unpack.compare _ ≠ _
      rw [abs_infinite (quantity?_eq_infinite_iff.mp denotes)]
      decide

theorem abs_toInt_lt {number : Int} (shared : (Quantity.finite number).Shared) :
    (Int64.ofInt number).toInt = number := by
  obtain ⟨low, high⟩ := abs_lt.mp (show |(number : ℚ)| < 9 * 10 ^ 15 from shared)
  have least : -(9 * 10 ^ 15) < number := by exact_mod_cast low
  have most : number < 9 * 10 ^ 15 := by exact_mod_cast high
  exact Int64.toInt_ofInt_of_le (by omega) (by omega)

/-- A float has the key of an integer when it denotes that integer and the integer is shared, and
a key of its own otherwise. -/
theorem floatKey_cases (denotes : (Binary.ofFloat x).quantity? = some quantity) :
    (∃ number : Int64, quantity = .finite number.toInt ∧ quantity.Shared ∧
        floatKey x = .int number) ∨
      (∀ number : Int, quantity = .finite number → ¬quantity.Shared) ∧ floatKey x = .float x := by
  have bound := abs_lt_bound_iff denotes
  rw [floatKey]
  split
  · next below =>
      have shared := bound.mp below
      cases read : (Binary.ofFloat x).toInt? with
      | some number =>
          have stands := quantity?_eq_finite_iff.mpr (toInt?_eq_some_iff.mp read)
          obtain rfl := Option.some.inj (denotes.symm.trans stands)
          exact Or.inl ⟨Int64.ofInt number, by rw [abs_toInt_lt shared], shared, rfl⟩
      | none =>
          refine Or.inr ⟨?_, rfl⟩
          rintro number rfl
          have whole := toInt?_eq_some_iff.mpr (quantity?_eq_finite_iff.mp denotes)
          rw [read] at whole
          cases whole
  · next large => exact Or.inr ⟨fun _ _ shared => large (bound.mpr shared), rfl⟩

/-- Floats that denote one quantity that is not shared are one float. -/
theorem eq_of_quantity? (denotes : (Binary.ofFloat x).quantity? = some quantity)
    (others : (Binary.ofFloat y).quantity? = some quantity)
    (own : ∀ number : Int, quantity = .finite number → ¬quantity.Shared) : x = y := by
  cases quantity with
  | finite value =>
      refine eq_of_value? (quantity?_eq_finite_iff.mp denotes)
        (quantity?_eq_finite_iff.mp others) ?_
      rintro rfl
      exact own 0 (by rw [Int.cast_zero]) (by norm_num [Quantity.Shared])
  | infinite negative =>
      apply ofFloat_injective
      rw [quantity?_eq_infinite_iff.mp denotes, quantity?_eq_infinite_iff.mp others]

end Floats

section Keys

/-- The key of a cell, with what it says about the cell. -/
inductive HasKey : Cell → Key → Prop where
  | missing {cell : Cell} (isMissing : cell.isMissing = true) : HasKey cell .missing
  | bool (value : Bool) : HasKey (.bool value) (.bool value)
  | time (millis : Int64) : HasKey (.time millis) (.time millis)
  | text (value : String) : HasKey (.text value) (.text value)
  | integer {cell : Cell} {number : Int64}
      (denotes : cell.quantity? = some (.finite number.toInt))
      (kinds : cell.kind = .int ∨ (Quantity.finite number.toInt).Shared) :
      HasKey cell (.int number)
  | float {x : Float} {quantity : Quantity} (denotes : (Binary.ofFloat x).quantity? = some quantity)
      (own : ∀ number : Int, quantity = .finite number → ¬quantity.Shared) :
      HasKey (.float x) (.float x)
  | list (items : List Cell) : HasKey (.list items) (.list (keyList items))

theorem hasKey (cell : Cell) : HasKey cell cell.key := by
  cases cell with
  | missing marker => exact .missing rfl
  | bool value => exact .bool value
  | int value => exact .integer rfl (Or.inl rfl)
  | float x =>
      rw [key]
      split
      · next notNumber => exact .missing notNumber
      · next isNumber =>
          obtain ⟨quantity, denotes⟩ :=
            Option.ne_none_iff_exists'.mp (mt isNaN_iff_quantity?.mpr isNumber)
          obtain ⟨number, rfl, shared, same⟩ | ⟨own, same⟩ := floatKey_cases denotes
          · rw [same]
            exact .integer denotes (Or.inr shared)
          · rw [same]
            exact .float denotes own
  | time millis => exact .time millis
  | text value => exact .text value
  | list items => exact .list items

variable {left right : Cell} {quantity : Quantity}

theorem quantity?_of_isMissing (isMissing : left.isMissing = true) : left.quantity? = none := by
  cases left with
  | missing => rfl
  | float x => exact isNaN_iff_quantity?.mp isMissing
  | bool | int | time | text | list => cases isMissing

/-- A number has the key of an integer or one of its own. -/
theorem HasKey.cases_number {key : Key} (has : HasKey left key)
    (denotes : left.quantity? = some quantity) :
    (∃ number : Int64, key = .int number ∧ quantity = .finite number.toInt ∧
        (left.kind = .int ∨ quantity.Shared)) ∨
      ∃ x, left = .float x ∧ key = .float x ∧
        ∀ number : Int, quantity = .finite number → ¬quantity.Shared := by
  cases has with
  | missing isMissing =>
      rw [quantity?_of_isMissing isMissing] at denotes
      cases denotes
  | integer known kinds =>
      obtain rfl := Option.some.inj (denotes.symm.trans known)
      exact Or.inl ⟨_, rfl, rfl, kinds⟩
  | float known own =>
      obtain rfl := Option.some.inj (denotes.symm.trans known)
      exact Or.inr ⟨_, rfl, rfl, own⟩
  | bool | time | text | list => cases denotes

theorem key_eq_of_quantity? (ofLeft : left.quantity? = some quantity)
    (ofRight : right.quantity? = some quantity)
    (kinds : left.kind = right.kind ∨ quantity.Shared) : left.key = right.key := by
  obtain ⟨number, leftKey, same, leftKinds⟩ | ⟨x, rfl, leftKey, own⟩ :=
    (hasKey left).cases_number ofLeft
  · obtain ⟨other, rightKey, otherSame, -⟩ | ⟨y, rfl, rightKey, own⟩ :=
      (hasKey right).cases_number ofRight
    · have value : (number.toInt : ℚ) = other.toInt :=
        Quantity.finite.inj (same.symm.trans otherSame)
      rw [leftKey, rightKey, Int64.toInt_inj.mp (Int.cast_injective value)]
    · have apart := own _ same
      have isFloat := kinds.resolve_right apart
      rw [leftKinds.resolve_right apart] at isFloat
      cases isFloat
  · obtain ⟨number, rightKey, same, rightKinds⟩ | ⟨y, rfl, rightKey, -⟩ :=
      (hasKey right).cases_number ofRight
    · have apart := own _ same
      have isFloat := kinds.resolve_right apart
      rw [rightKinds.resolve_right apart] at isFloat
      cases isFloat
    · rw [eq_of_quantity? ofLeft ofRight own]

/-- Cells other than lists that have one key are one value. -/
theorem HasKey.identical {key : Key} (ofLeft : HasKey left key) (ofRight : HasKey right key)
    (plain : left.kind ≠ .list) : Identical Quantity.Shared left right := by
  cases ofLeft with
  | missing leftMissing =>
      cases ofRight with
      | missing rightMissing => exact .missing leftMissing rightMissing
  | bool value =>
      cases ofRight
      exact .bool value
  | time millis =>
      cases ofRight
      exact .time millis
  | text value =>
      cases ofRight
      exact .text value
  | integer denotes kinds =>
      cases ofRight with
      | integer others otherKinds =>
          refine .number denotes others ?_
          obtain isInt | shared := kinds
          · exact otherKinds.imp_left fun otherInt => isInt.trans otherInt.symm
          · exact Or.inr shared
  | float denotes own =>
      cases ofRight with
      | float others => exact .number denotes denotes (Or.inl rfl)
  | list items => exact absurd rfl plain

mutual

theorem key_eq_of_identical (left right : Cell) (identical : Identical Quantity.Shared left right) :
    left.key = right.key := by
  cases identical with
  | missing leftMissing rightMissing =>
      rw [key_eq_missing_iff.mpr leftMissing, key_eq_missing_iff.mpr rightMissing]
  | bool | time | text => rfl
  | number ofLeft ofRight kinds => exact key_eq_of_quantity? ofLeft ofRight kinds
  | @list items others each =>
      rw [key, key, keyList_eq_of_identical items others each]

/-- List counterpart of `key_eq_of_identical`. -/
theorem keyList_eq_of_identical (items others : List Cell)
    (each : List.Forall₂ (Identical Quantity.Shared) items others) :
    keyList items = keyList others := by
  cases each with
  | nil => rfl
  | @cons item other items others head tail =>
      rw [keyList, keyList, key_eq_of_identical item other head,
        keyList_eq_of_identical items others tail]

end

mutual

theorem identical_of_key_eq (left right : Cell) (same : left.key = right.key) :
    Identical Quantity.Shared left right := by
  have ofLeft := hasKey left
  have ofRight := hasKey right
  rw [← same] at ofRight
  cases left with
  | list items =>
      rw [key] at ofRight
      generalize listed : keyList items = keys at ofRight
      cases ofRight with
      | list others => exact .list (identical_of_keyList_eq items others listed)
  | missing | bool | int | float | time | text => exact ofLeft.identical ofRight nofun

/-- List counterpart of `identical_of_key_eq`. -/
theorem identical_of_keyList_eq (items others : List Cell) (same : keyList items = keyList others) :
    List.Forall₂ (Identical Quantity.Shared) items others := by
  cases items with
  | nil =>
      cases others with
      | nil => exact .nil
      | cons => cases same
  | cons item items =>
      cases others with
      | nil => cases same
      | cons other others =>
          obtain ⟨head, tail⟩ := List.cons.inj same
          exact .cons (identical_of_key_eq item other head)
            (identical_of_keyList_eq items others tail)

end

/-- Cells have one key exactly when they are one value. -/
theorem key_eq_iff (left right : Cell) :
    left.key = right.key ↔ Identical Quantity.Shared left right :=
  ⟨identical_of_key_eq left right, key_eq_of_identical left right⟩

theorem map_key_eq_iff (cells others : List Cell) :
    cells.map key = others.map key ↔
      List.Forall₂ (Identical Quantity.Shared) cells others := by
  rw [← List.forall₂_eq_eq_eq, List.forall₂_map_left_iff, List.forall₂_map_right_iff]
  simp only [key_eq_iff]

/-- An integer and a float are one value when the float denotes the integer and the kinds share
it. -/
theorem identical_int_float_iff {shared : Quantity → Prop} {number : Int64} {x : Float} :
    Identical shared (.int number) (.float x) ↔
      (Binary.ofFloat x).value? = some (number.toInt : ℚ) ∧
        shared (.finite number.toInt) := by
  rw [← quantity?_eq_finite_iff]
  constructor
  · intro identical
    cases identical with
    | missing isMissing => cases isMissing
    | number ofInt ofFloat kinds =>
        obtain rfl := Option.some.inj ofInt
        exact ⟨ofFloat, kinds.resolve_left nofun⟩
  · rintro ⟨denotes, isShared⟩
    exact .number rfl denotes (Or.inr isShared)

end Keys

end Cell

namespace Join

open Cell

/-- Rows are paired when their key cells are all there and one value. -/
theorem mem_rowPairs_iff_identical {left right : Table} {keys : List String} {kind : JoinKind}
    {row other : Nat} :
    (some row, some other) ∈ rowPairs left right keys kind ↔
      row < left.rows ∧ other < right.rows ∧ left.HasKeys keys row ∧
        ∀ name ∈ keys, ∃ cell ∈ left.value? name row, ∃ partner ∈ right.value? name other,
          Identical Quantity.Shared cell partner := by
  rw [mem_rowPairs_iff]
  refine and_congr_right fun _ => and_congr_right fun _ => and_congr_right fun has => ?_
  rw [Table.keysAt, Table.keysAt, List.map_inj_left]
  refine forall₂_congr fun name member => ?_
  have present := has name member
  cases value : left.value? name row with
  | none =>
      rw [value] at present
      cases present
  | some cell =>
      simp only [Option.mem_def, Option.some_inj, exists_eq_left', Option.map_some,
        Option.map_eq_some_iff, ← key_eq_iff]
      exact exists_congr fun partner => and_congr_right fun _ => eq_comm

/-- Cells have one key exactly when they are one value, where an integer and a float that denote
the same number are one value only below `9 * 10 ^ 15`.  Rows that are taken for their keys are
alike cell by cell, and a join pairs rows whose key cells are all there and alike. -/
theorem keys_identify (cell partner : Cell) (cells partners : List Cell) (left right : Table)
    (keys : List String) (kind : JoinKind) (row other : Nat) :
    (cell.key = partner.key ↔ Identical Quantity.Shared cell partner) ∧
      (cells.map Cell.key = partners.map Cell.key ↔
        List.Forall₂ (Identical Quantity.Shared) cells partners) ∧
      ((some row, some other) ∈ rowPairs left right keys kind ↔
        row < left.rows ∧ other < right.rows ∧ left.HasKeys keys row ∧
          ∀ name ∈ keys, ∃ cell ∈ left.value? name row, ∃ partner ∈ right.value? name other,
            Identical Quantity.Shared cell partner) :=
  ⟨key_eq_iff cell partner, map_key_eq_iff cells partners, mem_rowPairs_iff_identical⟩

/-- The integer and the float `2 ^ 53` denote the same number and have different keys. -/
theorem keys_of_large_number :
    Identical (fun _ => True) (.int 9007199254740992) (.float (.ofBits 0x4340000000000000)) ∧
      (Cell.int 9007199254740992).key ≠ (Cell.float (.ofBits 0x4340000000000000)).key := by
  constructor
  · have content : Binary.ofFloat (.ofBits 0x4340000000000000) = .finite false (2 ^ 52) 1 := by
      decide +kernel
    have number : (9007199254740992 : Int64).toInt = 9007199254740992 := by decide
    rw [identical_int_float_iff, content, Binary.value?, Binary.signed_cast, number]
    norm_num
  · decide +kernel

end Join

end LogPipe
