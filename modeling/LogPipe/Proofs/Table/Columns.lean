import LogPipe.Proofs.Table.WellFormed
import Mathlib.Data.List.Induction

/-!
# Columns of tables

What a table shows under a name after columns have been put together or added.
-/

namespace LogPipe.Table

theorem column?_of_mem {table : Table} {name : String} {column : Column}
    (distinct : table.names.Nodup) (member : (name, column) ∈ table.columns) :
    table.column? name = some column :=
  lookup_of_mem distinct member

theorem require_eq_ok_iff {table : Table} {name : String} {column : Column} :
    table.require name = .ok column ↔ table.column? name = some column := by
  rw [require]
  cases table.column? name with
  | none =>
      constructor
      · intro found
        cases found
      · intro found
        cases found
  | some other =>
      constructor
      · intro found
        cases found
        rfl
      · intro found
        cases found
        rfl

theorem exists_column_of_hasColumn {table : Table} {name : String}
    (has : table.hasColumn name = true) : ∃ column, table.column? name = some column :=
  Option.isSome_iff_exists.mp has

/-- A cell of a well-formed table is the one its column has at the row. -/
theorem WellFormed.value?_eq {table : Table} (wellFormed : table.WellFormed) {name : String}
    {column : Column} (found : table.column? name = some column) {row : Nat}
    (inside : row < table.rows) : table.value? name row = some (column.cellAt row) := by
  have short : row < column.cells.length := by
    have size := wellFormed.size_eq found
    rw [Column.size] at size
    omega
  rw [value?, found, Option.bind_some, Column.cellAt, Column.get?,
    List.getElem?_eq_getElem short, Option.getD_some]

theorem WellFormed.cellAt_mem {table : Table} (wellFormed : table.WellFormed) {name : String}
    {column : Column} (found : table.column? name = some column) {row : Nat}
    (inside : row < table.rows) : column.cellAt row ∈ column.cells := by
  have short : row < column.cells.length := by
    have size := wellFormed.size_eq found
    rw [Column.size] at size
    omega
  rw [Column.cellAt, Column.get?, List.getElem?_eq_getElem short, Option.getD_some]
  exact List.getElem_mem short

theorem checkColumns_eq_ok {rows : Nat} {seen : List String} {columns : List (String × Column)}
    (checked : checkColumns rows seen columns = .ok ()) :
    (columns.map Prod.fst).Nodup ∧ (∀ name ∈ seen, name ∉ columns.map Prod.fst) ∧
      ∀ entry ∈ columns, entry.2.size = rows := by
  induction columns generalizing seen with
  | nil =>
      exact ⟨List.nodup_nil, fun name _ member => absurd member List.not_mem_nil,
        fun entry member => absurd member List.not_mem_nil⟩
  | cons head rest induction =>
      obtain ⟨name, column⟩ := head
      simp only [checkColumns] at checked
      split at checked
      · cases checked
      · next sized =>
          split at checked
          · cases checked
          · next fresh =>
              have sameSize : column.size = rows := by simpa using sized
              have unseen : name ∉ seen := by simpa using fresh
              obtain ⟨distinct, apart, sizes⟩ := induction checked
              refine ⟨?_, ?_, ?_⟩
              · exact List.nodup_cons.mpr ⟨apart name List.mem_cons_self, distinct⟩
              · intro other inSeen member
                rcases List.mem_cons.mp member with rfl | later
                · exact unseen inSeen
                · exact apart other (List.mem_cons_of_mem name inSeen) later
              · intro entry member
                rcases List.mem_cons.mp member with rfl | later
                · exact sameSize
                · exact sizes entry later

/-- A table that is put together has its columns under distinct names. -/
theorem ofRows_eq_ok {rows : Nat} {columns : List (String × Column)} {table : Table}
    (built : ofRows rows columns = .ok table) :
    table = ⟨rows, columns⟩ ∧ table.names.Nodup ∧
      ∀ entry ∈ table.columns, entry.2.size = rows := by
  rw [ofRows] at built
  cases checked : checkColumns rows [] columns with
  | error error =>
      rw [checked] at built
      cases built
  | ok fine =>
      rw [checked] at built
      cases built
      obtain ⟨distinct, -, sizes⟩ := checkColumns_eq_ok checked
      exact ⟨rfl, distinct, sizes⟩

/-- A name that stands a second time in a list, where no other does so before. -/
def FirstRepeated (names : List String) (name : String) : Prop :=
  ∃ before after, names = before ++ name :: after ∧ before.Nodup ∧ name ∈ before

theorem exists_firstRepeated_iff {names : List String} :
    (∃ name, FirstRepeated names name) ↔ ¬names.Nodup := by
  constructor
  · rintro ⟨name, before, after, rfl, -, seen⟩ distinct
    exact (List.nodup_append.mp distinct).2.2 name seen name List.mem_cons_self rfl
  · intro repeats
    induction names using List.reverseRecOn with
    | nil => exact absurd List.nodup_nil repeats
    | append_singleton names last induction =>
        by_cases distinct : names.Nodup
        · by_cases seen : last ∈ names
          · exact ⟨last, names, [], rfl, distinct, seen⟩
          · have turned := List.perm_append_singleton last names
            exact absurd (turned.nodup_iff.mpr (List.nodup_cons.mpr ⟨seen, distinct⟩)) repeats
        · obtain ⟨name, before, after, split, earlier⟩ := induction distinct
          refine ⟨name, before, after ++ [last], ?_, earlier⟩
          rw [split, List.append_assoc, List.cons_append]

section

variable {rows : Nat} {seen : List String} {columns : List (String × Column)}

/-- The check goes on behind columns of the right size under new names. -/
theorem checkColumns_append {later : List (String × Column)}
    (sizes : ∀ entry ∈ columns, entry.2.size = rows)
    (distinct : (seen ++ columns.map Prod.fst).Nodup) :
    checkColumns rows seen (columns ++ later) =
      checkColumns rows ((columns.map Prod.fst).reverse ++ seen) later := by
  induction columns generalizing seen with
  | nil => rfl
  | cons head rest induction =>
      obtain ⟨name, column⟩ := head
      rw [List.forall_mem_cons] at sizes
      have sized : (column.size != rows) = false := by simp [sizes.1]
      have fresh : seen.contains name = false := by
        rw [List.map_cons, List.nodup_append] at distinct
        rw [List.contains_eq_mem, decide_eq_false_iff_not]
        intro inSeen
        exact distinct.2.2 name inSeen name List.mem_cons_self rfl
      have moved : (name :: seen ++ rest.map Prod.fst).Nodup := by
        rw [List.map_cons] at distinct
        exact List.perm_middle.nodup_iff.mp distinct
      rw [List.cons_append, checkColumns, sized, fresh]
      simp only [Bool.false_eq_true, if_false]
      rw [induction sizes.2 moved, List.map_cons, List.reverse_cons, List.append_assoc]
      rfl

theorem ofRows_of_nodup (sizes : ∀ entry ∈ columns, entry.2.size = rows)
    (distinct : (columns.map Prod.fst).Nodup) : ofRows rows columns = .ok ⟨rows, columns⟩ := by
  have checked : checkColumns rows [] columns = .ok () := by
    rw [← List.append_nil columns, checkColumns_append sizes distinct]
    rfl
  rw [ofRows, checked]

theorem ofRows_of_firstRepeated {name : String}
    (sizes : ∀ entry ∈ columns, entry.2.size = rows)
    (repeated : FirstRepeated (columns.map Prod.fst) name) :
    ofRows rows columns = .error (.duplicateColumn name) := by
  obtain ⟨before, after, split, distinct, seen⟩ := repeated
  obtain ⟨front, back, rfl, rfl, isBack⟩ := List.map_eq_append_iff.mp split
  obtain ⟨⟨first, column⟩, rest, rfl, rfl, -⟩ := List.map_eq_cons_iff.mp isBack
  have frontSizes : ∀ entry ∈ front, entry.2.size = rows := fun entry member =>
    sizes entry (List.mem_append_left _ member)
  have sized : (column.size != rows) = false := by
    have same := sizes _ (List.mem_append_right front List.mem_cons_self)
    simp [same]
  have refused : checkColumns rows [] (front ++ (first, column) :: rest) =
      .error (.duplicateColumn first) := by
    have inFront : ((front.map Prod.fst).reverse ++ []).contains first = true := by
      rw [List.append_nil, List.contains_iff_mem, List.mem_reverse]
      exact seen
    rw [checkColumns_append frontSizes distinct, checkColumns, sized, inFront]
    rfl
  rw [ofRows, refused]

end

/-- A column keeps the position of its name, or comes last if the name is new. -/
theorem names_insertColumn (columns : List (String × Column)) (name : String) (column : Column) :
    (insertColumn columns name column).map Prod.fst =
      if name ∈ columns.map Prod.fst then columns.map Prod.fst
      else columns.map Prod.fst ++ [name] := by
  have listed : (columns.any fun entry => entry.1 == name) = true ↔
      name ∈ columns.map Prod.fst := by
    simp
  simp only [insertColumn, listed]
  split
  · rw [List.map_map]
    refine List.map_congr_left fun entry _ => ?_
    by_cases same : entry.1 = name
    · simp [same]
    · simp [same]
  · rw [List.map_append]
    rfl

/-- The columns of other names stay where they are. -/
theorem getElem?_insertColumn {columns : List (String × Column)} {position : Nat}
    {entry : String × Column} (found : columns[position]? = some entry) {name : String}
    (other : entry.1 ≠ name) (column : Column) :
    (insertColumn columns name column)[position]? = some entry := by
  rw [insertColumn]
  split
  · rw [List.getElem?_map, found, Option.map_some, if_neg (by simpa using other)]
  · rw [List.getElem?_append_left (List.getElem?_eq_some_iff.mp found).1, found]

/-- A replaced or added column is found, and all others are as before. -/
theorem lookup_insertColumn (columns : List (String × Column)) (name other : String)
    (column : Column) :
    (insertColumn columns name column).lookup other =
      if other = name then some column else columns.lookup other := by
  have replaced : ∀ columns : List (String × Column),
      (columns.map fun entry => if entry.1 == name then (name, column) else entry).lookup other =
        if other = name ∧ name ∈ columns.map Prod.fst then some column
        else columns.lookup other := by
    intro columns
    induction columns with
    | nil => simp
    | cons head rest induction =>
        obtain ⟨first, shown⟩ := head
        rw [List.map_cons, List.lookup_cons, List.lookup_cons, induction]
        by_cases isName : first = name
        · subst isName
          by_cases isOther : other = first
          · simp [isOther]
          · have missed : (other == first) = false := beq_eq_false_iff_ne.mpr isOther
            simp [isOther, missed]
        · by_cases isOther : other = first
          · subst isOther
            simp [isName]
          · have missed : (other == first) = false := beq_eq_false_iff_ne.mpr isOther
            have kept : (first == name) = false := beq_eq_false_iff_ne.mpr isName
            have listed : name ∈ ((first, shown) :: rest).map Prod.fst ↔
                name ∈ rest.map Prod.fst := by
              simp [Ne.symm isName]
            simp only [kept, Bool.false_eq_true, if_false, missed, listed]
  rw [insertColumn]
  by_cases present : (columns.any fun entry => entry.1 == name) = true
  · have listed : name ∈ columns.map Prod.fst := by simpa using present
    rw [if_pos present, replaced]
    simp [listed]
  · have unlisted : columns.lookup name = none := by
      rw [List.lookup_eq_none_iff]
      intro entry member
      simp only [List.any_eq_true, not_exists, not_and] at present
      have different := present entry member
      simp only [beq_iff_eq] at different
      simpa using fun same => different same.symm
    rw [if_neg present, List.lookup_append]
    by_cases isOther : other = name
    · subst isOther
      simp [unlisted]
    · have missed : (other == name) = false := beq_eq_false_iff_ne.mpr isOther
      rw [if_neg isOther, List.lookup_cons, missed, List.lookup_nil, Option.or_none]

/-- Only the last column of a name counts. -/
theorem insertColumn_insertColumn (columns : List (String × Column)) (name : String)
    (first second : Column) :
    insertColumn (insertColumn columns name first) name second =
      insertColumn columns name second := by
  by_cases present : (columns.any fun entry => entry.1 == name) = true
  · have still : ((columns.map fun entry => if entry.1 == name then (name, first) else entry).any
        fun entry => entry.1 == name) = true := by
      rw [List.any_map]
      obtain ⟨entry, member, named⟩ := List.any_eq_true.mp present
      refine List.any_eq_true.mpr ⟨entry, member, ?_⟩
      simp only [Function.comp_apply, named, if_true, beq_self_eq_true]
    rw [insertColumn, insertColumn, insertColumn, if_pos present, if_pos still, if_pos present,
      List.map_map]
    refine List.map_congr_left fun entry _ => ?_
    by_cases named : (entry.1 == name) = true
    · simp only [Function.comp_apply, named, if_true, beq_self_eq_true]
    · simp only [Function.comp_apply, named, Bool.false_eq_true, if_false]
  · have last : ((columns ++ [(name, first)]).any fun entry => entry.1 == name) = true := by
      simp
    have others : ∀ entry ∈ columns,
        (if entry.1 == name then (name, second) else entry) = entry := by
      intro entry member
      have other : ¬(entry.1 == name) = true := fun named =>
        present (List.any_eq_true.mpr ⟨entry, member, named⟩)
      rw [if_neg other]
    rw [insertColumn, insertColumn, insertColumn, if_neg present, if_pos last, if_neg present,
      List.map_append, List.map_congr_left others]
    simp

theorem column?_withColumn {table widened : Table} {name : String} {column : Column}
    (done : table.withColumn name column = .ok widened) : widened.column? name = some column := by
  rw [withColumn] at done
  split at done
  · cases done
  · cases done
    rw [column?, lookup_insertColumn, if_pos rfl]

/-- What a column was replaced by does not matter once it is replaced again. -/
theorem withColumn_congr {table first second : Table} {name : String} {one other : Column}
    (sized : one.size = other.size) (isFirst : table.withColumn name one = .ok first)
    (isSecond : table.withColumn name other = .ok second) (column : Column) :
    first.withColumn name column = second.withColumn name column := by
  have someColumn (inner : Column) : (insertColumn table.columns name inner).isEmpty = false := by
    have found := lookup_insertColumn table.columns name name inner
    cases inserted : insertColumn table.columns name inner with
    | nil =>
        rw [inserted, if_pos rfl] at found
        cases found
    | cons => rfl
  rw [withColumn] at isFirst isSecond
  split at isFirst
  · cases isFirst
  · split at isSecond
    · cases isSecond
    · cases isFirst
      cases isSecond
      simp only [withColumn, someColumn, insertColumn_insertColumn, sized]

/-- A column of the right size can always be added. -/
theorem withColumn_of_size {table : Table} {name : String} {column : Column}
    (size : column.size = table.rows) :
    table.withColumn name column =
      .ok ⟨table.rows, insertColumn table.columns name column⟩ := by
  rw [withColumn, size]
  simp

end LogPipe.Table
