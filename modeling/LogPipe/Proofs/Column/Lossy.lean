import LogPipe.Column.Basic

/-!
# Lossy columns

The kind of a lossy column is the join of the kinds of its cells, where text stands
above the kinds that have nothing in common and a list above everything.  The join
does not depend on the order or the number of the cells, so neither does what
becomes of one cell: it depends on the cell and on which kinds occur.
-/

namespace LogPipe

namespace Kind

/-- The kind of a column that holds cells of two kinds: their common kind, or text. -/
def join (left right : Kind) : Kind :=
  match common left right with
  | .ok kind => kind
  | .error _ => .text

theorem join_comm (left right : Kind) : join left right = join right left := by
  cases left <;> cases right <;> rfl

theorem join_assoc (first second third : Kind) :
    join (join first second) third = join first (join second third) := by
  cases first <;> cases second <;> cases third <;> rfl

@[simp] theorem join_self (kind : Kind) : join kind kind = kind := by
  cases kind <;> rfl

@[simp] theorem null_join (kind : Kind) : join .null kind = kind := by
  cases kind <;> rfl

theorem join_eq_list_iff {left right : Kind} :
    join left right = .list ↔ left = .list ∨ right = .list := by
  cases left <;> cases right <;> decide

/-- Whether a kind is absorbed by another. -/
def Under (kind bound : Kind) : Prop :=
  join kind bound = bound

theorem under_join_left (left right : Kind) : Under left (join left right) := by
  rw [Under, ← join_assoc, join_self]

theorem Under.trans {first second third : Kind} (lower : Under first second)
    (upper : Under second third) : Under first third := by
  calc
    join first third = join first (join second third) := by rw [upper]
    _ = join (join first second) third := (join_assoc first second third).symm
    _ = join second third := by rw [lower]
    _ = third := upper

theorem Under.antisymm {left right : Kind} (lower : Under left right)
    (upper : Under right left) : left = right := by
  rw [← upper, join_comm, lower]

theorem join_under {left right bound : Kind} (leftUnder : Under left bound)
    (rightUnder : Under right bound) : Under (join left right) bound := by
  rw [Under, join_assoc, rightUnder, leftUnder]

/-- The kind of a column of cells of the given kinds. -/
def joinAll : List Kind → Kind
  | [] => .null
  | kind :: kinds => join kind (joinAll kinds)

theorem under_joinAll {kind : Kind} {kinds : List Kind} (member : kind ∈ kinds) :
    Under kind (joinAll kinds) := by
  induction kinds with
  | nil => cases member
  | cons head rest induction =>
      rcases List.mem_cons.mp member with rfl | later
      · exact under_join_left kind (joinAll rest)
      · have above : Under (joinAll rest) (join head (joinAll rest)) := by
          rw [join_comm]
          exact under_join_left (joinAll rest) head
        exact (induction later).trans above

theorem joinAll_under {kinds : List Kind} {bound : Kind}
    (each : ∀ kind ∈ kinds, Under kind bound) : Under (joinAll kinds) bound := by
  induction kinds with
  | nil => exact null_join bound
  | cons head rest induction =>
      exact join_under (each head List.mem_cons_self)
        (induction fun kind member => each kind (List.mem_cons_of_mem head member))

theorem joinAll_mono {left right : List Kind}
    (covered : ∀ kind ∈ left, kind = .null ∨ kind ∈ right) :
    Under (joinAll left) (joinAll right) := by
  apply joinAll_under
  intro kind member
  rcases covered kind member with rfl | shared
  · exact null_join _
  · exact under_joinAll shared

/-- Only the kinds that occur matter, and the null kind does not. -/
theorem joinAll_congr {left right : List Kind}
    (leftCovered : ∀ kind ∈ left, kind = .null ∨ kind ∈ right)
    (rightCovered : ∀ kind ∈ right, kind = .null ∨ kind ∈ left) :
    joinAll left = joinAll right :=
  (joinAll_mono leftCovered).antisymm (joinAll_mono rightCovered)

theorem joinAll_eq_list_iff {kinds : List Kind} : joinAll kinds = .list ↔ .list ∈ kinds := by
  induction kinds with
  | nil => decide
  | cons head rest induction =>
      rw [joinAll, join_eq_list_iff, induction, List.mem_cons, eq_comm]

theorem joinAll_eq_of_forall_eq {kinds : List Kind} {kind : Kind} (someKind : kinds ≠ [])
    (same : ∀ other ∈ kinds, other = kind) : joinAll kinds = kind := by
  obtain ⟨head, rest, rfl⟩ := List.exists_cons_of_ne_nil someKind
  have headSame : head = kind := same head List.mem_cons_self
  have below : Under (joinAll (head :: rest)) kind := by
    apply joinAll_under
    intro other member
    rw [same other member]
    exact join_self kind
  have above : Under kind (joinAll (head :: rest)) :=
    under_joinAll (headSame ▸ List.mem_cons_self)
  exact below.antisymm above

/-- A kind that shares the column of another as it is. -/
def Shares (kind column : Kind) : Prop :=
  common kind column = .ok column

theorem Shares.trans {first second third : Kind} (lower : Shares first second)
    (upper : Shares second third) : Shares first third := by
  unfold Shares at *
  cases first <;> cases second <;> cases third <;>
    first | rfl | (cases lower; done) | cases upper

theorem shares_of_common {left right kind : Kind} (shared : common left right = .ok kind) :
    Shares left kind ∧ Shares right kind := by
  unfold Shares
  cases left <;> cases right <;> first | (cases shared; exact ⟨rfl, rfl⟩) | cases shared

/-- The inferred kind is the join, and every cell shares it. -/
theorem commonFrom_ok {start kind : Kind} {cells : List Cell}
    (found : commonFrom start cells = .ok kind) :
    kind = join start (joinAll (cells.map Cell.kind)) ∧ Shares start kind ∧
      ∀ cell ∈ cells, Shares cell.kind kind := by
  induction cells generalizing start with
  | nil =>
      cases found
      refine ⟨?_, ?_, fun cell member => absurd member List.not_mem_nil⟩
      · rw [List.map_nil, joinAll, join_comm, null_join]
      · cases kind <;> rfl
  | cons cell cells induction =>
      simp only [commonFrom] at found
      cases met : common start cell.kind with
      | error error =>
          rw [met] at found
          cases found
      | ok next =>
          rw [met] at found
          obtain ⟨joined, nextShares, restShare⟩ := induction found
          obtain ⟨startShares, cellShares⟩ := shares_of_common met
          have nextJoin : next = join start cell.kind := by rw [join, met]
          refine ⟨?_, startShares.trans nextShares, ?_⟩
          · rw [joined, nextJoin, List.map_cons, joinAll, join_assoc]
          · intro other member
            rcases List.mem_cons.mp member with rfl | later
            · exact cellShares.trans nextShares
            · exact restShare other later

theorem text_join_of_ne_list {kind : Kind} (noList : kind ≠ .list) : join .text kind = .text := by
  cases kind <;> first | rfl | exact absurd rfl noList

theorem join_of_common_error {left right : Kind} {error : CellError}
    (failed : common left right = .error error) : join left right = .text := by
  rw [join, failed]

/-- Without lists the join is text where there is no common kind. -/
theorem commonFrom_error {start : Kind} {cells : List Cell} {error : CellError}
    (noList : joinAll (cells.map Cell.kind) ≠ .list)
    (failed : commonFrom start cells = .error error) :
    join start (joinAll (cells.map Cell.kind)) = .text := by
  induction cells generalizing start with
  | nil => cases failed
  | cons cell cells induction =>
      have restNoList : joinAll (cells.map Cell.kind) ≠ .list := by
        intro isList
        apply noList
        rw [List.map_cons, joinAll, join_eq_list_iff]
        exact Or.inr isList
      simp only [commonFrom] at failed
      rw [List.map_cons, joinAll, ← join_assoc]
      cases met : common start cell.kind with
      | error other =>
          rw [join_of_common_error met]
          exact text_join_of_ne_list restNoList
      | ok next =>
          rw [met] at failed
          have nextJoin : join start cell.kind = next := by rw [join, met]
          rw [nextJoin]
          exact induction restNoList failed

end Kind

namespace Column

/-- What becomes of a cell in a lossy column of a kind. -/
def coerce (kind : Kind) (cell : Cell) : Cell :=
  match kind with
  | .list => wrap cell
  | .text => asText cell
  | kind =>
      match fit kind cell with
      | .ok fitted => fitted
      | .error _ => cell

theorem fit_eq_coerce {kind : Kind} {cell : Cell} (noList : kind ≠ .list)
    (shares : Kind.Shares cell.kind kind) : fit kind cell = .ok (coerce kind cell) := by
  unfold Kind.Shares at shares
  cases cell <;> cases kind <;> first | rfl | (cases shares; done) | exact absurd rfl noList

theorem fitAll_eq_coerce {kind : Kind} {cells : List Cell} (noList : kind ≠ .list)
    (shares : ∀ cell ∈ cells, Kind.Shares cell.kind kind) :
    fitAll kind cells = .ok (cells.map (coerce kind)) := by
  induction cells with
  | nil => rfl
  | cons cell cells induction =>
      have headFits := fit_eq_coerce noList (shares cell List.mem_cons_self)
      have restFits := induction fun other member =>
        shares other (List.mem_cons_of_mem cell member)
      simp only [fitAll, headFits, restFits, List.map_cons]

/-- The kind of the lossy column of some cells. -/
def lossyKind (cells : List Cell) : Kind :=
  Kind.joinAll (cells.map Cell.kind)

/-- A lossy column coerces each cell to the join of the kinds that occur. -/
theorem lossy_eq (cells : List Cell) :
    lossy cells = ⟨lossyKind cells, cells.map (coerce (lossyKind cells))⟩ := by
  have listed : (cells.any fun cell => cell.kind == .list) = true ↔
      lossyKind cells = .list := by
    rw [lossyKind, Kind.joinAll_eq_list_iff]
    simp
  rw [lossy]
  by_cases hasList : (cells.any fun cell => cell.kind == .list) = true
  · rw [if_pos hasList, listed.mp hasList]
    rfl
  · have noList : lossyKind cells ≠ .list := fun isList => hasList (listed.mpr isList)
    rw [if_neg hasList]
    cases inferred : Kind.infer cells with
    | ok kind =>
        obtain ⟨joined, -, shares⟩ := Kind.commonFrom_ok inferred
        rw [Kind.null_join] at joined
        have fitted := fitAll_eq_coerce (joined ▸ noList) shares
        simp only [ofCells, inferred, ofKind, fitted, Except.map]
        rw [lossyKind, ← joined]
    | error error =>
        have texts := Kind.commonFrom_error noList inferred
        rw [Kind.null_join] at texts
        simp only [ofCells, inferred]
        rw [lossyKind, texts]
        rfl

theorem size_lossy (cells : List Cell) : (lossy cells).size = cells.length := by
  rw [lossy_eq, size, List.length_map]

theorem get?_lossy (cells : List Cell) (position : Nat) :
    (lossy cells).get? position = cells[position]?.map (coerce (lossyKind cells)) := by
  rw [lossy_eq, get?, List.getElem?_map]

/-- A cell of the kind of the column stays as it is. -/
theorem coerce_kind (cell : Cell) : coerce cell.kind cell = cell := by
  cases cell <;> rfl

theorem isMissing_coerce_null (kind : Kind) : (coerce kind .null).isMissing = true := by
  cases kind <;> rfl

/-- Cells of one kind stay as they are. -/
theorem cells_lossy_of_kind {cells : List Cell} {kind : Kind}
    (same : ∀ cell ∈ cells, cell.kind = kind) : (lossy cells).cells = cells := by
  rw [lossy_eq]
  by_cases empty : cells = []
  · rw [empty]
    rfl
  · have kinds : lossyKind cells = kind := by
      apply Kind.joinAll_eq_of_forall_eq (fun none => empty (List.map_eq_nil_iff.mp none))
      intro other member
      obtain ⟨cell, inCells, rfl⟩ := List.mem_map.mp member
      exact same cell inCells
    calc
      cells.map (coerce (lossyKind cells)) = cells.map id := by
        apply List.map_congr_left
        intro cell member
        rw [kinds, ← same cell member, coerce_kind]
        rfl
      _ = cells := List.map_id cells

theorem lossyKind_of_mem {cells : List Cell} {cell : Cell}
    (kinds : ∀ other ∈ cells, other.kind = .null ∨ other.kind = cell.kind)
    (member : cell ∈ cells) : lossyKind cells = cell.kind := by
  have joined : lossyKind cells = Kind.joinAll [cell.kind] := by
    apply Kind.joinAll_congr
    · rw [List.forall_mem_map]
      exact fun other inCells => (kinds other inCells).imp_right List.mem_singleton.mpr
    · rw [List.forall_mem_singleton]
      exact Or.inr (List.mem_map_of_mem member)
  rw [joined, Kind.joinAll, Kind.joinAll, Kind.join_comm, Kind.null_join]

/-- Among missing cells and cells of its kind a cell stays as it is. -/
theorem coerce_lossyKind {cells : List Cell} {cell : Cell}
    (kinds : ∀ other ∈ cells, other.kind = .null ∨ other.kind = cell.kind)
    (member : cell ∈ cells) : coerce (lossyKind cells) cell = cell := by
  rw [lossyKind_of_mem kinds member, coerce_kind]

theorem lossy_singleton (cell : Cell) : lossy [cell] = ⟨cell.kind, [cell]⟩ := by
  have kind : lossyKind [cell] = cell.kind := by
    rw [lossyKind, List.map_singleton, Kind.joinAll, Kind.joinAll, Kind.join_comm, Kind.null_join]
  rw [lossy_eq, kind, List.map_singleton, coerce_kind]

/-- Lists with the same cells, null apart, have lossy columns of one kind. -/
theorem lossyKind_congr {left right : List Cell}
    (leftCovered : ∀ cell ∈ left, cell = .null ∨ cell ∈ right)
    (rightCovered : ∀ cell ∈ right, cell = .null ∨ cell ∈ left) :
    lossyKind left = lossyKind right := by
  have kinds : ∀ {left right : List Cell}, (∀ cell ∈ left, cell = .null ∨ cell ∈ right) →
      ∀ kind ∈ left.map Cell.kind, kind = .null ∨ kind ∈ right.map Cell.kind := by
    intro left right covered kind member
    obtain ⟨cell, inLeft, rfl⟩ := List.mem_map.mp member
    rcases covered cell inLeft with rfl | shared
    · exact Or.inl rfl
    · exact Or.inr (List.mem_map_of_mem shared)
  exact Kind.joinAll_congr (kinds leftCovered) (kinds rightCovered)

end Column

end LogPipe
