import LogPipe.Proofs.Json.Text

/-!
# Written values are read back

A value without floats is read back from its text, as long as its integers have 64 bits and no
object has a name twice.  Only the nesting decides whether it is read at all: a value that is
nested too deep is refused, and no other value is read in its place.
-/

namespace LogPipe.Json

open LogPipe.Decimal

mutual

/-- The number of containers around the innermost value. -/
def depth : Json → Nat
  | .array items => itemsDepth items + 1
  | .object members => membersDepth members + 1
  | _ => 0

/-- The depth of the deepest item. -/
def itemsDepth : List Json → Nat
  | [] => 0
  | item :: items => max item.depth (itemsDepth items)

/-- The depth of the deepest member. -/
def membersDepth : List (String × Json) → Nat
  | [] => 0
  | (_, value) :: members => max value.depth (membersDepth members)

end

/-! ## Reading -/

variable {value : Json} {text rest : List Char} {depth fuel : Nat}

theorem skipBlanks_of_visible {c : Char} (visible : isBlank c = false) (text : List Char) :
    skipBlanks (c :: text) = c :: text :=
  List.dropWhile_cons_of_neg (ne_true_of_eq_false visible)

/-- The value is read from the front of a text, unless it is nested too deep. -/
def ReadsBack (value : Json) : Prop :=
  ∀ depth rest fuel, Closes rest → 2 * value.write.toList.length ≤ fuel →
    readValue? depth (value.write.toList ++ rest) fuel =
      if value.depth ≤ depth then some (value, rest) else none

/-- A value is read back when it is in one step of the reader. -/
theorem readsBack_of_step {c : Char} (chars : value.write.toList = c :: text)
    (step : ∀ depth rest fuel, Closes rest → 2 * text.length + 1 ≤ fuel →
      readValue? depth (c :: (text ++ rest)) (fuel + 1) =
        if value.depth ≤ depth then some (value, rest) else none) :
    ReadsBack value := by
  intro depth rest fuel closes enough
  rw [chars] at enough ⊢
  rw [List.length_cons] at enough
  obtain ⟨fuel, rfl⟩ : ∃ before, fuel = before + 1 := ⟨fuel - 1, by omega⟩
  exact step depth rest fuel closes (by omega)

/-- A value without containers is read at any depth. -/
theorem readsBack_of_flat {c : Char} (flat : value.depth = 0)
    (chars : value.write.toList = c :: text)
    (step : ∀ depth rest fuel, Closes rest →
      readValue? depth (c :: (text ++ rest)) (fuel + 1) = some (value, rest)) :
    ReadsBack value := by
  refine readsBack_of_step chars fun depth rest fuel closes _ => ?_
  rw [step depth rest fuel closes, flat, if_pos (Nat.zero_le depth)]

theorem readsBack_null : ReadsBack .null := by
  have chars : (write .null).toList = 'n' :: ['u', 'l', 'l'] := rfl
  exact readsBack_of_flat rfl chars fun _ _ _ _ => rfl

theorem readsBack_bool (value : Bool) : ReadsBack (.bool value) := by
  cases value with
  | true =>
      have chars : (write (.bool true)).toList = 't' :: ['r', 'u', 'e'] := rfl
      exact readsBack_of_flat rfl chars fun _ _ _ _ => rfl
  | false =>
      have chars : (write (.bool false)).toList = 'f' :: ['a', 'l', 's', 'e'] := rfl
      exact readsBack_of_flat rfl chars fun _ _ _ _ => rfl

theorem readValue?_quote :
    readValue? depth ('"' :: text) (fuel + 1) =
      (readString? text).map fun (cs, rest) => (.string (String.ofList cs), rest) :=
  rfl

theorem readsBack_string (value : String) : ReadsBack (.string value) := by
  refine readsBack_of_flat rfl (toList_write_string value) fun depth rest fuel _ => ?_
  rw [readValue?_quote, List.append_assoc, List.singleton_append, readString?_flatMap,
    Option.map_some]
  simp only [String.ofList_toList]

theorem readValue?_minus :
    readValue? depth ('-' :: text) (fuel + 1) = readNumber? true text :=
  rfl

theorem readValue?_of_isDigit {c : Char} (digit : isDigit c = true) :
    readValue? depth (c :: text) (fuel + 1) = readNumber? false (c :: text) := by
  rw [readValue?, skipBlanks_of_visible (isBlank_of_isDigit digit)]
  split <;> first
    | contradiction
    | rfl
    | next same => exact absurd ((List.cons.inj same).1 ▸ digit) (by decide)

theorem readsBack_int {value : Int} (low : -(twoTo 63 : Int) ≤ value)
    (high : value < twoTo 64) : ReadsBack (.int value) := by
  rw [show twoTo 63 = 9223372036854775808 from rfl] at low
  have fits : value.natAbs < twoTo 64 := by
    rw [show twoTo 64 = 18446744073709551616 from rfl] at high ⊢
    omega
  have written := toList_write_int value
  by_cases negative : value < 0
  · rw [if_pos negative] at written
    refine readsBack_of_flat rfl written fun depth rest fuel closes => ?_
    have notZero : (value.natAbs == 0) = false := beq_eq_false_iff_ne.mpr (by omega)
    have inRange : decide (twoTo 63 < value.natAbs) = false := by
      rw [show twoTo 63 = 9223372036854775808 from rfl, decide_eq_false_iff_not]
      omega
    have restored : -(value.natAbs : Int) = value := by omega
    rw [readValue?_minus, readNumber?_toDigits fits closes, readNumberTail?_closes closes, notZero,
      inRange, restored]
    rfl
  · rw [if_neg negative] at written
    cases digits : Nat.toDigits 10 value.natAbs with
    | nil => exact absurd digits (toDigits_ne_nil _)
    | cons c others =>
        have digit : isDigit c = true :=
          isDigit_of_mem_toDigits (digits ▸ List.mem_cons_self)
        rw [digits] at written
        refine readsBack_of_flat rfl written fun depth rest fuel closes => ?_
        have restored : (value.natAbs : Int) = value := by omega
        rw [readValue?_of_isDigit digit, ← List.cons_append, ← digits,
          readNumber?_toDigits fits closes, readNumberTail?_closes closes, restored]
        rfl

/-! ## Containers -/

section Items

variable {item : Json} {items : List Json}

theorem readItems?_stop (stopped : readValue? depth text fuel = none) :
    readItems? depth text (fuel + 1) = none := by
  rw [readItems?, stopped]

theorem readItems?_last (read : readValue? depth text fuel = some (item, ']' :: rest)) :
    readItems? depth text (fuel + 1) = some ([item], rest) := by
  rw [readItems?, read]
  rfl

theorem readItems?_next (read : readValue? depth text fuel = some (item, ',' :: rest)) :
    readItems? depth text (fuel + 1) =
      (readItems? depth rest fuel).map fun (items, rest) => (item :: items, rest) := by
  rw [readItems?, read]
  rfl

/-- The items of an array are read up to its bracket when each of them is read back. -/
theorem readItems?_itemsText (each : ∀ other ∈ item :: items, ReadsBack other)
    (enough : 2 * (itemsText (item :: items)).length + 1 ≤ fuel) :
    readItems? depth (itemsText (item :: items) ++ ']' :: rest) fuel =
      if itemsDepth (item :: items) ≤ depth then some (item :: items, rest) else none := by
  -- Every item takes one step of its own, so the fuel goes down with the list.
  obtain ⟨fuel, rfl⟩ : ∃ before, fuel = before + 1 := ⟨fuel - 1, by omega⟩
  induction items generalizing item fuel with
  | nil =>
      have text : itemsText [item] = item.write.toList := List.intercalate_singleton
      rw [text] at enough ⊢
      have first := each item List.mem_cons_self depth _ fuel (closes_bracket rest) (by omega)
      rw [itemsDepth, itemsDepth, Nat.max_zero]
      split at first
      · next fits => rw [readItems?_last first, if_pos fits]
      · next deep => rw [readItems?_stop first, if_neg deep]
  | cons next items induction =>
      rw [itemsText_cons_cons] at enough ⊢
      rw [List.length_append, List.length_cons] at enough
      rw [List.append_assoc, List.cons_append]
      have comma := closes_comma (itemsText (next :: items) ++ ']' :: rest)
      have first := each item List.mem_cons_self depth _ fuel comma (by omega)
      obtain ⟨shorter, rfl⟩ : ∃ before, fuel = before + 1 := ⟨fuel - 1, by omega⟩
      have later := induction (fun other member => each other (List.mem_cons_of_mem _ member))
        shorter (by omega)
      rw [itemsDepth]
      simp only [Nat.max_le]
      split at first
      · next fits =>
          rw [readItems?_next first, later]
          simp only [fits, true_and]
          split
          · rfl
          · rfl
      · next deep => rw [readItems?_stop first, if_neg (mt And.left deep)]

end Items

section Members

variable {name : String} {member : String × Json} {members : List (String × Json)}

theorem skipBlanks_quote (text : List Char) : skipBlanks ('"' :: text) = '"' :: text :=
  skipBlanks_of_visible (by decide) text

theorem skipBlanks_colon (text : List Char) : skipBlanks (':' :: text) = ':' :: text :=
  skipBlanks_of_visible (by decide) text

/-- Behind the name of a member its value decides how the members go on. -/
theorem readMembers?_named (name : String) (text : List Char) :
    readMembers? depth ((writeString name).toList ++ ':' :: text) (fuel + 1) =
      (readValue? depth text fuel).bind fun (value, rest) =>
        match skipBlanks rest with
        | ',' :: rest =>
            (readMembers? depth rest fuel).map fun (members, rest) =>
              ((name, value) :: members, rest)
        | '\x7d' :: rest => some ([(name, value)], rest)
        | _ => none := by
  rw [toList_writeString, List.append_assoc, List.cons_append, List.singleton_append, readMembers?]
  simp only [skipBlanks_quote, readString?_flatMap, skipBlanks_colon, String.ofList_toList]
  cases readValue? depth text fuel with
  | none => rfl
  | some read => rfl

theorem readMembers?_stop (stopped : readValue? depth text fuel = none) :
    readMembers? depth ((writeString name).toList ++ ':' :: text) (fuel + 1) = none := by
  rw [readMembers?_named, stopped]
  rfl

theorem readMembers?_last
    (read : readValue? depth text fuel = some (member.2, '\x7d' :: rest)) :
    readMembers? depth ((writeString member.1).toList ++ ':' :: text) (fuel + 1) =
      some ([member], rest) := by
  rw [readMembers?_named, read]
  rfl

theorem readMembers?_next (read : readValue? depth text fuel = some (member.2, ',' :: rest)) :
    readMembers? depth ((writeString member.1).toList ++ ':' :: text) (fuel + 1) =
      (readMembers? depth rest fuel).map fun (members, rest) => (member :: members, rest) := by
  rw [readMembers?_named, read]
  rfl

theorem length_memberText (member : String × Json) :
    member.2.write.toList.length < (memberText member).length := by
  rw [memberText, List.length_append, List.length_cons]
  omega

/-- The members of an object are read up to its brace when the values of all are read back. -/
theorem readMembers?_membersText (each : ∀ other ∈ member :: members, ReadsBack other.2)
    (enough : 2 * (membersText (member :: members)).length + 1 ≤ fuel) :
    readMembers? depth (membersText (member :: members) ++ '\x7d' :: rest) fuel =
      if membersDepth (member :: members) ≤ depth then some (member :: members, rest)
      else none := by
  obtain ⟨fuel, rfl⟩ : ∃ before, fuel = before + 1 := ⟨fuel - 1, by omega⟩
  have long := length_memberText member
  induction members generalizing member fuel with
  | nil =>
      have text : membersText [member] = memberText member := List.intercalate_singleton
      rw [text] at enough ⊢
      rw [memberText, List.append_assoc, List.cons_append]
      have first := each member List.mem_cons_self depth _ fuel (closes_brace rest) (by omega)
      rw [membersDepth, membersDepth, Nat.max_zero]
      split at first
      · next fits => rw [readMembers?_last first, if_pos fits]
      · next deep => rw [readMembers?_stop first, if_neg deep]
  | cons next members induction =>
      rw [membersText_cons_cons] at enough ⊢
      rw [List.length_append, List.length_cons] at enough
      rw [memberText, List.append_assoc, List.append_assoc, List.cons_append, List.cons_append]
      have comma := closes_comma (membersText (next :: members) ++ '\x7d' :: rest)
      have first := each member List.mem_cons_self depth _ fuel comma (by omega)
      obtain ⟨shorter, rfl⟩ : ∃ before, fuel = before + 1 := ⟨fuel - 1, by omega⟩
      have later := induction (fun other member => each other (List.mem_cons_of_mem _ member))
        shorter (by omega) (length_memberText next)
      rw [membersDepth]
      simp only [Nat.max_le]
      split at first
      · next fits =>
          rw [readMembers?_next first, later]
          simp only [fits, true_and]
          split
          · rfl
          · rfl
      · next deep => rw [readMembers?_stop first, if_neg (mt And.left deep)]

end Members

theorem readValue?_bracket (begins : Begins text) :
    readValue? (depth + 1) ('[' :: text) (fuel + 1) =
      (readItems? depth text fuel).map fun (items, rest) => (.array items, rest) := by
  obtain ⟨c, others, rfl, visible, noBracket⟩ := begins
  have bracket : isBlank '[' = false := by decide
  rw [readValue?, skipBlanks_of_visible bracket]
  simp only [skipBlanks_of_visible visible]
  split
  · next same => exact absurd (List.cons.inj same).1 noBracket
  · rfl

theorem readValue?_brace :
    readValue? (depth + 1) ('\x7b' :: '"' :: text) (fuel + 1) =
      (readMembers? depth ('"' :: text) fuel).map fun (members, rest) =>
        (.object members, rest) :=
  rfl

theorem readsBack_array {items : List Json} (each : ∀ item ∈ items, ReadsBack item)
    (begins : ∀ item ∈ items, Begins item.write.toList) : ReadsBack (.array items) := by
  refine readsBack_of_step (toList_write_array items) fun depth rest fuel closes enough => ?_
  rw [List.append_assoc, List.singleton_append]
  rw [List.length_append, List.length_singleton] at enough
  cases depth with
  | zero => rfl
  | succ depth =>
      simp only [Json.depth, Nat.add_le_add_iff_right]
      cases items with
      | nil =>
          rw [itemsDepth, if_pos (Nat.zero_le depth)]
          rfl
      | cons item items =>
          have first := begins_itemsText (begins item List.mem_cons_self) items
          rw [readValue?_bracket (first.append _), readItems?_itemsText each (by omega)]
          split
          · rfl
          · rfl

theorem readsBack_object {members : List (String × Json)}
    (each : ∀ member ∈ members, ReadsBack member.2) : ReadsBack (.object members) := by
  refine readsBack_of_step (toList_write_object members) fun depth rest fuel closes enough => ?_
  rw [List.append_assoc, List.singleton_append]
  rw [List.length_append, List.length_singleton] at enough
  cases depth with
  | zero => rfl
  | succ depth =>
      simp only [Json.depth, Nat.add_le_add_iff_right]
      cases members with
      | nil =>
          rw [membersDepth, if_pos (Nat.zero_le depth)]
          rfl
      | cons member members =>
          obtain ⟨text, quote⟩ := exists_membersText member members
          have read := @readMembers?_membersText rest depth fuel member members each (by omega)
          rw [quote, List.cons_append] at read ⊢
          rw [readValue?_brace, read]
          split
          · rfl
          · rfl

/-- Every exact value is read back, by induction on its parts.  An array needs the first
characters of its items too, which must not look like its own end. -/
theorem readsBack (exact : Exact value) : ReadsBack value := by
  induction exact with
  | null => exact readsBack_null
  | bool value => exact readsBack_bool value
  | int low high => exact readsBack_int low high
  | string value => exact readsBack_string value
  | array each induction =>
      exact readsBack_array induction fun item member => begins_write (each item member)
  | object distinct each induction => exact readsBack_object induction

/-! ## Repeated names -/

theorem mergedItems_eq (items : List Json) : mergedItems items = items.map merged := by
  induction items with
  | nil => rw [mergedItems, List.map_nil]
  | cons item items induction => rw [mergedItems, induction, List.map_cons]

theorem mergedMembers_eq (members : List (String × Json)) :
    mergedMembers members = members.map fun member => (member.1, member.2.merged) := by
  induction members with
  | nil => rw [mergedMembers, List.map_nil]
  | cons member members induction => rw [mergedMembers, induction, List.map_cons]

theorem insertMember_of_not_mem {members : List (String × Json)} {name : String}
    (fresh : name ∉ members.map Prod.fst) (value : Json) :
    insertMember members name value = members ++ [(name, value)] := by
  have absent : (members.any fun entry => entry.1 == name) = false := by
    rw [List.any_eq_false]
    intro entry member same
    exact fresh (List.mem_map.mpr ⟨entry, member, beq_iff_eq.mp same⟩)
  rw [insertMember, absent, if_neg Bool.false_ne_true]

/-- Members of distinct names stay as they are. -/
theorem mergeMembers_of_nodup {members : List (String × Json)}
    (distinct : (members.map Prod.fst).Nodup) : mergeMembers members = members := by
  have onto (before : List (String × Json)) (apart : ((before ++ members).map Prod.fst).Nodup) :
      members.foldl (fun merged entry => insertMember merged entry.1 entry.2) before =
        before ++ members := by
    clear distinct
    induction members generalizing before with
    | nil => exact (List.append_nil before).symm
    | cons member members induction =>
        have fresh : member.1 ∉ before.map Prod.fst := by
          rw [List.map_append, List.map_cons, List.nodup_append] at apart
          exact fun known => apart.2.2 member.1 known member.1 List.mem_cons_self rfl
        rw [List.append_cons] at apart
        rw [List.foldl_cons, insertMember_of_not_mem fresh, induction _ apart, List.append_assoc]
        rfl
  exact onto [] distinct

theorem merged_of_exact (exact : Exact value) : value.merged = value := by
  induction exact with
  | array each induction =>
      rw [merged, mergedItems_eq, List.map_congr_left induction]
      exact congrArg Json.array (List.map_id _)
  | @object members distinct each induction =>
      have kept : members.map (fun member => (member.1, member.2.merged)) = members.map id :=
        List.map_congr_left fun member inside =>
          congrArg (Prod.mk member.1) (induction member inside)
      rw [merged, mergedMembers_eq, kept, List.map_id, mergeMembers_of_nodup distinct]
  | _ => rfl

/-- A whole text is read as the value that it was written from.  A value that is nested too
deep is refused. -/
theorem read?_write (exact : Exact value) :
    read? value.write = if value.depth ≤ maxDepth then some value else none := by
  have read := readsBack exact maxDepth [] (stepsFor value.write.toList) closes_nil (by
    rw [stepsFor]
    omega)
  rw [List.append_nil] at read
  rw [read?, readRaw?]
  by_cases fits : value.depth ≤ maxDepth
  · rw [if_pos fits] at read ⊢
    simp only [read]
    exact congrArg some (merged_of_exact exact)
  · rw [if_neg fits] at read ⊢
    simp only [read]
    rfl

end LogPipe.Json
