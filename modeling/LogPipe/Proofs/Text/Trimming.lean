import LogPipe.Text.Blank

/-!
# Laws of trimming

Trimming cuts a text into blanks, a core and blanks.  The core starts and ends
with characters that are not blank, and it is the only such part of the text,
so blanks that are added at either end of a text change nothing.
-/

namespace LogPipe.Text

/-- A run of blanks, which may be empty. -/
def BlankRun (gap : List Char) : Prop :=
  ∀ c ∈ gap, isBlank c = true

theorem blankRun_nil : BlankRun [] :=
  fun _ member => absurd member List.not_mem_nil

theorem BlankRun.append {left right : List Char}
    (leftBlank : BlankRun left) (rightBlank : BlankRun right) :
    BlankRun (left ++ right) := by
  intro c member
  rcases List.mem_append.mp member with inLeft | inRight
  · exact leftBlank c inLeft
  · exact rightBlank c inRight

theorem blankRun_space : BlankRun [' '] := by
  intro c member
  rw [List.mem_singleton.mp member]
  decide

theorem blankRun_takeWhile (text : List Char) :
    BlankRun (text.takeWhile isBlank) := by
  intro c member
  exact List.all_eq_true.mp List.all_takeWhile c member

/-- A text that has no blank at either end. -/
structure Tight (text : List Char) : Prop where
  first : ∀ c, text.head? = some c → isBlank c = false
  last : ∀ c, text.getLast? = some c → isBlank c = false

theorem tight_of_solid {text : List Char} (solid : ∀ c ∈ text, isBlank c = false) : Tight text :=
  ⟨fun c isFirst => solid c (List.mem_of_mem_head? isFirst),
    fun c isLast => solid c (List.mem_of_mem_getLast? isLast)⟩

/-- Two tight texts stay tight when anything is put between them. -/
theorem Tight.append {left right : List Char} (leftTight : Tight left)
    (rightTight : Tight right) (leftSome : left ≠ []) (rightSome : right ≠ [])
    (middle : List Char) : Tight (left ++ middle ++ right) := by
  constructor
  · intro c isFirst
    cases left with
    | nil => exact absurd rfl leftSome
    | cons head tail => exact leftTight.first c (by simpa using isFirst)
  · intro c isLast
    cases isRightLast : right.getLast? with
    | none => exact absurd (List.getLast?_eq_none_iff.mp isRightLast) rightSome
    | some last =>
        rw [List.getLast?_append, isRightLast, Option.some_or] at isLast
        exact rightTight.last c (isRightLast.trans isLast)

theorem trimLeft_eq_self {text : List Char}
    (first : ∀ c, text.head? = some c → isBlank c = false) : trimLeft text = text := by
  cases text with
  | nil => rfl
  | cons c rest =>
      have solid : ¬isBlank c = true := by simp [first c rfl]
      exact List.dropWhile_cons_of_neg solid

theorem trimLeft_first (text : List Char) (c : Char)
    (isFirst : (trimLeft text).head? = some c) : isBlank c = false := by
  have stopped := List.head?_dropWhile_not isBlank text
  rw [show (text.dropWhile isBlank).head? = some c from isFirst] at stopped
  exact stopped

theorem trimLeft_blank_append {gap : List Char} (blank : BlankRun gap) (text : List Char) :
    trimLeft (gap ++ text) = trimLeft text :=
  List.dropWhile_append_of_pos blank

theorem trimRight_eq_reverse (text : List Char) :
    trimRight text = (trimLeft text.reverse).reverse :=
  rfl

theorem trimRight_append_blank {gap : List Char} (blank : BlankRun gap) (text : List Char) :
    trimRight (text ++ gap) = trimRight text := by
  have reversedBlank : BlankRun gap.reverse :=
    fun c member => blank c (List.mem_reverse.mp member)
  rw [trimRight_eq_reverse, List.reverse_append,
    trimLeft_blank_append reversedBlank, ← trimRight_eq_reverse]

theorem trimRight_eq_self {text : List Char}
    (last : ∀ c, text.getLast? = some c → isBlank c = false) : trimRight text = text := by
  have reversedFirst : ∀ c, text.reverse.head? = some c → isBlank c = false :=
    fun c isFirst => last c (by simpa using isFirst)
  rw [trimRight_eq_reverse, trimLeft_eq_self reversedFirst, List.reverse_reverse]

theorem exists_trimLeft_append (text : List Char) :
    ∃ gap, BlankRun gap ∧ text = gap ++ trimLeft text :=
  ⟨text.takeWhile isBlank, blankRun_takeWhile text,
    List.takeWhile_append_dropWhile.symm⟩

theorem exists_trimRight_append (text : List Char) :
    ∃ gap, BlankRun gap ∧ text = trimRight text ++ gap := by
  obtain ⟨gap, blank, cut⟩ := exists_trimLeft_append text.reverse
  refine ⟨gap.reverse, fun c member => blank c (List.mem_reverse.mp member), ?_⟩
  have turned := congrArg List.reverse cut
  rwa [List.reverse_reverse, List.reverse_append] at turned

/-- A text that starts with no blank keeps its start. -/
theorem head?_trim {c : Char} (solid : isBlank c = false) (rest : List Char) :
    (trim (c :: rest)).head? = some c := by
  have front : trimLeft (c :: rest) = c :: rest := by
    apply trimLeft_eq_self
    rintro other ⟨⟩
    exact solid
  obtain ⟨gap, blank, cut⟩ := exists_trimRight_append (c :: rest)
  rw [trim, front]
  cases kept : trimRight (c :: rest) with
  | nil =>
      rw [kept, List.nil_append] at cut
      have isBlank := blank c (cut ▸ List.mem_cons_self)
      rw [solid] at isBlank
      cases isBlank
  | cons first later =>
      rw [kept, List.cons_append] at cut
      rw [(List.cons.inj cut).1]
      rfl

/-- A text that does not end with a blank is trimmed at its start only. -/
theorem trim_eq_trimLeft {text : List Char}
    (last : ∀ c, text.getLast? = some c → isBlank c = false) : trim text = trimLeft text := by
  apply trimRight_eq_self
  intro c isLast
  obtain ⟨gap, -, cut⟩ := exists_trimLeft_append text
  apply last
  rw [cut, List.getLast?_append, isLast, Option.some_or]

/-- Every text is its trimmed form between two runs of blanks. -/
theorem exists_blanks_around_trim (text : List Char) :
    ∃ before after, BlankRun before ∧ BlankRun after ∧
      text = before ++ trim text ++ after := by
  obtain ⟨before, beforeBlank, leftCut⟩ := exists_trimLeft_append text
  obtain ⟨after, afterBlank, rightCut⟩ := exists_trimRight_append (trimLeft text)
  refine ⟨before, after, beforeBlank, afterBlank, ?_⟩
  calc
    text = before ++ trimLeft text := leftCut
    _ = before ++ (trim text ++ after) := congrArg (before ++ ·) rightCut
    _ = before ++ trim text ++ after := (List.append_assoc _ _ _).symm

/-- Only blanks are trimmed to nothing. -/
theorem blankRun_of_trim_eq_nil {text : List Char} (nothing : trim text = []) :
    BlankRun text := by
  obtain ⟨before, after, beforeBlank, afterBlank, split⟩ := exists_blanks_around_trim text
  rw [nothing, List.append_nil] at split
  exact split ▸ beforeBlank.append afterBlank

theorem tight_trim (text : List Char) : Tight (trim text) := by
  constructor
  · intro c isFirst
    obtain ⟨gap, -, cut⟩ := exists_trimRight_append (trimLeft text)
    apply trimLeft_first text c
    rw [cut, List.head?_append]
    change ((trim text).head?.or gap.head?) = some c
    rw [isFirst, Option.some_or]
  · intro c isLast
    apply trimLeft_first (trimLeft text).reverse c
    rwa [trim, trimRight_eq_reverse, List.getLast?_reverse] at isLast

/-- A tight text is the trimmed form of itself with any blanks around it. -/
theorem trim_of_tight {before core after : List Char} (tight : Tight core)
    (beforeBlank : BlankRun before) (afterBlank : BlankRun after) :
    trim (before ++ core ++ after) = core := by
  rw [trim, List.append_assoc, trimLeft_blank_append beforeBlank]
  cases core with
  | nil =>
      have nothingLeft := trimLeft_blank_append afterBlank []
      rw [List.append_nil] at nothingLeft
      rw [List.nil_append, nothingLeft]
      rfl
  | cons c rest =>
      have leftTight : trimLeft (c :: rest ++ after) = c :: rest ++ after :=
        trimLeft_eq_self fun first isFirst => tight.first first isFirst
      rw [leftTight, trimRight_append_blank afterBlank]
      exact trimRight_eq_self tight.last

theorem trim_eq_self {text : List Char} (tight : Tight text) : trim text = text := by
  have trimmed := trim_of_tight tight blankRun_nil blankRun_nil
  rwa [List.nil_append, List.append_nil] at trimmed

theorem trim_blank_append {gap : List Char} (blank : BlankRun gap) (text : List Char) :
    trim (gap ++ text) = trim text :=
  congrArg trimRight (trimLeft_blank_append blank text)

/-- More text behind a text that is not blank leaves it so. -/
theorem trim_append_ne_nil {text : List Char} (someText : trim text ≠ []) (after : List Char) :
    trim (text ++ after) ≠ [] := by
  intro nothing
  have blank : BlankRun text := fun c member =>
    blankRun_of_trim_eq_nil nothing c (List.mem_append_left after member)
  have trimmed := trim_blank_append blank []
  rw [List.append_nil] at trimmed
  exact someText trimmed

theorem trim_append_blank {gap : List Char} (blank : BlankRun gap) (text : List Char) :
    trim (text ++ gap) = trim text := by
  obtain ⟨before, after, beforeBlank, afterBlank, cut⟩ := exists_blanks_around_trim text
  calc
    trim (text ++ gap) = trim (before ++ trim text ++ (after ++ gap)) := by
      rw [← List.append_assoc, ← cut]
    _ = trim text :=
      trim_of_tight (tight_trim text) beforeBlank (afterBlank.append blank)

/-- Trimming takes only blanks away. -/
theorem filter_trim (text : List Char) :
    (trim text).filter (fun c => !isBlank c) = text.filter (fun c => !isBlank c) := by
  have nothing {gap : List Char} (blank : BlankRun gap) :
      gap.filter (fun c => !isBlank c) = [] :=
    List.filter_eq_nil_iff.mpr fun c member => by simp [blank c member]
  obtain ⟨before, after, beforeBlank, afterBlank, cut⟩ := exists_blanks_around_trim text
  conv => rhs; rw [cut]
  rw [List.filter_append, List.filter_append, nothing beforeBlank, nothing afterBlank,
    List.nil_append, List.append_nil]

/-- A text that looks the same once more text is put behind it is followed by a blank. -/
theorem isBlank_of_trim_append {front back : List Char} {c : Char}
    (same : trim (front ++ c :: back) = trim front) : isBlank c = true := by
  have kept := congrArg (List.filter fun c => !isBlank c) same
  rw [filter_trim, filter_trim, List.filter_append, List.append_right_eq_self,
    List.filter_eq_nil_iff] at kept
  simpa using kept c List.mem_cons_self

end LogPipe.Text
