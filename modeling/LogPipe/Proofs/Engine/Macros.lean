import LogPipe.Engine.Macro
import LogPipe.Proofs.Table.WellFormed
import Mathlib.Data.List.Basic

/-!
# Arguments of macros

The arguments of a macro are filled in one after the other, each into the text that the ones
before it have left.  A value is searched for the placeholders of the arguments that follow, and
together with the text around it it may complete one.  Where that never happens, every
order of the arguments gives the template with each placeholder replaced by its value.
-/

namespace LogPipe.Text

section Replacing

variable {pattern kept rest : List Char} (replacement : List Char)

theorem replaceFrom_length (kept rest : List Char) :
    replaceFrom pattern replacement kept.length (kept ++ rest) =
      replaceFrom pattern replacement 0 rest := by
  induction kept with
  | nil => rfl
  | cons c kept induction => simpa [replaceFrom] using induction

/-- An occurrence is replaced, and the search goes on behind it. -/
theorem replaceFrom_append (first : Char) (pattern rest : List Char) :
    replaceFrom (first :: pattern) replacement 0 (first :: pattern ++ rest) =
      replacement ++ replaceFrom (first :: pattern) replacement 0 rest := by
  have found : (first :: pattern).isPrefixOf (first :: pattern ++ rest) = true :=
    List.isPrefixOf_iff_prefix.mpr (List.prefix_append _ _)
  rw [List.cons_append] at found ⊢
  simp only [replaceFrom, found, if_true, List.length_cons, Nat.add_sub_cancel,
    replaceFrom_length]

/-- What stands in front of all occurrences is kept. -/
theorem replaceFrom_of_late
    (late : ∀ before after, kept ++ rest = before ++ pattern ++ after →
      kept.length ≤ before.length) :
    replaceFrom pattern replacement 0 (kept ++ rest) =
      kept ++ replaceFrom pattern replacement 0 rest := by
  induction kept with
  | nil => rfl
  | cons c kept induction =>
      have notHere : pattern.isPrefixOf (c :: (kept ++ rest)) = false := by
        rw [Bool.eq_false_iff, ne_eq, List.isPrefixOf_iff_prefix]
        rintro ⟨after, same⟩
        exact Nat.not_succ_le_zero _ (late [] after same.symm)
      have later : replaceFrom pattern replacement 0 (kept ++ rest) =
          kept ++ replaceFrom pattern replacement 0 rest := by
        refine induction fun before after same => ?_
        exact Nat.le_of_succ_le_succ (late (c :: before) after (congrArg (c :: ·) same))
      rw [List.cons_append, replaceFrom]
      simp only [notHere, Bool.false_eq_true, if_false, later, List.cons_append]

end Replacing

end LogPipe.Text

namespace LogPipe.Macros

open LogPipe.Text

/-- The text that stands for an argument in a template. -/
def placeholder (key : String) : List Char :=
  '$' :: (key.toList ++ ['$'])

/-- A part of a template: a text that stays as it is, or the placeholder of a key. -/
inductive Part where
  | text (chars : List Char)
  | hole (key : String)

/-- A part when the values of some keys have been filled in. -/
def Part.render (filled : List (String × String)) : Part → List Char
  | .text chars => chars
  | .hole key =>
      match filled.lookup key with
      | some value => value.toList
      | none => placeholder key

/-- Parts when the values of some keys have been filled in. -/
def render (filled : List (String × String)) (parts : List Part) : List Char :=
  parts.flatMap (Part.render filled)

section Filling

variable {filled : List (String × String)} {parts front back : List Part} {part : Part}
  {key : String}

@[simp] theorem render_nil : render filled [] = [] :=
  rfl

@[simp] theorem render_cons :
    render filled (part :: parts) = part.render filled ++ render filled parts :=
  List.flatMap_cons

@[simp] theorem render_append :
    render filled (front ++ back) = render filled front ++ render filled back :=
  List.flatMap_append

/-- The placeholder of a key stands in the rendered parts only where they have it. -/
def OnlyHoles (filled : List (String × String)) (parts : List Part) (key : String) : Prop :=
  ∀ before after, render filled parts = before ++ placeholder key ++ after →
    ∃ front back, parts = front ++ .hole key :: back ∧ render filled front = before

theorem render_hole (unfilled : filled.lookup key = none) :
    (Part.hole key).render filled = placeholder key := by
  simp only [Part.render, unfilled]

theorem render_concat_of_ne (different : part ≠ .hole key) (value : String) :
    part.render (filled ++ [(key, value)]) = part.render filled := by
  cases part with
  | text chars => rfl
  | hole other =>
      have otherKey : (other == key) = false := by
        rw [beq_eq_false_iff_ne]
        rintro rfl
        exact different rfl
      simp only [Part.render, List.lookup_append, List.lookup_cons, otherKey, List.lookup_nil,
        Option.or_none]

theorem render_concat_hole (unfilled : filled.lookup key = none) (value : String) :
    (Part.hole key).render (filled ++ [(key, value)]) = value.toList := by
  simp only [Part.render, List.lookup_append, unfilled, List.lookup_cons_self, Option.none_or]

theorem OnlyHoles.tail (only : OnlyHoles filled (part :: parts) key)
    (unfilled : filled.lookup key = none) : OnlyHoles filled parts key := by
  intro before after same
  obtain ⟨front, back, split, rendered⟩ := only (part.render filled ++ before) after (by
    rw [render_cons, same, List.append_assoc, List.append_assoc, List.append_assoc])
  cases front with
  | nil =>
      obtain ⟨rfl, -⟩ := List.cons.inj split
      have nothing : (Part.hole key).render filled = [] :=
        (List.append_eq_nil_iff.mp rendered.symm).1
      rw [render_hole unfilled] at nothing
      cases nothing
  | cons first front =>
      obtain ⟨rfl, rfl⟩ := List.cons.inj split
      exact ⟨front, back, rfl, List.append_cancel_left rendered⟩

/-- No occurrence begins in a part that is not one of the holes. -/
theorem OnlyHoles.late (only : OnlyHoles filled (part :: parts) key)
    (different : part ≠ .hole key) {before after : List Char}
    (same : part.render filled ++ render filled parts = before ++ placeholder key ++ after) :
    (part.render filled).length ≤ before.length := by
  obtain ⟨front, back, split, rendered⟩ := only before after same
  cases front with
  | nil => exact absurd (List.cons.inj split).1 different
  | cons first front =>
      obtain ⟨rfl, -⟩ := List.cons.inj split
      rw [← rendered, render_cons, List.length_append]
      exact Nat.le_add_right _ _

/-- One more argument fills its holes and touches nothing else. -/
theorem replaceFrom_render (only : OnlyHoles filled parts key)
    (unfilled : filled.lookup key = none) (value : String) :
    replaceFrom (placeholder key) value.toList 0 (render filled parts) =
      render (filled ++ [(key, value)]) parts := by
  induction parts with
  | nil => rfl
  | cons part parts induction =>
      -- Every occurrence is a whole part, so the search steps from part to part.
      have rest := induction (only.tail unfilled)
      rw [render_cons, render_cons]
      by_cases hole : part = .hole key
      · rw [hole, render_hole unfilled, render_concat_hole unfilled, placeholder,
          replaceFrom_append, ← placeholder, rest]
      · rw [replaceFrom_of_late _ fun before after => only.late hole, rest,
          render_concat_of_ne hole]

end Filling

section Arguments

variable {arguments ordering : List (String × String)} {parts : List Part}

/-- However many of the arguments have been filled in, the placeholders of the others stand only
where the template has them: no value contains one, and none is completed by a value or by
another placeholder. -/
def Clear (arguments : List (String × String)) (parts : List Part) : Prop :=
  ∀ filled ⊆ arguments, ∀ key ∈ arguments.map Prod.fst, key ∉ filled.map Prod.fst →
    OnlyHoles filled parts key

theorem lookup_eq_none_iff {filled : List (String × String)} {key : String} :
    filled.lookup key = none ↔ key ∉ filled.map Prod.fst := by
  rw [List.lookup_eq_none_iff, List.mem_map]
  grind

theorem render_perm (permuted : ordering.Perm arguments)
    (distinct : (arguments.map Prod.fst).Nodup) (parts : List Part) :
    render ordering parts = render arguments parts := by
  have distinctOrdering : (ordering.map Prod.fst).Nodup :=
    (permuted.map Prod.fst).nodup_iff.mpr distinct
  have same (key : String) : ordering.lookup key = arguments.lookup key := by
    refine Option.ext fun value => ⟨fun found => ?_, fun found => ?_⟩
    · exact Table.lookup_of_mem distinct (permuted.mem_iff.mp (Table.mem_of_lookup found))
    · exact Table.lookup_of_mem distinctOrdering (permuted.mem_iff.mpr (Table.mem_of_lookup found))
  refine List.flatMap_congr fun part _ => ?_
  cases part with
  | text chars => rfl
  | hole key => simp only [Part.render, same]

/-- Filling in the arguments that are left, from a text in which the others are filled in. -/
theorem foldl_render (clear : Clear arguments parts) (filled remaining : List (String × String))
    (distinct : ((filled ++ remaining).map Prod.fst).Nodup)
    (subset : filled ++ remaining ⊆ arguments) :
    substitute (String.ofList (render filled parts)) remaining =
      String.ofList (render (filled ++ remaining) parts) := by
  -- The text so far is always the template with the arguments so far filled in.
  induction remaining generalizing filled with
  | nil => rw [List.append_nil, substitute, List.foldl_nil]
  | cons argument remaining induction =>
      obtain ⟨key, value⟩ := argument
      have unlisted : key ∉ filled.map Prod.fst := by
        rw [List.map_append, List.map_cons, List.nodup_append] at distinct
        exact fun listed => distinct.2.2 key listed key List.mem_cons_self rfl
      have listed : key ∈ arguments.map Prod.fst :=
        List.mem_map_of_mem (subset (List.mem_append_right _ List.mem_cons_self))
      have only : OnlyHoles filled parts key :=
        clear filled (List.append_subset.mp subset).1 key listed unlisted
      have step : replaceAll (String.ofList (render filled parts)) ("$" ++ key ++ "$") value =
          String.ofList (render (filled ++ [(key, value)]) parts) := by
        rw [replaceAll, ← replaceFrom_render only (lookup_eq_none_iff.mpr unlisted)]
        simp [placeholder]
      have together : filled ++ [(key, value)] ++ remaining =
          filled ++ (key, value) :: remaining := by
        simp
      rw [substitute, List.foldl_cons, step, ← together]
      exact induction _ (by rwa [together]) (by rwa [together])

/-- An unknown macro stands for nothing.  Where no placeholder ever arises that the template does
not have, a macro stands, for every order of its arguments, for the template with each hole
replaced by the value of its argument. -/
theorem expand?_of_clear (macros : Macros) (name : String)
    (distinct : (arguments.map Prod.fst).Nodup) (permuted : ordering.Perm arguments) :
    (macros.lookup name = none → macros.expand? ⟨name, ordering⟩ = none) ∧
      ∀ parts, Clear arguments parts →
        macros.lookup name = some (String.ofList (render [] parts)) →
          macros.expand? ⟨name, ordering⟩ = some (String.ofList (render arguments parts)) := by
  constructor
  · intro unknown
    rw [expand?, unknown, Option.map_none]
  · intro parts clear known
    have distinctOrdering : (ordering.map Prod.fst).Nodup :=
      (permuted.map Prod.fst).nodup_iff.mpr distinct
    have filledIn : substitute (String.ofList (render [] parts)) ordering =
        String.ofList (render ordering parts) :=
      foldl_render clear [] ordering distinctOrdering permuted.subset
    rw [expand?, known, Option.map_some, filledIn, render_perm permuted distinct]

end Arguments

section Spacing

variable {arguments filled : List (String × String)} {parts left right : List Part}

/-- No placeholder of an argument stands in the placeholder or in the value of another one. -/
structure Apart (arguments : List (String × String)) : Prop where
  keys : ∀ argument ∈ arguments, ∀ other ∈ arguments,
    placeholder argument.1 <:+: placeholder other.1 → argument.1 = other.1
  values : ∀ argument ∈ arguments, ∀ other ∈ arguments,
    placeholder argument.1 <:+: other.2.toList → argument.1 = other.1

/-- A template in which some character that is in none of the placeholders stands between any two
holes, and no further dollar sign between a hole and that character. -/
inductive Spaced (arguments : List (String × String)) : List Part → Prop where
  | plain {chars : List Char}
      (free : ∀ argument ∈ arguments, ¬placeholder argument.1 <:+: chars) :
      Spaced arguments [.text chars]
  | hole {before after : List Char} {argument : String × String} (listed : argument ∈ arguments)
      (beforeFree : '$' ∉ before) (afterFree : '$' ∉ after) :
      Spaced arguments [.text before, .hole argument.1, .text after]
  | join {left right : List Part} {before after : List Char} {mark : Char}
      (marks : ∀ argument ∈ arguments, mark ∉ placeholder argument.1)
      (leftSpaced : Spaced arguments (left ++ [.text before]))
      (rightSpaced : Spaced arguments (.text after :: right)) :
      Spaced arguments (left ++ .text (before ++ mark :: after) :: right)

/-- An occurrence of a text without some character lies on one side of that character. -/
theorem occurs_beside {before after pattern left right : List Char} {mark : Char}
    (absent : mark ∉ pattern) (same : left ++ mark :: right = before ++ pattern ++ after) :
    (∃ between, left = before ++ pattern ++ between) ∨
      ∃ between, before = left ++ mark :: between ∧ right = between ++ pattern ++ after := by
  rcases List.append_eq_append_iff.mp same with ⟨excess, ends, rest⟩ | ⟨between, inside, -⟩
  · cases excess with
    | nil => exact .inl ⟨[], by rw [ends, List.append_nil, List.append_nil]⟩
    | cons first excess =>
        obtain ⟨rfl, rfl⟩ := List.cons.inj rest
        rcases List.append_eq_append_iff.mp ends with
          ⟨front, -, covers⟩ | ⟨between, begins, rest⟩
        · exact absurd (covers ▸ by simp) absent
        · cases between with
          | nil =>
              rw [List.nil_append] at rest
              exact absurd (rest ▸ List.mem_cons_self) absent
          | cons first between =>
              obtain ⟨rfl, rfl⟩ := List.cons.inj rest
              exact .inr ⟨between, begins, rfl⟩
  · exact .inl ⟨between, inside⟩

/-- An occurrence of a placeholder in a text between others without dollar signs lies in that
text. -/
theorem occurs_within {key : String} {before after left chars right : List Char}
    (leftFree : '$' ∉ left) (rightFree : '$' ∉ right)
    (same : left ++ chars ++ right = before ++ placeholder key ++ after) :
    ∃ front back, before = left ++ front ∧ chars = front ++ placeholder key ++ back := by
  have starts : ∃ front, before = left ++ front := by
    rw [List.append_assoc, List.append_assoc] at same
    rcases List.append_eq_append_iff.mp same with ⟨front, begins, -⟩ | ⟨excess, covers, rest⟩
    · exact ⟨front, begins⟩
    · cases excess with
      | nil => exact ⟨[], by simpa using covers.symm⟩
      | cons first excess =>
          obtain ⟨rfl, -⟩ := List.cons.inj rest
          exact absurd (covers ▸ by simp) leftFree
  obtain ⟨front, rfl⟩ := starts
  refine ⟨front, ?_⟩
  have inside : chars ++ right = front ++ placeholder key ++ after := by
    simpa only [List.append_assoc, List.append_cancel_left_eq] using same
  rcases List.append_eq_append_iff.mp inside with ⟨excess, ends, rest⟩ | ⟨back, within, -⟩
  · cases List.eq_nil_or_concat excess with
    | inl nothing =>
        rw [nothing, List.append_nil] at ends
        exact ⟨[], rfl, by rw [← ends, List.append_nil]⟩
    | inr last =>
        obtain ⟨excess, last, rfl⟩ := last
        have ended : chars ++ excess ++ [last] = (front ++ '$' :: key.toList) ++ ['$'] := by
          simpa [placeholder] using ends.symm
        obtain ⟨rfl, -⟩ := List.cons.inj (List.append_inj' ended rfl).2
        exact absurd (rest ▸ by simp) rightFree
  · exact ⟨back, rfl, within⟩

/-- Spaced templates are clear for arguments that do not contain each other. -/
theorem Spaced.clear (spaced : Spaced arguments parts) (apart : Apart arguments) :
    Clear arguments parts := by
  intro filled subset key listed unlisted
  obtain ⟨argument, member, rfl⟩ := List.mem_map.mp listed
  induction spaced with
  | plain free =>
      intro before after same
      refine absurd ⟨before, after, ?_⟩ (free argument member)
      simpa [Part.render] using same.symm
  | @hole first last other otherListed firstFree lastFree =>
      intro before after same
      simp only [render_cons, render_nil, List.append_nil, ← List.append_assoc] at same
      obtain ⟨front, back, rfl, within⟩ := occurs_within firstFree lastFree same
      simp only [Part.render] at within
      split at within
      · next value found =>
          have given : (other.1, value) ∈ filled := Table.mem_of_lookup found
          have own : argument.1 = other.1 :=
            apart.values argument member (other.1, value) (subset given)
              ⟨front, back, within.symm⟩
          exact absurd (List.mem_map.mpr ⟨(other.1, value), given, own.symm⟩) unlisted
      · have own : argument.1 = other.1 :=
          apart.keys argument member other otherListed ⟨front, back, within.symm⟩
        have nothing : front = [] := by
          have sizes := congrArg List.length within
          rw [own, List.length_append, List.length_append] at sizes
          exact List.length_eq_zero_iff.mp (by omega)
        refine ⟨[.text first], [.text last], by rw [own]; rfl, ?_⟩
        rw [nothing]
        rfl
  | @join left right first last mark marks leftSpaced rightSpaced leftOnly rightOnly =>
      intro before after same
      have cut : render filled (left ++ [.text first]) ++ mark ::
          render filled (.text last :: right) = before ++ placeholder argument.1 ++ after := by
        rw [← same]
        simp [Part.render]
      rcases occurs_beside (marks argument member) cut with
        ⟨between, inLeft⟩ | ⟨between, rfl, inRight⟩
      · obtain ⟨front, back, split, rendered⟩ := leftOnly before between inLeft
        rcases List.eq_nil_or_concat back with rfl | ⟨back, final, rfl⟩
        · have isHole := List.append_inj_right' split rfl
          cases isHole
        · have ended : left ++ [.text first] = (front ++ .hole argument.1 :: back) ++ [final] := by
            simpa using split
          obtain ⟨rfl, -⟩ := List.append_inj' ended rfl
          exact ⟨front, back ++ .text (first ++ mark :: last) :: right, by simp, rendered⟩
      · obtain ⟨front, back, split, rfl⟩ := rightOnly between after inRight
        cases front with
        | nil => cases (List.cons.inj split).1
        | cons part front =>
            obtain ⟨rfl, rfl⟩ := List.cons.inj split
            exact ⟨left ++ .text (first ++ mark :: last) :: front, back, by simp,
              by simp [Part.render]⟩

/-- The parts of the template `search status>=$min$ AND host=$name$`. -/
def sampleParts : List Part :=
  [.text "search status>=".toList, .hole "min", .text " AND host=".toList, .hole "name", .text []]

/-- The value of one argument may have a dollar sign. -/
theorem expand?_of_clear_sample :
    let macros : Macros := [("errors", "search status>=$min$ AND host=$name$")]
    let arguments := [("min", "500"), ("name", "$h")]
    (arguments.map Prod.fst).Nodup ∧ Clear arguments sampleParts ∧
      arguments.reverse.Perm arguments ∧
      macros.lookup "errors" = some (String.ofList (render [] sampleParts)) ∧
      macros.expand? ⟨"errors", arguments.reverse⟩ = some "search status>=500 AND host=$h" := by
  intro macros arguments
  have apart : Apart arguments := ⟨by decide, by decide⟩
  have spaced : Spaced arguments sampleParts :=
    @Spaced.join arguments [.text "search status>=".toList, .hole "min"] [.hole "name", .text []]
      [] "AND host=".toList ' ' (by decide)
      (.hole (show ("min", "500") ∈ arguments by decide) (by decide) (by decide))
      (.hole (show ("name", "$h") ∈ arguments by decide) (by decide) (by decide))
  have distinct : (arguments.map Prod.fst).Nodup := by decide
  have permuted : arguments.reverse.Perm arguments := List.reverse_perm arguments
  have known : macros.lookup "errors" = some (String.ofList (render [] sampleParts)) := by decide
  exact ⟨distinct, spaced.clear apart, permuted, known,
    ((expand?_of_clear macros "errors" distinct permuted).2 sampleParts (spaced.clear apart)
      known).trans (by decide)⟩

/-- A value that looks like the placeholder of a later argument is replaced itself. -/
theorem expand?_rescans_values :
    let macros : Macros := [("m", "$a$")]
    let arguments := [("a", "$b$"), ("b", "x")]
    (arguments.map Prod.fst).Nodup ∧ arguments.reverse.Perm arguments ∧
      macros.expand? ⟨"m", arguments⟩ = some "x" ∧
      macros.expand? ⟨"m", arguments.reverse⟩ = some "$b$" := by
  intro macros arguments
  exact ⟨by decide, List.reverse_perm arguments, by decide, by decide⟩

/-- Two placeholders that share a dollar sign are not both replaced. -/
example :
    let macros : Macros := [("m", "$a$b$")]
    macros.expand? ⟨"m", [("a", "1"), ("b", "2")]⟩ = some "1b$" ∧
      macros.expand? ⟨"m", [("b", "2"), ("a", "1")]⟩ = some "$a2" := by
  decide

end Spacing

end LogPipe.Macros
