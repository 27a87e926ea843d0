/-!
# Chains of parts

The levels of filters and of formulas whose parts group to the left are read by one loop: it
reads a part, joins it to what it has joined so far, and goes on as long as the next token
lets a part follow.  What the loop has joined stays a phrase of its level, and it stops where
no part may follow.
-/

namespace LogPipe

variable {τ α β ε : Type}

/-- A tree with a phrase at the front of the tokens, nested at most `limit` deep. -/
def Front (phrases : Nat → List τ → α → Prop) (limit : Nat) (tokens : List τ) (tree : α)
    (rest : List τ) : Prop :=
  ∃ phrase n, tokens = phrase ++ rest ∧ n ≤ limit ∧ phrases n phrase tree

namespace Front

variable {phrases : Nat → List τ → α → Prop} {others : Nat → List τ → β → Prop} {limit : Nat}
  {tokens rest : List τ} {tree : α}

theorem imp {other : β} (front : Front phrases limit tokens tree rest)
    (step : ∀ n phrase, phrases n phrase tree → others n phrase other) :
    Front others limit tokens other rest := by
  obtain ⟨phrase, n, split, low, derived⟩ := front
  exact ⟨phrase, n, split, low, step n phrase derived⟩

/-- A phrase that goes on with nothing. -/
theorem nothing {n : Nat} {done : List τ} (low : n ≤ limit) (derived : phrases n done tree) :
    Front (fun n phrase => phrases n (done ++ phrase)) limit tokens tree tokens :=
  ⟨[], n, rfl, low, by simpa using derived⟩

/-- A phrase that goes on with some tokens and then with others. -/
theorem append {done taken : List τ}
    (front : Front (fun n phrase => phrases n (done ++ taken ++ phrase)) limit tokens tree rest) :
    Front (fun n phrase => phrases n (done ++ phrase)) limit (taken ++ tokens) tree rest := by
  obtain ⟨phrase, n, rfl, low, derived⟩ := front
  exact ⟨taken ++ phrase, n, by simp, low, by simpa using derived⟩

end Front

section Stops

variable {strength : τ → Nat} {limit : Nat} {token : τ} {rest : List τ}

/-- Whether what follows a phrase binds it less than `limit`. -/
def Stops (strength : τ → Nat) (limit : Nat) (rest : List τ) : Prop :=
  ∀ token later, rest = token :: later → strength token < limit

theorem Stops.mono {weak strong : Nat} (stops : Stops strength weak rest) (le : weak ≤ strong) :
    Stops strength strong rest :=
  fun token later split => Nat.lt_of_lt_of_le (stops token later split) le

theorem stops_nil : Stops strength limit [] := by
  rintro _ _ ⟨⟩

theorem stops_cons (weak : strength token < limit) : Stops strength limit (token :: rest) := by
  rintro _ _ ⟨⟩
  exact weak

end Stops

/-- A reader whose result is what its loop gives in front of the rest, in enough rounds. -/
def Resumes (read : Except ε (α × List τ)) (loop : Nat → Except ε (α × List τ))
    (rest : List τ) : Prop :=
  ∃ rounds, rest.length ≤ rounds ∧ read = loop rounds

namespace Chain

section Readers

variable (next? : τ → List τ → Option ((α → α → α) × List τ))
  (part : List τ → Except ε (α × List τ))

/-- Joins the parts that follow to the left one, up to `rounds` of them. -/
def loop (left : α) (tokens : List τ) : Nat → Except ε (α × List τ)
  | 0 => .ok (left, tokens)
  | rounds + 1 =>
      match tokens with
      | [] => .ok (left, [])
      | token :: rest =>
          match next? token rest with
          | none => .ok (left, token :: rest)
          | some (join, tokens) =>
              match part tokens with
              | .error fault => .error fault
              | .ok (right, rest) => loop (join left right) rest rounds

/-- Reads a part and joins those that follow. -/
def read (tokens : List τ) : Except ε (α × List τ) :=
  match part tokens with
  | .error fault => .error fault
  | .ok (left, rest) => loop next? part left rest rest.length

end Readers

variable {next? : τ → List τ → Option ((α → α → α) × List τ)}
  {part : List τ → Except ε (α × List τ)} {chains parts : Nat → List τ → α → Prop}
  {limit : Nat} {tokens rest : List τ} {tree : α}

/-- What stands between two parts joins a phrase and a part to a phrase. -/
def Joins (next? : τ → List τ → Option ((α → α → α) × List τ))
    (chains parts : Nat → List τ → α → Prop) : Prop :=
  ∀ {token rest join after}, next? token rest = some (join, after) →
    ∃ gap, token :: rest = gap ++ after ∧
      ∀ {m n left right first second}, chains m left first → parts n right second →
        chains (max m n) (left ++ gap ++ right) (join first second)

/-- What a loop has joined stays a phrase. -/
theorem front_of_loop (joins : Joins next? chains parts)
    (partFront : ∀ {tokens tree rest}, part tokens = .ok (tree, rest) →
      Front parts limit tokens tree rest)
    {rounds m : Nat} {done : List τ} {left : α} (low : m ≤ limit) (derived : chains m done left)
    (found : loop next? part left tokens rounds = .ok (tree, rest)) :
    Front (fun n phrase => chains n (done ++ phrase)) limit tokens tree rest := by
  induction rounds generalizing m done tokens left with
  | zero =>
      cases found
      exact .nothing low derived
  | succ rounds induction =>
      cases tokens with
      | nil =>
          cases found
          exact .nothing low derived
      | cons token later =>
          simp only [loop] at found
          split at found
          · cases found
            exact .nothing low derived
          · next join after goesOn =>
              split at found
              · cases found
              · next right behind partRead =>
                  obtain ⟨gap, same, joined⟩ := joins goesOn
                  obtain ⟨phrase, n, rfl, partLow, partDerived⟩ := partFront partRead
                  have whole := induction (Nat.max_le.mpr ⟨low, partLow⟩)
                    (joined derived partDerived) found
                  simp only [List.append_assoc] at whole
                  rw [same, ← List.append_assoc]
                  exact Front.append (by simpa using whole)

theorem front_of_read (joins : Joins next? chains parts)
    (single : ∀ {n tokens tree}, parts n tokens tree → chains n tokens tree)
    (partFront : ∀ {tokens tree rest}, part tokens = .ok (tree, rest) →
      Front parts limit tokens tree rest)
    (found : read next? part tokens = .ok (tree, rest)) :
    Front chains limit tokens tree rest := by
  rw [read] at found
  split at found
  · cases found
  · next left after partRead =>
      obtain ⟨phrase, n, rfl, low, derived⟩ := partFront partRead
      obtain ⟨further, k, rfl, furtherLow, furtherDerived⟩ :=
        front_of_loop joins partFront low (single derived) found
      exact ⟨phrase ++ further, k, by simp, furtherLow, furtherDerived⟩

theorem resumes_part (found : part tokens = .ok (tree, rest)) :
    Resumes (read next? part tokens) (loop next? part tree rest) rest :=
  ⟨rest.length, Nat.le_refl _, by simp [read, found]⟩

/-- A loop goes on with a further part. -/
theorem resumes_more {result : Except ε (α × List τ)} {first second : α} {join : α → α → α}
    {token : τ} {later after : List τ}
    (resumes : Resumes result (loop next? part first (token :: later)) (token :: later))
    (goesOn : next? token later = some (join, after)) (found : part after = .ok (second, rest))
    (shorter : rest.length ≤ later.length) :
    Resumes result (loop next? part (join first second) rest) rest := by
  obtain ⟨rounds, enough, same⟩ := resumes
  cases rounds with
  | zero => simp at enough
  | succ rounds =>
      refine ⟨rounds, ?_, ?_⟩
      · simp only [List.length_cons] at enough
        omega
      · rw [same]
        simp [loop, goesOn, found]

/-- A loop stops where no part may follow. -/
theorem eq_ok_of_resumes {result : Except ε (α × List τ)}
    (resumes : Resumes result (loop next? part tree rest) rest)
    (stops : ∀ token later, rest = token :: later → next? token later = none) :
    result = .ok (tree, rest) := by
  obtain ⟨rounds, -, same⟩ := resumes
  rw [same]
  cases rounds with
  | zero => rfl
  | succ rounds =>
      cases rest with
      | nil => rfl
      | cons token later => simp [loop, stops token later rfl]

end Chain

end LogPipe
