import Mathlib.Tactic.Common

/-!
# Computations given fuel

A computation that was given fuel may end with a result or an error, or run out. More fuel changes
nothing about one that ends (`Approximates`); and two computations that take the same turns end alike
(`outcome`), whatever they compute.
-/

namespace QuickFix

variable {ε α β γ δ : Type}

/-- A computation with fuel. -/
abbrev Fueled (ε : Type) := ExceptT ε Option

namespace Fueled

variable {x x' : Fueled ε α} {y y' : α → Fueled ε β}

/-- One computation after another. -/
lemma run_bind (x : Fueled ε α) (y : α → Fueled ε β) : (x >>= y).run =
    match x.run with
    | none => none
    | some (.error e) => some (.error e)
    | some (.ok a) => (y a).run := by
  change (ExceptT.bind x y).run = _
  simp only [ExceptT.bind, ExceptT.mk, ExceptT.run, bind]
  cases (x : Option (Except ε α)) with
  | none => rfl
  | some r => cases r <;> rfl

/-- Whether a computation ends. -/
def Ends (x : Fueled ε α) : Prop := x.run ≠ none

/-! ## More fuel -/

/-- Where one computation ends, the other ends alike. -/
def Approximates (x x' : Fueled ε α) : Prop := ∀ r, x.run = some r → x'.run = some r

/-- A computation approximates itself. -/
lemma Approximates.refl (x : Fueled ε α) : Approximates x x := fun _ => id

/-- What approximates in two steps approximates. -/
lemma Approximates.trans {x'' : Fueled ε α} (h : Approximates x x') (h' : Approximates x' x'') :
    Approximates x x'' := fun r run => h' r (h r run)

/-- What ends goes on to end with more fuel. -/
lemma Approximates.ends (h : Approximates x x') (ends : Ends x) : Ends x' := by
  obtain ⟨r, run⟩ := Option.ne_none_iff_exists'.mp ends
  rw [Ends, h r run]
  simp

/-- Sequencing respects approximation. -/
lemma Approximates.bind (h : Approximates x x') (h' : ∀ a, Approximates (y a) (y' a)) :
    Approximates (x >>= y) (x' >>= y') := by
  intro r run
  rw [run_bind] at run ⊢
  cases result : x.run with
  | none =>
    rw [result] at run
    cases run
  | some e =>
    rw [h e result]
    rw [result] at run
    cases e with
    | error e => exact run
    | ok a => exact h' a r run

/-- Folding respects approximation. -/
lemma Approximates.foldlM {step step' : β → α → Fueled ε β}
    (h : ∀ b a, Approximates (step b a) (step' b a)) (xs : List α) (b : β) :
    Approximates (xs.foldlM step b) (xs.foldlM step' b) := by
  induction xs generalizing b with
  | nil => exact .refl _
  | cons x xs ih =>
    rw [List.foldlM_cons, List.foldlM_cons]
    exact (h b x).bind ih

/-! ## Outcomes -/

/-- How a computation ends, if it does: with a result or with an error. -/
def outcome (x : Fueled ε α) : Option Bool := x.run.map (·.isOk)

/-- A computation ends when it has an outcome. -/
lemma ends_iff : Ends x ↔ outcome x ≠ none := by simp [Ends, outcome]

/-- Success comes with a value. -/
lemma outcome_true (h : outcome x = some true) : ∃ a, x.run = some (.ok a) := by
  obtain ⟨r, run, ok⟩ := Option.map_eq_some_iff.mp h
  cases r with
  | error e => cases ok
  | ok a => exact ⟨a, run⟩

/-- The outcome of two computations in a row. -/
lemma outcome_bind : outcome (x >>= y) =
    match x.run with
    | none => none
    | some (.error _) => some false
    | some (.ok a) => outcome (y a) := by
  rw [outcome, run_bind]
  cases x.run with
  | none => rfl
  | some r => cases r <;> rfl

/-- A computation that ends went through its first part. -/
lemma Ends.of_bind (h : Ends (x >>= y)) :
    outcome x = some false ∨ ∃ a, x.run = some (.ok a) ∧ Ends (y a) := by
  rw [ends_iff, outcome_bind] at h
  cases run : x.run with
  | none =>
    rw [run] at h
    exact absurd rfl h
  | some r =>
    rw [run] at h
    cases r with
    | error e =>
      refine .inl ?_
      rw [outcome, run]
      rfl
    | ok a => exact .inr ⟨a, rfl, ends_iff.mpr h⟩

/-- Two computations in a row end when both do. -/
lemma Ends.bind (h : Ends x) (later : ∀ a, x.run = some (.ok a) → Ends (y a)) : Ends (x >>= y) := by
  rw [ends_iff, outcome_bind]
  cases run : x.run with
  | none => exact absurd run h
  | some r =>
    cases r with
    | error e => simp
    | ok a => exact ends_iff.mp (later a run)

/-- When two computations in a row end, the first does. -/
lemma Ends.first (h : Ends (x >>= y)) : Ends x := by
  intro none
  apply h
  rw [run_bind, none]

/-- Computations whose parts end alike do. -/
lemma outcome_bind_congr {x : Fueled ε α} {x' : Fueled ε γ} {y : α → Fueled ε β} {y' : γ → Fueled ε δ}
    (same : outcome x = outcome x') (later : ∀ a c, x.run = some (.ok a) → x'.run = some (.ok c) →
      outcome (y a) = outcome (y' c)) : outcome (x >>= y) = outcome (x' >>= y') := by
  rw [outcome_bind, outcome_bind]
  rw [outcome, outcome] at same
  cases run : x.run with
  | none =>
    rw [run] at same
    cases run' : x'.run with
    | none => rfl
    | some r => simp [run'] at same
  | some r =>
    rw [run] at same
    cases run' : x'.run with
    | none => simp [run'] at same
    | some r' =>
      rw [run'] at same
      cases r with
      | error e =>
        cases r' with
        | error e' => rfl
        | ok c => cases same
      | ok a =>
        cases r' with
        | error e' => cases same
        | ok c => exact later a c run run'

/-- Nothing follows on a failure. -/
lemma outcome_bind_false (h : outcome x = some false) : outcome (x >>= y) = some false := by
  obtain ⟨r, run, error⟩ := Option.map_eq_some_iff.mp h
  rw [outcome_bind, run]
  cases r with
  | error e => rfl
  | ok a => cases error

/-- After a success the outcome is that of what follows. -/
lemma outcome_bind_true {r} (h : outcome x = some true)
    (later : ∀ a, x.run = some (.ok a) → outcome (y a) = r) : outcome (x >>= y) = r := by
  obtain ⟨a, run⟩ := outcome_true h
  rw [outcome_bind, run]
  exact later a run

/-- What follows may be exchanged for what has the same outcomes. -/
lemma outcome_bind_same {y : α → Fueled ε β} {y' : α → Fueled ε γ} (later : ∀ a, outcome (y a) = outcome (y' a)) :
    outcome (x >>= y) = outcome (x >>= y') := by
  rw [outcome_bind, outcome_bind]
  split
  · rfl
  · rfl
  · exact later _

/-- What is made of a result does not matter. -/
lemma outcome_bind_pure {y : α → β} : outcome (x >>= fun a => pure (y a)) = outcome x := by
  rw [outcome_bind, outcome]
  cases x.run with
  | none => rfl
  | some r => cases r <;> rfl

/-- So may the step of a fold. -/
lemma outcome_foldlM_congr {step : β → α → Fueled ε β} {step' : γ → α → Fueled ε γ}
    (same : ∀ b c a, outcome (step b a) = outcome (step' c a)) (xs : List α) (b : β) (c : γ) :
    outcome (xs.foldlM step b) = outcome (xs.foldlM step' c) := by
  induction xs generalizing b c with
  | nil => rfl
  | cons x xs ih =>
    rw [List.foldlM_cons, List.foldlM_cons]
    exact outcome_bind_congr (same b c x) fun b' c' _ _ => ih b' c'

/-! ## One turn after another -/

section

variable {f : Nat → β → α → Fueled ε β} {xs : List α}

/-- When all turns end, so does one after turns that leave a result whenever they end. -/
lemma Ends.foldlM_at {fuel b before a after} (h : Ends (xs.foldlM (f fuel) b))
    (split : xs = before ++ a :: after) (ok : ∀ x ∈ before, ∀ b, Ends (f fuel b x) →
      ∃ b', (f fuel b x).run = some (.ok b')) : ∃ b', Ends (f fuel b' a) := by
  subst split
  induction before generalizing b with
  | nil => exact ⟨b, h.first⟩
  | cons x before ih =>
    rw [List.cons_append, List.foldlM_cons] at h
    obtain ⟨b1, run⟩ := ok x List.mem_cons_self b h.first
    have later : Ends ((before ++ a :: after).foldlM (f fuel) b1) := by
      rw [Ends, run_bind, run] at h
      exact h
    exact ih (fun y mem => ok y (List.mem_cons_of_mem x mem)) later

/-- With enough fuel all turns end, if each of them does after turns that leave a result. -/
lemma exists_ends_foldlM {P : α → Prop}
    (more : ∀ fuel b a, Approximates (f fuel b a) (f (fuel + 1) b a))
    (ok : ∀ fuel b a b', (f fuel b a).run = some (.ok b') → P a)
    (ends : ∀ before a after, xs = before ++ a :: after → (∀ x ∈ before, P x) →
      ∀ b, ∃ fuel, Ends (f fuel b a)) (b : β) : ∃ fuel, Ends (xs.foldlM (f fuel) b) := by
  have enough : ∀ fuel fuel' b a, fuel ≤ fuel' → Approximates (f fuel b a) (f fuel' b a) := by
    intro fuel fuel' b a le
    induction le with
    | refl => exact .refl _
    | step _ ih => exact ih.trans (more _ b a)
  induction xs generalizing b with
  | nil => exact ⟨0, by simp [Ends, pure, ExceptT.pure, ExceptT.run, ExceptT.mk]⟩
  | cons x xs ih =>
    obtain ⟨fuel, first⟩ := ends [] x xs rfl (by simp) b
    cases result : (f fuel b x).run with
    | none => exact absurd result first
    | some r =>
      cases r with
      | error e =>
        refine ⟨fuel, ?_⟩
        rw [List.foldlM_cons]
        exact first.bind fun b' run => by simp [result] at run
      | ok b' =>
        have here : P x := ok fuel b x b' result
        obtain ⟨fuel', later⟩ := ih (fun before a after split good => ends (x :: before) a after
          (by rw [split, List.cons_append]) (by simpa using ⟨here, good⟩)) b'
        refine ⟨max fuel fuel', ?_⟩
        have same := enough fuel (max fuel fuel') b x (Nat.le_max_left _ _) _ result
        rw [List.foldlM_cons, Ends, run_bind, same]
        exact (Approximates.foldlM (fun b a => enough fuel' (max fuel fuel') b a (Nat.le_max_right _ _)) xs
          b').ends later

end

end Fueled

end QuickFix
