import Mathlib.Tactic.Common

/-!
# Computations that end alike

Two computations over states of different types, run from related states, side by side: they end alike,
with the same value and in related states, as long as the first does not get outside of what it is
compared in. Outside is left by no computation, so that it can be decided at the end of a run whether
the two were alike throughout.
-/

namespace QuickFix

variable {S T α β ε ε' : Type}

/-- Given `P`, the computations end alike from related states, unless the first gets outside; and from
outside it stays there. -/
structure Simulates (R : S → T → Prop) (Out : S → Prop) (P : Prop) (x : StateM S α) (y : StateM T α) :
    Prop where
  stays : ∀ s, Out s → Out (x.run s).2
  ends : P → ∀ s t, R s t →
    Out (x.run s).2 ∨ (x.run s).1 = (y.run t).1 ∧ R (x.run s).2 (y.run t).2

namespace Simulates

variable {R : S → T → Prop} {Out : S → Prop} {P : Prop}

/-! ## One state -/

section State

variable {x : StateM S α} {y : StateM T α} {k : α → StateM S β} {l : α → StateM T β}

protected lemma pure (a : α) : Simulates R Out P (pure a) (pure a) where
  stays _ out := out
  ends _ _ _ related := .inr ⟨rfl, related⟩

/-- One after the other. -/
protected lemma bind (first : Simulates R Out P x y) (rest : ∀ a, Simulates R Out P (k a) (l a)) :
    Simulates R Out P (x >>= k) (y >>= l) where
  stays s out := (rest (x.run s).1).stays _ (first.stays s out)
  ends given s t related := by
    rcases first.ends given s t related with out | ⟨same, related'⟩
    · exact .inl ((rest (x.run s).1).stays _ out)
    · have run : (x >>= k).run s = (k (x.run s).1).run (x.run s).2 := rfl
      have run' : (y >>= l).run t = (l (y.run t).1).run (y.run t).2 := rfl
      rw [run, run', ← same]
      exact (rest (x.run s).1).ends given _ _ related'

/-- The second may be replaced by what it equals. -/
lemma right {y' : StateM T α} (same : P → y = y') (h : Simulates R Out P x y') :
    Simulates R Out P x y where
  stays := h.stays
  ends given := by
    rw [same given]
    exact h.ends given

/-- A choice both take alike. -/
lemma ite {c : Prop} [Decidable c] {x' : StateM S α} {y' : StateM T α} (h : Simulates R Out P x y)
    (h' : Simulates R Out P x' y') :
    Simulates R Out P (if c then x else x') (if c then y else y') := by
  split
  · exact h
  · exact h'

/-- Something both may do first. -/
lemma iteThen {c : Prop} [Decidable c] {x : StateM S Unit} {y : StateM T Unit} {k : Unit → StateM S β}
    {l : Unit → StateM T β} (h : Simulates R Out P x y) (rest : ∀ u, Simulates R Out P (k u) (l u)) :
    Simulates R Out P (if c then x >>= k else k ()) (if c then y >>= l else l ()) :=
  ite (h.bind rest) (rest ())

end State

/-! ## With errors -/

section Errors

variable {x : ExceptT ε (StateM S) α} {y : ExceptT ε (StateM T) α}
variable {k : α → ExceptT ε (StateM S) β} {l : α → ExceptT ε (StateM T) β}

/-- A value simulates itself. -/
lemma pureE (a : α) : Simulates R Out P (pure a : ExceptT ε (StateM S) α).run
    (pure a : ExceptT ε (StateM T) α).run := .pure (Except.ok a)

/-- An error simulates itself. -/
lemma throwE (e : ε) : Simulates R Out P (throw e : ExceptT ε (StateM S) α).run
    (throw e : ExceptT ε (StateM T) α).run := .pure (Except.error e)

/-- One after the other, unless the first fails. -/
lemma bindE (first : Simulates R Out P x.run y.run)
    (rest : ∀ a, Simulates R Out P (k a).run (l a).run) :
    Simulates R Out P (x >>= k).run (y >>= l).run := by
  rw [ExceptT.run_bind, ExceptT.run_bind]
  apply first.bind
  intro r
  cases r with
  | ok a => exact rest a
  | error e => exact .pure (Except.error e)

/-- A step that cannot fail. -/
lemma liftE {x : StateM S α} {y : StateM T α} (h : Simulates R Out P x y) :
    Simulates R Out P (MonadLift.monadLift x : ExceptT ε (StateM S) α).run
      (MonadLift.monadLift y : ExceptT ε (StateM T) α).run :=
  h.bind fun a => .pure (Except.ok a)

/-- Errors of another type. -/
lemma adaptE (f : ε → ε') (h : Simulates R Out P x.run y.run) :
    Simulates R Out P (x.adapt f).run (y.adapt f).run where
  stays := h.stays
  ends given s t related := (h.ends given s t related).imp_right fun both =>
    ⟨congrArg (Except.mapError f) both.1, both.2⟩

/-- A case distinction is simulated case by case. -/
lemma iteE {c : Prop} [Decidable c] {x' : ExceptT ε (StateM S) α} {y' : ExceptT ε (StateM T) α}
    (h : Simulates R Out P x.run y.run) (h' : Simulates R Out P x'.run y'.run) :
    Simulates R Out P (if c then x else x').run (if c then y else y').run := by
  split
  · exact h
  · exact h'

/-- So is one that is done before something else. -/
lemma iteThenE {c : Prop} [Decidable c] {x : ExceptT ε (StateM S) Unit} {y : ExceptT ε (StateM T) Unit}
    {k : Unit → ExceptT ε (StateM S) β} {l : Unit → ExceptT ε (StateM T) β}
    (h : Simulates R Out P x.run y.run) (rest : ∀ u, Simulates R Out P (k u).run (l u).run) :
    Simulates R Out P (if c then x >>= k else k ()).run (if c then y >>= l else l ()).run :=
  iteE (h.bindE rest) (rest ())

end Errors

end Simulates

end QuickFix
