import Lineflow.Workflow.Registry

/-! # Running jobs

A job started in a state ends with an answer or an error, and in a state. These are the equations by
which a job built from smaller ones is taken apart.
-/
namespace Lineflow

variable {σ ε ε' α β : Type}

@[simp] theorem map_error_ok (f : ε → ε') (a : α) : (Except.ok a).mapError f = .ok a := rfl

@[simp] theorem map_error_error (f : ε → ε') (e : ε) :
    (Except.error e : Except ε α).mapError f = .error (f e) := rfl

def Job.runOn (job : Job σ ε α) (s : σ) : Except ε α × σ := job.run.run s

namespace Job

@[simp] theorem run_on_pure (a : α) (s : σ) : Job.runOn (pure a : Job σ ε α) s = (.ok a, s) := rfl

@[simp] theorem run_on_throw (e : ε) (s : σ) :
    Job.runOn (throw e : Job σ ε α) s = (.error e, s) := rfl

theorem run_on_bind (job : Job σ ε α) (f : α → Job σ ε β) (s : σ) :
    Job.runOn (job >>= f) s =
      match Job.runOn job s with
      | (.ok a, s') => Job.runOn (f a) s'
      | (.error e, s') => (.error e, s') := by
  unfold Job.runOn
  simp only [ExceptT.run_bind, StateT.run_bind]
  rcases StateT.run (ExceptT.run job) s with ⟨⟨⟩, s'⟩ <;> rfl

theorem run_on_adapt (f : ε → ε') (job : Job σ ε α) (s : σ) :
    Job.runOn (ExceptT.adapt f job : Job σ ε' α) s =
      ((Job.runOn job s).1.mapError f, (Job.runOn job s).2) := rfl

@[simp] theorem run_on_lift (x : Except ε α) (s : σ) :
    Job.runOn (liftM x : Job σ ε α) s = (x, s) := by
  cases x <;> rfl

@[simp] theorem run_on_lift_state (m : StateM σ α) (s : σ) :
    Job.runOn (liftM m : Job σ ε α) s = (.ok (m.run s).1, (m.run s).2) := rfl

/-- A traversal that ends well goes through its members one by one. -/
theorem mapM_cons_eq_ok {f : α → Job σ ε β} {x : α} {xs : List α} {ys : List β} {s s' : σ}
    (h : Job.runOn ((x :: xs).mapM f) s = (.ok ys, s')) :
    ∃ y s₁ rest, Job.runOn (f x) s = (.ok y, s₁) ∧
      Job.runOn (xs.mapM f) s₁ = (.ok rest, s') ∧ ys = y :: rest := by
  rw [List.mapM_cons, run_on_bind] at h
  rcases hfirst : Job.runOn (f x) s with ⟨e | y, s₁⟩
  · rw [hfirst] at h
    cases h
  rw [hfirst] at h
  dsimp only at h
  rw [run_on_bind] at h
  rcases hrest : Job.runOn (xs.mapM f) s₁ with ⟨e | rest, s₂⟩
  · rw [hrest] at h
    cases h
  rw [hrest] at h
  cases h
  exact ⟨y, s₁, rest, rfl, hrest, rfl⟩

/-- The job answers `r` in every state and leaves the state as it is. -/
def Yields (job : Job σ ε α) (r : Except ε α) : Prop := ∀ s, Job.runOn job s = (r, s)

/-- Without a state there is nothing else for a job to do. -/
theorem yields_unit (job : Job Unit ε α) : Yields job (Job.runOn job ()).1 := fun _ => rfl

end Job

end Lineflow
