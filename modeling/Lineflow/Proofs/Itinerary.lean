import Lineflow.Proofs.Driver

/-! # Itineraries

A run seen as the list of its visits, each with the context and the state in which it begins. Facts
about whole runs follow from what one visit does: an invariant holds at the end, and a rank that
every visit lowers bounds their number.
-/
namespace Lineflow

variable {σ : Type}

structure Stop (σ : Type) where
  index : Nat
  context : Context
  state : σ

def Action.ahead (steps : Nat) : Action → Nat
  | .finish => 0
  | .step index => steps - index

namespace Workflow

/-- The visits that a run begins, `bound` at most. One that breaks off is the last. -/
def stops (w : Workflow σ) (settings : SimulatorSettings) (schedule : Schedule) :
    Nat → Run → σ → List (Stop σ)
  | 0, _, _ => []
  | bound + 1, run, s =>
    match run.context.action with
    | .finish => []
    | .step index =>
      ⟨index, run.context, s⟩ ::
        match Job.runOn (w.visit settings schedule run index) s with
        | (.ok run', s') => w.stops settings schedule bound run' s'
        | (.error _, _) => []

def itinerary (w : Workflow σ) (settings : SimulatorSettings) (schedule : Schedule) (bound : Nat)
    (initial : Json) (s : σ) : List (Stop σ) :=
  w.stops settings schedule bound (.start w.entry initial) s

variable {w : Workflow σ} {settings : SimulatorSettings} {schedule : Schedule} {run run' : Run}
  {index bound : Nat} {s s' : σ} {report : RunReport}

/-! ## One visit -/

theorem visit_eq_ok (h : Job.runOn (w.visit settings schedule run index) s = (.ok run', s')) :
    ∃ step t, w.steps[index]? = some step ∧
      Job.runOn (w.transition settings (schedule.order run.trail.length) step run.context) s =
        (.ok t, s') ∧ run' = run.after step.name t := by
  cases hstep : w.steps[index]? with
  | none =>
    simp only [visit, hstep, Job.run_on_throw] at h
    cases h
  | some step =>
    rw [visit_run_on hstep] at h
    generalize ht : Job.runOn (w.transition settings (schedule.order run.trail.length) step
      run.context) s = ended at h
    obtain ⟨e | t, s''⟩ := ended
    · cases h
    · cases h
      exact ⟨step, t, rfl, ht, rfl⟩

theorem stops_finish (h : run.context.action = .finish) :
    w.stops settings schedule bound run s = [] := by
  cases bound with
  | zero => rfl
  | succ bound => simp [stops, h]

theorem stops_visit (h : run.context.action = .step index)
    (hvisit : Job.runOn (w.visit settings schedule run index) s = (.ok run', s')) :
    w.stops settings schedule (bound + 1) run s =
      ⟨index, run.context, s⟩ :: w.stops settings schedule bound run' s' := by
  simp [stops, h, hvisit]

theorem stops_broken (h : run.context.action = .step index) {e : RunError}
    (hvisit : Job.runOn (w.visit settings schedule run index) s = (.error e, s')) :
    w.stops settings schedule (bound + 1) run s = [⟨index, run.context, s⟩] := by
  simp [stops, h, hvisit]

theorem stops_head (h : run.context.action = .step index) :
    (w.stops settings schedule (bound + 1) run s).head? = some ⟨index, run.context, s⟩ := by
  unfold stops
  rw [h]
  rfl

theorem stops_first (h : run.context.action = .step index) {stop : Stop σ}
    (hstop : (w.stops settings schedule bound run s).head? = some stop) : stop.index = index := by
  cases bound with
  | zero => cases hstop
  | succ bound =>
    rw [stops_head h] at hstop
    cases hstop
    rfl

theorem stops_first_at {stop : Stop σ}
    (hstop : (w.stops settings schedule bound run s)[0]? = some stop) :
    stop.context = run.context ∧ stop.state = s := by
  cases bound with
  | zero => cases hstop
  | succ bound =>
    cases haction : run.context.action with
    | finish =>
      rw [stops_finish haction] at hstop
      cases hstop
    | step index =>
      rw [← List.head?_eq_getElem?, stops_head haction] at hstop
      cases hstop
      exact ⟨rfl, rfl⟩

theorem drive_visit_ok (h : run.context.action = .step index)
    (hvisit : Job.runOn (w.visit settings schedule run index) s = (.ok run', s')) :
    Job.runOn (w.drive settings schedule (bound + 1) run) s =
      Job.runOn (w.drive settings schedule bound run') s' := by
  rw [drive_visit h, hvisit]

theorem drive_visit_broken (h : run.context.action = .step index) {e : RunError}
    (hvisit : Job.runOn (w.visit settings schedule run index) s = (.error e, s')) :
    Job.runOn (w.drive settings schedule (bound + 1) run) s = (.error e, s') := by
  rw [drive_visit h, hvisit]

/-! ## Stops and their transitions -/

/-- The visit that begins at `stop` comes to `r`, in some order of delivery. -/
def Comes (w : Workflow σ) (settings : SimulatorSettings) (stop : Stop σ)
    (r : Except RunError Transition) (s' : σ) : Prop :=
  ∃ step order, w.steps[stop.index]? = some step ∧
    (∀ workers : Nat, (order workers).Perm (List.range workers)) ∧
    Job.runOn (w.transition settings order step stop.context) stop.state = (r, s')

theorem visit_comes (h : Job.runOn (w.visit settings schedule run index) s = (.ok run', s')) :
    ∃ t, w.Comes settings ⟨index, run.context, s⟩ (.ok t) s' ∧
      run'.context = run.context.apply t := by
  obtain ⟨step, t, hstep, ht, rfl⟩ := visit_eq_ok h
  exact ⟨t, ⟨step, _, hstep, schedule.isPerm run.trail.length, ht⟩, rfl⟩

theorem visit_breaks {step : Step σ} (hstep : w.steps[index]? = some step) {e : RunError}
    (h : Job.runOn (w.visit settings schedule run index) s = (.error e, s')) :
    w.Comes settings ⟨index, run.context, s⟩ (.error e) s' := by
  refine ⟨step, _, hstep, schedule.isPerm run.trail.length, ?_⟩
  rw [visit_run_on hstep] at h
  generalize Job.runOn (w.transition settings (schedule.order run.trail.length) step run.context) s
    = ended at h ⊢
  obtain ⟨e' | t, s''⟩ := ended
  · cases h; rfl
  · cases h

theorem stops_linked {k : Nat} {a b : Stop σ}
    (ha : (w.stops settings schedule bound run s)[k]? = some a)
    (hb : (w.stops settings schedule bound run s)[k + 1]? = some b) :
    ∃ t, w.Comes settings a (.ok t) b.state ∧ b.context = a.context.apply t := by
  induction bound generalizing run s k with
  | zero => cases ha
  | succ bound ih =>
    cases haction : run.context.action with
    | finish =>
      rw [stops_finish haction] at ha
      cases ha
    | step index =>
      rcases hvisit : Job.runOn (w.visit settings schedule run index) s with ⟨e | run', s'⟩
      · rw [stops_broken haction hvisit] at hb
        cases hb
      · rw [stops_visit haction hvisit] at ha hb
        cases k with
        | succ k => exact ih ha hb
        | zero =>
          cases ha
          obtain ⟨t, hcomes, hcontext⟩ := visit_comes hvisit
          obtain ⟨hctx, hstate⟩ := stops_first_at hb
          rw [hctx, hstate]
          exact ⟨t, hcomes, hcontext⟩

/-! ## Whole runs -/

/-- Induction along a run that ends well, from its end. -/
theorem drive_induction {motive : Nat → Run → σ → Prop}
    (finish : ∀ bound run, run.context.action = .finish →
      report = { result := run.context.result, visits := run.trail.reverse } → motive bound run s')
    (visit : ∀ bound run index s run' t, run.context.action = .step index →
      Job.runOn (w.visit settings schedule run index) s = (.ok run', t) → motive bound run' t →
      motive (bound + 1) run s)
    (h : Job.runOn (w.drive settings schedule bound run) s = (.ok (some report), s')) :
    motive bound run s := by
  induction bound generalizing run s with
  | zero =>
    cases haction : run.context.action with
    | finish =>
      rw [drive_finish haction] at h
      cases h
      exact finish 0 run haction rfl
    | step index =>
      rw [drive_exhausted haction] at h
      cases h
  | succ bound ih =>
    cases haction : run.context.action with
    | finish =>
      rw [drive_finish haction] at h
      cases h
      exact finish _ run haction rfl
    | step index =>
      cases hvisit : Job.runOn (w.visit settings schedule run index) s with
      | mk r t =>
        cases r with
        | error e =>
          rw [drive_visit_broken haction hvisit] at h
          cases h
        | ok run' =>
          rw [drive_visit_ok haction hvisit] at h
          exact visit bound run index s run' t haction hvisit (ih h)

/-- The report of a run names the steps of its itinerary. -/
theorem report_visits
    (h : Job.runOn (w.drive settings schedule bound run) s = (.ok (some report), s')) :
    report.visits.map (·.step) = run.trail.reverse.map (·.step) ++
      (w.stops settings schedule bound run s).map fun stop => w.actionName (.step stop.index) := by
  refine drive_induction (motive := fun bound run s => report.visits.map (·.step) =
    run.trail.reverse.map (·.step) ++ (w.stops settings schedule bound run s).map fun stop =>
      w.actionName (.step stop.index)) ?_ ?_ h
  · intro bound run haction hreport
    simp [stops_finish haction, hreport]
  · intro bound run index s run' t haction hvisit ih
    obtain ⟨step, _, hstep, _, rfl⟩ := visit_eq_ok hvisit
    rw [ih, stops_visit haction hvisit]
    simp [Run.after, action_name_step hstep]

/-- What every visit keeps holds at the end. -/
theorem drive_ends_in (Inv : Run → σ → Prop)
    (hkeeps : ∀ run index s run' s', Inv run s → run.context.action = .step index →
      Job.runOn (w.visit settings schedule run index) s = (.ok run', s') → Inv run' s')
    (hrun : Inv run s)
    (h : Job.runOn (w.drive settings schedule bound run) s = (.ok (some report), s')) :
    ∃ last, Inv last s' ∧ report.result = last.context.result := by
  refine drive_induction (motive := fun _ run s => Inv run s →
    ∃ last, Inv last s' ∧ report.result = last.context.result) ?_ ?_ h hrun
  · intro bound run _ hreport hrun
    exact ⟨run, hrun, by rw [hreport]⟩
  · intro bound run index s run' t haction hvisit ih hrun
    exact ih (hkeeps run index s run' t hrun haction hvisit)

/-- A rank that every visit lowers bounds the number of visits. The invariant may speak of the
visits that are still to come. -/
theorem drive_ends_by_rank (Inv : Nat → Run → σ → Prop) (rank : Run → Nat)
    (hpos : ∀ bound run index s, Inv bound run s → run.context.action = .step index → 0 < rank run)
    (hlower : ∀ bound run index s run' s', Inv (bound + 1) run s →
      run.context.action = .step index →
      Job.runOn (w.visit settings schedule run index) s = (.ok run', s') →
      Inv bound run' s' ∧ rank run' < rank run) (hrun : Inv bound run s) :
    (w.stops settings schedule bound run s).length ≤ rank run ∧
      (rank run ≤ bound → (Job.runOn (w.drive settings schedule bound run) s).1 ≠ .ok none) := by
  induction bound generalizing run s with
  | zero =>
    refine ⟨Nat.zero_le _, ?_⟩
    intro hrank
    cases haction : run.context.action with
    | finish => simp [drive_finish haction]
    | step index =>
      have := hpos 0 run index s hrun haction
      omega
  | succ bound ih =>
    cases haction : run.context.action with
    | finish => simp [stops_finish haction, drive_finish haction]
    | step index =>
      have hrank := hpos _ run index s hrun haction
      cases hvisit : Job.runOn (w.visit settings schedule run index) s with
      | mk r t =>
        cases r with
        | error e =>
          rw [stops_broken haction hvisit, drive_visit_broken haction hvisit]
          exact ⟨hrank, fun _ => by simp⟩
        | ok run' =>
          obtain ⟨hrun', hlt⟩ := hlower bound run index s run' t hrun haction hvisit
          obtain ⟨hlen, hends⟩ := ih hrun'
          rw [stops_visit haction hvisit, drive_visit_ok haction hvisit, List.length_cons]
          exact ⟨by omega, fun hle => hends (by omega)⟩

/-- A run ends where a visit of its itinerary breaks off. -/
theorem drive_breaks_at {stop : Stop σ} {e : RunError}
    (hstop : stop ∈ w.stops settings schedule bound run s)
    (hbreaks : ∀ now : Run, now.context = stop.context →
      Job.runOn (w.visit settings schedule now stop.index) stop.state = (.error e, s')) :
    (w.stops settings schedule bound run s).getLast? = some stop ∧
      Job.runOn (w.drive settings schedule bound run) s = (.error e, s') := by
  induction bound generalizing run s with
  | zero => cases hstop
  | succ bound ih =>
    cases haction : run.context.action with
    | finish =>
      rw [stops_finish haction] at hstop
      cases hstop
    | step index =>
      rcases hvisit : Job.runOn (w.visit settings schedule run index) s with ⟨e' | run', s''⟩
      · rw [stops_broken haction hvisit] at hstop ⊢
        cases List.mem_singleton.mp hstop
        exact ⟨rfl, (drive_visit haction bound s).trans (by rw [hbreaks run rfl])⟩
      · rw [stops_visit haction hvisit] at hstop ⊢
        rcases List.mem_cons.mp hstop with rfl | hlater
        · rw [hbreaks run rfl] at hvisit
          cases hvisit
        · obtain ⟨hlast, hdrive⟩ := ih hlater
          rw [List.getLast?_cons, hlast, drive_visit_ok haction hvisit]
          exact ⟨rfl, hdrive⟩

section Invariants

variable (Inv : Run → σ → Prop) (hkeeps : ∀ run index s run' s', Inv run s →
  run.context.action = .step index →
  Job.runOn (w.visit settings schedule run index) s = (.ok run', s') → Inv run' s')

include hkeeps

/-- What every visit keeps holds wherever the run stops. -/
theorem stops_keep (hrun : Inv run s) {k : Nat} {stop : Stop σ}
    (h : (w.stops settings schedule bound run s)[k]? = some stop) :
    ∃ now, Inv now stop.state ∧ now.context = stop.context ∧
      now.context.action = .step stop.index := by
  induction bound generalizing run s k with
  | zero => cases h
  | succ bound ih =>
    cases haction : run.context.action with
    | finish =>
      rw [stops_finish haction] at h
      cases h
    | step index =>
      rcases hvisit : Job.runOn (w.visit settings schedule run index) s with ⟨e | run', s'⟩
      · rw [stops_broken haction hvisit] at h
        cases k with
        | zero => cases h; exact ⟨run, hrun, rfl, haction⟩
        | succ k => cases h
      · rw [stops_visit haction hvisit] at h
        cases k with
        | zero => cases h; exact ⟨run, hrun, rfl, haction⟩
        | succ k => exact ih (hkeeps run index s run' s' hrun haction hvisit) h

/-- A run that breaks off does so at its last stop. -/
theorem drive_breaks (hrun : Inv run s) {e : RunError}
    (h : Job.runOn (w.drive settings schedule bound run) s = (.error e, s')) :
    ∃ now index s₀, Inv now s₀ ∧ now.context.action = .step index ∧
      Job.runOn (w.visit settings schedule now index) s₀ = (.error e, s') ∧
      (w.stops settings schedule bound run s).getLast? = some ⟨index, now.context, s₀⟩ := by
  induction bound generalizing run s with
  | zero =>
    cases haction : run.context.action with
    | finish => rw [drive_finish haction] at h; cases h
    | step index => rw [drive_exhausted haction] at h; cases h
  | succ bound ih =>
    cases haction : run.context.action with
    | finish => rw [drive_finish haction] at h; cases h
    | step index =>
      rcases hvisit : Job.runOn (w.visit settings schedule run index) s with ⟨e' | run', s''⟩
      · rw [drive_visit_broken haction hvisit] at h
        cases h
        rw [stops_broken haction hvisit]
        exact ⟨run, index, s, hrun, haction, hvisit, rfl⟩
      · rw [drive_visit_ok haction hvisit] at h
        obtain ⟨now, i, s₀, hnow, hat, hbroken, hlast⟩ :=
          ih (hkeeps run index s run' s'' hrun haction hvisit) h
        refine ⟨now, i, s₀, hnow, hat, hbroken, ?_⟩
        rw [stops_visit haction hvisit, List.getLast?_cons, hlast]
        rfl

end Invariants

end Workflow

end Lineflow
