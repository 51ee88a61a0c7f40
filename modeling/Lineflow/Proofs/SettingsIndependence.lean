import Mathlib
import Lineflow.Proofs.Transitions

/-! # What the settings cannot change

Two runs of one workflow, with different settings and orders of delivery, keep step with each other:
after any number of visits they are in the same state, or both have broken off at the same visit.
The settings decide how long a run pauses, and the waits that it pauses for are those of the visited
statements.
-/
namespace Lineflow

variable {σ : Type}

/-! ## Rounds of the driver -/

def Run.report? (run : Run) : Option RunReport :=
  match run.context.action with
  | .finish => some { result := run.context.result, visits := run.trail.reverse }
  | .step _ => none

namespace Workflow

/-- A run after a number of visits. One that is over stays as it is. -/
def iterate (w : Workflow σ) (settings : SimulatorSettings) (schedule : Schedule) :
    Nat → Run → Job σ RunError Run
  | 0, run => return run
  | k + 1, run =>
    match run.context.action with
    | .finish => return run
    | .step index => do
      let run ← w.visit settings schedule run index
      w.iterate settings schedule k run

variable {w : Workflow σ} {settings : SimulatorSettings} {schedule : Schedule} {run run' : Run}
  {index k : Nat} {s s' : σ}

theorem iterate_finish (h : run.context.action = .finish) (k : Nat) (s : σ) :
    Job.runOn (w.iterate settings schedule k run) s = (.ok run, s) := by
  cases k <;> simp [iterate, h]

theorem iterate_visit (h : run.context.action = .step index) (k : Nat) (s : σ) :
    Job.runOn (w.iterate settings schedule (k + 1) run) s =
      match Job.runOn (w.visit settings schedule run index) s with
      | (.ok run', s') => Job.runOn (w.iterate settings schedule k run') s'
      | (.error e, s') => (.error e, s') := by
  rw [iterate]
  simp only [h, Job.run_on_bind]
  rcases Job.runOn (w.visit settings schedule run index) s with ⟨⟨⟩, s'⟩ <;> rfl

theorem iterate_add (m n : Nat) (run : Run) (s : σ) :
    Job.runOn (w.iterate settings schedule (m + n) run) s =
      match Job.runOn (w.iterate settings schedule m run) s with
      | (.ok run', s') => Job.runOn (w.iterate settings schedule n run') s'
      | (.error e, s') => (.error e, s') := by
  induction m generalizing run s with
  | zero => rw [Nat.zero_add]; rfl
  | succ m ih =>
    cases haction : run.context.action with
    | finish =>
      rw [iterate_finish haction, iterate_finish haction]
      exact (iterate_finish haction n s).symm
    | step index =>
      rw [Nat.succ_add, iterate_visit haction, iterate_visit haction]
      rcases hvisit : Job.runOn (w.visit settings schedule run index) s with ⟨e | next, s₁⟩
      · rfl
      · exact ih next s₁

theorem iterate_succ (h : Job.runOn (w.iterate settings schedule k run) s = (.ok run', s')) :
    Job.runOn (w.iterate settings schedule (k + 1) run) s =
      match run'.context.action with
      | .finish => (.ok run', s')
      | .step index => Job.runOn (w.visit settings schedule run' index) s' := by
  rw [iterate_add, h]
  dsimp only
  cases haction : run'.context.action with
  | finish => exact iterate_finish haction 1 s'
  | step index =>
    rw [iterate_visit haction]
    dsimp only
    rcases Job.runOn (w.visit settings schedule run' index) s' with ⟨⟨⟩, s''⟩ <;> rfl

/-- The simulator answers with the report of the run that the visits come to. -/
theorem drive_iterate (bound : Nat) (run : Run) (s : σ) :
    Job.runOn (w.drive settings schedule bound run) s =
      match Job.runOn (w.iterate settings schedule bound run) s with
      | (.ok run', s') => (.ok run'.report?, s')
      | (.error e, s') => (.error e, s') := by
  induction bound generalizing run s with
  | zero =>
    cases haction : run.context.action with
    | finish => rw [drive_finish haction, iterate_finish haction]; simp [Run.report?, haction]
    | step index => rw [drive_exhausted haction]; simp [iterate, Run.report?, haction]
  | succ bound ih =>
    cases haction : run.context.action with
    | finish => rw [drive_finish haction, iterate_finish haction]; simp [Run.report?, haction]
    | step index =>
      rw [drive_visit haction, iterate_visit haction]
      rcases hvisit : Job.runOn (w.visit settings schedule run index) s with ⟨e | next, s₁⟩
      · rfl
      · exact ih next s₁

/-- The run that starts with `initial` breaks off in visit `k`, counted from zero, to the step at
`index`. -/
def BreaksAt (w : Workflow σ) (settings : SimulatorSettings) (schedule : Schedule) (initial : Json)
    (s : σ) (k index : Nat) (e : RunError) : Prop :=
  ∃ run s₁ s₂,
    Job.runOn (w.iterate settings schedule k (.start w.entry initial)) s = (.ok run, s₁) ∧
    run.context.action = .step index ∧
    Job.runOn (w.visit settings schedule run index) s₁ = (.error e, s₂)

theorem BreaksAt.iterate {initial : Json} {e : RunError}
    (h : w.BreaksAt settings schedule initial s k index e) {n : Nat} (hn : k < n) :
    ∃ s', Job.runOn (w.iterate settings schedule n (.start w.entry initial)) s =
      (.error e, s') := by
  obtain ⟨run, s₁, s₂, hrun, haction, hvisit⟩ := h
  obtain ⟨m, rfl⟩ := Nat.exists_eq_add_of_lt hn
  refine ⟨s₂, ?_⟩
  rw [Nat.add_assoc, iterate_add, hrun]
  dsimp only
  rw [iterate_visit haction, hvisit]

end Workflow

/-! ## Two runs side by side -/

section Lockstep

variable {program : Program} {registry : Registry σ} {w : Workflow σ}
  {settings settings' : SimulatorSettings} {schedule schedule' : Schedule}

inductive Alike (w : Workflow σ) (settings settings' : SimulatorSettings)
    (schedule schedule' : Schedule) (initial : Json) (s : σ) (k : Nat) : Prop where
  | together {run s'}
      (left : Job.runOn (w.iterate settings schedule k (.start w.entry initial)) s = (.ok run, s'))
      (right : Job.runOn (w.iterate settings' schedule' k (.start w.entry initial)) s =
        (.ok run, s')) :
      Alike w settings settings' schedule schedule' initial s k
  | broken {j index e e'} (earlier : j < k)
      (left : w.BreaksAt settings schedule initial s j index e)
      (right : w.BreaksAt settings' schedule' initial s j index e')
      (errors : e = e' ∨ ∃ step, w.steps[index]? = some step ∧ step.isLoop = true) :
      Alike w settings settings' schedule schedule' initial s k

/-- Pure workers deliver the same outcomes in every run, so either all batches over them join the
same values or each fails with one of them. -/
theorem batches_agree (hpure : registry.PureIterations) {statements : List Statement} {i : Nat}
    {loop : Step σ} (hloop : Compiled registry statements i loop) (h : loop.isLoop = true)
    {pool pool' : Nat} (hpool : pool ≤ largestPool) (hpool' : pool' ≤ largestPool)
    (failFast failFast' : Bool) {order order' : Nat → List Nat}
    (hperm : ∀ n, (order n).Perm (List.range n)) (hperm' : ∀ n, (order' n).Perm (List.range n))
    (ctx : Context) (s : σ) :
    (∃ t, Job.runOn (Batch.run w loop ctx pool failFast order) s = (.ok t, s) ∧
      Job.runOn (Batch.run w loop ctx pool' failFast' order') s = (.ok t, s)) ∨
    ∃ e e', Job.runOn (Batch.run w loop ctx pool failFast order) s = (.error e, s) ∧
      Job.runOn (Batch.run w loop ctx pool' failFast' order') s = (.error e', s) := by
  cases hkeys : ctx.keys with
  | none => exact Or.inr ⟨_, _, Batch.run_no_keys hkeys _ _ _ _, Batch.run_no_keys hkeys _ _ _ _⟩
  | some keys =>
    by_cases hne : keys = []
    · subst hne
      exact Or.inl ⟨_, Batch.run_empty hkeys _ _ _ _, Batch.run_empty hkeys _ _ _ _⟩
    have hp : Batch.Possible w loop ctx keys _ := Batch.outcomes_possible keys s
    obtain ⟨action, hagree⟩ := hp.agree hloop h hkeys hne
    have hall := hperm keys.length
    have hall' := hperm' keys.length
    rw [Batch.run_nonempty hkeys hne hpool, Batch.run_nonempty hkeys hne hpool']
    rw [Batch.outcomes_pure hpure hloop h hkeys hne] at hp hagree ⊢
    rw [← hp.length_eq] at hall hall'
    -- Both joins get the same outcomes: one cannot find a failure where the other finds none.
    rcases Batch.join_cases w loop ctx failFast hagree hall (hp.nonempty hne)
      with ⟨hok, hjoin⟩ | ⟨j, e, hj, hjoin⟩
    · rcases Batch.join_cases w loop ctx failFast' hagree hall' (hp.nonempty hne)
        with ⟨_, hjoin'⟩ | ⟨j', e', hj', _⟩
      · exact Or.inl ⟨_, by rw [← hp.length_eq, hjoin], by rw [← hp.length_eq, hjoin']⟩
      · obtain ⟨v, hv⟩ := hok j' (List.getElem?_eq_some_iff.mp hj').1
        rw [hv] at hj'
        cases hj'
    · rcases Batch.join_cases w loop ctx failFast' hagree hall' (hp.nonempty hne)
        with ⟨hok', _⟩ | ⟨j', e', _, hjoin'⟩
      · obtain ⟨v, hv⟩ := hok' j (List.getElem?_eq_some_iff.mp hj).1
        rw [hv] at hj
        cases hj
      · exact Or.inr ⟨_, _, by rw [← hp.length_eq, hjoin], by rw [← hp.length_eq, hjoin']⟩

section Runs

variable (hw : Workflow.compile program registry = .ok w) (hpure : registry.PureIterations)
  (hpool : settings.workerPoolSize ≤ largestPool) (hpool' : settings'.workerPoolSize ≤ largestPool)

include hw hpure hpool hpool'

/-- One visit, made in two runs that have come to the same state. -/
theorem visits_agree (run : Run) (index : Nat) (s : σ) :
    (∃ run' s', Job.runOn (w.visit settings schedule run index) s = (.ok run', s') ∧
      Job.runOn (w.visit settings' schedule' run index) s = (.ok run', s')) ∨
    ∃ e e' s₁ s₂, Job.runOn (w.visit settings schedule run index) s = (.error e, s₁) ∧
      Job.runOn (w.visit settings' schedule' run index) s = (.error e', s₂) ∧
      (e = e' ∨ ∃ step, w.steps[index]? = some step ∧ step.isLoop = true) := by
  cases hstep : w.steps[index]? with
  | none =>
    refine Or.inr ⟨.unresolved s!"#{index}", _, s, s, ?_, ?_, Or.inl rfl⟩
    · simp only [Workflow.visit, hstep, Job.run_on_throw]
    · simp only [Workflow.visit, hstep, Job.run_on_throw]
  | some step =>
    rw [Workflow.visit_run_on hstep, Workflow.visit_run_on hstep]
    cases hloop : step.isLoop with
    | false =>
      -- A single step does not look at the settings, whatever its function does with the state.
      rw [Workflow.transition_step hloop, Workflow.transition_step hloop]
      rcases Job.runOn (w.invoke step run.context) s with ⟨e | t, s'⟩
      · exact Or.inr ⟨e, e, s', s', rfl, rfl, Or.inl rfl⟩
      · exact Or.inl ⟨_, s', rfl, rfl⟩
    | true =>
      rw [Workflow.transition_batch hloop, Workflow.transition_batch hloop]
      rcases batches_agree (w := w) hpure (compile_compiled hw hstep) hloop hpool hpool'
        settings.failFast settings'.failFast (schedule.isPerm run.trail.length)
        (schedule'.isPerm run.trail.length) run.context s
        with ⟨t, hleft, hright⟩ | ⟨e, e', hleft, hright⟩
      · rw [hleft, hright]
        exact Or.inl ⟨_, s, rfl, rfl⟩
      · rw [hleft, hright]
        exact Or.inr ⟨e, e', s, s, rfl, rfl, Or.inr ⟨step, rfl, hloop⟩⟩

theorem runs_alike (initial : Json) (s : σ) (k : Nat) :
    Alike w settings settings' schedule schedule' initial s k := by
  induction k with
  | zero => exact .together rfl rfl
  | succ k ih =>
    cases ih with
    | broken earlier left right errors =>
      exact .broken (Nat.lt_succ_of_lt earlier) left right errors
    | @together run s' left right =>
      have hleft := Workflow.iterate_succ left
      have hright := Workflow.iterate_succ right
      cases haction : run.context.action with
      | finish =>
        rw [haction] at hleft hright
        exact .together hleft hright
      | step index =>
        rw [haction] at hleft hright
        rcases visits_agree hw hpure hpool hpool' run index s'
          with ⟨next, s₁, hvisit, hvisit'⟩ | ⟨e, e', s₁, s₂, hvisit, hvisit', herrors⟩
        · exact .together (hleft.trans hvisit) (hright.trans hvisit')
        · exact .broken (Nat.lt_succ_self k) ⟨run, s', s₁, left, haction, hvisit⟩
            ⟨run, s', s₂, right, haction, hvisit'⟩ herrors

end Runs

theorem Alike.answers {initial : Json} {s : σ} {k : Nat}
    (h : Alike w settings settings' schedule schedule' initial s k) (answer : Option RunReport)
    (s' : σ) :
    Job.runOn (w.simulate settings schedule k initial) s = (.ok answer, s') ↔
      Job.runOn (w.simulate settings' schedule' k initial) s = (.ok answer, s') := by
  rw [Workflow.simulate, Workflow.simulate, Workflow.drive_iterate, Workflow.drive_iterate]
  cases h with
  | together left right => rw [left, right]
  | broken earlier left right =>
    obtain ⟨_, hleft⟩ := left.iterate earlier
    obtain ⟨_, hright⟩ := right.iterate earlier
    rw [hleft, hright]
    constructor
    · intro h; cases h
    · intro h; cases h

end Lockstep

/-! ## Waits and pauses -/

/-- The wait in seconds that a visit asks for by itself: that of a `wait`, or that of a `wait until`
whose condition answers no. -/
def Stop.asks (registry : Registry σ) (statements : List Statement) (stop : Stop σ) : Nat :=
  match (statements[stop.index]?).map Statement.kind with
  | some (.wait seconds) => seconds
  | some (.waitUntil seconds condition) =>
    match (registry.conditions.find? condition).map fun holds =>
        (Job.runOn (holds stop.context.result) stop.state).1 with
    | some (.ok false) => seconds
    | _ => 0
  | _ => 0

/-- The pauses after visits in milliseconds, one for each visit that asked for a wait. -/
def pauses (settings : SimulatorSettings) (visits : List Visit) : List Nat :=
  (visits.filter fun visit => 0 < visit.wait).map fun visit => settings.pauseFor visit.wait

theorem total_pause_eq (settings : SimulatorSettings) (visits : List Visit) :
    totalPause settings visits = (pauses settings visits).sum := by
  induction visits with
  | nil => rfl
  | cons visit visits ih =>
    by_cases hwait : visit.wait = 0
    · simp [totalPause, Visit.pause, pauses, hwait, ih]
    · simp [totalPause, Visit.pause, pauses, hwait, ih, Nat.pos_of_ne_zero hwait]

theorem total_pause_honor {settings : SimulatorSettings} (h : settings.pause = .honor)
    (visits : List Visit) :
    totalPause settings visits = 1000 * (visits.map (·.wait)).sum := by
  induction visits with
  | nil => rfl
  | cons visit visits ih =>
    have hpause : visit.pause settings = 1000 * visit.wait := by
      by_cases hwait : visit.wait = 0
      · simp [Visit.pause, hwait]
      · simp [Visit.pause, hwait, SimulatorSettings.pauseFor, h]
    rw [totalPause, ih, hpause, List.map_cons, List.sum_cons, Nat.mul_add]

theorem total_pause_fixed {settings : SimulatorSettings} (h : settings.pause = .fixed)
    (visits : List Visit) :
    totalPause settings visits =
      settings.fixedPauseMs * visits.countP fun visit => 0 < visit.wait := by
  induction visits with
  | nil => rfl
  | cons visit visits ih =>
    by_cases hwait : visit.wait = 0
    · simp [totalPause, Visit.pause, hwait, ih]
    · simp [totalPause, Visit.pause, hwait, ih, SimulatorSettings.pauseFor, h,
        Nat.pos_of_ne_zero hwait, Nat.mul_add, Nat.add_comm]

section Waits

variable {program : Program} {registry : Registry σ} {w : Workflow σ}
  {settings : SimulatorSettings} {schedule : Schedule}

/-- A step that is done hands on its own wait. Keys in the context are not empty, so that a `wait`
never skips. -/
theorem Step.Proposes.wait_asked {statements : List Statement} {i : Nat} {step : Step σ}
    {ctx : Context} {s s₁ s' : σ} {a : Advance} (h : Compiled registry statements i step)
    (hsingle : step.isLoop = false) (hkeys : ctx.keys ≠ some []) (hadmits : step.Admits ctx s s₁)
    (hproposes : step.Proposes ctx s₁ a s') :
    a.wait = Stop.asks registry statements ⟨i, ctx, s⟩ := by
  cases h with
  | call hst hk | reduce hst hk | fanOut hst hk =>
    have hasks : Stop.asks registry statements ⟨i, ctx, s⟩ = 0 := by simp [Stop.asks, hst, hk]
    rw [hasks]
    exact hproposes.wait_eq.elim id id
  | completed =>
    have hasks : Stop.asks registry statements ⟨statements.length, ctx, s⟩ = 0 := by
      simp [Stop.asks]
    rw [hasks]
    exact hproposes.wait_eq.elim id id
  | wait hst hk =>
    rcases hproposes.of_pass rfl (entry_context _) with ⟨_, ⟨_, _, hempty, _⟩ | ⟨_, rfl⟩⟩
    · exact absurd hempty hkeys
    · simp [Stop.asks, hst, hk]
  | waitUntil hst hk found =>
    cases hadmits with
    | always free => cases free
    | holds polls ran =>
      cases polls
      have hasks : Stop.asks registry statements ⟨i, ctx, s⟩ = 0 := by
        simp [Stop.asks, hst, hk, found, ran]
      rw [hasks]
      exact hproposes.wait_eq.elim id id
  | loop hst hk => simp [Step.isLoop, hk, Kind.isLoop] at hsingle

theorem Compiled.retry_asked {statements : List Statement} {i : Nat} {step : Step σ}
    {ctx : Context} {s s' : σ} {poll : Poll σ} (h : Compiled registry statements i step)
    (hpoll : step.poll = some poll)
    (hdeclined : Job.runOn (poll.holds ctx.result) s = (.ok false, s')) :
    poll.seconds = Stop.asks registry statements ⟨i, ctx, s⟩ := by
  cases h with
  | waitUntil hst hk found =>
    cases hpoll
    simp [Stop.asks, hst, hk, found, hdeclined]
  | _ => cases hpoll

variable (hw : Workflow.compile program registry = .ok w)

include hw

/-- Every transition overwrites the wait of the one before. -/
theorem comes_wait {stop : Stop σ} (hkeys : stop.context.keys ≠ some []) {t : Transition} {s' : σ}
    (h : w.Comes settings stop (.ok t) s') :
    (stop.context.apply t).wait = stop.asks registry program.statements := by
  cases h.visited hw with
  | invoked compiled single ends =>
    rcases ends.of_ok with ⟨poll, polls, declined, rfl⟩ | ⟨a, _, admits, proposes, settled⟩
    · exact compiled.retry_asked polls declined
    · obtain ⟨action, result, rfl⟩ := Step.settle_advance settled
      exact proposes.wait_asked compiled single hkeys admits
  | batched _ here kind _ _ ends =>
    have hasks : stop.asks registry program.statements = 0 := by simp [Stop.asks, here, kind]
    rw [hasks]
    rcases ends.of_ok with ⟨_, _, rfl⟩ | ⟨_, _, _, _, _, _, _, rfl⟩
    · rfl
    · rfl

/-- A run records its visits one by one, each with the wait that it asks for. -/
theorem iterate_trail {run run' : Run} (hkeys : run.context.keys ≠ some []) {k : Nat} {s s' : σ}
    (h : Job.runOn (w.iterate settings schedule k run) s = (.ok run', s')) :
    run'.trail.reverse = run.trail.reverse ++ (w.stops settings schedule k run s).map fun stop =>
      ⟨w.actionName (.step stop.index), stop.asks registry program.statements⟩ := by
  induction k generalizing run s with
  | zero => cases h; simp [Workflow.stops]
  | succ k ih =>
    cases haction : run.context.action with
    | finish =>
      rw [Workflow.iterate_finish haction] at h
      cases h
      simp [Workflow.stops_finish haction]
    | step index =>
      rw [Workflow.iterate_visit haction] at h
      rcases hvisit : Job.runOn (w.visit settings schedule run index) s with ⟨e | next, s₁⟩
      · rw [hvisit] at h
        cases h
      rw [hvisit] at h
      obtain ⟨t, hcomes, hcontext⟩ := Workflow.visit_comes hvisit
      have hnext := hcomes.keys_ne hw hkeys
      rw [← hcontext] at hnext
      have htrail : next.trail = ⟨w.actionName (.step index),
          Stop.asks registry program.statements ⟨index, run.context, s⟩⟩ :: run.trail := by
        have hwait := comes_wait hw hkeys hcomes
        rw [← hcontext] at hwait
        obtain ⟨step, t', hstep, _, rfl⟩ := Workflow.visit_eq_ok hvisit
        rw [Workflow.action_name_step hstep, ← hwait]
        rfl
      rw [ih hnext h, htrail, Workflow.stops_visit haction hvisit]
      simp

end Waits

/-- With pure iteration functions, neither the settings nor the order of delivery shows in a run:
two runs are in the same state after any number of visits, or both broke off at the same visit, and
only a batch may fail with another error. With more workers than a pool can have, a run breaks off
when it comes to a `foreach` that has keys. A run pauses once after each visit that asks for a wait
by itself, and after no other. -/
theorem settings_shape_pauses_only {program : Program} {registry : Registry σ} {w : Workflow σ}
    (hw : Workflow.compile program registry = .ok w) (settings settings' : SimulatorSettings)
    (schedule schedule' : Schedule) (initial : Json) (s : σ) :
    (registry.PureIterations → settings.workerPoolSize ≤ largestPool →
      settings'.workerPoolSize ≤ largestPool → ∀ k,
      Alike w settings settings' schedule schedule' initial s k ∧
      ∀ answer s', Job.runOn (w.simulate settings schedule k initial) s = (.ok answer, s') ↔
        Job.runOn (w.simulate settings' schedule' k initial) s = (.ok answer, s')) ∧
    (largestPool < settings.workerPoolSize → ∀ k run s' index,
      Job.runOn (w.iterate settings schedule k (.start w.entry initial)) s = (.ok run, s') →
      run.context.action = .step index → Stop.HasBatch w ⟨index, run.context, s'⟩ →
      w.BreaksAt settings schedule initial s k index .poolTooLarge) ∧
    ∀ k run s',
      Job.runOn (w.iterate settings schedule k (.start w.entry initial)) s = (.ok run, s') →
      Job.runOn (w.simulate settings schedule k initial) s = (.ok run.report?, s') ∧
      (run.trail.reverse = (w.itinerary settings schedule k initial s).map fun stop =>
        ⟨w.actionName (.step stop.index), stop.asks registry program.statements⟩) ∧
      totalPause settings run.trail.reverse = (pauses settings run.trail.reverse).sum ∧
      (settings.pause = .honor →
        totalPause settings run.trail.reverse = 1000 * (run.trail.reverse.map (·.wait)).sum) ∧
      (settings.pause = .fixed → totalPause settings run.trail.reverse =
        settings.fixedPauseMs * run.trail.reverse.countP fun visit => 0 < visit.wait) := by
  refine ⟨?_, ?_, ?_⟩
  · intro hpure hpool hpool' k
    have halike : Alike w settings settings' schedule schedule' initial s k :=
      runs_alike hw hpure hpool hpool' initial s k
    exact ⟨halike, halike.answers⟩
  · intro hpool k run s' index h haction hbatch
    exact ⟨run, s', s', h, haction, hbatch.breaks hpool run rfl⟩
  · intro k run s' h
    refine ⟨?_, ?_, total_pause_eq _ _, ?_, ?_⟩
    · rw [Workflow.simulate, Workflow.drive_iterate, h]
    · exact iterate_trail hw (by simp [Run.start]) h
    · intro hhonor
      exact total_pause_honor hhonor _
    · intro hfixed
      exact total_pause_fixed hfixed _

def pacedProgram : Program where
  statements := [.at "split" 1 (.call "split") 0, .at "foreach wrap" 2 (.loop "wrap") 1,
    .at "wait 2 until ready" 3 (.waitUntil 2 "ready") 2, .at "wait 3" 4 (.wait 3) 3]
  version := ""

def pacedRegistry : Registry Nat where
  fanOuts := ⟨[("split", fun x => pure (x, [.int 7, .int 8]))]⟩
  iterations := ⟨[("wrap", fun _ key => pure (.arr [key]))]⟩
  conditions := ⟨[("ready", fun _ => do
    let asked ← get
    set (asked + 1)
    return asked == 1)]⟩

theorem paced_pure : pacedRegistry.PureIterations := by
  intro name f hf x key
  obtain ⟨rfl, rfl⟩ := by simpa [pacedRegistry] using find_mem hf
  exact ⟨_, fun _ => rfl⟩

def Schedule.inReverse : Schedule where
  order _ workers := (List.range workers).reverse
  isPerm _ _ := List.reverse_perm _

def hasty : SimulatorSettings where
  workerPoolSize := 1
  pause := .fixed
  fixedPauseMs := 10
  failFast := false

def pacedEnd : Run where
  context := { action := .finish, result := .int 1, keys := some [.int 7, .int 8]
               values := some [.arr [.int 7], .arr [.int 8]] }
  trail := [⟨completedName, 0⟩, ⟨"_wait_3_3", 3⟩, ⟨"_wait_2_until_ready_2", 0⟩,
    ⟨"_wait_2_until_ready_2", 2⟩, ⟨"_foreach_wrap_1", 0⟩, ⟨"_func_split_0", 0⟩]

theorem paced_runs_alike : ∃ w, Workflow.compile pacedProgram pacedRegistry = .ok w ∧
    pacedRegistry.PureIterations ∧ Alike w {} hasty .inKeyOrder .inReverse (.int 1) 0 6 ∧
    Job.runOn (w.iterate {} .inKeyOrder 6 (.start w.entry (.int 1))) 0 = (.ok pacedEnd, 2) ∧
    Job.runOn (w.iterate hasty .inReverse 6 (.start w.entry (.int 1))) 0 = (.ok pacedEnd, 2) ∧
    totalPause {} pacedEnd.trail.reverse = 1000 * 5 ∧
    totalPause hasty pacedEnd.trail.reverse = 10 * 2 ∧
    w.BreaksAt { workerPoolSize := largestPool + 1 } .inKeyOrder (.int 1) 0 1 1 .poolTooLarge := by
  obtain ⟨w, hw, hleft, hright, hbatch⟩ : ∃ w, Workflow.compile pacedProgram pacedRegistry = .ok w ∧
      Job.runOn (w.iterate {} .inKeyOrder 6 (.start w.entry (.int 1))) 0 = (.ok pacedEnd, 2) ∧
      Job.runOn (w.iterate hasty .inReverse 6 (.start w.entry (.int 1))) 0 = (.ok pacedEnd, 2) ∧
      ∃ run, Job.runOn (w.iterate { workerPoolSize := largestPool + 1 } .inKeyOrder 1
        (.start w.entry (.int 1))) 0 = (.ok run, 0) ∧ run.context.action = .step 1 ∧
        Stop.HasBatch w ⟨1, run.context, (0 : Nat)⟩ :=
    ⟨_, rfl, by cbv, by cbv, _, rfl, rfl, _, _, rfl, rfl, rfl, List.cons_ne_nil _ _⟩
  obtain ⟨halike, _, hpauses⟩ :=
    settings_shape_pauses_only hw {} hasty .inKeyOrder .inReverse (.int 1) 0
  obtain ⟨_, _, hpauses'⟩ :=
    settings_shape_pauses_only hw hasty {} .inReverse .inKeyOrder (.int 1) 0
  obtain ⟨_, hbreaks, _⟩ := settings_shape_pauses_only hw { workerPoolSize := largestPool + 1 } {}
    .inKeyOrder .inKeyOrder (.int 1) 0
  obtain ⟨_, _, _, hhonor, _⟩ := hpauses 6 pacedEnd 2 hleft
  obtain ⟨_, _, _, _, hfixed⟩ := hpauses' 6 pacedEnd 2 hright
  obtain ⟨run, hrun, haction, hbatch⟩ := hbatch
  exact ⟨w, hw, paced_pure, (halike paced_pure (by decide) (by decide) 6).1, hleft, hright,
    hhonor rfl, hfixed rfl, hbreaks (Nat.lt_succ_self _) 1 run 0 1 hrun haction hbatch⟩

/-- With more workers than a pool can have, a run breaks off at its first batch, while one with
fewer ends well. -/
theorem oversized_pool_parts_runs : ∃ w, Workflow.compile pacedProgram pacedRegistry = .ok w ∧
    pacedRegistry.PureIterations ∧
    Job.runOn (w.iterate {} .inKeyOrder 6 (.start w.entry (.int 1))) 0 = (.ok pacedEnd, 2) ∧
    Job.runOn (w.iterate { workerPoolSize := largestPool + 1 } .inKeyOrder 6
      (.start w.entry (.int 1))) 0 = (.error .poolTooLarge, 0) ∧
    ¬ Alike w {} { workerPoolSize := largestPool + 1 } .inKeyOrder .inKeyOrder (.int 1) 0 6 := by
  obtain ⟨w, hw, hwell, hbroken⟩ : ∃ w, Workflow.compile pacedProgram pacedRegistry = .ok w ∧
      Job.runOn (w.iterate {} .inKeyOrder 6 (.start w.entry (.int 1))) 0 = (.ok pacedEnd, 2) ∧
      Job.runOn (w.iterate { workerPoolSize := largestPool + 1 } .inKeyOrder 6
        (.start w.entry (.int 1))) 0 = (.error .poolTooLarge, 0) := ⟨_, rfl, by cbv, by cbv⟩
  refine ⟨w, hw, paced_pure, hwell, hbroken, ?_⟩
  intro halike
  cases halike with
  | together _ right => cases hbroken.symm.trans right
  | broken earlier left =>
    obtain ⟨_, herror⟩ := left.iterate earlier
    cases hwell.symm.trans herror

end Lineflow
