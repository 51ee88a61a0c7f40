import Lineflow.Proofs.CallLog

/-! # Where the keys of a batch come from

Only a fan-out function brings keys into the context, and only a list that is not empty gets there.
So a batch runs over the latest list that was not empty, however long ago it was returned.
-/
namespace Lineflow

variable {σ : Type}

/-! ## Reading a log -/

def latestKeys : List Event → Option (List Json)
  | [] => none
  | .fanOut keys :: _ => some keys
  | .iteration _ :: log => latestKeys log

/-- The latest keys, fan-outs without keys left out. -/
def latestNonempty : List Event → Option (List Json)
  | [] => none
  | .fanOut [] :: log => latestNonempty log
  | .fanOut (key :: keys) :: _ => some (key :: keys)
  | .iteration _ :: log => latestNonempty log

/-- Every iteration was run on one of the latest keys that were not empty. -/
def Sourced : List Event → Prop
  | [] => True
  | .fanOut _ :: log => Sourced log
  | .iteration key :: log => (∃ keys, latestNonempty log = some keys ∧ key ∈ keys) ∧ Sourced log

theorem latest_nonempty_ne_nil (log : List Event) : latestNonempty log ≠ some [] := by
  fun_induction latestNonempty log with
  | case1 => simp
  | case2 log ih => exact ih
  | case3 key keys log => simp
  | case4 key log ih => exact ih

theorem latest_keys_eq_iff (log : List Event) :
    latestNonempty log = latestKeys log ↔ latestKeys log ≠ some [] := by
  constructor
  · intro h
    rw [← h]
    exact latest_nonempty_ne_nil log
  · intro h
    fun_induction latestNonempty log with
    | case1 => rfl
    | case2 log => exact absurd rfl h
    | case3 key keys log => rfl
    | case4 key log ih => exact ih h

theorem latest_nonempty_iterations (keys : List Json) (log : List Event) :
    latestNonempty (keys.map .iteration ++ log) = latestNonempty log := by
  induction keys with
  | nil => rfl
  | cons key keys ih => exact ih

theorem sourced_iterations {keys all : List Json} {log : List Event}
    (hlatest : latestNonempty log = some all) (hsub : ∀ key ∈ keys, key ∈ all)
    (hlog : Sourced log) : Sourced (keys.map .iteration ++ log) := by
  induction keys with
  | nil => exact hlog
  | cons key keys ih =>
    have hlatest' := (latest_nonempty_iterations keys log).trans hlatest
    exact ⟨⟨all, hlatest', hsub key List.mem_cons_self⟩,
      ih fun k hk => hsub k (List.mem_cons_of_mem _ hk)⟩

/-! ## What one step writes down -/

inductive Noted (ctx : Context) (log : List Event) (r : Except RunError Transition) :
    List Event → Prop where
  | quiet (kept : ∀ t, r = .ok t → (ctx.apply t).keys = ctx.keys) : Noted ctx log r log
  | fanOut (keys : List Json)
      (taken : ∀ t, r = .ok t → (ctx.apply t).keys = if keys = [] then ctx.keys else some keys) :
      Noted ctx log r (.fanOut keys :: log)
  | batch (keys : List Json) (source : ctx.keys = some keys)
      (kept : ∀ t, r = .ok t → (ctx.apply t).keys = ctx.keys) :
      Noted ctx log r (keys.reverse.map .iteration ++ log)

theorem Noted.broken {ctx : Context} {log : List Event} {e : RunError} :
    Noted ctx log (.error e) log := by
  refine .quiet ?_
  intro t h
  cases h

section Steps

variable {registry : Registry σ} {statements : List Statement} {i : Nat} {step : Step σ}
  {names : List String} {ctx : Context}

theorem settle_keys {a : Advance} {t : Transition} (h : step.settle names a = .ok t)
    (ctx : Context) : (ctx.apply t).keys = a.keys.or ctx.keys := by
  obtain ⟨action, result, rfl⟩ := Step.settle_advance h
  rfl

theorem settle_quiet (a : Advance) (log : List Event) (h : a.keys = none ∨ a.keys = ctx.keys) :
    Noted ctx log (step.settle names a) log := by
  refine .quiet ?_
  intro t ht
  rw [settle_keys ht]
  rcases h with h | h
  · rw [h]; rfl
  · rw [h]; cases ctx.keys <;> rfl

/-- A step without a function of its own hands the keys of the context on. -/
theorem proceed_noted (entry : Option FanOutEntry) (hwork : step.work = .pass)
    (hfan : step.fanOut = entry.map fun entry => ⟨entry.reduce, .context⟩) (p : Logged σ) :
    Noted ctx p.2 (Job.runOn (step.logged.proceed names ctx) p).1
      (Job.runOn (step.logged.proceed names ctx) p).2.2 := by
  have hpass : step.logged.work = .pass := by rw [Step.logged, hwork]; rfl
  cases entry with
  | none =>
    have hnone : step.logged.fanOut = none := by rw [Step.logged, hfan]; rfl
    rw [Step.proceed_without_keys hnone, Step.perform_pass hpass]
    exact settle_quiet _ _ (.inl rfl)
  | some entry =>
    have hsome : step.logged.fanOut = some ⟨entry.reduce, .context⟩ := by
      rw [Step.logged, hfan]; rfl
    rw [Step.proceed_with_context hsome]
    rcases hkeys : ctx.keys with _ | _ | ⟨key, keys⟩
    · exact .broken
    · exact settle_quiet _ _ (.inl rfl)
    · dsimp only
      rw [Step.perform_pass hpass]
      exact settle_quiet _ _ (.inr hkeys.symm)

/-- Of the steps that are no `foreach`, the fan-outs alone write something down. -/
theorem invoke_noted (h : Compiled registry statements i step) (hloop : step.isLoop = false)
    (p : Logged σ) :
    Noted ctx p.2 (Job.runOn (step.logged.invoke names ctx) p).1
      (Job.runOn (step.logged.invoke names ctx) p).2.2 := by
  cases h with
  | @call i st name f =>
    rw [Step.invoke_without_poll rfl, Step.proceed_without_keys rfl, Step.perform_call rfl,
      Job.run_on_widen]
    rcases Job.runOn (f ctx.result) p.1 with ⟨e | v, s'⟩
    · exact .broken
    · exact settle_quiet _ _ (.inl rfl)
  | @reduce i st name f =>
    rw [Step.invoke_without_poll rfl, Step.proceed_without_keys rfl, Step.perform_reduce rfl]
    rcases ctx.values with _ | values
    · exact .broken
    · dsimp only
      rw [Job.run_on_widen]
      rcases Job.runOn (f ctx.result values) p.1 with ⟨e | v, s'⟩
      · exact .broken
      · exact settle_quiet _ _ (.inl rfl)
  | @fanOut i st name f entry =>
    rw [Step.invoke_without_poll rfl, Step.proceed_with_function rfl, run_on_fan_out_logged]
    rcases Job.runOn (f ctx.result) p.1 with ⟨e | ⟨c, _ | ⟨key, keys⟩⟩, s'⟩
    · exact .broken
    · refine .fanOut [] ?_
      intro t ht
      exact settle_keys ht ctx
    · dsimp only
      rw [Step.perform_pass rfl]
      refine .fanOut (key :: keys) ?_
      intro t ht
      exact settle_keys ht ctx
  | wait =>
    rw [Step.invoke_without_poll rfl]
    exact proceed_noted _ rfl rfl p
  | @waitUntil i st seconds name holds =>
    rw [Step.invoke_with_poll rfl, Poll.logged, Job.run_on_widen]
    rcases Job.runOn (holds ctx.result) p.1 with ⟨e | b, s'⟩
    · exact .broken
    · cases b with
      | true => exact proceed_noted _ rfl rfl (s', p.2)
      | false => exact .quiet fun t h => by cases h; rfl
  | loop _ kind => simp [Step.isLoop, kind, Kind.isLoop] at hloop
  | completed =>
    rw [Step.invoke_without_poll rfl]
    exact proceed_noted none rfl rfl p

end Steps

/-! ## What one batch writes down -/

namespace Batch

variable {registry : Registry σ} {statements : List Statement} {i : Nat} {w : Workflow σ}
  {loop : Step σ} {ctx : Context} {keys : List Json}

theorem worker_noted (h : Compiled registry statements i loop) (hloop : loop.isLoop = true)
    (hkeys : ctx.keys = some keys) (hne : keys ≠ []) (key : Json) (p : Logged σ) :
    ((worker w.logged loop.logged ctx key).run p).2.2 = .iteration key :: p.2 := by
  obtain ⟨st, name, f, _, _, _, rfl⟩ := h.of_loop hloop
  obtain ⟨first, rest, rfl⟩ := List.exists_cons_of_ne_nil hne
  rw [worker_run]
  cases Plan.entryBefore statements i with
  | none =>
    rw [Workflow.invoke, Step.invoke_without_poll rfl, Step.proceed_without_keys rfl,
      Step.perform_iterate rfl]
    simp only [Context.forKey, run_on_iteration_logged]
    rcases Job.runOn (f ctx.result key) p.1 with ⟨e | v, s'⟩ <;> rfl
  | some entry =>
    rw [Workflow.invoke, Step.invoke_without_poll rfl, Step.proceed_with_context rfl]
    simp only [Context.forKey, hkeys]
    rw [Step.perform_iterate rfl]
    simp only [run_on_iteration_logged]
    rcases Job.runOn (f ctx.result key) p.1 with ⟨e | v, s'⟩ <;> rfl

theorem outcomes_noted (h : Compiled registry statements i loop) (hloop : loop.isLoop = true)
    (hkeys : ctx.keys = some keys) (hne : keys ≠ []) (some : List Json) (p : Logged σ) :
    ((outcomes w.logged loop.logged ctx some).run p).2.2 =
      some.reverse.map .iteration ++ p.2 := by
  induction some generalizing p with
  | nil => rfl
  | cons key rest ih =>
    rw [outcomes_cons, ih, worker_noted h hloop hkeys hne]
    simp

theorem join_keeps_keys {failFast : Bool} {order : List Nat} {outcomes : List WorkerOutcome}
    {t : Transition} (h : join w loop ctx failFast order outcomes = .ok t) :
    (ctx.apply t).keys = ctx.keys := by
  obtain ⟨joined, _, h⟩ := except_bind_eq_ok h
  unfold conclude at h
  split at h
  · cases h
  · dsimp only at h
    split at h
    · cases h; rfl
    · cases h

theorem batch_noted (h : Compiled registry statements i loop) (hloop : loop.isLoop = true)
    (pool : Nat) (failFast : Bool) (order : Nat → List Nat) (p : Logged σ) :
    Noted ctx p.2 (Job.runOn (run w.logged loop.logged ctx pool failFast order) p).1
      (Job.runOn (run w.logged loop.logged ctx pool failFast order) p).2.2 := by
  cases hkeys : ctx.keys with
  | none =>
    simp only [run, hkeys]
    exact .broken
  | some keys =>
    by_cases hne : keys = []
    · subst hne
      rw [run_empty hkeys]
      exact .quiet fun t h => by cases h; rfl
    · by_cases hpool : largestPool < pool
      · rw [run_pool_too_large hkeys hne hpool]
        exact .broken
      · rw [run_nonempty hkeys hne (by omega), outcomes_noted h hloop hkeys hne]
        exact .batch keys hkeys fun t ht => join_keeps_keys ht

/-- Whatever becomes of its workers, a batch runs each key of the context once. -/
theorem batch_log (h : Compiled registry statements i loop) (hloop : loop.isLoop = true)
    {pool : Nat} (hpool : pool ≤ largestPool) (failFast : Bool) (order : Nat → List Nat)
    (p : Logged σ) :
    (Job.runOn (run w.logged loop.logged ctx pool failFast order) p).2.2 =
      (ctx.keys.getD []).reverse.map .iteration ++ p.2 := by
  rcases hkeys : ctx.keys with _ | _ | ⟨key, keys⟩
  · simp only [run, hkeys]; rfl
  · rw [run_empty hkeys]; rfl
  · rw [run_nonempty hkeys (List.cons_ne_nil key keys) hpool]
    exact outcomes_noted h hloop hkeys (List.cons_ne_nil key keys) (key :: keys) p

end Batch

/-! ## Runs -/

structure Keyed (run : Run) (log : List Event) : Prop where
  keys : run.context.keys = latestNonempty log
  sourced : Sourced log

theorem Noted.keyed {run : Run} {log log' : List Event} {r : Except RunError Transition}
    (hkeyed : Keyed run log) (h : Noted run.context log r log') :
    Sourced log' ∧ ∀ t name, r = .ok t → Keyed (run.after name t) log' := by
  cases h with
  | quiet kept =>
    refine ⟨hkeyed.sourced, ?_⟩
    intro t name ht
    exact ⟨(kept t ht).trans hkeyed.keys, hkeyed.sourced⟩
  | fanOut keys taken =>
    refine ⟨hkeyed.sourced, ?_⟩
    intro t name ht
    refine ⟨(taken t ht).trans ?_, hkeyed.sourced⟩
    -- An empty list leaves the context as it was, and the log's latest non-empty list too.
    cases keys with
    | nil => exact hkeyed.keys
    | cons key keys => rfl
  | batch keys source kept =>
    have hlatest : latestNonempty log = some keys := by rw [← hkeyed.keys, source]
    have hsourced : Sourced (keys.reverse.map .iteration ++ log) :=
      sourced_iterations hlatest (fun key hk => List.mem_reverse.mp hk) hkeyed.sourced
    refine ⟨hsourced, ?_⟩
    intro t name ht
    exact ⟨by rw [latest_nonempty_iterations]; exact (kept t ht).trans hkeyed.keys, hsourced⟩

section Runs

variable {program : Program} {registry : Registry σ} {w : Workflow σ}
  {settings : SimulatorSettings} {schedule : Schedule} {initial : Json} {run : Run} {s : σ}

theorem transition_noted (hw : Workflow.compile program registry = .ok w) {i : Nat} {step : Step σ}
    (hstep : w.steps[i]? = some step) (settings : SimulatorSettings) (order : Nat → List Nat)
    (ctx : Context) (p : Logged σ) :
    Noted ctx p.2 (Job.runOn (w.logged.transition settings order step.logged ctx) p).1
      (Job.runOn (w.logged.transition settings order step.logged ctx) p).2.2 := by
  have h := compile_compiled hw hstep
  cases hloop : step.isLoop with
  | true =>
    rw [Workflow.transition_batch (by exact hloop)]
    exact Batch.batch_noted h hloop _ _ _ p
  | false =>
    rw [Workflow.transition_step (by exact hloop)]
    exact invoke_noted h hloop p

/-- A visit keeps the keys of the context up to date with the log, and breaks off with a log that is
in order. -/
theorem visit_keyed (hw : Workflow.compile program registry = .ok w)
    (settings : SimulatorSettings) (schedule : Schedule) {p : Logged σ} (hkeyed : Keyed run p.2)
    (index : Nat) :
    Sourced (Job.runOn (w.logged.visit settings schedule run index) p).2.2 ∧
      ∀ run', (Job.runOn (w.logged.visit settings schedule run index) p).1 = .ok run' →
        Keyed run' (Job.runOn (w.logged.visit settings schedule run index) p).2.2 := by
  cases hstep : w.steps[index]? with
  | none =>
    simp only [Workflow.visit, logged_step_at, hstep, Option.map_none, Job.run_on_throw]
    refine ⟨hkeyed.sourced, ?_⟩
    intro run' h
    cases h
  | some step =>
    rw [Workflow.visit_run_on (by rw [logged_step_at, hstep]; rfl)]
    have hnoted := transition_noted hw hstep settings (schedule.order run.trail.length)
      run.context p
    obtain ⟨hsourced, hnext⟩ := hnoted.keyed hkeyed
    generalize Job.runOn (w.logged.transition settings (schedule.order run.trail.length) step.logged
      run.context) p = ended at hsourced hnext
    obtain ⟨e | t, p'⟩ := ended
    · refine ⟨hsourced, ?_⟩
      intro run' h
      cases h
    · refine ⟨hsourced, ?_⟩
      intro run' h
      cases h
      exact hnext t _ rfl

theorem start_keyed (entry : Action) : Keyed (.start entry initial) [] := ⟨rfl, trivial⟩

theorem reachable_keyed (hw : Workflow.compile program registry = .ok w) {p : Logged σ}
    (h : w.logged.Reachable settings schedule initial (s, []) run p) : Keyed run p.2 := by
  induction h with
  | entry => exact start_keyed _
  | @visit run index p run' p' _ _ hvisit ih =>
    have hnext := (visit_keyed hw settings schedule ih index).2
    rw [hvisit] at hnext
    exact hnext run' rfl

theorem drive_sourced (hw : Workflow.compile program registry = .ok w) (bound : Nat)
    {p : Logged σ} (hkeyed : Keyed run p.2) :
    Sourced (Job.runOn (w.logged.drive settings schedule bound run) p).2.2 := by
  induction bound generalizing run p with
  | zero =>
    cases haction : run.context.action with
    | finish => rw [Workflow.drive_finish haction]; exact hkeyed.sourced
    | step index => rw [Workflow.drive_exhausted haction]; exact hkeyed.sourced
  | succ bound ih =>
    cases haction : run.context.action with
    | finish => rw [Workflow.drive_finish haction]; exact hkeyed.sourced
    | step index =>
      rw [Workflow.drive_visit haction]
      have hvisit := visit_keyed hw settings schedule hkeyed index
      generalize Job.runOn (w.logged.visit settings schedule run index) p = ended at hvisit
      obtain ⟨e | run', p'⟩ := ended
      · exact hvisit.1
      · exact ih (hvisit.2 run' rfl)

/-- Whenever a run is at a `foreach`, the keys of the context are the latest that were not empty,
and its batch runs each of them once. They are the keys of the latest fan-out exactly if that one
had any. The log is that of the run itself, and every iteration in it, in whatever way the run ends,
was on such a key. -/
theorem batch_over_latest_nonempty (hw : Workflow.compile program registry = .ok w)
    (settings : SimulatorSettings) (schedule : Schedule) (initial : Json) (s : σ) :
    (∀ run s' log i loop, w.logged.Reachable settings schedule initial (s, []) run (s', log) →
      run.context.action = .step i → w.steps[i]? = some loop → loop.isLoop = true →
      run.context.keys = latestNonempty log ∧
      (run.context.keys = latestKeys log ↔ latestKeys log ≠ some []) ∧
      (settings.workerPoolSize ≤ largestPool → ∀ order,
        (Job.runOn (w.logged.transition settings order loop.logged run.context) (s', log)).2.2 =
          ((latestNonempty log).getD []).reverse.map .iteration ++ log)) ∧
    (∀ bound, Job.Shadows (w.logged.simulate settings schedule bound initial)
      (w.simulate settings schedule bound initial)) ∧
    ∀ bound, Sourced
      (Job.runOn (w.logged.simulate settings schedule bound initial) (s, [])).2.2 := by
  refine ⟨?_, fun bound => Workflow.shadows_simulate bound initial, ?_⟩
  · intro run s' log i loop hreach _ hstep hloop
    have hkeys : run.context.keys = latestNonempty log := (reachable_keyed hw hreach).keys
    refine ⟨hkeys, by rw [hkeys]; exact latest_keys_eq_iff log, ?_⟩
    intro hpool order
    rw [Workflow.transition_batch (by exact hloop),
      Batch.batch_log (compile_compiled hw hstep) hloop hpool, hkeys]
  · intro bound
    exact drive_sourced hw bound (start_keyed _)

end Runs

/-- The second fan-out has no keys and skips its own `foreach`, but not the one after it. -/
def staleLines : List (List Char) :=
  ["one", "foreach echo", "none", "foreach echo", "foreach echo", "collect"].map String.toList

def staleProgram : Program := .ofStatements
  [.at "one" 1 (.call "one") 0, .at "foreach echo" 2 (.loop "echo") 1,
    .at "none" 3 (.call "none") 2, .at "foreach echo" 4 (.loop "echo") 3,
    .at "foreach echo" 5 (.loop "echo") 4, .at "collect" 6 (.call "collect") 5]

def staleRegistry : Registry Unit where
  fanOuts := ⟨[("one", fun x => pure (x, [.int 1])), ("none", fun x => pure (x, []))]⟩
  iterations := ⟨[("echo", fun _ k => pure k)]⟩
  reduces := ⟨[("collect", fun _ vs => pure (.arr vs))]⟩

theorem stale_batch_over_first_keys : ∃ w run log loop,
    Program.ofLines staleLines = .ok staleProgram ∧
    Workflow.compile staleProgram staleRegistry = .ok w ∧
    w.logged.Reachable {} .inKeyOrder (.int 0) ((), []) run ((), log) ∧
    run.context.action = .step 4 ∧ w.steps[4]? = some loop ∧ loop.isLoop = true ∧
    log = [.fanOut [], .iteration (.int 1), .fanOut [.int 1]] ∧
    run.context.keys = latestNonempty log ∧ ¬ run.context.keys = latestKeys log ∧
    (Job.runOn (w.simulate {} .inKeyOrder 9 (.int 0)) ()).1.map (Option.map RunReport.result) =
      .ok (some (.arr [.int 1])) := by
  have hw : Workflow.compile staleProgram staleRegistry = .ok _ := rfl
  have hstart := (batch_over_latest_nonempty hw {} .inKeyOrder (.int 0) ()).1
  obtain ⟨hkeys, hfresh, _⟩ := hstart _ _ _ 4 _
    (.visit (.visit (.visit .entry rfl rfl) rfl rfl) rfl rfl) rfl rfl rfl
  exact ⟨_, _, _, _, rfl, hw, .visit (.visit (.visit .entry rfl rfl) rfl rfl) rfl rfl, rfl, rfl,
    rfl, rfl, hkeys, fun h => hfresh.mp h rfl, rfl⟩

end Lineflow
