import Lineflow.Proofs.FanOutJoin

/-! # Fan-out batches

The workers of one batch settle the same result, so they agree on where to go, and each of them
delivers a value or fails by itself. A batch therefore answers alike for every order of delivery.
-/
namespace Lineflow

variable {σ : Type}

def RunError.isJoinFault : RunError → Bool
  | .disagreement .. => true
  | .violation _ .lostOutputs => true
  | .violation _ .noWorkerValue => true
  | .violation _ .workerRetry => true
  | _ => false

/-- The answers of registered iteration functions depend on their arguments alone. -/
def Registry.PureIterations (registry : Registry σ) : Prop :=
  ∀ name f, registry.iterations.find? name = some f →
    ∀ result key, ∃ r, Job.Yields (f result key) r

namespace Batch

variable {registry : Registry σ} {statements : List Statement} {w : Workflow σ} {i : Nat}
  {loop : Step σ} {ctx : Context} {keys : List Json}

/-! ## One worker -/

/-- A worker runs the iteration function on its key and settles the shared result. -/
theorem loop_invoke (hloop : Compiled registry statements i loop) (h : loop.isLoop = true)
    (hkeys : ctx.keys = some keys) (hne : keys ≠ []) :
    ∃ name f carried, loop.work = .iterate name f ∧ registry.iterations.find? name = some f ∧
      ∀ key s, Job.runOn (w.invoke loop (ctx.forKey key)) s =
        match Job.runOn (f ctx.result key) s with
        | (.ok v, s') =>
          (loop.settle w.names
            { action := loop.next, result := ctx.result, keys := carried, value := some v }, s')
        | (.error e, s') => (.error (loop.report name e), s') := by
  obtain ⟨st, name, f, hst, hk, hf, rfl⟩ := hloop.of_loop h
  obtain ⟨first, rest, rfl⟩ := List.exists_cons_of_ne_nil hne
  cases hentry : Plan.entryBefore statements i with
  | none =>
    refine ⟨name, f, none, rfl, hf, ?_⟩
    intro key s
    rw [Workflow.invoke, Step.invoke_without_poll rfl, Step.proceed_without_keys rfl,
      Step.perform_iterate rfl]
    rfl
  | some entry =>
    refine ⟨name, f, some (first :: rest), rfl, hf, ?_⟩
    intro key s
    rw [Workflow.invoke, Step.invoke_without_poll rfl, Step.proceed_with_context rfl]
    simp only [Context.forKey, hkeys]
    exact Step.perform_iterate rfl

/-- The answer of the worker of a key, before a crash becomes its own error. -/
def answerIn (w : Workflow σ) (loop : Step σ) (ctx : Context) (s : σ) (key : Json) :
    Except RunError Transition :=
  (Job.runOn (w.invoke loop (ctx.forKey key)) s).1

theorem worker_run (key : Json) (s : σ) :
    (worker w loop ctx key).run s =
      (match answerIn w loop ctx s key with
        | .ok t => deliverable loop.name t
        | .error e => .error (contain loop.name e),
      (Job.runOn (w.invoke loop (ctx.forKey key)) s).2) := by
  simp only [worker, StateT.run_bind]
  show (match answerIn w loop ctx s key with
    | .ok t => (pure (deliverable loop.name t) : StateM σ WorkerOutcome)
    | .error e => pure (.error (contain loop.name e))).run _ = _
  cases answerIn w loop ctx s key <;> rfl

def outcomeIn (w : Workflow σ) (loop : Step σ) (ctx : Context) (key : Json) (s : σ) :
    WorkerOutcome :=
  ((worker w loop ctx key).run s).1

theorem outcome_in_error {key : Json} {s : σ} {e : RunError}
    (h : answerIn w loop ctx s key = .error e) :
    outcomeIn w loop ctx key s = .error (contain loop.name e) := by
  rw [outcomeIn, worker_run, h]

theorem answer_of_outcome_ok {key : Json} {s : σ} {v : Json × Action}
    (h : outcomeIn w loop ctx key s = .ok v) : ∃ t, answerIn w loop ctx s key = .ok t := by
  cases ht : answerIn w loop ctx s key with
  | ok t => exact ⟨t, rfl⟩
  | error e => rw [outcome_in_error ht] at h; cases h

theorem outcome_in_ok (hloop : Compiled registry statements i loop) (h : loop.isLoop = true)
    (hkeys : ctx.keys = some keys) (hne : keys ≠ []) {key : Json} {s : σ} {t : Transition}
    (ht : answerIn w loop ctx s key = .ok t) :
    ∃ a v, t = .advance a ∧ a.value = some v ∧ outcomeIn w loop ctx key s = .ok (v, a.action) ∧
      ∃ result, loop.settle w.names { action := loop.next, result := ctx.result } =
        .ok (.advance { action := a.action, result }) := by
  obtain ⟨name, f, carried, _, _, hinvoke⟩ := loop_invoke (w := w) hloop h hkeys hne
  have ht' := ht
  rw [answerIn, hinvoke] at ht'
  split at ht'
  · next v s' _ =>
    obtain ⟨action, result, rfl, hshared⟩ := Step.settle_congr ht'
      (b := { action := loop.next, result := ctx.result }) rfl rfl
    refine ⟨_, v, rfl, rfl, ?_, result, hshared⟩
    rw [outcomeIn, worker_run, ht]
    rfl
  · cases ht'

theorem workers_agree (hloop : Compiled registry statements i loop) (h : loop.isLoop = true)
    (hkeys : ctx.keys = some keys) (hne : keys ≠ []) :
    ∃ action, ∀ key s value other, outcomeIn w loop ctx key s = .ok (value, other) →
      other = action := by
  cases hsettle : loop.settle w.names { action := loop.next, result := ctx.result } with
  | error e =>
    refine ⟨.finish, ?_⟩
    intro key s value other hok
    cases ht : answerIn w loop ctx s key with
    | error e => rw [outcome_in_error ht] at hok; cases hok
    | ok t =>
      obtain ⟨_, _, _, _, _, _, hshared⟩ := outcome_in_ok hloop h hkeys hne ht
      rw [hsettle] at hshared
      cases hshared
  | ok shared =>
    obtain ⟨action, result, rfl⟩ := Step.settle_advance hsettle
    refine ⟨action, ?_⟩
    intro key s value other hok
    cases ht : answerIn w loop ctx s key with
    | error e => rw [outcome_in_error ht] at hok; cases hok
    | ok t =>
      obtain ⟨a, v, _, _, hout, _, hshared⟩ := outcome_in_ok hloop h hkeys hne ht
      rw [hout] at hok
      cases hok
      rw [hsettle] at hshared
      cases hshared
      rfl

theorem settle_no_join_fault {names : List String} {a : Advance} {e : RunError}
    (h : loop.settle names a = .error e) : (contain loop.name e).isJoinFault = false := by
  unfold Step.settle at h
  split at h
  · cases h
  · cases h; rfl
  · split at h
    · cases h
    · cases h; rfl

/-- A worker of a compiled step fails by a user function or by the override that all share. -/
theorem worker_no_join_fault (hloop : Compiled registry statements i loop) (h : loop.isLoop = true)
    (hkeys : ctx.keys = some keys) (hne : keys ≠ []) {key : Json} {s : σ} {e : RunError}
    (he : outcomeIn w loop ctx key s = .error e) : e.isJoinFault = false := by
  cases ht : answerIn w loop ctx s key with
  | ok t =>
    obtain ⟨_, _, _, _, hout, _⟩ := outcome_in_ok hloop h hkeys hne ht
    rw [hout] at he
    cases he
  | error e' =>
    rw [outcome_in_error ht] at he
    cases he
    obtain ⟨name, f, carried, _, _, hinvoke⟩ := loop_invoke (w := w) hloop h hkeys hne
    rw [answerIn, hinvoke] at ht
    split at ht
    · exact settle_no_join_fault ht
    · next halt _ _ =>
      cases ht
      cases halt <;> rfl

/-! ## All workers -/

/-- Outcomes that the workers of a batch can deliver, each from a state of its own. Interleaved
workers of functions that share a state are among them. -/
structure Possible (w : Workflow σ) (loop : Step σ) (ctx : Context) (keys : List Json)
    (outcomes : List WorkerOutcome) : Prop where
  length_eq : outcomes.length = keys.length
  each : ∀ (i : Nat) (key : Json), keys[i]? = some key →
    ∃ s, outcomes[i]? = some (outcomeIn w loop ctx key s)

theorem outcomes_cons (key : Json) (keys : List Json) (s : σ) :
    (outcomes w loop ctx (key :: keys)).run s =
      (outcomeIn w loop ctx key s ::
          ((outcomes w loop ctx keys).run ((worker w loop ctx key).run s).2).1,
        ((outcomes w loop ctx keys).run ((worker w loop ctx key).run s).2).2) := by
  simp only [outcomes, List.mapM_cons, StateT.run_bind, StateT.run_pure]
  rfl

theorem outcomes_possible (keys : List Json) (s : σ) :
    Possible w loop ctx keys ((outcomes w loop ctx keys).run s).1 := by
  induction keys generalizing s with
  | nil => exact ⟨rfl, by simp⟩
  | cons key keys ih =>
    obtain ⟨hlen, heach⟩ := ih ((worker w loop ctx key).run s).2
    rw [outcomes_cons]
    refine ⟨by simp [hlen], ?_⟩
    intro i k hk
    cases i with
    | zero => cases hk; exact ⟨s, rfl⟩
    | succ i => exact heach i k hk

/-- Pure workers leave the state alone, so that all of them start in the same state. -/
theorem outcomes_pure (hpure : registry.PureIterations)
    (hloop : Compiled registry statements i loop) (h : loop.isLoop = true)
    (hkeys : ctx.keys = some keys) (hne : keys ≠ []) (ks : List Json) (s : σ) :
    (outcomes w loop ctx ks).run s = (ks.map fun key => outcomeIn w loop ctx key s, s) := by
  obtain ⟨name, f, carried, _, hf, hinvoke⟩ := loop_invoke (w := w) hloop h hkeys hne
  have hstate : ∀ key, ((worker w loop ctx key).run s).2 = s := by
    intro key
    obtain ⟨r, hr⟩ := hpure name f hf ctx.result key
    rw [worker_run]
    show (Job.runOn (w.invoke loop (ctx.forKey key)) s).2 = s
    rw [hinvoke, hr s]
    cases r <;> rfl
  induction ks with
  | nil => rfl
  | cons key ks ih => rw [outcomes_cons, hstate, ih, List.map_cons]

theorem Possible.nonempty {outcomes : List WorkerOutcome} (hp : Possible w loop ctx keys outcomes)
    (hne : keys ≠ []) : outcomes ≠ [] := by
  intro hnil
  have hlen := hp.length_eq
  rw [hnil] at hlen
  exact hne (List.length_eq_zero_iff.mp hlen.symm)

theorem Possible.at_position {outcomes : List WorkerOutcome}
    (hp : Possible w loop ctx keys outcomes) {j : Nat} {outcome : WorkerOutcome}
    (hj : outcomes[j]? = some outcome) : ∃ key s, outcomeIn w loop ctx key s = outcome := by
  have hlt : j < keys.length := hp.length_eq ▸ (List.getElem?_eq_some_iff.mp hj).1
  obtain ⟨s, hs⟩ := hp.each j keys[j] (List.getElem?_eq_getElem hlt)
  rw [hj] at hs
  exact ⟨_, s, (Option.some.inj hs).symm⟩

theorem Possible.agree_on {outcomes : List WorkerOutcome} (hp : Possible w loop ctx keys outcomes)
    {action : Action} (h : ∀ key s value other,
      outcomeIn w loop ctx key s = .ok (value, other) → other = action) :
    Agree action outcomes := by
  intro j value other hj
  obtain ⟨key, s, hs⟩ := hp.at_position hj
  exact h key s value other hs

theorem Possible.agree {outcomes : List WorkerOutcome} (hp : Possible w loop ctx keys outcomes)
    (hloop : Compiled registry statements i loop) (h : loop.isLoop = true)
    (hkeys : ctx.keys = some keys) (hne : keys ≠ []) :
    ∃ action, Agree action outcomes := by
  obtain ⟨action, hagree⟩ := workers_agree (w := w) hloop h hkeys hne
  exact ⟨action, hp.agree_on hagree⟩

theorem split_at_failure (outcomes : List WorkerOutcome) (order : List Nat) :
    (∀ i ∈ order, ∀ e, outcomes[i]? ≠ some (.error e)) ∨
      ∃ (before : List Nat) (i : Nat) (after : List Nat) (e : RunError),
        order = before ++ i :: after ∧ outcomes[i]? = some (.error e) ∧
        ∀ j ∈ before, ∀ e, outcomes[j]? ≠ some (.error e) := by
  induction order with
  | nil => exact .inl (by simp)
  | cons i order ih =>
    by_cases hi : ∃ e, outcomes[i]? = some (.error e)
    · obtain ⟨e, he⟩ := hi
      exact .inr ⟨[], i, order, e, rfl, he, by simp⟩
    have hi' : ∀ e, outcomes[i]? ≠ some (.error e) := fun e he => hi ⟨e, he⟩
    rcases ih with hnone | ⟨before, j, after, e, horder, he, hbefore⟩
    · refine .inl ?_
      intro j hj
      rcases List.mem_cons.mp hj with rfl | hj
      · exact hi'
      · exact hnone j hj
    · refine .inr ⟨i :: before, j, after, e, by rw [horder]; rfl, he, ?_⟩
      intro k hk
      rcases List.mem_cons.mp hk with rfl | hk
      · exact hi'
      · exact hbefore k hk

theorem ok_of_not_error {outcomes : List WorkerOutcome} {i : Nat} (hi : i < outcomes.length)
    (h : ∀ e, outcomes[i]? ≠ some (.error e)) : ∃ v, outcomes[i]? = some (.ok v) := by
  cases ho : outcomes[i] with
  | error e => exact absurd (by rw [List.getElem?_eq_getElem hi, ho]) (h e)
  | ok v => exact ⟨v, by rw [List.getElem?_eq_getElem hi, ho]⟩

theorem least_failure {outcomes : List WorkerOutcome} {i : Nat} {e : RunError}
    (h : outcomes[i]? = some (.error e)) :
    ∃ (low : Nat) (first : RunError), outcomes[low]? = some (.error first) ∧
      ∀ j, j < low → ∃ v, outcomes[j]? = some (.ok v) := by
  induction i using Nat.strongRecOn generalizing e with
  | ind i ih =>
    by_cases hlow : ∃ j, j < i ∧ ∃ e', outcomes[j]? = some (.error e')
    · obtain ⟨j, hj, e', he'⟩ := hlow
      exact ih j hj he'
    · refine ⟨i, e, h, ?_⟩
      intro j hj
      have hi := (List.getElem?_eq_some_iff.mp h).1
      exact ok_of_not_error (by omega) fun e' he' => hlow ⟨j, hj, e', he'⟩

/-- A join of agreeing outcomes gives all the values or the error of one of the workers. -/
theorem join_cases {action : Action} {outcomes : List WorkerOutcome} (w : Workflow σ)
    (loop : Step σ) (ctx : Context) (failFast : Bool) (agree : Agree action outcomes)
    {order : List Nat}
    (hperm : order.Perm (List.range outcomes.length)) (hne : outcomes ≠ []) :
    ((∀ i, i < outcomes.length → ∃ v, outcomes[i]? = some (.ok v)) ∧
      join w loop ctx failFast order outcomes =
        .ok (.advance { action, result := ctx.result
                        values := some ((outcomes.map delivered?).filterMap id) })) ∨
    ∃ (i : Nat) (e : RunError), outcomes[i]? = some (.error e) ∧
      join w loop ctx failFast order outcomes = .error e := by
  rcases split_at_failure outcomes order with hnone | ⟨before, i, after, e, horder, he, hbefore⟩
  · have hok : ∀ i, i < outcomes.length → ∃ v, outcomes[i]? = some (.ok v) := fun i hi =>
      ok_of_not_error hi (hnone i ((order_mem_iff hperm).mpr hi))
    exact .inl ⟨hok, join_all_ok failFast w loop ctx agree hperm hne hok⟩
  · right
    cases failFast with
    | true =>
      refine ⟨i, e, he, join_first_failure w loop ctx agree horder (fun j hj => ?_) he⟩
      exact ok_of_not_error ((order_mem_iff hperm).mp (by rw [horder]; simp [hj])) (hbefore j hj)
    | false =>
      obtain ⟨low, first, hlow, hleast⟩ := least_failure he
      exact ⟨low, first, hlow, join_lowest_failure w loop ctx agree hperm hlow hleast⟩

theorem Possible.no_join_fault {outcomes : List WorkerOutcome}
    (hp : Possible w loop ctx keys outcomes) (hloop : Compiled registry statements i loop)
    (h : loop.isLoop = true) (hkeys : ctx.keys = some keys) (hne : keys ≠ []) (failFast : Bool)
    {order : List Nat} (hperm : order.Perm (List.range keys.length)) {e : RunError}
    (he : join w loop ctx failFast order outcomes = .error e) : e.isJoinFault = false := by
  obtain ⟨action, agree⟩ := hp.agree hloop h hkeys hne
  rw [← hp.length_eq] at hperm
  rcases join_cases w loop ctx failFast agree hperm (hp.nonempty hne)
    with ⟨_, hok⟩ | ⟨j, e', hj, hjoin⟩
  · rw [hok] at he
    cases he
  · rw [hjoin] at he
    cases he
    obtain ⟨key, s, hs⟩ := hp.at_position hj
    exact worker_no_join_fault hloop h hkeys hne hs

/-! ## The batch -/

theorem run_nonempty (hkeys : ctx.keys = some keys) (hne : keys ≠ []) {pool : Nat}
    (hpool : pool ≤ largestPool) (failFast : Bool) (order : Nat → List Nat) (s : σ) :
    Job.runOn (run w loop ctx pool failFast order) s =
      (join w loop ctx failFast (order keys.length) ((outcomes w loop ctx keys).run s).1,
        ((outcomes w loop ctx keys).run s).2) := by
  obtain ⟨first, rest, rfl⟩ := List.exists_cons_of_ne_nil hne
  have hnot : ¬ largestPool < pool := by omega
  simp only [run, hkeys, hnot, if_false, Job.run_on_bind, Job.run_on_lift_state, Job.run_on_lift]

theorem run_pool_too_large (hkeys : ctx.keys = some keys) (hne : keys ≠ []) {pool : Nat}
    (hpool : largestPool < pool) (failFast : Bool) (order : Nat → List Nat) (s : σ) :
    Job.runOn (run w loop ctx pool failFast order) s = (.error .poolTooLarge, s) := by
  obtain ⟨first, rest, rfl⟩ := List.exists_cons_of_ne_nil hne
  simp only [run, hkeys, hpool, if_true, Job.run_on_bind, Job.run_on_throw]

theorem run_no_keys (hkeys : ctx.keys = none) (pool : Nat) (failFast : Bool)
    (order : Nat → List Nat) (s : σ) :
    Job.runOn (run w loop ctx pool failFast order) s =
      (.error (.violation loop.name .noBatchKeys), s) := by
  simp only [run, hkeys, Job.run_on_throw]

theorem run_empty (hkeys : ctx.keys = some []) (pool : Nat) (failFast : Bool)
    (order : Nat → List Nat) (s : σ) :
    Job.runOn (run w loop ctx pool failFast order) s =
      (.ok (.advance { action := loop.next, result := ctx.result, values := some [] }), s) := by
  simp only [run, hkeys, Job.run_on_pure]

structure LosslessJoin (w : Workflow σ) (loop : Step σ) (ctx : Context) (keys : List Json)
    (failFast : Bool) (order : List Nat) (s : σ) (result : Except RunError Transition) : Prop where
  ok_iff : (∃ t, result = .ok t) ↔ ∀ key ∈ keys, ∃ t, answerIn w loop ctx s key = .ok t
  in_key_order : ∀ t, result = .ok t → ∃ action values,
    t = .advance { action, result := ctx.result, values := some values } ∧
    values.length = keys.length ∧
    ∀ (i : Nat) (key : Json), keys[i]? = some key → ∃ a v,
      answerIn w loop ctx s key = .ok (.advance a) ∧ a.action = action ∧ a.value = some v ∧
      values[i]? = some v
  lowest_failure : failFast = false → ∀ (i : Nat) (key : Json) (e : RunError),
    keys[i]? = some key → answerIn w loop ctx s key = .error e →
    (∀ j, j < i → ∀ k, keys[j]? = some k → ∃ t, answerIn w loop ctx s k = .ok t) →
    result = .error (contain loop.name e)
  first_failure : failFast = true → ∀ (before after : List Nat) (i : Nat) (key : Json)
    (e : RunError), order = before ++ i :: after → keys[i]? = some key →
    answerIn w loop ctx s key = .error e →
    (∀ j ∈ before, ∀ k, keys[j]? = some k → ∃ t, answerIn w loop ctx s k = .ok t) →
    result = .error (contain loop.name e)

theorem lossless_empty (failFast : Bool) (s : σ) :
    LosslessJoin w loop ctx [] failFast [] s
      (.ok (.advance { action := loop.next, result := ctx.result, values := some [] })) := by
  constructor
  · simp
  · intro t ht
    cases ht
    exact ⟨loop.next, [], rfl, rfl, by simp⟩
  · intro _ i key e hkey
    simp at hkey
  · intro _ before after i key e horder
    simp at horder

structure Reports (w : Workflow σ) (loop : Step σ) (ctx : Context) (keys : List Json) (s : σ)
    (action : Action) (outcomes : List WorkerOutcome) : Prop where
  length_eq : outcomes.length = keys.length
  agree : Agree action outcomes
  success : ∀ (j : Nat) (k : Json), keys[j]? = some k →
    (∃ t, answerIn w loop ctx s k = .ok t) → ∃ v, outcomes[j]? = some (.ok v)
  failure : ∀ (j : Nat) (k : Json) (e : RunError), keys[j]? = some k →
    answerIn w loop ctx s k = .error e → outcomes[j]? = some (.error (contain loop.name e))
  value : ∀ (j : Nat) (k v : Json) (other : Action), keys[j]? = some k →
    outcomes[j]? = some (.ok (v, other)) →
    ∃ a, answerIn w loop ctx s k = .ok (.advance a) ∧ a.action = action ∧ a.value = some v

theorem reports_workers (hloop : Compiled registry statements i loop) (h : loop.isLoop = true)
    (hkeys : ctx.keys = some keys) (hne : keys ≠ []) (s : σ) :
    ∃ action, Reports w loop ctx keys s action
      (keys.map fun key => outcomeIn w loop ctx key s) := by
  obtain ⟨action, hagree⟩ := workers_agree (w := w) hloop h hkeys hne
  have hat : ∀ (j : Nat) (k : Json), keys[j]? = some k →
      (keys.map fun key => outcomeIn w loop ctx key s)[j]? = some (outcomeIn w loop ctx k s) := by
    intro j k hk
    rw [List.getElem?_map, hk, Option.map_some]
  refine ⟨action, ?_, ?_, ?_, ?_, ?_⟩
  · exact List.length_map _
  · intro j value other hj
    rw [List.getElem?_map] at hj
    obtain ⟨k, _, hout⟩ := Option.map_eq_some_iff.mp hj
    exact hagree k s value other hout
  · rintro j k hk ⟨t, ht⟩
    obtain ⟨a, v, _, _, hout, _⟩ := outcome_in_ok hloop h hkeys hne ht
    exact ⟨(v, a.action), by rw [hat j k hk, hout]⟩
  · intro j k e hk he
    rw [hat j k hk, outcome_in_error he]
  · intro j k v other hk hv
    rw [hat j k hk] at hv
    have hout := Option.some.inj hv
    obtain ⟨t, ht⟩ := answer_of_outcome_ok hout
    obtain ⟨a, u, rfl, hu, hout', _⟩ := outcome_in_ok hloop h hkeys hne ht
    rw [hout'] at hout
    cases hout
    exact ⟨a, ht, hagree k s _ a.action hout', hu⟩

section Reports

variable {s : σ} {action : Action} {outcomes : List WorkerOutcome} {order : List Nat}

theorem Reports.nonempty (hr : Reports w loop ctx keys s action outcomes) (hne : keys ≠ []) :
    outcomes ≠ [] := by
  intro hnil
  have hlen := hr.length_eq
  rw [hnil] at hlen
  exact hne (List.length_eq_zero_iff.mp hlen.symm)

theorem Reports.ok_iff (hr : Reports w loop ctx keys s action outcomes) (hne : keys ≠ [])
    (failFast : Bool) (hperm : order.Perm (List.range outcomes.length)) :
    (∃ t, join w loop ctx failFast order outcomes = .ok t) ↔
      ∀ key ∈ keys, ∃ t, answerIn w loop ctx s key = .ok t := by
  have hcases := join_cases w loop ctx failFast hr.agree hperm (hr.nonempty hne)
  constructor
  · rintro ⟨t, ht⟩ key hmem
    obtain ⟨j, hj⟩ := List.mem_iff_getElem?.mp hmem
    rcases hcases with ⟨hall, _⟩ | ⟨_, _, _, hjoin⟩
    · have hlt : j < outcomes.length := by
        rw [hr.length_eq]
        exact (List.getElem?_eq_some_iff.mp hj).1
      obtain ⟨⟨v, other⟩, hv⟩ := hall j hlt
      obtain ⟨a, ha, _⟩ := hr.value j key v other hj hv
      exact ⟨_, ha⟩
    · rw [hjoin] at ht
      cases ht
  · intro hgood
    rcases hcases with ⟨_, hjoin⟩ | ⟨j, e, hj, _⟩
    · exact ⟨_, hjoin⟩
    · have hlt : j < keys.length := hr.length_eq ▸ (List.getElem?_eq_some_iff.mp hj).1
      obtain ⟨v, hv⟩ := hr.success j keys[j] (List.getElem?_eq_getElem hlt)
        (hgood _ (List.getElem_mem hlt))
      rw [hj] at hv
      cases hv

theorem Reports.in_key_order (hr : Reports w loop ctx keys s action outcomes) (hne : keys ≠ [])
    {failFast : Bool} (hperm : order.Perm (List.range outcomes.length)) {t : Transition}
    (ht : join w loop ctx failFast order outcomes = .ok t) :
    ∃ values, t = .advance { action, result := ctx.result, values := some values } ∧
      values.length = keys.length ∧
      ∀ (j : Nat) (key : Json), keys[j]? = some key → ∃ a v,
        answerIn w loop ctx s key = .ok (.advance a) ∧ a.action = action ∧ a.value = some v ∧
        values[j]? = some v := by
  rcases join_cases w loop ctx failFast hr.agree hperm (hr.nonempty hne) with
    ⟨hall, hjoin⟩ | ⟨_, _, _, hjoin⟩
  · rw [hjoin] at ht
    cases ht
    refine ⟨_, rfl, (all_delivered hall).1.trans hr.length_eq, ?_⟩
    intro j key hj
    have hlt : j < outcomes.length := by
      rw [hr.length_eq]
      exact (List.getElem?_eq_some_iff.mp hj).1
    obtain ⟨⟨v, other⟩, hv⟩ := hall j hlt
    obtain ⟨a, ha, haction, hvalue⟩ := hr.value j key v other hj hv
    exact ⟨a, v, ha, haction, hvalue, (all_delivered hall).2 j v other hv⟩
  · rw [hjoin] at ht
    cases ht

theorem Reports.lowest_failure (hr : Reports w loop ctx keys s action outcomes)
    (hperm : order.Perm (List.range outcomes.length)) {j : Nat} {key : Json} {e : RunError}
    (hj : keys[j]? = some key) (he : answerIn w loop ctx s key = .error e)
    (hlow : ∀ j', j' < j → ∀ k, keys[j']? = some k → ∃ t, answerIn w loop ctx s k = .ok t) :
    join w loop ctx false order outcomes = .error (contain loop.name e) := by
  refine join_lowest_failure w loop ctx hr.agree hperm (hr.failure j key e hj he) ?_
  intro j' hj'
  have hlt := (List.getElem?_eq_some_iff.mp hj).1
  have hkey : keys[j']? = some keys[j'] := List.getElem?_eq_getElem (by omega)
  exact hr.success j' _ hkey (hlow j' hj' _ hkey)

theorem Reports.first_failure (hr : Reports w loop ctx keys s action outcomes)
    (hperm : order.Perm (List.range outcomes.length)) {before after : List Nat} {j : Nat}
    {key : Json} {e : RunError} (horder : order = before ++ j :: after)
    (hj : keys[j]? = some key) (he : answerIn w loop ctx s key = .error e)
    (hbefore : ∀ j' ∈ before, ∀ k, keys[j']? = some k → ∃ t, answerIn w loop ctx s k = .ok t) :
    join w loop ctx true order outcomes = .error (contain loop.name e) := by
  refine join_first_failure w loop ctx hr.agree horder ?_ (hr.failure j key e hj he)
  intro j' hj'
  have hlt : j' < keys.length := by
    rw [← hr.length_eq]
    exact (order_mem_iff hperm).mp (by rw [horder]; simp [hj'])
  have hkey : keys[j']? = some keys[j'] := List.getElem?_eq_getElem hlt
  exact hr.success j' _ hkey (hbefore j' hj' _ hkey)

end Reports

theorem lossless_join (hloop : Compiled registry statements i loop) (h : loop.isLoop = true)
    (hkeys : ctx.keys = some keys) (hne : keys ≠ []) (failFast : Bool) {order : List Nat}
    (hperm : order.Perm (List.range keys.length)) (s : σ) :
    LosslessJoin w loop ctx keys failFast order s
      (join w loop ctx failFast order (keys.map fun key => outcomeIn w loop ctx key s)) := by
  obtain ⟨action, hr⟩ := reports_workers (w := w) hloop h hkeys hne s
  rw [← hr.length_eq] at hperm
  constructor
  · exact hr.ok_iff hne failFast hperm
  · intro t ht
    exact ⟨action, hr.in_key_order hne hperm ht⟩
  · intro hslow j key e hj he hlow
    subst hslow
    exact hr.lowest_failure hperm hj he hlow
  · intro hfast before after j key e horder hj he hbefore
    subst hfast
    exact hr.first_failure hperm horder hj he hbefore

/-- Whatever the order of delivery, a batch of pure workers is lossless. With more workers than a
pool can have, one with keys breaks off before a worker starts. Whatever the user functions do, also
with a state that the workers share, no batch breaks in the join itself. -/
theorem batch_joins_losslessly {program : Program} (hw : Workflow.compile program registry = .ok w)
    (hi : w.steps[i]? = some loop) (h : loop.isLoop = true) (hkeys : ctx.keys = some keys)
    (pool : Nat) (failFast : Bool) (order : Nat → List Nat)
    (hperm : (order keys.length).Perm (List.range keys.length)) :
    (registry.PureIterations → pool ≤ largestPool → ∀ s,
      LosslessJoin w loop ctx keys failFast (order keys.length) s
        (Job.runOn (run w loop ctx pool failFast order) s).1) ∧
    (keys ≠ [] → largestPool < pool → ∀ s,
      Job.runOn (run w loop ctx pool failFast order) s = (.error .poolTooLarge, s)) ∧
    (∀ s e, (Job.runOn (run w loop ctx pool failFast order) s).1 = .error e →
      e.isJoinFault = false) ∧
    ∀ outcomes e, Possible w loop ctx keys outcomes →
      join w loop ctx failFast (order keys.length) outcomes = .error e → e.isJoinFault = false := by
  have hloop := compile_compiled hw hi
  by_cases hne : keys = []
  · subst hne
    obtain hnil : order 0 = [] := hperm.eq_nil
    refine ⟨fun _ _ s => ?_, fun hne => absurd rfl hne, fun s e he => ?_,
      fun outcomes e hp he => ?_⟩
    · rw [run_empty hkeys, List.length_nil, hnil]
      exact lossless_empty failFast s
    · rw [run_empty hkeys] at he
      cases he
    · obtain rfl : outcomes = [] := List.length_eq_zero_iff.mp hp.length_eq
      rw [List.length_nil, hnil] at he
      cases he
  · refine ⟨fun hpure hpool s => ?_, fun _ hpool s => ?_, fun s e he => ?_,
      fun outcomes e hp he => ?_⟩
    · rw [run_nonempty hkeys hne hpool, outcomes_pure hpure hloop h hkeys hne]
      exact lossless_join hloop h hkeys hne failFast hperm s
    · exact run_pool_too_large hkeys hne hpool failFast order s
    · by_cases hpool : largestPool < pool
      · rw [run_pool_too_large hkeys hne hpool] at he
        cases he
        rfl
      · rw [run_nonempty hkeys hne (by omega)] at he
        exact (outcomes_possible keys s).no_join_fault hloop h hkeys hne failFast hperm he
    · exact hp.no_join_fault hloop h hkeys hne failFast hperm he

def wrapProgram : Program where
  statements := [.at "split" 1 (.call "split") 0, .at "foreach wrap" 2 (.loop "wrap") 1]
  version := ""

def wrapRegistry : Registry Unit where
  fanOuts := ⟨[("split", fun result => pure (result, [.int 7, .int 8, .int 7]))]⟩
  iterations := ⟨[("wrap", fun _ key => pure (.arr [key]))]⟩

def wrapContext : Context where
  action := .step 1
  result := .null
  keys := some [.int 7, .int 8, .int 7]

theorem wrap_batch_joins : ∃ w loop, Workflow.compile wrapProgram wrapRegistry = .ok w ∧
    w.steps[1]? = some loop ∧ loop.isLoop = true ∧
    LosslessJoin w loop wrapContext [.int 7, .int 8, .int 7] true [2, 0, 1] ()
      (Job.runOn (run w loop wrapContext 1 true fun _ => [2, 0, 1]) ()).1 ∧
    (Job.runOn (run w loop wrapContext 1 true fun _ => [2, 0, 1]) ()).1 =
      .ok (.advance { action := .step 2, result := .null
                      values := some [.arr [.int 7], .arr [.int 8], .arr [.int 7]] }) ∧
    Job.runOn (run w loop wrapContext (largestPool + 1) true fun _ => [2, 0, 1]) () =
      (.error .poolTooLarge, ()) := by
  have hw : Workflow.compile wrapProgram wrapRegistry = .ok _ := rfl
  have hkeys : wrapContext.keys = some [.int 7, .int 8, .int 7] := rfl
  refine ⟨_, _, hw, rfl, rfl, ?_, rfl, ?_⟩
  · exact (batch_joins_losslessly hw (i := 1) rfl rfl hkeys 1 true (fun _ => [2, 0, 1])
      (by decide)).1 (fun _ _ _ _ _ => ⟨_, Job.yields_unit _⟩) (by decide) ()
  · exact (batch_joins_losslessly hw (i := 1) rfl rfl hkeys (largestPool + 1) true
      (fun _ => [2, 0, 1]) (by decide)).2.1 (List.cons_ne_nil _ _) (Nat.lt_succ_self _) ()

/-- With more workers than a pool can have a batch breaks off, though every worker would do well. -/
theorem oversized_pool_loses_batch : ∃ w loop, Workflow.compile wrapProgram wrapRegistry = .ok w ∧
    w.steps[1]? = some loop ∧ loop.isLoop = true ∧ wrapRegistry.PureIterations ∧
    (∀ key ∈ [Json.int 7, .int 8, .int 7], ∃ t, answerIn w loop wrapContext () key = .ok t) ∧
    (Job.runOn (run w loop wrapContext (largestPool + 1) false List.range) ()).1 =
      .error .poolTooLarge := by
  refine ⟨_, _, rfl, rfl, rfl, fun _ _ _ _ _ => ⟨_, Job.yields_unit _⟩, fun key _ => ⟨_, rfl⟩, rfl⟩

end Batch

end Lineflow
