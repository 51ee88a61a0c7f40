import Lineflow.Proofs.Transitions

/-! # The meaning of a workflow

Pure user functions give a list of statements a meaning of its own: a value that is carried from
line to line. A simulated run of the compiled workflow computes this meaning.
-/
namespace Lineflow

variable {σ : Type}

structure Answers where
  call : String → Json → Except Halt Json
  fanOut : String → Json → Except Halt (Json × List Json)
  reduce : String → Json → List Json → Except Halt Json
  iteration : String → Json → Json → Except Halt Json

structure Answers.Plain (answers : Answers) : Prop where
  call : ∀ name x v, answers.call name x = .ok v → Override.Plain v
  fanOut : ∀ name x c ks, answers.fanOut name x = .ok (c, ks) → Override.Plain c
  reduce : ∀ name x vs v, answers.reduce name x vs = .ok v → Override.Plain v

/-- The registered functions are pure and answer as told, and the conditions hold. -/
structure Registry.Gives (registry : Registry σ) (answers : Answers) : Prop where
  call : ∀ name f, registry.calls.find? name = some f →
    ∀ x, Job.Yields (f x) (answers.call name x)
  fanOut : ∀ name f, registry.fanOuts.find? name = some f →
    ∀ x, Job.Yields (f x) (answers.fanOut name x)
  reduce : ∀ name f, registry.reduces.find? name = some f →
    ∀ x vs, Job.Yields (f x vs) (answers.reduce name x vs)
  iteration : ∀ name f, registry.iterations.find? name = some f →
    ∀ x k, Job.Yields (f x k) (answers.iteration name x k)
  condition : ∀ name f, registry.conditions.find? name = some f →
    ∀ x, Job.Yields (f x) (.ok true)

/-! ## The evaluator -/

def Halt.inStep (step function : String) : Halt → RunError
  | .failed failure => .functionFailed step function failure
  | .crashed message => .crashed message

def Halt.inWorker (step function : String) : Halt → RunError
  | .failed failure => .functionFailed step function failure
  | .crashed message => .workerCrashed step message

/-- Evaluates statements from left to right on the value `x`. The values of a `foreach` right before
the first statement are in `before`. -/
def evaluate (answers : Answers) : Option (List Json) → Json → List Statement → Except RunError Json
  | _, x, [] => .ok x
  | _, x, ⟨_, _, .call f, step⟩ :: ⟨_, _, .loop g, loop⟩ :: rest => do
    let (c, ks) ← (answers.fanOut f x).mapError (Halt.inStep step f)
    let vs ← ks.mapM fun k => (answers.iteration g c k).mapError (Halt.inWorker loop g)
    evaluate answers (some vs) c rest
  | some vs, x, ⟨_, _, .call h, step⟩ :: rest => do
    let y ← (answers.reduce h x vs).mapError (Halt.inStep step h)
    evaluate answers none y rest
  | none, x, ⟨_, _, .call f, step⟩ :: rest => do
    let y ← (answers.call f x).mapError (Halt.inStep step f)
    evaluate answers none y rest
  | _, x, _ :: rest => evaluate answers none x rest

def LoopsAreFed (statements : List Statement) : Prop :=
  ∀ i < statements.length, (statements[i]?).any (·.kind.isLoop) →
    0 < i ∧ (statements[i - 1]?).any (·.kind.isCall)

instance (statements : List Statement) : Decidable (LoopsAreFed statements) :=
  inferInstanceAs (Decidable (∀ i < statements.length, _))

/-! ## Pure transitions -/

theorem report_in_step (step : Step σ) (function : String) (halt : Halt) :
    step.report function halt = halt.inStep step.name function := by
  cases halt <;> rfl

theorem contain_in_step (step function : String) (halt : Halt) :
    Batch.contain step (halt.inStep step function) = halt.inWorker step function := by
  cases halt <;> rfl

theorem map_error_eq_ok {ε ε' α : Type} {f : ε → ε'} {x : Except ε α} {a : α}
    (h : x.mapError f = .ok a) : x = .ok a := by
  cases x with
  | error e => cases h
  | ok b => cases h; rfl

section Pure

variable {registry : Registry σ} {answers : Answers} {statements : List Statement}
  {w : Workflow σ} {settings : SimulatorSettings} {order : Nat → List Nat} {ctx : Context} {i : Nat}
  {step : Step σ} {st : Statement} {name : String}

theorem transition_call (hgives : registry.Gives answers) (hplain : answers.Plain)
    (h : Compiled registry statements i step) (hst : statements[i]? = some st)
    (hk : st.kind = .call name) (hentry : Plan.entryBefore statements i = none)
    (hfollows : Plan.followsLoop statements i = false) :
    Job.Yields (w.transition settings order step ctx)
      ((answers.call name ctx.result).mapError (Halt.inStep st.stepName name) >>= fun v =>
        .ok (.advance { action := .step (i + 1), result := v })) := by
  intro s
  have hloop := h.is_loop_eq hst
  rw [hk] at hloop
  rw [Workflow.transition_step hloop, Workflow.invoke]
  obtain ⟨f, hf, rfl⟩ := h.of_call hst hk hentry hfollows
  rw [Step.invoke_without_poll rfl, Step.proceed_without_keys rfl, Step.perform_call rfl,
    hgives.call name f hf ctx.result s]
  cases hv : answers.call name ctx.result with
  | error e => dsimp only; rw [report_in_step]; rfl
  | ok v => dsimp only; rw [Step.settle_plain (hplain.call _ _ _ hv)]; rfl

theorem transition_reduce (hgives : registry.Gives answers) (hplain : answers.Plain)
    (h : Compiled registry statements i step) (hst : statements[i]? = some st)
    (hk : st.kind = .call name) (hentry : Plan.entryBefore statements i = none)
    (hfollows : Plan.followsLoop statements i = true) {vs : List Json}
    (hvalues : ctx.values = some vs) :
    Job.Yields (w.transition settings order step ctx)
      ((answers.reduce name ctx.result vs).mapError (Halt.inStep st.stepName name) >>= fun v =>
        .ok (.advance { action := .step (i + 1), result := v })) := by
  intro s
  have hloop := h.is_loop_eq hst
  rw [hk] at hloop
  rw [Workflow.transition_step hloop, Workflow.invoke]
  obtain ⟨f, hf, rfl⟩ := h.of_reduce hst hk hentry hfollows
  rw [Step.invoke_without_poll rfl, Step.proceed_without_keys rfl, Step.perform_reduce rfl, hvalues]
  dsimp only
  rw [hgives.reduce name f hf ctx.result vs s]
  cases hv : answers.reduce name ctx.result vs with
  | error e => dsimp only; rw [report_in_step]; rfl
  | ok v => dsimp only; rw [Step.settle_plain (hplain.reduce _ _ _ _ hv)]; rfl

theorem transition_fan_out (hgives : registry.Gives answers) (hplain : answers.Plain)
    (h : Compiled registry statements i step) (hst : statements[i]? = some st)
    (hk : st.kind = .call name) {entry : FanOutEntry}
    (hentry : Plan.entryBefore statements i = some entry) :
    Job.Yields (w.transition settings order step ctx)
      ((answers.fanOut name ctx.result).mapError (Halt.inStep st.stepName name) >>= fun output =>
        .ok (.advance (match output with
          | (c, []) => { action := entry.reduce, result := c, values := some [] }
          | (c, k :: ks) =>
            { action := .step (i + 1), result := c, keys := some (k :: ks) }))) := by
  intro s
  have hloop := h.is_loop_eq hst
  rw [hk] at hloop
  rw [Workflow.transition_step hloop, Workflow.invoke]
  obtain ⟨f, hf, rfl⟩ := h.of_fan_out hst hk hentry
  rw [Step.invoke_without_poll rfl, Step.proceed_with_function rfl,
    hgives.fanOut name f hf ctx.result s]
  cases hv : answers.fanOut name ctx.result with
  | error e => dsimp only; rw [report_in_step]; rfl
  | ok output =>
    obtain ⟨c, ks⟩ := output
    have hc := hplain.fanOut _ _ _ _ hv
    cases ks with
    | nil => dsimp only; rw [Step.settle_plain hc]; rfl
    | cons k ks => dsimp only; rw [Step.perform_pass rfl, Step.settle_plain hc]; rfl

/-- A `wait` or `wait until` that feeds no `foreach` keeps the value. -/
theorem transition_pause (hgives : registry.Gives answers)
    (h : Compiled registry statements i step) (hst : statements[i]? = some st)
    (hcall : st.kind.isCall = false) (hnot : st.kind.isLoop = false)
    (hentry : Plan.entryBefore statements i = none) (hx : Override.Plain ctx.result) :
    Job.Yields (w.transition settings order step ctx)
      (.ok (.advance { action := .step (i + 1), wait := step.wait, result := ctx.result })) := by
  intro s
  have hloop := h.is_loop_eq hst
  rw [hnot] at hloop
  rw [Workflow.transition_step hloop, Workflow.invoke]
  obtain ⟨hwork, hnext, hfan, hpoll⟩ := h.of_pause hst hcall hnot
  rw [hentry] at hfan
  have hproceed : ∀ s, Job.runOn (step.proceed w.names ctx) s =
      (.ok (.advance { action := .step (i + 1), wait := step.wait, result := ctx.result }), s) := by
    intro s
    rw [Step.proceed_without_keys hfan, Step.perform_pass hwork, Step.settle_plain hx, hnext]
  cases hp : step.poll with
  | none => rw [Step.invoke_without_poll hp, hproceed]
  | some poll =>
    rw [Step.invoke_with_poll hp, hgives.condition _ _ (hpoll poll hp) ctx.result s]
    exact hproceed s

theorem transition_completed (h : Compiled registry statements statements.length step)
    (hx : Override.Plain ctx.result) :
    Job.Yields (w.transition settings order step ctx)
      (.ok (.advance { action := .finish, result := ctx.result })) := by
  intro s
  obtain rfl := h.of_completed
  rw [Workflow.transition_step rfl, Workflow.invoke, Step.invoke_without_poll rfl,
    Step.proceed_without_keys rfl, Step.perform_pass rfl, Step.settle_plain hx]

def WorkersAnswer (answers : Answers) (name : String) (w : Workflow σ) (step : Step σ)
    (ctx : Context) (s : σ) (a : Json → Advance) : Prop :=
  ∀ key, Batch.answerIn w step ctx s key =
    ((answers.iteration name ctx.result key).mapError (Halt.inStep step.name name) >>= fun v =>
      .ok (.advance (a v)))

theorem workers_answer (hgives : registry.Gives answers) (h : Compiled registry statements i step)
    (hst : statements[i]? = some st) (hk : st.kind = .loop name) {keys : List Json}
    (hkeys : ctx.keys = some keys) (hne : keys ≠ []) (hx : Override.Plain ctx.result) :
    ∃ carried, ∀ s, WorkersAnswer answers name w step ctx s fun v =>
      { action := .step (i + 1), result := ctx.result, keys := carried, value := some v } := by
  have hloop : step.isLoop = true := by rw [h.is_loop_eq hst, hk]; rfl
  obtain ⟨name', f, carried, hwork, hf, hinvoke⟩ := Batch.loop_invoke (w := w) h hloop hkeys hne
  refine ⟨carried, ?_⟩
  intro s key
  rw [Batch.answerIn, hinvoke]
  obtain ⟨st', name'', f', hst', hk', _, rfl⟩ := h.of_loop hloop
  rw [hst] at hst'
  cases hst'
  rw [hk] at hk'
  cases hk'
  cases hwork
  rw [hgives.iteration name f hf ctx.result key s]
  cases answers.iteration name ctx.result key with
  | error e => dsimp only; rw [report_in_step]; rfl
  | ok v => dsimp only; rw [Step.settle_plain hx]; rfl

section Workers

variable {a : Json → Advance} {s : σ} {keys : List Json} {arrival : List Nat}
  {result : Except RunError Transition}

theorem worker_ok (hanswer : WorkersAnswer answers name w step ctx s a) {key v : Json}
    (h : (answers.iteration name ctx.result key).mapError (Halt.inWorker step.name name) = .ok v) :
    Batch.answerIn w step ctx s key = .ok (.advance (a v)) := by
  rw [hanswer key, map_error_eq_ok h]
  rfl

theorem join_error (hanswer : WorkersAnswer answers name w step ctx s a)
    (hjoin : Batch.LosslessJoin w step ctx keys false arrival s result) {e : RunError}
    (h : (keys.mapM fun k =>
      (answers.iteration name ctx.result k).mapError (Halt.inWorker step.name name)) = .error e) :
    result = .error e := by
  obtain ⟨j, key, hj, he, hlow⟩ := mapM_error_at h
  -- The evaluator stops at this key; the batch hears all its workers and then picks it.
  cases hit : answers.iteration name ctx.result key with
  | ok v => rw [hit] at he; cases he
  | error halt =>
    rw [hit] at he
    cases he
    have hfail : Batch.answerIn w step ctx s key = .error (halt.inStep step.name name) := by
      rw [hanswer, hit]; rfl
    rw [hjoin.lowest_failure rfl j key _ hj hfail, contain_in_step]
    · intro j' hj' k hk
      obtain ⟨v, hv⟩ := hlow j' hj' k hk
      exact ⟨_, worker_ok hanswer hv⟩

theorem join_ok (hanswer : WorkersAnswer answers name w step ctx s a)
    (hjoin : Batch.LosslessJoin w step ctx keys false arrival s result) (hne : keys ≠ [])
    {vs : List Json} (haction : ∀ v, (a v).action = .step (i + 1))
    (hvalue : ∀ v, (a v).value = some v)
    (h : (keys.mapM fun k =>
      (answers.iteration name ctx.result k).mapError (Halt.inWorker step.name name)) = .ok vs) :
    result = .ok (.advance
      { action := .step (i + 1), result := ctx.result, values := some vs }) := by
  have heach : ∀ (j : Nat) (k : Json), keys[j]? = some k →
      ∃ v, vs[j]? = some v ∧ Batch.answerIn w step ctx s k = .ok (.advance (a v)) := by
    intro j k hk
    obtain ⟨v, hv, hit⟩ := mapM_ok_from h hk
    exact ⟨v, hv, worker_ok hanswer hit⟩
  obtain ⟨t, ht⟩ := hjoin.ok_iff.mpr (by
    intro key hmem
    obtain ⟨j, hj⟩ := List.mem_iff_getElem?.mp hmem
    obtain ⟨v, _, hv⟩ := heach j key hj
    exact ⟨_, hv⟩)
  obtain ⟨action, values, rfl, hlen, hat⟩ := hjoin.in_key_order t ht
  have hlen' := mapM_ok_length h
  have hvalues : values = vs := by
    apply List.ext_getElem?
    intro j
    by_cases hj : j < keys.length
    · obtain ⟨b, v, hb, _, hv, hvj⟩ := hat j keys[j] (List.getElem?_eq_getElem hj)
      obtain ⟨u, hu, hans⟩ := heach j keys[j] (List.getElem?_eq_getElem hj)
      rw [hans] at hb
      cases hb
      rw [hvalue u] at hv
      cases hv
      rw [hvj, hu]
    · rw [List.getElem?_eq_none (by omega), List.getElem?_eq_none (by omega)]
  have hjoint : action = .step (i + 1) := by
    have hpos : 0 < keys.length := List.length_pos_iff.mpr hne
    obtain ⟨b, _, hb, hagree, _⟩ := hat 0 keys[0] (List.getElem?_eq_getElem hpos)
    obtain ⟨u, _, hans⟩ := heach 0 keys[0] (List.getElem?_eq_getElem hpos)
    rw [hans] at hb
    cases hb
    rw [← hagree, haction u]
  rw [ht, hvalues, hjoint]

end Workers

/-- A batch that hears all its workers computes the values key by key. -/
theorem transition_loop (hgives : registry.Gives answers) (h : Compiled registry statements i step)
    (hst : statements[i]? = some st) (hk : st.kind = .loop name) {keys : List Json}
    (hkeys : ctx.keys = some keys) (hne : keys ≠ []) (hx : Override.Plain ctx.result)
    (hslow : settings.failFast = false) (hpool : settings.workerPoolSize ≤ largestPool)
    (hperm : (order keys.length).Perm (List.range keys.length)) :
    Job.Yields (w.transition settings order step ctx)
      ((keys.mapM fun k =>
          (answers.iteration name ctx.result k).mapError (Halt.inWorker st.stepName name)) >>=
        fun vs => .ok (.advance { action := .step (i + 1), result := ctx.result
                                  values := some vs })) := by
  intro s
  have hloop : step.isLoop = true := by rw [h.is_loop_eq hst, hk]; rfl
  have hpure : registry.PureIterations := fun name f hf x k =>
    ⟨_, hgives.iteration name f hf x k⟩
  rw [Workflow.transition_batch hloop, hslow, Batch.run_nonempty hkeys hne hpool,
    Batch.outcomes_pure hpure h hloop hkeys hne]
  have hjoin := Batch.lossless_join (w := w) h hloop hkeys hne false hperm s
  obtain ⟨carried, hanswer⟩ := workers_answer (w := w) hgives h hst hk hkeys hne hx
  rw [← h.name_eq hst]
  congr 1
  cases hvs : keys.mapM fun k =>
      (answers.iteration name ctx.result k).mapError (Halt.inWorker step.name name) with
  | error e => exact join_error (hanswer s) hjoin hvs
  | ok vs => exact join_ok (hanswer s) hjoin hne (fun _ => rfl) (fun _ => rfl) hvs

end Pure

/-! ## The refinement -/

/-- The driver is about to visit the statement at position `i`, where the evaluator carries `x` and
the values `before` of a `foreach` that has just ended. -/
structure AtStatement (statements : List Statement) (i : Nat) (before : Option (List Json))
    (x : Json) (run : Run) : Prop where
  within : i ≤ statements.length
  action : run.context.action = .step i
  result : run.context.result = x
  plain : Override.Plain x ∨ ∃ st, statements[i]? = some st ∧ st.kind.isCall = true
  follows : Plan.followsLoop statements i = before.isSome
  values : ∀ vs, before = some vs → run.context.values = some vs
  not_loop : ∀ st, statements[i]? = some st → st.kind.isLoop = false

/-- What is left of a run is the value that the evaluator computes. -/
def Ends (w : Workflow σ) (settings : SimulatorSettings) (schedule : Schedule) (bound : Nat)
    (run : Run) (s : σ) (outcome : Except RunError Json) : Prop :=
  (Job.runOn (w.drive settings schedule bound run) s).1.map (Option.map RunReport.result) =
    outcome.map some

section Refinement

variable {registry : Registry σ} {answers : Answers} {program : Program} {w : Workflow σ}
  {settings : SimulatorSettings} {schedule : Schedule} {run : Run} {i bound : Nat} {s : σ}

/-- One visit with a pure transition, as the first part of an evaluation. -/
theorem ends_visit {α : Type} {step : Step σ} {r : Except RunError α} {t : α → Transition}
    {k : α → Except RunError Json} (haction : run.context.action = .step i)
    (hstep : w.steps[i]? = some step)
    (hr : Job.Yields (w.transition settings (schedule.order run.trail.length) step run.context)
      (r >>= fun a => .ok (t a)))
    (hok : ∀ a, r = .ok a → Ends w settings schedule bound (run.after step.name (t a)) s (k a)) :
    Ends w settings schedule (bound + 1) run s (r >>= k) := by
  unfold Ends
  rw [Workflow.drive_visit haction, Workflow.visit_run_on hstep, hr s]
  cases r with
  | ok a => exact hok a rfl
  | error e => rfl

theorem ends_after {step : Step σ} {t : Transition} {outcome : Except RunError Json}
    (haction : run.context.action = .step i) (hstep : w.steps[i]? = some step)
    (hr : Job.Yields (w.transition settings (schedule.order run.trail.length) step run.context)
      (.ok t))
    (hnext : Ends w settings schedule bound (run.after step.name t) s outcome) :
    Ends w settings schedule (bound + 1) run s outcome := by
  unfold Ends
  rw [Workflow.drive_visit haction, Workflow.visit_run_on hstep, hr s]
  exact hnext

theorem ends_finish {x : Json} (haction : run.context.action = .finish)
    (hresult : run.context.result = x) : Ends w settings schedule bound run s (.ok x) := by
  unfold Ends
  rw [Workflow.drive_finish haction, hresult]
  rfl

theorem drop_eq_cons {α : Type} {xs rest : List α} {x : α} (h : xs.drop i = x :: rest) :
    xs[i]? = some x ∧ xs.drop (i + 1) = rest := by
  have hi : xs[i]? = some x := by
    have := congrArg List.head? h
    simpa [List.head?_drop] using this
  refine ⟨hi, ?_⟩
  have := congrArg List.tail h
  simpa [List.tail_drop] using this

theorem not_loop_after {statements : List Statement} (hfed : LoopsAreFed statements)
    {st : Statement} (hst : statements[i]? = some st) (hcall : st.kind.isCall = false) :
    ∀ next, statements[i + 1]? = some next → next.kind.isLoop = false := by
  intro next hnext
  cases hloop : next.kind.isLoop with
  | false => rfl
  | true =>
    have hlt := (List.getElem?_eq_some_iff.mp hnext).1
    have hbefore := (hfed (i + 1) hlt (by simp [hnext, hloop])).2
    simp [hst, hcall] at hbefore

/-- The default successor of a statement before which no values wait. -/
theorem at_next {statements : List Statement} {st : Statement} (hst : statements[i]? = some st)
    (hnot : st.kind.isLoop = false)
    (hnext : ∀ next, statements[i + 1]? = some next → next.kind.isLoop = false) {v : Json}
    (hv : Override.Plain v) (name : String) (wait : Nat) :
    AtStatement statements (i + 1) none v
      (run.after name (.advance { action := .step (i + 1), wait, result := v })) where
  within := (List.getElem?_eq_some_iff.mp hst).1
  action := rfl
  result := rfl
  plain := .inl hv
  follows := by rw [Plan.follows_loop_succ hst, hnot]; rfl
  values := by simp
  not_loop := hnext

theorem at_after_loop {statements : List Statement} (hfed : LoopsAreFed statements)
    {st : Statement} (hst : statements[i]? = some st) (hloop : st.kind.isLoop = true) {c : Json}
    (hc : Override.Plain c) {vs : List Json} (haction : run.context.action = .step (i + 1))
    (hresult : run.context.result = c) (hvalues : run.context.values = some vs) :
    AtStatement statements (i + 1) (some vs) c run where
  within := (List.getElem?_eq_some_iff.mp hst).1
  action := haction
  result := hresult
  plain := .inl hc
  follows := by rw [Plan.follows_loop_succ hst, hloop]; rfl
  values := by
    intro vs' h
    cases h
    exact hvalues
  not_loop := not_loop_after hfed hst (by
    cases hk : st.kind <;> simp [hk, Kind.isLoop, Kind.isCall] at hloop ⊢)

structure Faithful (program : Program) (registry : Registry σ) (answers : Answers)
    (settings : SimulatorSettings) (w : Workflow σ) : Prop where
  compiled : Workflow.compile program registry = .ok w
  gives : registry.Gives answers
  plain : answers.Plain
  fed : LoopsAreFed program.statements
  slow : settings.failFast = false
  pool : settings.workerPoolSize ≤ largestPool

def EvaluatesFrom (program : Program) (answers : Answers) (settings : SimulatorSettings)
    (schedule : Schedule) (w : Workflow σ) (s : σ) (i bound : Nat) (before : Option (List Json))
    (x : Json) (suffix : List Statement) : Prop :=
  ∀ run, AtStatement program.statements i before x run →
    Ends w settings schedule bound run s (evaluate answers before x suffix)

theorem evaluates_end (hw : Faithful program registry answers settings w)
    (hend : program.statements.length ≤ i) (before : Option (List Json)) (x : Json) :
    EvaluatesFrom program answers settings schedule w s i (bound + 1) before x [] := by
  intro run hat
  obtain rfl : i = program.statements.length := Nat.le_antisymm hat.within hend
  obtain ⟨step, hstep, hform⟩ := compile_step_at hw.compiled (Nat.le_refl _)
  have hx : Override.Plain run.context.result := by
    rcases hat.plain with hx | ⟨st, hst, _⟩
    · rw [hat.result]; exact hx
    · simp at hst
  exact ends_after hat.action hstep (transition_completed hform hx) (ends_finish rfl hat.result)

theorem evaluates_pause (hw : Faithful program registry answers settings w) {st : Statement}
    {rest : List Statement} (hst : program.statements[i]? = some st)
    (hcall : st.kind.isCall = false) {before : Option (List Json)} {x : Json}
    (hnext : EvaluatesFrom program answers settings schedule w s (i + 1) bound none x rest) :
    EvaluatesFrom program answers settings schedule w s i (bound + 1) before x (st :: rest) := by
  intro run hat
  obtain ⟨step, hstep, hform⟩ := compile_step_at hw.compiled hat.within
  have hnot := hat.not_loop st hst
  have hafter := not_loop_after hw.fed hst hcall
  have hx : Override.Plain x := by
    rcases hat.plain with hx | ⟨st', hst', hcall'⟩
    · exact hx
    · rw [hst] at hst'
      cases hst'
      rw [hcall] at hcall'
      cases hcall'
  have hr : Job.Yields (w.transition settings (schedule.order run.trail.length) step run.context)
      _ := transition_pause hw.gives hform hst hcall hnot (Plan.entry_before_eq_none hafter)
        (hat.result ▸ hx)
  rw [hat.result] at hr
  have heval : evaluate answers before x (st :: rest) = evaluate answers none x rest := by
    obtain ⟨_, _, kind, _⟩ := st
    cases kind with
    | call f => cases hcall
    | loop f => cases hnot
    | wait n => rw [evaluate] <;> simp
    | waitUntil n c => rw [evaluate] <;> simp
  rw [heval]
  exact ends_after hat.action hstep hr (hnext _ (at_next hst hnot hafter hx _ _))

/-- A visit that computes the next value, before a statement that is no `foreach`. -/
theorem evaluates_value {st : Statement} {rest : List Statement} {step : Step σ}
    (hst : program.statements[i]? = some st) (hnot : st.kind.isLoop = false)
    (hafter : ∀ next, program.statements[i + 1]? = some next → next.kind.isLoop = false)
    (hnext : ∀ y, EvaluatesFrom program answers settings schedule w s (i + 1) bound none y rest)
    {run : Run} (haction : run.context.action = .step i) (hstep : w.steps[i]? = some step)
    {r : Except RunError Json} (hplain : ∀ y, r = .ok y → Override.Plain y)
    (hr : Job.Yields (w.transition settings (schedule.order run.trail.length) step run.context)
      (r >>= fun y => .ok (.advance { action := .step (i + 1), result := y }))) :
    Ends w settings schedule (bound + 1) run s (r >>= fun y => evaluate answers none y rest) := by
  refine ends_visit haction hstep hr ?_
  intro y hy
  exact hnext y _ (at_next hst hnot hafter (hplain y hy) _ _)

theorem evaluates_call (hw : Faithful program registry answers settings w) {st : Statement}
    {rest : List Statement} {f : String} (hst : program.statements[i]? = some st)
    (hk : st.kind = .call f)
    (hafter : ∀ next, program.statements[i + 1]? = some next → next.kind.isLoop = false) {x : Json}
    (hnext : ∀ y, EvaluatesFrom program answers settings schedule w s (i + 1) bound none y rest)
    {run : Run} (hat : AtStatement program.statements i none x run) :
    Ends w settings schedule (bound + 1) run s
      ((answers.call f x).mapError (Halt.inStep st.stepName f) >>= fun y =>
        evaluate answers none y rest) := by
  obtain ⟨step, hstep, hform⟩ := compile_step_at hw.compiled hat.within
  have hnot := hat.not_loop st hst
  refine evaluates_value hst hnot hafter hnext hat.action hstep ?_ ?_
  · intro y hy
    exact hw.plain.call _ _ _ (map_error_eq_ok hy)
  · rw [← hat.result]
    exact transition_call hw.gives hw.plain hform hst hk (Plan.entry_before_eq_none hafter)
      hat.follows

theorem evaluates_reduce (hw : Faithful program registry answers settings w) {st : Statement}
    {rest : List Statement} {h : String} (hst : program.statements[i]? = some st)
    (hk : st.kind = .call h)
    (hafter : ∀ next, program.statements[i + 1]? = some next → next.kind.isLoop = false) {x : Json}
    {vs : List Json}
    (hnext : ∀ y, EvaluatesFrom program answers settings schedule w s (i + 1) bound none y rest)
    {run : Run} (hat : AtStatement program.statements i (some vs) x run) :
    Ends w settings schedule (bound + 1) run s
      ((answers.reduce h x vs).mapError (Halt.inStep st.stepName h) >>= fun y =>
        evaluate answers none y rest) := by
  obtain ⟨step, hstep, hform⟩ := compile_step_at hw.compiled hat.within
  have hnot := hat.not_loop st hst
  refine evaluates_value hst hnot hafter hnext hat.action hstep ?_ ?_
  · intro y hy
    exact hw.plain.reduce _ _ _ _ (map_error_eq_ok hy)
  · rw [← hat.result]
    exact transition_reduce hw.gives hw.plain hform hst hk (Plan.entry_before_eq_none hafter)
      hat.follows (hat.values vs rfl)

theorem evaluates_loop (hw : Faithful program registry answers settings w) {st : Statement}
    {rest : List Statement} {g : String} (hst : program.statements[i]? = some st)
    (hk : st.kind = .loop g) {c : Json} (hc : Override.Plain c) {ks : List Json} (hne : ks ≠ [])
    (hnext : ∀ vs,
      EvaluatesFrom program answers settings schedule w s (i + 1) bound (some vs) c rest)
    {run : Run} (haction : run.context.action = .step i) (hresult : run.context.result = c)
    (hkeys : run.context.keys = some ks) :
    Ends w settings schedule (bound + 1) run s
      ((ks.mapM fun k => (answers.iteration g c k).mapError (Halt.inWorker st.stepName g)) >>=
        fun vs => evaluate answers (some vs) c rest) := by
  have hi : i < program.statements.length := (List.getElem?_eq_some_iff.mp hst).1
  obtain ⟨step, hstep, hform⟩ := compile_step_at hw.compiled (Nat.le_of_lt hi)
  have hr : Job.Yields (w.transition settings (schedule.order run.trail.length) step run.context)
      _ := transition_loop hw.gives hform hst hk hkeys hne (hresult ▸ hc) hw.slow hw.pool
        (schedule.isPerm _ _)
  rw [hresult] at hr
  refine ends_visit haction hstep hr ?_
  intro vs _
  exact hnext vs _ (at_after_loop hw.fed hst (by rw [hk]; rfl) hc rfl rfl rfl)

/-- A call and the `foreach` that it feeds. Without keys the run goes past the `foreach`. -/
theorem evaluates_block (hw : Faithful program registry answers settings w) {st loop : Statement}
    {rest : List Statement} {f g : String} (hst : program.statements[i]? = some st)
    (hk : st.kind = .call f) (hloop : program.statements[i + 1]? = some loop)
    (hkloop : loop.kind = .loop g) (hrest : program.statements.drop (i + 2) = rest) {x : Json}
    {before : Option (List Json)}
    (hnext : ∀ b, rest.length < b → ∀ c vs,
      EvaluatesFrom program answers settings schedule w s (i + 2) b (some vs) c rest)
    (hbound : rest.length + 1 < bound) {run : Run}
    (hat : AtStatement program.statements i before x run) :
    Ends w settings schedule (bound + 1) run s
      ((answers.fanOut f x).mapError (Halt.inStep st.stepName f) >>= fun output =>
        (output.2.mapM fun k =>
          (answers.iteration g output.1 k).mapError (Halt.inWorker loop.stepName g)) >>= fun vs =>
            evaluate answers (some vs) output.1 rest) := by
  have hisLoop : loop.kind.isLoop = true := by rw [hkloop]; rfl
  obtain ⟨step, hstep, hform⟩ := compile_step_at hw.compiled hat.within
  obtain ⟨entry, hentry⟩ := Plan.entry_before_loop hloop hisLoop
  obtain ⟨_, _, _, hreduce⟩ := Plan.entry_before_eq_some hentry
  have hr : Job.Yields (w.transition settings (schedule.order run.trail.length) step run.context)
      _ := transition_fan_out hw.gives hw.plain hform hst hk hentry
  rw [hat.result] at hr
  refine ends_visit hat.action hstep hr ?_
  rintro ⟨c, ks⟩ hout
  have hc := hw.plain.fanOut _ _ _ _ (map_error_eq_ok hout)
  -- Without keys the driver never visits the `foreach`; with keys it is the next visit.
  cases ks with
  | nil =>
    rcases hr' : rest with _ | ⟨next, rest'⟩
    · rw [hr', List.drop_eq_nil_iff] at hrest
      rw [if_neg (by omega)] at hreduce
      exact ends_finish hreduce rfl
    · have hlen := congrArg List.length hrest
      rw [hr', List.length_drop, List.length_cons] at hlen
      rw [if_pos (by omega)] at hreduce
      rw [← hr']
      exact hnext bound (by omega) c [] _ (at_after_loop hw.fed hloop hisLoop hc hreduce rfl rfl)
  | cons k ks =>
    obtain ⟨b, rfl⟩ : ∃ b, bound = b + 1 := ⟨bound - 1, by omega⟩
    exact evaluates_loop hw hloop hkloop hc (List.cons_ne_nil k ks) (hnext b (by omega) c) rfl rfl
      rfl

/-- The evaluator's own test for a `foreach` on the next line. -/
theorem not_loop_of_rest {statements rest : List Statement}
    (hrest : statements.drop (i + 1) = rest)
    (hnot : ∀ text line g name rest', rest = ⟨text, line, .loop g, name⟩ :: rest' → False) :
    ∀ next, statements[i + 1]? = some next → next.kind.isLoop = false := by
  intro next hnext
  obtain ⟨text, line, kind, name⟩ := next
  cases kind with
  | loop g =>
    obtain ⟨hlt, hget⟩ := List.getElem?_eq_some_iff.mp hnext
    rw [List.drop_eq_getElem_cons hlt, hget] at hrest
    exact (hnot _ _ _ _ _ hrest.symm).elim
  | _ => rfl

/-- From each statement on, the driver computes what the evaluator does. -/
theorem evaluates_from (hw : Faithful program registry answers settings w)
    (before : Option (List Json)) (x : Json) (suffix : List Statement)
    (hsuffix : program.statements.drop i = suffix) (hbound : suffix.length < bound) :
    EvaluatesFrom program answers settings schedule w s i bound before x suffix := by
  -- The evaluator takes a call and its `foreach` in one step where the driver may take two visits.
  fun_induction evaluate answers before x suffix generalizing i bound with
  | case1 before x =>
    obtain ⟨b, rfl⟩ : ∃ b, bound = b + 1 := ⟨bound - 1, by omega⟩
    exact evaluates_end hw (List.drop_eq_nil_iff.mp hsuffix) before x
  | case2 before x text line f name text' line' g loop rest ih =>
    simp only [List.length_cons] at hbound
    obtain ⟨b, rfl⟩ : ∃ b, bound = b + 1 := ⟨bound - 1, by omega⟩
    obtain ⟨hst, hdrop⟩ := drop_eq_cons hsuffix
    obtain ⟨hloop, hrest⟩ := drop_eq_cons hdrop
    intro run hat
    rw [evaluate]
    exact evaluates_block hw hst rfl hloop rfl hrest (fun b hb c vs => ih c vs hrest hb) (by omega)
      hat
  | case3 vs x text line h name rest hnot ih =>
    simp only [List.length_cons] at hbound
    obtain ⟨b, rfl⟩ : ∃ b, bound = b + 1 := ⟨bound - 1, by omega⟩
    obtain ⟨hst, hrest⟩ := drop_eq_cons hsuffix
    intro run hat
    rw [evaluate]
    · exact evaluates_reduce hw hst rfl (not_loop_of_rest hrest hnot)
        (fun y => ih y hrest (by omega)) hat
    · exact hnot
  | case4 x text line f name rest hnot ih =>
    simp only [List.length_cons] at hbound
    obtain ⟨b, rfl⟩ : ∃ b, bound = b + 1 := ⟨bound - 1, by omega⟩
    obtain ⟨hst, hrest⟩ := drop_eq_cons hsuffix
    intro run hat
    rw [evaluate]
    · exact evaluates_call hw hst rfl (not_loop_of_rest hrest hnot)
        (fun y => ih y hrest (by omega)) hat
    · exact hnot
  | case5 before x st rest h1 h2 h3 ih =>
    simp only [List.length_cons] at hbound
    obtain ⟨b, rfl⟩ : ∃ b, bound = b + 1 := ⟨bound - 1, by omega⟩
    obtain ⟨hst, hrest⟩ := drop_eq_cons hsuffix
    refine evaluates_pause hw hst ?_ (ih hrest (by omega))
    obtain ⟨text, line, kind, name⟩ := st
    cases kind with
    | call f =>
      cases before with
      | none => exact (h3 _ _ _ _ rfl rfl).elim
      | some vs => exact (h2 _ _ _ _ _ rfl rfl).elim
    | _ => rfl

end Refinement

theorem of_lines_nonempty {lines : List (List Char)} {program : Program}
    (h : Program.ofLines lines = .ok program) : program.statements ≠ [] := by
  unfold Program.ofLines at h
  split at h
  · cases h
  · cases h
  · next hne _ =>
    cases h
    exact fun hnil => hne (by rw [← hnil]; rfl)

/-- A run of a parsed program on pure functions comes to an end, and it ends in what its statements
evaluate to, or with the error of the first function that breaks off. With more workers than a pool
can have, it breaks off at the first `foreach` that has keys. -/
theorem simulate_computes_meaning {lines : List (List Char)} {program : Program}
    {registry : Registry σ} {answers : Answers} {w : Workflow σ} {settings : SimulatorSettings}
    (hparse : Program.ofLines lines = .ok program)
    (hw : Workflow.compile program registry = .ok w) (hfed : LoopsAreFed program.statements)
    (hgives : registry.Gives answers) (hplain : answers.Plain) (hslow : settings.failFast = false)
    (schedule : Schedule) (initial : Json) (s : σ) {bound : Nat}
    (hbound : program.statements.length < bound) :
    (settings.workerPoolSize ≤ largestPool →
      (Job.runOn (w.simulate settings schedule bound initial) s).1.map
          (Option.map RunReport.result) =
        (evaluate answers none initial program.statements).map some) ∧
    (largestPool < settings.workerPoolSize →
      ∀ stop ∈ w.itinerary settings schedule bound initial s, stop.HasBatch w →
        (w.itinerary settings schedule bound initial s).getLast? = some stop ∧
        Job.runOn (w.simulate settings schedule bound initial) s =
          (.error .poolTooLarge, stop.state)) := by
  refine ⟨fun hpool => ?_, fun hpool _ hstop hbatch =>
    Workflow.simulate_pool_too_large hpool hstop hbatch⟩
  obtain ⟨first, rest, hne⟩ := List.exists_cons_of_ne_nil (of_lines_nonempty hparse)
  have hfirst : first.kind.isCall = true := (compile_eq_ok hw).2 first rest hne
  have hhead : program.statements[0]? = some first := by rw [hne]; rfl
  have hfaithful : Faithful program registry answers settings w :=
    ⟨hw, hgives, hplain, hfed, hslow, hpool⟩
  refine evaluates_from hfaithful none initial _ List.drop_zero hbound _ ?_
  exact {
    within := Nat.zero_le _
    action := rfl
    result := rfl
    plain := .inr ⟨first, hhead, hfirst⟩
    follows := rfl
    values := by simp
    not_loop := by
      intro st hst
      rw [hhead] at hst
      cases hst
      cases hk : first.kind <;> simp [hk, Kind.isCall] at hfirst
      rfl }

def tourLines : List (List Char) :=
  ["split", "foreach wrap", "clear", "foreach wrap", "collect", "wait 2", "wait 3 until ready",
    "close"].map String.toList

def tourProgram : Program := .ofStatements
  [.at "split" 1 (.call "split") 0, .at "foreach wrap" 2 (.loop "wrap") 1,
    .at "clear" 3 (.call "clear") 2, .at "foreach wrap" 4 (.loop "wrap") 3,
    .at "collect" 5 (.call "collect") 4, .at "wait 2" 6 (.wait 2) 5,
    .at "wait 3 until ready" 7 (.waitUntil 3 "ready") 6, .at "close" 8 (.call "close") 7]

def tourAnswers : Answers where
  call _ x := .ok (.arr [x])
  fanOut name x := .ok (.arr [x], if name = "split" then [.int 7, .int 8] else [])
  reduce _ x vs := .ok (.arr [x, .arr vs])
  iteration _ _ k := .ok (.arr [k])

def tourRegistry : Registry Unit where
  calls := ⟨[("close", fun x => pure (.arr [x]))]⟩
  fanOuts := ⟨[("split", fun x => pure (.arr [x], [.int 7, .int 8])),
    ("clear", fun x => pure (.arr [x], []))]⟩
  reduces := ⟨[("collect", fun x vs => pure (.arr [x, .arr vs]))]⟩
  iterations := ⟨[("wrap", fun _ k => pure (.arr [k]))]⟩
  conditions := ⟨[("ready", fun _ => pure true)]⟩

theorem tour_gives : tourRegistry.Gives tourAnswers where
  call name f h x s := by
    obtain ⟨rfl, rfl⟩ := by simpa [tourRegistry] using find_mem h
    rfl
  fanOut name f h x s := by
    obtain ⟨rfl, rfl⟩ | ⟨rfl, rfl⟩ := by simpa [tourRegistry] using find_mem h
    · rfl
    · rfl
  reduce name f h x vs s := by
    obtain ⟨rfl, rfl⟩ := by simpa [tourRegistry] using find_mem h
    rfl
  iteration name f h x k s := by
    obtain ⟨rfl, rfl⟩ := by simpa [tourRegistry] using find_mem h
    rfl
  condition name f h x s := by
    obtain ⟨rfl, rfl⟩ := by simpa [tourRegistry] using find_mem h
    rfl

theorem tour_plain : tourAnswers.Plain where
  call name x v h := by cases h; rfl
  fanOut name x c ks h := by cases h; rfl
  reduce name x vs v h := by cases h; rfl

theorem tour_computes : ∃ w, Program.ofLines tourLines = .ok tourProgram ∧
    Workflow.compile tourProgram tourRegistry = .ok w ∧
    (Job.runOn (w.simulate { failFast := false } .inKeyOrder 9 (.int 1)) ()).1.map
        (Option.map RunReport.result) =
      (evaluate tourAnswers none (.int 1) tourProgram.statements).map some ∧
    evaluate tourAnswers none (.int 1) tourProgram.statements =
      .ok (.arr [.arr [.arr [.arr [.int 1]], .arr []]]) ∧
    Job.runOn (w.simulate { failFast := false, workerPoolSize := largestPool + 1 } .inKeyOrder 9
      (.int 1)) () = (.error .poolTooLarge, ()) := by
  have hparse : Program.ofLines tourLines = .ok tourProgram := rfl
  have hw : Workflow.compile tourProgram tourRegistry = .ok _ := rfl
  refine ⟨_, hparse, hw, ?_, rfl, ?_⟩
  · exact (simulate_computes_meaning hparse hw (by decide) tour_gives tour_plain rfl .inKeyOrder
      (.int 1) () (by decide)).1 (by decide)
  · have hslow : SimulatorSettings.failFast
        { failFast := false, workerPoolSize := largestPool + 1 } = false := rfl
    have hbound : tourProgram.statements.length < 9 := by decide
    obtain ⟨_, hbroken⟩ := simulate_computes_meaning hparse hw (by decide) tour_gives tour_plain
      hslow .inKeyOrder (.int 1) () hbound
    -- The second visit is that of the first `foreach`, which finds two keys.
    exact (hbroken (Nat.lt_succ_self _) ⟨1, _, ()⟩ (List.mem_of_getElem? (i := 1) rfl)
      ⟨_, _, rfl, rfl, rfl, List.cons_ne_nil _ _⟩).2

/-- With more workers than a pool can have the run breaks off at the first `foreach`. -/
theorem oversized_pool_loses_run : ∃ w, Program.ofLines tourLines = .ok tourProgram ∧
    Workflow.compile tourProgram tourRegistry = .ok w ∧ LoopsAreFed tourProgram.statements ∧
    tourRegistry.Gives tourAnswers ∧ tourAnswers.Plain ∧
    evaluate tourAnswers none (.int 1) tourProgram.statements =
      .ok (.arr [.arr [.arr [.arr [.int 1]], .arr []]]) ∧
    ∀ bound, (Job.runOn (w.simulate { failFast := false, workerPoolSize := largestPool + 1 }
      .inKeyOrder (bound + 2) (.int 1)) ()).1.map (Option.map RunReport.result) =
        .error .poolTooLarge := by
  exact ⟨_, rfl, rfl, by decide, tour_gives, tour_plain, rfl, fun _ => rfl⟩

end Lineflow
