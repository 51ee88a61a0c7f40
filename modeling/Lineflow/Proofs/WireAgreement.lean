import Lineflow.Proofs.Driver
import Lineflow.Proofs.StepNames
import Lineflow.Wire.Handler

/-! # The handler and the driver

A backend keeps the context of a run as a record, sends it, and overwrites it with the fields of the
answer. Step by step it does what the driver does in its own process.
-/
namespace Lineflow

variable {σ : Type}

namespace Record

def ofContext (names : List String) (ctx : Context) : Record where
  action := some (ctx.action.nameIn names)
  wait := some ctx.wait
  result := some ctx.result
  keys := ctx.keys
  values := ctx.values
  key := ctx.key

/-- Takes the fields that an answer has; the value of a worker is none of the context. -/
def overwrite (event answer : Record) : Record where
  action := answer.action.or event.action
  wait := answer.wait.or event.wait
  result := answer.result.or event.result
  keys := answer.keys.or event.keys
  values := answer.values.or event.values
  key := answer.key.or event.key
  value := event.value

theorem of_context_to_context (names : List String) (ctx : Context) :
    (ofContext names ctx).toContext ctx.action = ctx := rfl

/-- Overwriting on the wire is merging in the driver. -/
theorem overwrite_of_transition (names : List String) (ctx : Context) (t : Transition) :
    (ofContext names ctx).overwrite (ofTransition names t) = ofContext names (ctx.apply t) := by
  cases t with
  | advance a => rfl
  | retry seconds => rfl

end Record

namespace Workflow

/-! ## One step -/

section Step

variable {lines : List (List Char)} {program : Program} {registry : Registry σ} {w : Workflow σ}
  {i : Nat} {step : Step σ} {ctx : Context} {s s' : σ}

theorem name_at (h : w.steps[i]? = some step) : w.names[i]? = some step.name := by
  rw [names, List.getElem?_map, h]
  rfl

theorem of_context_action (h : w.steps[i]? = some step) (haction : ctx.action = .step i) :
    (Record.ofContext w.names ctx).action = some step.name := by
  rw [Record.ofContext, haction, Action.nameIn, name_at h]
  rfl

theorem step_named (hparse : Program.ofLines lines = .ok program)
    (hw : Workflow.compile program registry = .ok w) (h : w.steps[i]? = some step) :
    w.stepNamed? step.name = some step := by
  rw [stepNamed?, resolve_name hparse hw (name_at h)]
  exact h

/-- A step of a parsed program never asks for a retry at once. -/
theorem retry_positive (hparse : Program.ofLines lines = .ok program)
    (hw : Workflow.compile program registry = .ok w) (h : w.steps[i]? = some step) {poll : Poll σ}
    (hpoll : step.poll = some poll) : 0 < poll.seconds := by
  cases compile_compiled hw h with
  | waitUntil hst hk =>
    have htimed := (of_lines_placed hparse hst).timed
    rw [hk] at htimed
    cases hpoll
    exact htimed
  | _ => cases hpoll

/-- The handler passes the answers of compiled steps on as they are. -/
theorem check_reply_invoke (hparse : Program.ofLines lines = .ok program)
    (hw : Workflow.compile program registry = .ok w) (h : w.steps[i]? = some step) {t : Transition}
    (ht : Job.runOn (w.invoke step ctx) s = (.ok t, s')) (name : String) :
    checkReply name (.ofTransition w.names t) = .ok (.ofTransition w.names t) := by
  rcases Step.invoke_leads ht with ⟨poll, hpoll, rfl⟩ | ⟨a, rfl, _⟩
  · have hpos := retry_positive hparse hw h hpoll
    obtain ⟨n, hn⟩ : ∃ n, poll.seconds = n + 1 := ⟨poll.seconds - 1, by omega⟩
    rw [hn]
    rfl
  · rfl

/-- The handler on the name of a step runs that step. -/
theorem handle_step (hparse : Program.ofLines lines = .ok program)
    (hw : Workflow.compile program registry = .ok w) (h : w.steps[i]? = some step) {event : Record}
    (haction : event.action = some step.name) (s : σ) :
    Job.runOn (w.handle event) s =
      match Job.runOn (w.invoke step (event.toContext (.step i))) s with
      | (.ok t, s') => (.ok (.ofTransition w.names t), s')
      | (.error e, s') => (.error e, s') := by
  have hindex : step.index = i := (compile_compiled hw h).index_eq
  simp only [handle, haction, reply, if_neg (name_ne_begin hparse hw (name_at h)),
    step_named hparse hw h, hindex, Job.run_on_bind, Job.run_on_pure]
  cases hr : Job.runOn (w.invoke step (event.toContext (.step i))) s with
  | mk r s' =>
    cases r with
    | error e => rfl
    | ok t => simp [check_reply_invoke hparse hw h hr]

/-- The handler on the wire form of a context runs the step that the driver runs. -/
theorem handle_of_context (hparse : Program.ofLines lines = .ok program)
    (hw : Workflow.compile program registry = .ok w) (h : w.steps[i]? = some step)
    (haction : ctx.action = .step i) (s : σ) :
    Job.runOn (w.handle (.ofContext w.names ctx)) s =
      match Job.runOn (w.invoke step ctx) s with
      | (.ok t, s') => (.ok (.ofTransition w.names t), s')
      | (.error e, s') => (.error e, s') := by
  have hctx : (Record.ofContext w.names ctx).toContext (.step i) = ctx := by
    rw [← haction, Record.of_context_to_context]
  rw [handle_step hparse hw h (of_context_action h haction), hctx]

end Step

/-! ## A backend -/

/-- Sends records until the action is the end; none if that takes more than `bound` answers. The
visits are kept as a driver keeps them. -/
def exchange (w : Workflow σ) : Nat → Record → List Visit → Job σ RunError (Option RunReport)
  | bound, event, trail =>
    if event.action = some endName then
      return some { result := event.result.getD .null, visits := trail.reverse }
    else
      match bound with
      | 0 => return none
      | bound + 1 => do
        let answer ← w.handle event
        let next := event.overwrite answer
        w.exchange bound next (⟨event.action.getD beginName, next.wait.getD 0⟩ :: trail)

def opening (initial : Json) : Record where
  action := some beginName
  result := some initial

def serve (w : Workflow σ) (bound : Nat) (initial : Json) : Job σ RunError (Option RunReport) := do
  let answer ← w.handle (opening initial)
  w.exchange bound ((opening initial).overwrite answer) []

/-- The first answer makes the record of the driver's first context. -/
theorem serve_run_on (w : Workflow σ) (bound : Nat) (initial : Json) (s : σ) :
    Job.runOn (w.serve bound initial) s =
      Job.runOn (w.exchange bound (.ofContext w.names (Run.start w.entry initial).context) []) s :=
  rfl

section Exchange

variable {lines : List (List Char)} {program : Program} {registry : Registry σ} {w : Workflow σ}
  {settings : SimulatorSettings} {schedule : Schedule} {i : Nat} {step : Step σ} {run : Run}

theorem exchange_finish (h : run.context.action = .finish) (bound : Nat) (s : σ) :
    Job.runOn (w.exchange bound (.ofContext w.names run.context) run.trail) s =
      (.ok (some { result := run.context.result, visits := run.trail.reverse }), s) := by
  have haction : (Record.ofContext w.names run.context).action = some endName := by
    rw [Record.ofContext, h]
    rfl
  cases bound <;> simp only [exchange, haction, if_true, Job.run_on_pure] <;> rfl

theorem step_within (haction : run.context.action = .step i)
    (h : run.context.action.Within w.names.length) : ∃ step, w.steps[i]? = some step := by
  rw [haction] at h
  have hlt : i < w.steps.length := by simpa [Action.Within, names] using h
  exact ⟨w.steps[i], List.getElem?_eq_getElem hlt⟩

theorem name_not_end (hparse : Program.ofLines lines = .ok program)
    (hw : Workflow.compile program registry = .ok w) (h : w.steps[i]? = some step) :
    ¬ some step.name = some endName := by
  intro heq
  exact name_ne_end hparse hw (name_at h) (Option.some.inj heq)

theorem exchange_exhausted (hparse : Program.ofLines lines = .ok program)
    (hw : Workflow.compile program registry = .ok w) (h : w.steps[i]? = some step)
    (haction : run.context.action = .step i) (s : σ) :
    Job.runOn (w.exchange 0 (.ofContext w.names run.context) run.trail) s = (.ok none, s) := by
  have hname := of_context_action h haction
  have hend := name_not_end hparse hw h
  simp only [exchange, hname, if_neg hend, Job.run_on_pure]

theorem exchange_visit (hparse : Program.ofLines lines = .ok program)
    (hw : Workflow.compile program registry = .ok w) (h : w.steps[i]? = some step)
    (haction : run.context.action = .step i) (bound : Nat) (s : σ) :
    Job.runOn (w.exchange (bound + 1) (.ofContext w.names run.context) run.trail) s =
      match Job.runOn (w.invoke step run.context) s with
      | (.ok t, s') =>
        Job.runOn (w.exchange bound (.ofContext w.names (run.after step.name t).context)
          (run.after step.name t).trail) s'
      | (.error e, s') => (.error e, s') := by
  have hname := of_context_action h haction
  have hend := name_not_end hparse hw h
  rw [exchange]
  simp only [hname, if_neg hend, Job.run_on_bind, handle_of_context hparse hw h haction]
  rcases Job.runOn (w.invoke step run.context) s with ⟨e | t, s'⟩
  · rfl
  · simp only [Record.overwrite_of_transition]
    rfl

theorem no_loop_step (hw : Workflow.compile program registry = .ok w)
    (hloops : ∀ st ∈ program.statements, st.kind.isLoop = false) (h : w.steps[i]? = some step) :
    step.isLoop = false := by
  cases hloop : step.isLoop with
  | false => rfl
  | true =>
    obtain ⟨st, name, f, hst, hk, _⟩ := (compile_compiled hw h).of_loop hloop
    have hnot := hloops st (List.mem_of_getElem? hst)
    rw [hk] at hnot
    cases hnot

theorem invoke_within (hw : Workflow.compile program registry = .ok w)
    (h : w.steps[i]? = some step) {ctx : Context} {t : Transition} {s s' : σ}
    (hwithin : ctx.action.Within w.names.length)
    (ht : Job.runOn (w.invoke step ctx) s = (.ok t, s')) :
    (ctx.apply t).action.Within w.names.length := by
  rcases Step.invoke_leads ht with ⟨poll, _, rfl⟩ | ⟨a, rfl, hleads⟩
  · exact hwithin
  · exact (compile_compiled hw h).leads_within (compile_names_length hw) hleads

/-- As long as no `foreach` comes up, the backend and the driver make the same visits. -/
theorem exchange_drive (hparse : Program.ofLines lines = .ok program)
    (hw : Workflow.compile program registry = .ok w)
    (hloops : ∀ st ∈ program.statements, st.kind.isLoop = false)
    (hwithin : run.context.action.Within w.names.length) (bound : Nat) (s : σ) :
    Job.runOn (w.exchange bound (.ofContext w.names run.context) run.trail) s =
      Job.runOn (w.drive settings schedule bound run) s := by
  -- The backend keeps no more than the record, so the two runs stay equal and not only related.
  induction bound generalizing run s with
  | zero =>
    cases haction : run.context.action with
    | finish => rw [exchange_finish haction, drive_finish haction]
    | step i =>
      obtain ⟨step, h⟩ := step_within haction hwithin
      rw [exchange_exhausted hparse hw h haction, drive_exhausted haction]
  | succ bound ih =>
    cases haction : run.context.action with
    | finish => rw [exchange_finish haction, drive_finish haction]
    | step i =>
      obtain ⟨step, h⟩ := step_within haction hwithin
      rw [exchange_visit hparse hw h haction, drive_visit haction, visit_run_on h,
        transition_step (no_loop_step hw hloops h)]
      cases ht : Job.runOn (w.invoke step run.context) s with
      | mk r s' =>
        cases r with
        | error e => rfl
        | ok t => exact ih (invoke_within hw h hwithin ht) s'

end Exchange

/-- On the record of a context the handler fails exactly as the step does, and else its answer
overwrites the record to that of the next context. So a backend makes the runs of the driver, as
long as there is no `foreach` in the program. -/
theorem handler_agrees_with_driver {lines : List (List Char)} {program : Program}
    {registry : Registry σ} {w : Workflow σ} (hparse : Program.ofLines lines = .ok program)
    (hw : Workflow.compile program registry = .ok w) :
    (∀ i step ctx s, w.steps[i]? = some step → ctx.action = .step i →
      (Record.ofContext w.names ctx).action = some step.name ∧
      (∀ e, (Job.runOn (w.handle (.ofContext w.names ctx)) s).1 = .error e ↔
        (Job.runOn (w.invoke step ctx) s).1 = .error e) ∧
      (∀ t, (Job.runOn (w.invoke step ctx) s).1 = .ok t → ∃ answer,
        (Job.runOn (w.handle (.ofContext w.names ctx)) s).1 = .ok answer ∧
        (Record.ofContext w.names ctx).overwrite answer = .ofContext w.names (ctx.apply t)) ∧
      (Job.runOn (w.handle (.ofContext w.names ctx)) s).2 =
        (Job.runOn (w.invoke step ctx) s).2) ∧
    ((∀ st ∈ program.statements, st.kind.isLoop = false) →
      ∀ settings schedule bound initial s, Job.runOn (w.serve bound initial) s =
        Job.runOn (w.simulate settings schedule bound initial) s) := by
  constructor
  · intro i step ctx s h haction
    rw [handle_of_context hparse hw h haction]
    refine ⟨of_context_action h haction, ?_⟩
    rcases Job.runOn (w.invoke step ctx) s with ⟨e | t, s'⟩
    · refine ⟨?_, ?_, rfl⟩
      · intro e'
        constructor
        · intro he; cases he; rfl
        · intro he; cases he; rfl
      · intro t ht
        cases ht
    · refine ⟨?_, ?_, rfl⟩
      · intro e
        constructor
        · intro he; cases he
        · intro he; cases he
      · intro t' ht
        cases ht
        exact ⟨_, rfl, Record.overwrite_of_transition _ _ _⟩
  · intro hloops settings schedule bound initial s
    have hwithin : (Run.start w.entry initial).context.action.Within w.names.length := by
      rw [compile_names_length hw]
      exact Nat.succ_pos _
    rw [serve_run_on]
    exact exchange_drive hparse hw hloops hwithin bound s

def pollLines : List (List Char) :=
  ["double", "wait 2", "wait 3 until asked", "double"].map String.toList

def pollProgram : Program := .ofStatements
  [.at "double" 1 (.call "double") 0, .at "wait 2" 2 (.wait 2) 1,
    .at "wait 3 until asked" 3 (.waitUntil 3 "asked") 2, .at "double" 4 (.call "double") 3]

def pollRegistry : Registry Nat where
  calls := ⟨[("double", fun x => pure (.arr [x, x]))]⟩
  conditions := ⟨[("asked", fun _ => do
    let asked ← get
    set (asked + 1)
    return 0 < asked)]⟩

theorem poll_served_as_driven : ∃ w, Program.ofLines pollLines = .ok pollProgram ∧
    Workflow.compile pollProgram pollRegistry = .ok w ∧
    (∀ st ∈ pollProgram.statements, st.kind.isLoop = false) ∧
    Job.runOn (w.serve 7 (.int 1)) 0 = Job.runOn (w.simulate {} .inKeyOrder 7 (.int 1)) 0 ∧
    (Job.runOn (w.simulate {} .inKeyOrder 7 (.int 1)) 0).1.map
        (Option.map fun report => (report.result, report.visits.map (·.wait))) =
      .ok (some (.arr [.arr [.int 1, .int 1], .arr [.int 1, .int 1]], [0, 2, 3, 0, 0, 0])) := by
  have hparse : Program.ofLines pollLines = .ok pollProgram := rfl
  have hw : Workflow.compile pollProgram pollRegistry = .ok _ := rfl
  refine ⟨_, hparse, hw, by decide, ?_, rfl⟩
  exact (handler_agrees_with_driver hparse hw).2 (by decide) {} .inKeyOrder 7 (.int 1) 0

end Workflow

end Lineflow
