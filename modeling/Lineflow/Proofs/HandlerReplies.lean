import Lineflow.Proofs.DriverState
import Lineflow.Proofs.WireAgreement

/-! # Replies of the handler

Whatever record is sent, a reply says where to go next or when to ask again, and the step that it
names can be asked for in turn. Only the worker of a `foreach` replies with a value. Nothing is said
of what the functions return, and a reply need not lead to the end.
-/
namespace Lineflow

variable {σ : Type}

/-! ## Values -/

section Values

variable {registry : Registry σ} {statements : List Statement} {i : Nat} {step : Step σ}
  {names : List String} {ctx : Context} {s s' : σ} {a : Advance}

theorem Step.Proposes.value_eq_none (h : step.Proposes ctx s a s')
    (hwork : ∀ name f, step.work ≠ .iterate name f) : a.value = none := by
  cases h with
  | skip => rfl
  | pass => rfl
  | call => rfl
  | reduce => rfl
  | iterate work => exact absurd work (hwork _ _)

theorem Compiled.loop_of_iterate (h : Compiled registry statements i step) {name : String}
    {f : IterationFunction σ} (hwork : step.work = .iterate name f) : step.isLoop = true := by
  cases h with
  | loop _ hk => simp [Step.isLoop, hk, Kind.isLoop]
  | _ => cases hwork

/-- The worker of a `foreach` gives a value, unless it skips the next `foreach` at once. -/
theorem Compiled.proposes_value (h : Compiled registry statements i step)
    (hproposes : step.Proposes ctx s a s') :
    a.value.isSome = true ↔ Plan.loopAt statements i = true ∧
      ¬ (Plan.loopAt statements (i + 1) = true ∧ ctx.keys = some []) := by
  by_cases hat : Plan.loopAt statements i = true
  · obtain ⟨st, _, _, hst, _, _, rfl⟩ := h.of_loop (by rw [h.is_loop_at, hat])
    have hentry := Plan.entry_before_is_some statements i
    have hcontext := entry_context (σ := σ) (Plan.entryBefore statements i)
    cases hproposes with
    | skip feeds gathered =>
      have hnext : Plan.loopAt statements (i + 1) = true := by
        obtain ⟨entry, he, _⟩ := Option.map_eq_some_iff.mp feeds
        rw [← hentry, he]
        rfl
      obtain ⟨_, hkeys, _⟩ := gathered.of_context hcontext
      have hempty : ctx.keys = some [] := (hkeys.resolve_left (by simp)).symm
      simp [hat, hnext, hempty]
    | iterate _ gathered goes =>
      have hgoes : ¬ (Plan.loopAt statements (i + 1) = true ∧ ctx.keys = some []) := by
        rintro ⟨hnext, hempty⟩
        cases gathered with
        | nothing single =>
          rw [← hentry] at hnext
          simp [Option.map_eq_none_iff.mp single] at hnext
        | returned feeds => cases hcontext _ feeds
        | handed _ held => exact goes (held.symm.trans hempty)
      simp [hat, hgoes]
    | pass work => cases work
    | call work => cases work
    | reduce work => cases work
  · have hnone : a.value = none := by
      apply hproposes.value_eq_none
      intro name f hwork
      rw [← h.is_loop_at] at hat
      exact hat (h.loop_of_iterate hwork)
    simp [hnone, hat]

theorem Compiled.invoke_value (h : Compiled registry statements i step) {t : Transition}
    (ht : Job.runOn (step.invoke names ctx) s = (.ok t, s')) :
    (Record.ofTransition names t).value.isSome = true ↔ Plan.loopAt statements i = true ∧
      ¬ (Plan.loopAt statements (i + 1) = true ∧ ctx.keys = some []) := by
  have hinvoked := Step.invoke_invoked names step ctx s
  rw [ht] at hinvoked
  rcases hinvoked.of_ok with ⟨poll, polls, _, rfl⟩ | ⟨a, _, _, proposes, settled⟩
  · -- A step with a condition is no `foreach`.
    have hat : ¬ Plan.loopAt statements i = true := by
      obtain ⟨st, hst, hk⟩ := h.poll_kind polls
      simp [Plan.loop_at_eq hst, hk, Kind.isLoop]
    simp [Record.ofTransition, hat]
  · obtain ⟨action, result, rfl⟩ := Step.settle_advance settled
    exact h.proposes_value proposes

end Values

/-! ## Errors -/

theorem Step.settle_eq_error {names : List String} {step : Step σ} {a : Advance} {e : RunError}
    (h : step.settle names a = .error e) :
    (∃ marker, e = .violation step.name (.badTarget marker)) ∨
      ∃ target, e = .unresolved target ∧ target ∉ names := by
  unfold Step.settle at h
  split at h
  · cases h
  · next marker _ => cases h; exact Or.inl ⟨marker, rfl⟩
  · next value target _ =>
    split at h
    · cases h
    · next hnone => cases h; exact Or.inr ⟨target, rfl, (unresolved_no_step hnone).2⟩

/-- A step that breaks off blames its context, its function or the target of an override. -/
theorem Step.invoke_error {names : List String} {step : Step σ} {ctx : Context} {s s' : σ}
    {e : RunError} (h : Job.runOn (step.invoke names ctx) s = (.error e, s')) :
    (∀ name, e ≠ .violation name .actionMissing) ∧
      (∀ name, e ≠ .violation name .noWaitRequested) ∧
      ∀ target, e = .unresolved target → target ∉ names := by
  have hinvoked := Step.invoke_invoked names step ctx s
  rw [h] at hinvoked
  cases hinvoked with
  | retry _ _ ends => cases ends
  | settled _ _ ends =>
    rcases Step.settle_eq_error ends with ⟨marker, rfl⟩ | ⟨target, rfl, hmem⟩
    · simp
    · simpa using hmem
  | halted halts ends =>
    cases ends
    cases halts with
    | function name halt => cases halt <;> simp [Step.report]
    | _ => simp

namespace Workflow

/-! ## What the handler does -/

inductive Handled (w : Workflow σ) (event : Record) (s : σ) (r : Except RunError Record) (s' : σ) :
    Prop where
  | nameless (held : event.action = none)
      (ends : r = .error (.violation beginName .noEventAction)) : Handled w event s r s'
  | opened (held : event.action = some beginName)
      (ends : r = .ok { action := some (w.actionName w.entry), wait := some 0 }) :
      Handled w event s r s'
  | astray {name} (held : event.action = some name) (nowhere : w.stepNamed? name = none)
      (ends : r = .error (.unresolved name)) : Handled w event s r s'
  | answered {i : Nat} {step t} (here : w.steps[i]? = some step) (held : event.action = some step.name)
      (ran : Job.runOn (w.invoke step (event.toContext (.step step.index))) s = (.ok t, s'))
      (ends : r = .ok (.ofTransition w.names t)) : Handled w event s r s'
  | broken {i : Nat} {step e} (here : w.steps[i]? = some step) (held : event.action = some step.name)
      (ran : Job.runOn (w.invoke step (event.toContext (.step step.index))) s = (.error e, s'))
      (ends : r = .error e) : Handled w event s r s'

section Handler

variable {lines : List (List Char)} {program : Program} {registry : Registry σ} {w : Workflow σ}
  {event : Record} {s : σ} {name : String} {i : Nat} {step : Step σ}

theorem step_named_eq_some (h : w.stepNamed? name = some step) :
    ∃ i : Nat, w.steps[i]? = some step ∧ step.name = name := by
  unfold stepNamed? at h
  split at h
  · next index hindex =>
    refine ⟨index, h, ?_⟩
    have hname := name_in_of_resolve hindex
    rw [Action.nameIn, name_at h] at hname
    exact hname
  · cases h

variable (hparse : Program.ofLines lines = .ok program)
  (hw : Workflow.compile program registry = .ok w)

include hparse hw

theorem handle_handled (event : Record) (s : σ) :
    w.Handled event s (Job.runOn (w.handle event) s).1 (Job.runOn (w.handle event) s).2 := by
  cases haction : event.action with
  | none =>
    simp only [handle, haction, Job.run_on_throw]
    exact .nameless haction rfl
  | some name =>
    by_cases hbegin : name = beginName
    · subst hbegin
      simp only [handle, haction, reply, if_true, Job.run_on_bind, Job.run_on_pure]
      exact .opened haction rfl
    cases hnamed : w.stepNamed? name with
    | none =>
      simp only [handle, haction, reply, if_neg hbegin, hnamed, Job.run_on_bind, Job.run_on_throw]
      exact .astray haction hnamed rfl
    | some step =>
      obtain ⟨i, hstep, rfl⟩ := step_named_eq_some hnamed
      simp only [handle, haction, reply, if_neg hbegin, hnamed, Job.run_on_bind, Job.run_on_pure]
      rcases hran : Job.runOn (w.invoke step (event.toContext (.step step.index))) s
        with ⟨e | t, s'⟩
      · exact .broken hstep haction hran rfl
      · have hcheck := check_reply_invoke hparse hw hstep hran step.name
        simp only [hcheck]
        exact .answered hstep haction hran rfl

/-- A name that the handler answers for: it is that of the step to which it resolves. -/
def Addressed (w : Workflow σ) (name : String) : Prop :=
  (∃ i step, w.resolve? name = some (.step i) ∧ w.steps[i]? = some step ∧ step.name = name) ∧
    ∀ event s, event.action = some name →
      (Job.runOn (w.handle event) s).1 ≠ .error (.unresolved name)

theorem step_name_addressed (h : w.steps[i]? = some step) : w.Addressed step.name := by
  have hname := name_at h
  refine ⟨⟨i, step, resolve_name hparse hw hname, h, rfl⟩, ?_⟩
  intro event s haction heq
  have hhandled := handle_handled hparse hw event s
  rw [heq] at hhandled
  cases hhandled with
  | nameless held => rw [haction] at held; cases held
  | opened _ ends => cases ends
  | astray _ nowhere ends =>
    cases ends
    rw [step_named hparse hw h] at nowhere
    cases nowhere
  | answered _ _ _ ends => cases ends
  | broken here held ran ends =>
    cases ends
    exact (Step.invoke_error ran).2.2 _ rfl (List.mem_of_getElem? hname)

theorem action_name_onward {action : Action} (hwithin : action.Within w.names.length) :
    w.actionName action = endName ∨ w.Addressed (w.actionName action) := by
  cases action with
  | finish => exact Or.inl rfl
  | step i =>
    have hlt : i < w.steps.length := by simpa [Action.Within, names] using hwithin
    have hstep := List.getElem?_eq_getElem hlt
    rw [action_name_step hstep]
    exact Or.inr (step_name_addressed hparse hw hstep)

end Handler

end Workflow

def Record.AsksFor (event : Record) (statements : List Statement) (i : Nat) (st : Statement) :
    Prop :=
  statements[i]? = some st ∧ event.action = some st.stepName

namespace Workflow

section Replies

variable {lines : List (List Char)} {program : Program} {registry : Registry σ} {w : Workflow σ}
  {event : Record} {i j : Nat} {step : Step σ} {st : Statement}

variable (hparse : Program.ofLines lines = .ok program)
  (hw : Workflow.compile program registry = .ok w)

include hparse hw

theorem asks_for_position (h : w.steps[i]? = some step) (held : event.action = some step.name)
    (hasks : event.AsksFor program.statements j st) : j = i := by
  obtain ⟨hst, haction⟩ := hasks
  have hlt := (List.getElem?_eq_some_iff.mp hst).1
  obtain ⟨other, hother, hcompiled⟩ := compile_step_at hw (Nat.le_of_lt hlt)
  have hsame : step.name = other.name := by
    rw [hcompiled.name_eq hst]
    exact Option.some.inj (held.symm.trans haction)
  have hi := resolve_name hparse hw (name_at h)
  have hj := resolve_name hparse hw (name_at hother)
  rw [hsame, hj] at hi
  cases hi
  rfl

/-- The statement of the step that an event asks for is a `foreach` or it is none, whichever way it
is looked up. -/
theorem asks_for_loop_iff (h : w.steps[i]? = some step) (held : event.action = some step.name) :
    (Plan.loopAt program.statements i = true ∧
        ¬ (Plan.loopAt program.statements (i + 1) = true ∧ event.keys = some [])) ↔
      ∃ j st, event.AsksFor program.statements j st ∧ st.kind.isLoop = true ∧
        ¬ (Plan.loopAt program.statements (j + 1) = true ∧ event.keys = some []) := by
  constructor
  · rintro ⟨hat, hgoes⟩
    obtain ⟨st, hst, hloop⟩ : ∃ st, program.statements[i]? = some st ∧ st.kind.isLoop = true := by
      simpa [Plan.loopAt, Option.any_eq_true] using hat
    refine ⟨i, st, ⟨hst, ?_⟩, hloop, hgoes⟩
    rw [held, (compile_compiled hw h).name_eq hst]
  · rintro ⟨j, st, hasks, hloop, hgoes⟩
    obtain rfl := asks_for_position hparse hw h held hasks
    exact ⟨by rw [Plan.loop_at_eq hasks.1, hloop], hgoes⟩

/-- The opening event asks for no statement. -/
theorem begin_asks_for_none (held : event.action = some beginName) :
    ¬ event.AsksFor program.statements j st := by
  rintro ⟨hst, haction⟩
  have hlt := (List.getElem?_eq_some_iff.mp hst).1
  obtain ⟨step, hstep, hcompiled⟩ := compile_step_at hw (Nat.le_of_lt hlt)
  apply name_ne_begin hparse hw (name_at hstep)
  rw [hcompiled.name_eq hst]
  exact Option.some.inj (haction.symm.trans held)

/-- A reply always has a wait and never a key. It names the end or a step that can be asked for, or
it is nothing but the wait of a `wait N until`. It has a value exactly if the event asked for a
`foreach` that did not skip the `foreach` after it for want of keys. So neither of the two errors
about records without an action ever comes up. -/
theorem replies_can_be_followed (event : Record) (s : σ) :
    (∀ answer, (Job.runOn (w.handle event) s).1 = .ok answer →
      (∃ seconds, answer.wait = some seconds) ∧ answer.key = none ∧
      ((∃ name, answer.action = some name ∧ (name = endName ∨ w.Addressed name)) ∨
        ∃ i st seconds condition, event.AsksFor program.statements i st ∧
          st.kind = .waitUntil seconds condition ∧ 1 ≤ seconds ∧
          answer = { wait := some seconds }) ∧
      (answer.value.isSome = true ↔ ∃ i st, event.AsksFor program.statements i st ∧
        st.kind.isLoop = true ∧
        ¬ (Plan.loopAt program.statements (i + 1) = true ∧ event.keys = some []))) ∧
    ∀ name, (Job.runOn (w.handle event) s).1 ≠ .error (.violation name .actionMissing) ∧
      (Job.runOn (w.handle event) s).1 ≠ .error (.violation name .noWaitRequested) := by
  have hhandled := handle_handled hparse hw event s
  generalize (Job.runOn (w.handle event) s).1 = r at hhandled ⊢
  generalize (Job.runOn (w.handle event) s).2 = s' at hhandled
  cases hhandled with
  | nameless _ ends => subst ends; simp
  | astray _ _ ends => subst ends; simp
  | broken _ _ ran ends =>
    subst ends
    obtain ⟨hmissing, hwait, _⟩ := Step.invoke_error ran
    exact ⟨by simp, fun name => ⟨by simpa using hmissing name, by simpa using hwait name⟩⟩
  | opened held ends =>
    subst ends
    refine ⟨?_, by simp⟩
    rintro answer ⟨⟩
    have hentry : w.entry.Within w.names.length := by
      rw [compile_names_length hw]
      exact Nat.succ_pos _
    refine ⟨⟨0, rfl⟩, rfl, Or.inl ⟨_, rfl, action_name_onward hparse hw hentry⟩, by simp, ?_⟩
    rintro ⟨i, st, hasks, _⟩
    exact absurd hasks (begin_asks_for_none hparse hw held)
  | answered here held ran ends =>
    subst ends
    refine ⟨?_, by simp⟩
    rintro answer ⟨⟩
    have hcompiled := compile_compiled hw here
    have hvalue := (hcompiled.invoke_value ran).trans (asks_for_loop_iff hparse hw here held)
    rcases Step.invoke_leads ran with ⟨poll, hpoll, rfl⟩ | ⟨a, rfl, hleads⟩
    · obtain ⟨st, hst, hk⟩ := hcompiled.poll_kind hpoll
      have hpos := retry_positive hparse hw here hpoll
      have hasks : event.AsksFor program.statements _ st :=
        ⟨hst, by rw [held, hcompiled.name_eq hst]⟩
      exact ⟨⟨_, rfl⟩, rfl, Or.inr ⟨_, st, _, _, hasks, hk, hpos, rfl⟩, hvalue⟩
    · have hwithin := hcompiled.leads_within (compile_names_length hw) hleads
      exact ⟨⟨_, rfl⟩, rfl, Or.inl ⟨_, rfl, action_name_onward hparse hw hwithin⟩, hvalue⟩

end Replies

def relayLines : List (List Char) :=
  ["pick", "foreach echo", "foreach echo", "gather", "wait 3 until done"].map String.toList

def relayProgram : Program := .ofStatements
  [.at "pick" 1 (.call "pick") 0, .at "foreach echo" 2 (.loop "echo") 1,
    .at "foreach echo" 3 (.loop "echo") 2, .at "gather" 4 (.call "gather") 3,
    .at "wait 3 until done" 5 (.waitUntil 3 "done") 4]

def relayRegistry : Registry Unit where
  fanOuts := ⟨[("pick", fun x => pure (x, [.int 1]))]⟩
  iterations := ⟨[("echo", fun _ k => pure k)]⟩
  reduces := ⟨[("gather", fun _ vs => pure (.arr vs))]⟩
  conditions := ⟨[("done", fun _ => pure false)]⟩

def relayEvent : Record where
  action := some "_foreach_echo_1"
  keys := some [.int 1]
  key := some (.int 1)

def relayAnswer : Record where
  action := some "_foreach_echo_2"
  wait := some 0
  result := some .null
  keys := some [.int 1]
  value := some (.int 1)

theorem relay_replies : ∃ w, Program.ofLines relayLines = .ok relayProgram ∧
    Workflow.compile relayProgram relayRegistry = .ok w ∧
    (Job.runOn (w.handle relayEvent) ()).1 = .ok relayAnswer ∧
    w.Addressed "_foreach_echo_2" ∧
    (Job.runOn (w.handle { relayEvent with keys := some [] }) ()).1 =
      .ok { action := some "_func_gather_3", wait := some 0, result := some .null
            values := some [] } ∧
    (Job.runOn (w.handle { action := some "_wait_3_until_done_4" }) ()).1 =
      .ok { wait := some 3 } := by
  have hparse : Program.ofLines relayLines = .ok relayProgram := rfl
  have hw : Workflow.compile relayProgram relayRegistry = .ok _ := rfl
  obtain ⟨_, _, honward, _⟩ :=
    (replies_can_be_followed hparse hw relayEvent ()).1 relayAnswer rfl
  refine ⟨_, hparse, hw, rfl, ?_, rfl, rfl⟩
  rcases honward with ⟨name, hname, hend | haddressed⟩ | ⟨_, _, _, _, _, _, _, hretry⟩
  · cases hname
    exact absurd hend (by decide)
  · cases hname
    exact haddressed
  · cases hretry

end Workflow

end Lineflow
