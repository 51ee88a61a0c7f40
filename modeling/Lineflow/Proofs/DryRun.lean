import Lineflow.CommandLine.Run
import Lineflow.Proofs.Itinerary
import Lineflow.Proofs.StepNames
import Lineflow.Proofs.Stubs

/-! # Dry runs

With placeholders a run has no keys at any time, and its result is the initial value without some of
its payloads. Every payload sends it to some step once, so a dry run ends; and a `foreach` is passed
over when the call before it has no keys, but a `wait` before a `foreach` has none to hand on.
-/
namespace Lineflow

variable {σ : Type}

/-! ## Payloads -/

namespace Override

/-- What is left of `v` when that many payloads around it are opened. -/
inductive Unwraps (v : Json) : Nat → Json → Prop where
  | whole : Unwraps v 0 v
  | opened {n u value target} (outer : Unwraps v n u) (jump : ofResult u = .jump value target) :
      Unwraps v (n + 1) value

theorem Unwraps.layers_add {v u : Json} {n : Nat} (h : Unwraps v n u) :
    n + layers u = layers v := by
  induction h with
  | whole => exact Nat.zero_add _
  | opened _ jump ih =>
    rw [layers_jump jump] at ih
    omega

end Override

/-! ## One step -/

inductive DryStep (statements : List Statement) (i : Nat) (ctx : Context) :
    Except Violation Advance → Prop where
  | next {st} (wait : Nat) (here : statements[i]? = some st) (single : st.kind.isLoop = false)
      (plain : Plan.entryBefore statements i = none) :
      DryStep statements i ctx (.ok { action := .step (i + 1), wait, result := ctx.result })
  | skip {st entry} (here : statements[i]? = some st) (call : st.kind.isCall = true)
      (feeds : Plan.entryBefore statements i = some entry) :
      DryStep statements i ctx
        (.ok { action := entry.reduce, result := ctx.result, values := some [] })
  | completed (last : i = statements.length) :
      DryStep statements i ctx (.ok { action := .finish, result := ctx.result })
  | noKeys {st entry} (here : statements[i]? = some st) (pause : st.kind.isCall = false)
      (feeds : Plan.entryBefore statements i = some entry) :
      DryStep statements i ctx (.error .noKeysToFanOut)
  | noBatch {st} (here : statements[i]? = some st) (loop : st.kind.isLoop = true) :
      DryStep statements i ctx (.error .noBatchKeys)
  | noValues (follows : Plan.followsLoop statements i = true) (values : ctx.values = none) :
      DryStep statements i ctx (.error .noValuesToReduce)

section Steps

variable {registry : Registry σ} {statements : List Statement} {i : Nat} {step : Step σ}
  {names : List String} {w : Workflow σ} {settings : SimulatorSettings} {order : Nat → List Nat}
  {ctx : Context} {a : Advance}

def Step.ends (names : List String) (step : Step σ) (r : Except Violation Advance) :
    Except RunError Transition :=
  r.mapError (.violation step.name) >>= step.settle names

theorem Step.ends_ok (a : Advance) : step.ends names (.ok a) = step.settle names a := rfl

theorem dry_pause (hgives : registry.Gives stubAnswers) (h : Compiled registry statements i step)
    {st : Statement} (hst : statements[i]? = some st) (hcall : st.kind.isCall = false)
    (hloop : st.kind.isLoop = false) (hkeys : ctx.keys = none) :
    ∃ r, DryStep statements i ctx r ∧ Job.Yields (step.invoke names ctx) (step.ends names r) := by
  obtain ⟨hwork, hnext, hfan, hpoll⟩ := h.of_pause hst hcall hloop
  have hproceed : ∃ r, DryStep statements i ctx r ∧
      Job.Yields (step.proceed names ctx) (step.ends names r) := by
    cases hentry : Plan.entryBefore statements i with
    | none =>
      rw [hentry] at hfan
      refine ⟨_, .next step.wait hst hloop hentry, ?_⟩
      intro s
      rw [Step.proceed_without_keys hfan, Step.perform_pass hwork, hnext]
      rfl
    | some entry =>
      rw [hentry] at hfan
      refine ⟨_, .noKeys hst hcall hentry, ?_⟩
      intro s
      rw [Step.proceed_with_context hfan, hkeys]
      rfl
  obtain ⟨r, hr, hyields⟩ := hproceed
  refine ⟨r, hr, ?_⟩
  intro s
  cases hp : step.poll with
  | none =>
    rw [Step.invoke_without_poll hp]
    exact hyields s
  | some poll =>
    rw [Step.invoke_with_poll hp, hgives.condition _ _ (hpoll poll hp) ctx.result s]
    exact hyields s

theorem dry_invoke (hgives : registry.Gives stubAnswers) (h : Compiled registry statements i step)
    (hloop : step.isLoop = false) (hkeys : ctx.keys = none) :
    ∃ r, DryStep statements i ctx r ∧ Job.Yields (step.invoke names ctx) (step.ends names r) := by
  have hform := h
  cases h with
  | @call _ st name f hst hk hentry _ hf =>
    refine ⟨_, .next 0 hst (by rw [hk]; rfl) hentry, ?_⟩
    intro s
    rw [Step.invoke_without_poll rfl, Step.proceed_without_keys rfl, Step.perform_call rfl,
      hgives.call name f hf ctx.result s]
    rfl
  | @reduce _ st name f hst hk hentry hfollows hf =>
    cases hvalues : ctx.values with
    | none =>
      refine ⟨_, .noValues hfollows hvalues, ?_⟩
      intro s
      rw [Step.invoke_without_poll rfl, Step.proceed_without_keys rfl, Step.perform_reduce rfl,
        hvalues]
      rfl
    | some values =>
      refine ⟨_, .next 0 hst (by rw [hk]; rfl) hentry, ?_⟩
      intro s
      rw [Step.invoke_without_poll rfl, Step.proceed_without_keys rfl, Step.perform_reduce rfl,
        hvalues]
      dsimp only
      rw [hgives.reduce name f hf ctx.result values s]
      rfl
  | @fanOut _ st name f entry hst hk hentry hf =>
    refine ⟨_, .skip hst (by rw [hk]; rfl) hentry, ?_⟩
    intro s
    rw [Step.invoke_without_poll rfl, Step.proceed_with_function rfl,
      hgives.fanOut name f hf ctx.result s]
    rfl
  | @wait _ st seconds hst hk =>
    exact dry_pause hgives hform hst (by rw [hk]; rfl) (by rw [hk]; rfl) hkeys
  | @waitUntil _ st seconds name holds hst hk =>
    exact dry_pause hgives hform hst (by rw [hk]; rfl) (by rw [hk]; rfl) hkeys
  | loop _ hk => simp [Step.isLoop, hk, Kind.isLoop] at hloop
  | completed =>
    refine ⟨_, .completed rfl, ?_⟩
    intro s
    rw [Step.invoke_without_poll rfl, Step.proceed_without_keys rfl, Step.perform_pass rfl]
    rfl

theorem dry_transition (hgives : registry.Gives stubAnswers)
    (h : Compiled registry statements i step) (hkeys : ctx.keys = none) :
    ∃ r, DryStep statements i ctx r ∧
      Job.Yields (w.transition settings order step ctx) (step.ends w.names r) := by
  cases hloop : step.isLoop with
  | false =>
    rw [Workflow.transition_step hloop]
    exact dry_invoke hgives h hloop hkeys
  | true =>
    obtain ⟨st, name, f, hst, hk, _⟩ := h.of_loop hloop
    refine ⟨_, .noBatch hst (by rw [hk]; rfl), ?_⟩
    intro s
    rw [Workflow.transition_batch hloop, Batch.run, hkeys]
    rfl

theorem DryStep.keeps (h : DryStep statements i ctx (.ok a)) :
    a.result = ctx.result ∧ a.keys = none := by
  cases h <;> exact ⟨rfl, rfl⟩

theorem DryStep.ahead (h : DryStep statements i ctx (.ok a)) (hin : i ≤ statements.length) :
    a.action.Within (statements.length + 1) ∧
      a.action.ahead (statements.length + 1) < statements.length + 1 - i := by
  cases h with
  | next wait here =>
    have hlt := (List.getElem?_eq_some_iff.mp here).1
    exact ⟨show i + 1 < _ by omega, show statements.length + 1 - (i + 1) < _ by omega⟩
  | skip _ _ feeds =>
    obtain ⟨_, _, _, hreduce⟩ := Plan.entry_before_eq_some feeds
    rw [hreduce]
    split
    · exact ⟨show i + 2 < _ by omega, show statements.length + 1 - (i + 2) < _ by omega⟩
    · exact ⟨trivial, show 0 < _ by omega⟩
  | completed => exact ⟨trivial, show 0 < _ by omega⟩

end Steps

/-! ## Dry runs end -/

theorem Action.ahead_le (steps : Nat) (action : Action) : action.ahead steps ≤ steps := by
  cases action with
  | finish => exact Nat.zero_le _
  | step index => exact Nat.sub_le _ _

structure Underway (statements : List Statement) (initial : Json) (run : Run) : Prop where
  keys : run.context.keys = none
  within : run.context.action.Within (statements.length + 1)
  unwraps : ∃ removed, Override.Unwraps initial removed run.context.result

/-- The most visits that are left: a pass over all steps for each payload, and the current one. -/
def visitsLeft (statements : List Statement) (run : Run) : Nat :=
  Override.layers run.context.result * (statements.length + 1) +
    run.context.action.ahead (statements.length + 1)

section Runs

variable {program : Program} {registry : Registry σ} {w : Workflow σ}
  {settings : SimulatorSettings} {schedule : Schedule} {initial : Json} {run run' : Run}
  {i bound : Nat} {s s' : σ}

theorem visits_left_at (statements : List Statement) (haction : run.context.action = .step i) :
    visitsLeft statements run = Override.layers run.context.result * (statements.length + 1) +
      (statements.length + 1 - i) := by
  rw [visitsLeft, haction]
  rfl

theorem visits_left_start (statements : List Statement) (w : Workflow σ) (initial : Json) :
    visitsLeft statements (.start w.entry initial) =
      (Override.layers initial + 1) * (statements.length + 1) := by
  rw [visits_left_at statements rfl, Nat.succ_mul]
  rfl

theorem Underway.within_at {statements : List Statement} (hrun : Underway statements initial run)
    (haction : run.context.action = .step i) : i ≤ statements.length := by
  have hin := hrun.within
  rw [haction] at hin
  exact Nat.lt_succ_iff.mp hin

theorem start_underway (statements : List Statement) (w : Workflow σ) (initial : Json) :
    Underway statements initial (.start w.entry initial) :=
  ⟨rfl, Nat.succ_pos _, 0, .whole⟩

variable (hw : Workflow.compile program registry = .ok w) (hgives : registry.Gives stubAnswers)

include hw hgives

theorem dry_visit (hkeys : run.context.keys = none) (hin : i ≤ program.statements.length)
    (settings : SimulatorSettings) (schedule : Schedule) (s : σ) :
    ∃ step r, w.steps[i]? = some step ∧ DryStep program.statements i run.context r ∧
      Job.runOn (w.visit settings schedule run i) s =
        ((step.ends w.names r).map (run.after step.name), s) := by
  obtain ⟨step, hstep, hcompiled⟩ := compile_step_at hw hin
  obtain ⟨r, hr, hyields⟩ := dry_transition hgives hcompiled hkeys
  refine ⟨step, r, hstep, hr, ?_⟩
  rw [Workflow.visit_run_on hstep, hyields s]
  cases step.ends w.names r <;> rfl

theorem dry_visit_ok (hkeys : run.context.keys = none) (hin : i ≤ program.statements.length)
    (h : Job.runOn (w.visit settings schedule run i) s = (.ok run', s')) :
    ∃ step : Step σ, ∃ a t, DryStep program.statements i run.context (.ok a) ∧
      step.settle w.names a = .ok t ∧ run' = run.after step.name t := by
  obtain ⟨step, r, _, hr, hvisit⟩ := dry_visit hw hgives hkeys hin settings schedule s
  rw [hvisit] at h
  cases r with
  | error e => cases h
  | ok a =>
    rw [Step.ends_ok] at h
    cases hsettle : step.settle w.names a with
    | error e => rw [hsettle] at h; cases h
    | ok t =>
      rw [hsettle] at h
      cases h
      exact ⟨step, a, t, hr, hsettle, rfl⟩

/-- A visit leads forward, or it opens a payload and leads anywhere. -/
theorem dry_visit_lowers (hrun : Underway program.statements initial run)
    (haction : run.context.action = .step i)
    (h : Job.runOn (w.visit settings schedule run i) s = (.ok run', s')) :
    Underway program.statements initial run' ∧
      visitsLeft program.statements run' < visitsLeft program.statements run := by
  have hin := hrun.within_at haction
  obtain ⟨step, a, t, hr, hsettle, rfl⟩ := dry_visit_ok hw hgives hrun.keys hin h
  obtain ⟨hresult, hkeys⟩ := hr.keeps
  obtain ⟨removed, hunwraps⟩ := hrun.unwraps
  have hnone : a.keys.or run.context.keys = none := by rw [hkeys, hrun.keys]; rfl
  rw [visits_left_at program.statements haction]
  rcases Step.settle_eq_ok hsettle with ⟨_, rfl⟩ | ⟨value, target, action, hjump, htarget, rfl⟩
  · obtain ⟨hwithin, hahead⟩ := hr.ahead hin
    refine ⟨⟨hnone, hwithin, removed, ?_⟩, ?_⟩
    · show Override.Unwraps initial removed a.result
      rw [hresult]
      exact hunwraps
    · show Override.layers a.result * _ + a.action.ahead _ < _
      rw [hresult]
      omega
  · -- The payload that is opened pays for a whole pass over the steps.
    rw [hresult] at hjump
    have hlayers := Override.layers_jump hjump
    have hle := action.ahead_le (program.statements.length + 1)
    refine ⟨⟨hnone, ?_, removed + 1, .opened hunwraps hjump⟩, ?_⟩
    · rw [← compile_names_length hw]
      exact resolve_within htarget
    · show Override.layers value * _ + action.ahead _ < _
      rw [hlayers, Nat.succ_mul]
      omega

theorem dry_run_bounded (settings : SimulatorSettings) (schedule : Schedule) (initial : Json)
    (s : σ) (bound : Nat) :
    (w.itinerary settings schedule bound initial s).length ≤
        (Override.layers initial + 1) * (program.statements.length + 1) ∧
      ((Override.layers initial + 1) * (program.statements.length + 1) ≤ bound →
        (Job.runOn (w.simulate settings schedule bound initial) s).1 ≠ .ok none) := by
  rw [← visits_left_start program.statements w initial]
  refine Workflow.drive_ends_by_rank (fun _ run _ => Underway program.statements initial run)
    (visitsLeft program.statements) ?_ ?_ (start_underway _ w initial)
  · intro _ run index _ hrun haction
    have hin := hrun.within_at haction
    rw [visits_left_at program.statements haction]
    omega
  · intro _ run index s run' s' hrun haction hvisit
    exact dry_visit_lowers hw hgives hrun haction hvisit

theorem dry_run_unwraps {report : RunReport}
    (h : Job.runOn (w.simulate settings schedule bound initial) s = (.ok (some report), s')) :
    ∃ removed ≤ Override.layers initial, Override.Unwraps initial removed report.result := by
  obtain ⟨last, hlast, hresult⟩ := Workflow.drive_ends_in
    (fun run _ => Underway program.statements initial run)
    (fun run index s run' s' hrun haction hvisit =>
      (dry_visit_lowers hw hgives hrun haction hvisit).1) (start_underway _ w initial) h
  obtain ⟨removed, hunwraps⟩ := hlast.unwraps
  rw [hresult]
  exact ⟨removed, by have := hunwraps.layers_add; omega, hunwraps⟩

end Runs

/-- The command line allows a dry run as many visits as it can need. -/
theorem command_dry_run_finishes {program : Program} {plan : Plan}
    (hplan : Plan.ofProgram program = .ok plan) (settings : SimulatorSettings) (initial : Json) :
    CommandLine.dryRun plan settings initial ≠ .error .unfinished := by
  obtain ⟨w, hw⟩ := stubs_bind (σ := Unit) hplan
  have hcompile := (compile_of_plan hplan _).trans hw
  have hlen : plan.steps.length = program.statements.length + 1 := by
    rw [(plan_of_program_eq_ok hplan).1]
    simp
  have hends := (dry_run_bounded hcompile (stubs_give plan) settings .inKeyOrder initial () _).2
    (Nat.le_refl _)
  intro h
  rw [CommandLine.dryRun, hw, hlen] at h
  simp only [map_error_ok, bind, Except.bind] at h
  split at h
  · cases h
  · next hnone => exact hends hnone
  · cases h

/-- A program can be bound to its placeholders, and every dry run of it ends within a pass over all
steps for each payload of the initial value and one more. When it ends well, its result is the
initial value without some of its payloads. -/
theorem dry_run_stops {program : Program} {plan : Plan}
    (hplan : Plan.ofProgram program = .ok plan) :
    (∃ w : Workflow σ, Workflow.ofPlan plan (.stubs plan) = .ok w ∧
      ∀ settings schedule initial s bound,
        (w.itinerary settings schedule bound initial s).length ≤
          (Override.layers initial + 1) * (program.statements.length + 1) ∧
        ((Override.layers initial + 1) * (program.statements.length + 1) ≤ bound →
          (∃ e, (Job.runOn (w.simulate settings schedule bound initial) s).1 = .error e) ∨
          ∃ report, (Job.runOn (w.simulate settings schedule bound initial) s).1 =
              .ok (some report) ∧
            ∃ removed ≤ Override.layers initial,
              Override.Unwraps initial removed report.result)) ∧
    ∀ settings initial, CommandLine.dryRun plan settings initial ≠ .error .unfinished := by
  obtain ⟨w, hw⟩ := stubs_bind (σ := σ) hplan
  have hcompile := (compile_of_plan hplan _).trans hw
  refine ⟨⟨w, hw, ?_⟩, command_dry_run_finishes hplan⟩
  intro settings schedule initial s bound
  obtain ⟨hlen, hends⟩ :=
    dry_run_bounded hcompile (stubs_give plan) settings schedule initial s bound
  refine ⟨hlen, ?_⟩
  intro hbound
  cases hrun : Job.runOn (w.simulate settings schedule bound initial) s with
  | mk outcome s' =>
    rcases outcome with e | _ | report
    · exact .inl ⟨e, rfl⟩
    · exact absurd (by rw [hrun]) (hends hbound)
    · exact .inr ⟨report, rfl, dry_run_unwraps hcompile (stubs_give plan) hrun⟩

def backwardProgram : Program where
  statements := [⟨"f", 1, .call "f", "twice"⟩, ⟨"g", 2, .call "g", "back"⟩,
    ⟨"h", 3, .call "h", "twice"⟩]
  version := ""

def backwardInitial : Json := Override.goTo (Override.goTo (.int 7) "back") "twice"

theorem backward_dry_run : ∃ (plan : Plan) (w : Workflow Unit),
    Plan.ofProgram backwardProgram = .ok plan ∧ Workflow.ofPlan plan (.stubs plan) = .ok w ∧
    Override.layers backwardInitial = 2 ∧
    (w.itinerary {} .inKeyOrder 12 backwardInitial ()).map Stop.index = [0, 2, 1, 2, 3] ∧
    (w.itinerary {} .inKeyOrder 12 backwardInitial ()).length ≤ 12 ∧
    (Job.runOn (w.simulate {} .inKeyOrder 12 backwardInitial) ()).1.map
      (Option.map RunReport.result) = .ok (some (.int 7)) ∧
    ∃ removed ≤ 2, Override.Unwraps backwardInitial removed (.int 7) := by
  have hplan : Plan.ofProgram backwardProgram = .ok _ := rfl
  obtain ⟨⟨w, hw, hstops⟩, _⟩ := dry_run_stops (σ := Unit) hplan
  obtain ⟨hlen, hends⟩ := hstops {} .inKeyOrder backwardInitial () 12
  cases hw
  refine ⟨_, _, rfl, rfl, rfl, rfl, hlen, rfl, ?_⟩
  rcases hends (Nat.le_refl _) with ⟨e, he⟩ | ⟨report, hreport, hunwraps⟩
  · cases he
  · cases hreport
    exact hunwraps

/-! ## Dry runs on a plain value -/

theorem Kind.is_loop_of_call {kind : Kind} (h : kind.isCall = true) : kind.isLoop = false := by
  cases kind with
  | call => rfl
  | _ => cases h

theorem LoopsAreFed.call_before {statements : List Statement} (h : LoopsAreFed statements)
    {i : Nat} (hloop : Plan.loopAt statements (i + 1) = true) {st : Statement}
    (hst : statements[i]? = some st) : st.kind.isCall = true := by
  have hlt : i + 1 < statements.length := by
    by_cases hlt : i + 1 < statements.length
    · exact hlt
    · rw [Plan.loopAt, List.getElem?_eq_none (by omega)] at hloop
      cases hloop
  have hcall := (h (i + 1) hlt hloop).2
  rw [Nat.add_sub_cancel, hst] at hcall
  exact hcall

structure DryAt (statements : List Statement) (initial : Json) (i : Nat) (run : Run) : Prop where
  action : run.context.action = .step i
  result : run.context.result = initial
  keys : run.context.keys = none
  within : i ≤ statements.length
  single : Plan.loopAt statements i = false
  values : Plan.followsLoop statements i = true → run.context.values ≠ none

section Plain

variable {program : Program} {registry : Registry σ} {w : Workflow σ} {initial : Json} {run : Run}
  {i bound : Nat} {st : Statement}

theorem DryAt.is_single {statements : List Statement} (hat : DryAt statements initial i run)
    (hst : statements[i]? = some st) : st.kind.isLoop = false := by
  rw [← Plan.loop_at_eq hst]
  exact hat.single

theorem DryAt.next {statements : List Statement} (hat : DryAt statements initial i run)
    (hst : statements[i]? = some st) (hentry : Plan.entryBefore statements i = none) (wait : Nat)
    (name : String) :
    DryAt statements initial (i + 1) (run.after name
      (.advance { action := .step (i + 1), wait, result := run.context.result })) where
  action := rfl
  result := hat.result
  keys := hat.keys
  within := (List.getElem?_eq_some_iff.mp hst).1
  single := by rw [← Plan.entry_before_is_some, hentry]; rfl
  values hfollows := by
    rw [Plan.follows_loop_succ hst, hat.is_single hst] at hfollows
    cases hfollows

theorem start_dry_at (hw : Workflow.compile program registry = .ok w) (initial : Json) :
    DryAt program.statements initial 0 (.start w.entry initial) where
  action := rfl
  result := rfl
  keys := rfl
  within := Nat.zero_le _
  single := by
    cases hcons : program.statements with
    | nil => rfl
    | cons first rest =>
      rw [Plan.loop_at_eq rfl]
      exact Kind.is_loop_of_call ((compile_eq_ok hw).2 first rest hcons)
  values hfollows := by cases hfollows

variable (hw : Workflow.compile program registry = .ok w) (hgives : registry.Gives stubAnswers)
  (hplain : Override.Plain initial) (settings : SimulatorSettings) (schedule : Schedule) (s : σ)

include hw hgives hplain

/-- On a plain value there is nothing to follow. -/
theorem plain_visit (hat : DryAt program.statements initial i run) :
    ∃ step r, w.steps[i]? = some step ∧ DryStep program.statements i run.context r ∧
      Job.runOn (w.visit settings schedule run i) s =
        ((r.mapError (.violation step.name)).map fun a => run.after step.name (.advance a), s) := by
  obtain ⟨step, r, hstep, hr, hvisit⟩ := dry_visit hw hgives hat.keys hat.within settings schedule s
  refine ⟨step, r, hstep, hr, ?_⟩
  rw [hvisit]
  cases r with
  | error e => rfl
  | ok a =>
    have hresult : Override.Plain a.result := by
      rw [hr.keeps.1, hat.result]
      exact hplain
    rw [Step.ends_ok, Step.settle_plain hresult]
    rfl

/-- Where every `foreach` is fed by a call, a visit keeps the value and goes on. -/
theorem fed_visit (hfed : LoopsAreFed program.statements)
    (hat : DryAt program.statements initial i run) :
    ∃ run', Job.runOn (w.visit settings schedule run i) s = (.ok run', s) ∧
      ((run'.context.action = .finish ∧ run'.context.result = initial) ∨
        ∃ j > i, DryAt program.statements initial j run') := by
  obtain ⟨step, r, _, hr, hvisit⟩ := plain_visit hw hgives hplain settings schedule s hat
  cases hr with
  | next wait here _ plain =>
    exact ⟨_, hvisit, .inr ⟨i + 1, Nat.lt_succ_self i, hat.next here plain wait step.name⟩⟩
  | @skip st entry here call feeds =>
    refine ⟨_, hvisit, ?_⟩
    obtain ⟨loop, hloop, hisLoop, hreduce⟩ := Plan.entry_before_eq_some feeds
    by_cases hlt : i + 2 < program.statements.length
    · rw [if_pos hlt] at hreduce
      refine .inr ⟨i + 2, by omega, hreduce, hat.result, hat.keys, Nat.le_of_lt hlt, ?_, ?_⟩
      · cases hnext : Plan.loopAt program.statements (i + 2) with
        | false => rfl
        | true =>
          rw [Kind.is_loop_of_call (hfed.call_before hnext hloop)] at hisLoop
          cases hisLoop
      · exact fun _ => Option.some_ne_none _
    · rw [if_neg hlt] at hreduce
      exact .inl ⟨hreduce, hat.result⟩
  | completed => exact ⟨_, hvisit, .inl ⟨rfl, hat.result⟩⟩
  | noKeys here pause feeds =>
    have hloop : Plan.loopAt program.statements (i + 1) = true := by
      rw [← Plan.entry_before_is_some, feeds]
      rfl
    rw [hfed.call_before hloop here] at pause
    cases pause
  | noBatch here loop =>
    rw [hat.is_single here] at loop
    cases loop
  | noValues follows values => exact absurd values (hat.values follows)

theorem fed_drive (hfed : LoopsAreFed program.statements)
    (hat : DryAt program.statements initial i run)
    (hbound : program.statements.length < i + bound) :
    ∃ report, Job.runOn (w.drive settings schedule bound run) s = (.ok (some report), s) ∧
      report.result = initial := by
  induction bound generalizing run i with
  | zero =>
    have := hat.within
    omega
  | succ bound ih =>
    obtain ⟨run', hvisit, hnext⟩ := fed_visit hw hgives hplain settings schedule s hfed hat
    rw [Workflow.drive_visit_ok hat.action hvisit]
    rcases hnext with ⟨hfinish, hresult⟩ | ⟨j, hj, hat'⟩
    · exact ⟨_, Workflow.drive_finish hfinish bound s, hresult⟩
    · exact ih hat' (by omega)

theorem unfed_visit (hat : DryAt program.statements initial i run)
    (hin : i < program.statements.length)
    (hnext : Plan.loopAt program.statements (i + 1) = false) :
    ∃ run', Job.runOn (w.visit settings schedule run i) s = (.ok run', s) ∧
      DryAt program.statements initial (i + 1) run' := by
  have hentry : Plan.entryBefore program.statements i = none := by
    rw [← Plan.entry_before_is_some] at hnext
    simpa using hnext
  obtain ⟨step, r, _, hr, hvisit⟩ := plain_visit hw hgives hplain settings schedule s hat
  cases hr with
  | next wait here _ plain => exact ⟨_, hvisit, hat.next here plain wait step.name⟩
  | skip _ _ feeds => rw [hentry] at feeds; cases feeds
  | completed last => omega
  | noKeys _ _ feeds => rw [hentry] at feeds; cases feeds
  | noBatch here loop =>
    rw [hat.is_single here] at loop
    cases loop
  | noValues follows values => exact absurd values (hat.values follows)

/-- A `wait` right before a `foreach` finds no keys. -/
theorem pause_visit (hat : DryAt program.statements initial i run)
    (hst : program.statements[i]? = some st) (hpause : st.kind.isCall = false)
    (hnext : Plan.loopAt program.statements (i + 1) = true) :
    Job.runOn (w.visit settings schedule run i) s =
      (.error (.violation st.stepName .noKeysToFanOut), s) := by
  obtain ⟨step, r, hstep, hr, hvisit⟩ := plain_visit hw hgives hplain settings schedule s hat
  rw [hvisit, (compile_compiled hw hstep).name_eq hst]
  cases hr with
  | noKeys => rfl
  | next _ _ _ plain =>
    rw [← Plan.entry_before_is_some, plain] at hnext
    cases hnext
  | skip here call =>
    rw [hst] at here
    cases here
    rw [hpause] at call
    cases call
  | completed last => simp [last] at hst
  | noBatch here loop =>
    rw [hat.is_single here] at loop
    cases loop
  | noValues follows values => exact absurd values (hat.values follows)

theorem unfed_drive {last : Nat} (hst : program.statements[last]? = some st)
    (hpause : st.kind.isCall = false) (hnext : Plan.loopAt program.statements (last + 1) = true)
    (hfirst : ∀ j ≤ last, Plan.loopAt program.statements j = false)
    (hat : DryAt program.statements initial i run) (hle : i ≤ last)
    (hbound : last < i + bound) :
    Job.runOn (w.drive settings schedule bound run) s =
      (.error (.violation st.stepName .noKeysToFanOut), s) := by
  induction bound generalizing run i with
  | zero => omega
  | succ bound ih =>
    have hlt := (List.getElem?_eq_some_iff.mp hst).1
    by_cases hlast : i = last
    · subst hlast
      exact Workflow.drive_visit_broken hat.action
        (pause_visit hw hgives hplain settings schedule s hat hst hpause hnext)
    · obtain ⟨run', hvisit, hat'⟩ := unfed_visit hw hgives hplain settings schedule s hat (by omega)
        (hfirst (i + 1) (by omega))
      rw [Workflow.drive_visit_ok hat.action hvisit]
      exact ih hat' (by omega) (by omega)

end Plain

/-- On a value that is no payload, a dry run keeps the value where every `foreach` is fed by a call,
and it fails at a pause that stands right before the first `foreach`. -/
theorem dry_run_keeps_value {program : Program} {plan : Plan} {initial : Json}
    (hplan : Plan.ofProgram program = .ok plan) (hplain : Override.Plain initial) :
    ∃ w : Workflow σ, Workflow.ofPlan plan (.stubs plan) = .ok w ∧
      (LoopsAreFed program.statements →
        ∀ settings schedule s bound, program.statements.length < bound →
          ∃ report, Job.runOn (w.simulate settings schedule bound initial) s =
              (.ok (some report), s) ∧ report.result = initial) ∧
      (∀ i st, program.statements[i]? = some st → st.kind.isCall = false →
        Plan.loopAt program.statements (i + 1) = true →
        (∀ j ≤ i, Plan.loopAt program.statements j = false) →
        ∀ settings schedule s bound, i < bound →
          Job.runOn (w.simulate settings schedule bound initial) s =
            (.error (.violation st.stepName .noKeysToFanOut), s)) := by
  obtain ⟨w, hw⟩ := stubs_bind (σ := σ) hplan
  have hcompile := (compile_of_plan hplan _).trans hw
  have hgives := stubs_give (σ := σ) plan
  have hat := start_dry_at hcompile initial
  refine ⟨w, hw, ?_, ?_⟩
  · intro hfed settings schedule s bound hbound
    exact fed_drive hcompile hgives hplain settings schedule s hfed hat (by omega)
  · intro i st hst hpause hnext hfirst settings schedule s bound hbound
    exact unfed_drive hcompile hgives hplain settings schedule s hst hpause hnext hfirst hat
      (Nat.zero_le i) (by omega)

def fedText : String :=
  "init\nforeach items\ncombine\nwait 2 until ready\ninit\nforeach items\n"

def fedProgram : Program := .ofStatements
  [.at "init" 1 (.call "init") 0, .at "foreach items" 2 (.loop "items") 1,
    .at "combine" 3 (.call "combine") 2, .at "wait 2 until ready" 4 (.waitUntil 2 "ready") 3,
    .at "init" 5 (.call "init") 4, .at "foreach items" 6 (.loop "items") 5]

/-- The value has the shape of a payload, but no marker. -/
theorem fed_dry_run : ∃ (plan : Plan) (w : Workflow Unit), Program.parse fedText = .ok fedProgram ∧
    Plan.ofProgram fedProgram = .ok plan ∧ Workflow.ofPlan plan (.stubs plan) = .ok w ∧
    Override.Plain (.arr [.int 1, .obj []]) ∧ LoopsAreFed fedProgram.statements ∧
    ∃ report, Job.runOn (w.simulate {} .inKeyOrder 7 (.arr [.int 1, .obj []])) () =
      (.ok (some report), ()) ∧ report.result = .arr [.int 1, .obj []] := by
  have hplan : Plan.ofProgram fedProgram = .ok _ := rfl
  have hplain : Override.Plain (.arr [.int 1, .obj []]) := rfl
  have hfed : LoopsAreFed fedProgram.statements := by decide
  obtain ⟨w, hw, hkeeps, _⟩ := dry_run_keeps_value (σ := Unit) hplan hplain
  exact ⟨_, w, rfl, hplan, hw, hplain, hfed, hkeeps hfed {} .inKeyOrder () 7 (by decide)⟩

def unfedText : String := "init\nwait 1\nforeach items\ncombine"

def unfedProgram : Program := .ofStatements
  [.at "init" 1 (.call "init") 0, .at "wait 1" 2 (.wait 1) 1,
    .at "foreach items" 3 (.loop "items") 2, .at "combine" 4 (.call "combine") 3]

/-- A dry run of a text that can be planned, on a plain value, breaks off. -/
theorem unfed_dry_run_fails : ∃ (plan : Plan) (w : Workflow Unit),
    Program.parse unfedText = .ok unfedProgram ∧ Plan.ofProgram unfedProgram = .ok plan ∧
    Workflow.ofPlan plan (.stubs plan) = .ok w ∧ Override.Plain .null ∧
    ∀ bound, (Job.runOn (w.simulate {} .inKeyOrder (bound + 2) .null) ()).1 =
      .error (.violation "_wait_1_1" .noKeysToFanOut) := by
  exact ⟨_, _, rfl, rfl, rfl, rfl, fun _ => rfl⟩

end Lineflow
