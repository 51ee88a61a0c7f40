import Lineflow.Proofs.NumberRanges
import Lineflow.Proofs.StepNames
import Lineflow.Proofs.Transitions

/-! # The state of the driver

Whatever the user functions do, the driver stays within the workflow, never holds the key of a
worker, and waits only as long as some line says. A target that resolves to nothing comes from an
override, never from the driver itself.
-/
namespace Lineflow

variable {σ : Type}

/-- A context that a run from the entry can have, by the statements alone. -/
structure Steady (statements : List Statement) (ctx : Context) : Prop where
  action : ctx.action.Within (statements.length + 1)
  key : ctx.key = none
  wait : ctx.wait = 0 ∨ ∃ st ∈ statements, st.kind.seconds? = some ctx.wait

theorem start_steady (statements : List Statement) (initial : Json) :
    Steady statements (Run.start (.step 0) initial).context := by
  constructor
  · exact Nat.succ_pos _
  · rfl
  · exact Or.inl rfl

section Steps

variable {registry : Registry σ} {statements : List Statement} {i : Nat} {step : Step σ}
  {names : List String} {ctx : Context} {s s' : σ} {a : Advance}

theorem Step.Proposes.leads (h : step.Proposes ctx s a s') : Step.Leads names step a.action := by
  cases h with
  | skip feeds => exact .skip feeds
  | pass => exact .next
  | call => exact .next
  | reduce => exact .next
  | iterate => exact .next

/-! ## One transition -/

theorem settle_steady (h : Compiled registry statements i step)
    (hnames : names.length = statements.length + 1) (hctx : Steady statements ctx)
    (ha : Step.Leads names step a.action) (hwait : a.wait = 0 ∨ a.wait = step.wait)
    {t : Transition} (ht : step.settle names a = .ok t) : Steady statements (ctx.apply t) := by
  -- Two views of one advance: where it leads, and that only its action and result are new.
  obtain ⟨b, hb, hleads⟩ := Step.settle_leads ha ht
  obtain ⟨action, result, hb'⟩ := Step.settle_advance ht
  rw [hb] at hb'
  cases hb'
  subst hb
  have hwithin := h.leads_within hnames hleads
  rw [hnames] at hwithin
  refine ⟨hwithin, hctx.key, ?_⟩
  show a.wait = 0 ∨ ∃ st ∈ statements, st.kind.seconds? = some a.wait
  rcases hwait with hwait | hwait
  · exact Or.inl hwait
  · rcases h.step_wait with hzero | ⟨st, hst, hk⟩
    · exact Or.inl (hwait.trans hzero)
    · refine Or.inr ⟨st, List.mem_of_getElem? hst, ?_⟩
      rw [hk, hwait]
      rfl

/-- A target that resolves to nothing is neither a step nor the end. -/
theorem unresolved_no_step {target : String} (h : Action.resolve? names target = none) :
    target ≠ endName ∧ target ∉ names := by
  unfold Action.resolve? at h
  split at h
  · cases h
  · next hend =>
    refine ⟨hend, ?_⟩
    intro hmem
    obtain ⟨j, hj⟩ := List.mem_iff_getElem?.mp hmem
    obtain ⟨k, hk⟩ := last_index_found hj
    rw [hk] at h
    cases h

theorem settle_unresolved {target : String}
    (h : step.settle names a = .error (.unresolved target)) :
    (∃ value, Override.ofResult a.result = .jump value target) ∧ target ≠ endName ∧
      target ∉ names := by
  unfold Step.settle at h
  split at h
  · cases h
  · cases h
  · next value other hjump =>
    split at h
    · cases h
    · next hnone =>
      cases h
      exact ⟨⟨value, hjump⟩, unresolved_no_step hnone⟩

end Steps

/-! ## Whole runs -/

section Runs

variable {program : Program} {registry : Registry σ} {w : Workflow σ}
  {settings : SimulatorSettings} {schedule : Schedule} {initial : Json} {run run' : Run} {i : Nat}
  {s s' : σ}

variable (hw : Workflow.compile program registry = .ok w)

include hw

theorem comes_steady {stop : Stop σ} (hstop : Steady program.statements stop.context)
    {t : Transition} (h : w.Comes settings stop (.ok t) s') :
    Steady program.statements (stop.context.apply t) := by
  have hnames := compile_names_length hw
  cases h.visited hw with
  | invoked compiled _ ends =>
    rcases ends.of_ok with ⟨poll, polls, _, rfl⟩ | ⟨a, _, _, proposes, settled⟩
    · obtain ⟨st, hst, hk⟩ := compiled.poll_kind polls
      refine ⟨hstop.action, hstop.key, Or.inr ⟨st, List.mem_of_getElem? hst, ?_⟩⟩
      rw [hk]
      rfl
    · exact settle_steady compiled hnames hstop proposes.leads proposes.wait_eq settled
  | batched compiled _ _ _ _ ends =>
    rcases ends.of_ok with ⟨_, _, rfl⟩ | ⟨_, _, action, _, _, _, settled, rfl⟩
    · have hwithin := compiled.leads_within hnames .next
      rw [hnames] at hwithin
      exact ⟨hwithin, hstop.key, Or.inl rfl⟩
    · have hsettled := settle_steady compiled hnames hstop .next (Or.inl rfl) settled
      exact ⟨hsettled.action, hstop.key, Or.inl rfl⟩

theorem reachable_steady (h : w.Reachable settings schedule initial s run s') :
    Steady program.statements run.context := by
  induction h with
  | entry => exact start_steady program.statements initial
  | visit _ _ hvisit ih =>
    obtain ⟨t, hcomes, hcontext⟩ := Workflow.visit_comes hvisit
    rw [hcontext]
    exact comes_steady hw ih hcomes

theorem steady_step_at (hrun : Steady program.statements run.context)
    (haction : run.context.action = .step i) : ∃ step, w.steps[i]? = some step := by
  have hwithin := hrun.action
  rw [haction] at hwithin
  obtain ⟨step, hstep, _⟩ := compile_step_at hw (Nat.lt_succ_iff.mp hwithin)
  exact ⟨step, hstep⟩

theorem comes_unresolved {stop : Stop σ} {target : String}
    (h : w.Comes settings stop (.error (.unresolved target)) s') :
    (∃ payload value, Candidate registry program.statements stop payload ∧
      Override.ofResult payload = .jump value target) ∧ target ≠ endName ∧ target ∉ w.names := by
  cases h.visited hw with
  | invoked compiled single ends =>
    cases ends with
    | settled admits proposes ends =>
      obtain ⟨⟨value, hjump⟩, hnames⟩ := settle_unresolved ends
      exact ⟨⟨_, value, proposes.candidate compiled single admits, hjump⟩, hnames⟩
    | retry _ _ ends => cases ends
    | halted halts ends =>
      cases halts with
      | function _ halt => cases halt <;> cases ends
      | noKeys => cases ends
      | noValues => cases ends
      | noKey => cases ends
  | batched _ here kind _ _ ends =>
    cases ends with
    | refused settled ends =>
      cases ends
      obtain ⟨⟨value, hjump⟩, hnames⟩ := settle_unresolved settled
      have hheld : Candidate registry program.statements stop stop.context.result :=
        .held (by simp [here, kind, Kind.isCall])
      exact ⟨⟨_, value, hheld, hjump⟩, hnames⟩
    | halted _ halt ends => cases halt <;> cases ends
    | noKeys _ ends => cases ends
    | empty _ _ ends => cases ends
    | oversized ends => cases ends
    | joined _ _ _ ends => cases ends

end Runs

/-- After any number of visits the action is within the workflow, no key of a worker is left in the
context, and the wait is one of the program's. A run that breaks off at an unknown target got it
from the override at its last stop, and no step has that name. -/
theorem driver_stays_in_workflow {program : Program} {registry : Registry σ} {w : Workflow σ}
    (hw : Workflow.compile program registry = .ok w) (settings : SimulatorSettings)
    (schedule : Schedule) (initial : Json) (s : σ) :
    (∀ run s', w.Reachable settings schedule initial s run s' →
      Steady program.statements run.context ∧
      ∀ i, run.context.action = .step i → ∃ step, w.steps[i]? = some step) ∧
    ∀ bound target s', Job.runOn (w.simulate settings schedule bound initial) s =
        (.error (.unresolved target), s') →
      target ≠ endName ∧ target ∉ w.names ∧ ∃ stop payload value,
        (w.itinerary settings schedule bound initial s).getLast? = some stop ∧
        Candidate registry program.statements stop payload ∧
        Override.ofResult payload = .jump value target := by
  constructor
  · intro run s' hreach
    have hsteady := reachable_steady hw hreach
    exact ⟨hsteady, fun i haction => steady_step_at hw hsteady haction⟩
  · intro bound target s' h
    obtain ⟨now, i, s₀, hreach, haction, hbroken, hlast⟩ := Workflow.drive_breaks
      (w.Reachable settings schedule initial s)
      (fun _ _ _ _ _ hreach haction hvisit => .visit hreach haction hvisit) .entry h
    obtain ⟨step, hstep⟩ := steady_step_at hw (reachable_steady hw hreach) haction
    obtain ⟨⟨payload, value, hcandidate, hjump⟩, hend, hnames⟩ :=
      comes_unresolved hw (Workflow.visit_breaks hstep hbroken)
    exact ⟨hend, hnames, _, payload, value, hlast, hcandidate, hjump⟩

def astrayProgram : Program where
  statements := [⟨"hop", 1, .call "hop", "twice"⟩, ⟨"wait 5", 2, .wait 5, "twice"⟩,
    ⟨"hop", 3, .call "hop", "_func_hop_2"⟩]
  version := ""

def astrayRegistry : Registry Nat where
  calls := ⟨[("hop", fun x => do
    let hops ← get
    set (hops + 1)
    return Override.goTo x (if hops = 0 then "twice" else "nowhere"))]⟩

theorem astray_run : ∃ w run, Workflow.compile astrayProgram astrayRegistry = .ok w ∧
    w.Reachable {} .inKeyOrder (.int 7) 0 run 1 ∧
    run.context = { action := .step 2, wait := 5, result := .int 7 } ∧
    Steady astrayProgram.statements run.context ∧
    Job.runOn (w.simulate {} .inKeyOrder 3 (.int 7)) 0 = (.error (.unresolved "nowhere"), 2) ∧
    "nowhere" ∉ w.names := by
  have hw : Workflow.compile astrayProgram astrayRegistry = .ok _ := rfl
  obtain ⟨hsteady, hunresolved⟩ := driver_stays_in_workflow hw {} .inKeyOrder (.int 7) 0
  obtain ⟨hcontext, _⟩ := hsteady _ _ (.visit (.visit .entry rfl rfl) rfl rfl)
  obtain ⟨_, hnames, _⟩ := hunresolved 3 "nowhere" 2 rfl
  exact ⟨_, _, hw, .visit (.visit .entry rfl rfl) rfl rfl, rfl, hcontext, rfl, hnames⟩

end Lineflow
