import Lineflow.Proofs.ForwardRuns
import Lineflow.Proofs.Transitions

/-! # The values that a reduce step sees

Values stay in the context until others replace them, and yet a reduce step never sees old ones:
when nothing redirects the run, it comes right after the batch of its own `foreach`, or right after
the call that had no keys for it.
-/
namespace Lineflow

variable {σ : Type}

/-- Where the values come from that the call at position `i`, right after a `foreach`, finds in the
context: the visit before it ran the `foreach`, or passed over it for want of keys. -/
inductive Supplied (registry : Registry σ) (statements : List Statement) (i : Nat)
    (before : Stop σ) (s' : σ) (values : List Json) : Prop where
  | batch {st name f keys} (previous : before.index + 1 = i)
      (here : statements[before.index]? = some st) (kind : st.kind = .loop name)
      (found : registry.iterations.find? name = some f) (held : before.context.keys = some keys)
      (ran : Job.runOn (keys.mapM (f before.context.result)) before.state = (.ok values, s'))
      (each : values.length = keys.length) : Supplied registry statements i before s' values
  | skipped {st name f carrier} (previous : before.index + 2 = i)
      (here : statements[before.index]? = some st) (kind : st.kind = .call name)
      (found : registry.fanOuts.find? name = some f)
      (ran : Job.runOn (f before.context.result) before.state = (.ok (carrier, []), s'))
      (none : values = []) : Supplied registry statements i before s' values

theorem mapM_run_length {ε α β : Type} {f : α → Job σ ε β} {xs : List α} {ys : List β} {s s' : σ}
    (h : Job.runOn (xs.mapM f) s = (.ok ys, s')) : ys.length = xs.length := by
  induction xs generalizing ys s with
  | nil => cases h; rfl
  | cons x xs ih =>
    obtain ⟨y, s₁, rest, _, hrest, rfl⟩ := Job.mapM_cons_eq_ok h
    rw [List.length_cons, List.length_cons, ih hrest]

/-! ## Steps -/

section Steps

variable {registry : Registry σ} {statements : List Statement} {i : Nat} {step : Step σ}
  {names : List String} {ctx : Context} {s s' : σ} {a : Advance}

theorem Candidate.straight (hstraight : registry.NeverRedirects) {stop : Stop σ} {v : Json}
    (hready : Ready statements stop.index stop.context)
    (h : Candidate registry statements stop v) : ¬ Override.Redirects v := by
  cases h with
  | call _ _ _ found ran => exact hstraight.call _ _ found _ _ _ _ ran
  | reduce _ _ _ found _ ran => exact hstraight.reduce _ _ found _ _ _ _ _ ran
  | fanOut _ _ _ found ran => exact hstraight.fanOut _ _ found _ _ _ _ _ ran
  | held none => exact (hready.plain none).straight

theorem Compiled.fan_out_function (h : Compiled registry statements i step) {reduce : Action}
    {name : String} {f : FanOutFunction σ}
    (hfan : step.fanOut = some ⟨reduce, .function name f⟩) :
    step.poll = none ∧ ∃ st, statements[i]? = some st ∧ st.kind = .call name ∧
      registry.fanOuts.find? name = some f := by
  cases h with
  | call => cases hfan
  | reduce => cases hfan
  | @fanOut _ st _ _ _ hst hk _ hf => cases hfan; exact ⟨rfl, st, hst, hk, hf⟩
  | wait => cases entry_context _ _ hfan
  | waitUntil => cases entry_context _ _ hfan
  | loop => cases entry_context _ _ hfan
  | completed => cases hfan

theorem Compiled.reduce_work (h : Compiled registry statements i step) {name : String}
    {f : ReduceFunction σ} (hwork : step.work = .reduce name f) :
    ∃ st, statements[i]? = some st ∧ st.kind.isCall = true ∧
      Plan.followsLoop statements i = true := by
  cases h with
  | @reduce _ st _ _ hst hk _ hfollows => exact ⟨st, hst, by rw [hk]; rfl, hfollows⟩
  | _ => cases hwork

theorem skip_target (h : Compiled registry statements i step) {fanOut : FanOut σ}
    (hfan : step.fanOut = some fanOut) {j : Nat} (hj : fanOut.reduce = .step j) : i + 2 = j := by
  obtain ⟨entry, hentry, hreduce⟩ := h.feeds_entry hfan
  obtain ⟨_, _, _, htarget⟩ := Plan.entry_before_eq_some hentry
  rw [hreduce, htarget] at hj
  split at hj
  · exact Action.step.inj hj
  · cases hj

theorem follows_loop_iff :
    Plan.followsLoop statements i = true ↔ 0 < i ∧ Plan.loopAt statements (i - 1) = true := by
  simp [Plan.followsLoop, Plan.loopAt]

theorem reduce_follows_loop {program : Program} {plan : Plan}
    (hplan : Plan.ofProgram program = .ok plan) {planned : PlannedStep}
    (h : plan.steps[i]? = some planned) {name : String}
    (hrole : planned.function = some ⟨name, .reduce⟩) :
    ∃ st, program.statements[i]? = some st ∧ st.kind = .call name ∧
      Plan.followsLoop program.statements i = true := by
  rcases plan_step_at hplan h with ⟨st, hst, rfl⟩ | ⟨_, rfl⟩
  · refine ⟨st, hst, ?_⟩
    simp only [Plan.stepAt] at hrole
    cases hk : st.kind with
    | call f =>
      rw [hk] at hrole
      simp only [Plan.functionUse, Option.some.injEq, FunctionUse.mk.injEq] at hrole
      obtain ⟨rfl, hrole⟩ := hrole
      unfold Plan.callRole at hrole
      split at hrole
      · cases hrole
      · split at hrole
        · next hfollows => exact ⟨rfl, hfollows⟩
        · cases hrole
    | loop f => rw [hk] at hrole; cases hrole
    | wait seconds => rw [hk] at hrole; cases hrole
    | waitUntil seconds c => rw [hk] at hrole; cases hrole
  · cases hrole

theorem settle_no_values {t : String} :
    step.settle names a ≠ .error (.violation t .noValuesToReduce) := by
  unfold Step.settle
  intro h
  split at h
  · cases h
  · cases h
  · split at h <;> cases h

end Steps

/-! ## Visits -/

structure Orderly (statements : List Statement) (run : Run) : Prop where
  track : ∀ i, run.context.action = .step i → OnTrack statements i run
  keys : run.context.keys ≠ some []

section Visits

variable {program : Program} {registry : Registry σ} {w : Workflow σ}
  {settings : SimulatorSettings} {schedule : Schedule} {initial : Json} {run run' : Run}
  {i k bound : Nat} {s s' : σ} {before stop : Stop σ}

variable (hw : Workflow.compile program registry = .ok w) (hstraight : registry.NeverRedirects)

include hw hstraight

omit hstraight in
theorem start_orderly (hne : program.statements ≠ []) (initial : Json) :
    Orderly program.statements (.start w.entry initial) := by
  obtain ⟨first, rest, hcons⟩ := List.exists_cons_of_ne_nil hne
  have hcall : first.kind.isCall = true := (compile_eq_ok hw).2 first rest hcons
  constructor
  · intro i hi
    cases hi
    exact ⟨rfl, Nat.zero_le _, Or.inr ⟨first, by rw [hcons]; rfl, hcall⟩⟩
  · intro hkeys
    cases hkeys

theorem visit_orderly (hrun : Orderly program.statements run)
    (haction : run.context.action = .step i)
    (h : Job.runOn (w.visit settings schedule run i) s = (.ok run', s')) :
    Orderly program.statements run' := by
  constructor
  · exact (visit_onward hw hstraight (hrun.track i haction) h).2
  · obtain ⟨t, hcomes, hcontext⟩ := Workflow.visit_comes h
    rw [hcontext]
    exact hcomes.keys_ne hw hrun.keys

/-- A visit to a call right after a `foreach` finds the values that the visit before it left. -/
theorem visit_supplies (hready : Ready program.statements before.index before.context)
    (haction : before.context.action = .step before.index)
    (hkeys : before.context.keys ≠ some []) {t : Transition}
    (hcomes : w.Comes settings before (.ok t) s')
    (hnext : (before.context.apply t).action = .step i)
    (hloop : Plan.loopAt program.statements (i - 1) = true) {st : Statement}
    (hst : program.statements[i]? = some st) (hcall : st.kind.isCall = true) :
    ∃ values, (before.context.apply t).values = some values ∧
      Supplied registry program.statements i before s' values := by
  cases hcomes.visited hw with
  | @batched step _ _ _ compiled here kind found loop ends =>
    have hplain : Override.Plain before.context.result :=
      hready.plain (by simp [here, kind, Kind.isCall])
    rcases ends.of_ok with ⟨held, _⟩ | ⟨keys, values, action, result, held, ran, settled, rfl⟩
    · exact absurd held hkeys
    rw [Step.settle_plain hplain] at settled
    have hforward : step.next = .step i := by
      cases settled
      exact hnext
    obtain ⟨rfl, _⟩ := compiled.next_step hforward
    exact ⟨values, rfl, .batch rfl here kind found held ran (mapM_run_length ran)⟩
  | @invoked step compiled single ends =>
    rcases ends.of_ok with ⟨poll, polls, _, rfl⟩ | ⟨a, s₁, admits, proposes, settled⟩
    · obtain rfl : before.index = i := Action.step.inj (haction.symm.trans hnext)
      obtain ⟨st', hst', hk⟩ := compiled.poll_kind polls
      rw [hst] at hst'
      cases hst'
      rw [hk] at hcall
      cases hcall
    have hnot := (proposes.candidate compiled single admits).straight hstraight hready
    obtain ⟨_, rfl⟩ := Step.settle_straight settled hnot
    -- The step before position `i` is a `foreach`, and this one is none.
    have hforward : step.next ≠ .step i := by
      intro hforward
      obtain ⟨rfl, st', hst'⟩ := compiled.next_step hforward
      rw [Nat.add_sub_cancel, Plan.loop_at_eq hst', ← compiled.is_loop_eq hst', single] at hloop
      cases hloop
    cases proposes with
    | skip feeds gathered =>
      refine ⟨[], rfl, ?_⟩
      have hover : before.index + 2 = i := skip_target compiled feeds hnext
      cases gathered with
      | returned feeds ran =>
        obtain ⟨hpoll, st', hst', hk, hf⟩ := compiled.fan_out_function feeds
        obtain rfl := admits.state_eq hpoll
        exact .skipped hover hst' hk hf ran rfl
      | handed _ held => exact absurd held hkeys
    | pass => exact absurd hnext hforward
    | call => exact absurd hnext hforward
    | reduce => exact absurd hnext hforward
    | iterate => exact absurd hnext hforward

theorem stop_orderly (hne : program.statements ≠ [])
    (h : (w.itinerary settings schedule bound initial s)[k]? = some stop) :
    stop.context.action = .step stop.index ∧ stop.context.keys ≠ some [] ∧
      Ready program.statements stop.index stop.context := by
  obtain ⟨now, hnow, hcontext, haction⟩ := Workflow.stops_keep
    (fun run _ => Orderly program.statements run)
    (fun _ _ _ _ _ hrun haction hvisit => visit_orderly hw hstraight hrun haction hvisit)
    (start_orderly hw hne initial) h
  rw [← hcontext]
  exact ⟨haction, hnow.keys, (hnow.track _ haction).ready⟩

theorem stop_supplied (hne : program.statements ≠ [])
    (h : (w.itinerary settings schedule bound initial s)[k]? = some stop) {st : Statement}
    (hst : program.statements[stop.index]? = some st) (hcall : st.kind.isCall = true)
    (hfollows : Plan.followsLoop program.statements stop.index = true) :
    ∃ before values, 0 < k ∧
      (w.itinerary settings schedule bound initial s)[k - 1]? = some before ∧
      stop.context.values = some values ∧
      Supplied registry program.statements stop.index before stop.state values := by
  obtain ⟨hpos, hloop⟩ := follows_loop_iff.mp hfollows
  cases k with
  | zero =>
    have hzero : stop.index = 0 := Workflow.stops_first rfl (by
      rw [List.head?_eq_getElem?]
      exact h)
    omega
  | succ k =>
    have hlt := (List.getElem?_eq_some_iff.mp h).1
    obtain ⟨before, hbefore⟩ : ∃ before,
        (w.itinerary settings schedule bound initial s)[k]? = some before :=
      ⟨_, List.getElem?_eq_getElem (Nat.lt_of_succ_lt hlt)⟩
    obtain ⟨haction, hkeys, hready⟩ := stop_orderly hw hstraight hne hbefore
    obtain ⟨t, hcomes, hafter⟩ := Workflow.stops_linked hbefore h
    have hnext := (stop_orderly hw hstraight hne h).1
    rw [hafter] at hnext ⊢
    obtain ⟨values, hvalues, hsupplied⟩ :=
      visit_supplies hw hstraight hready haction hkeys hcomes hnext hloop hst hcall
    exact ⟨before, values, Nat.succ_pos k, hbefore, hvalues, hsupplied⟩

omit hstraight in
/-- Only a reduce step that finds no values says so. -/
theorem comes_no_values {name : String}
    (h : w.Comes settings stop (.error (.violation name .noValuesToReduce)) s') :
    stop.context.values = none ∧ ∃ st, program.statements[stop.index]? = some st ∧
      st.kind.isCall = true ∧ Plan.followsLoop program.statements stop.index = true := by
  cases h.visited hw with
  | batched _ _ _ _ _ ends =>
    cases ends with
    | refused settled ends => cases ends; exact absurd settled settle_no_values
    | halted _ halt ends => cases halt <;> cases ends
    | noKeys _ ends => cases ends
    | empty _ _ ends => cases ends
    | oversized ends => cases ends
    | joined _ _ _ ends => cases ends
  | invoked compiled _ ends =>
    cases ends with
    | retry _ _ ends => cases ends
    | settled _ _ ends => exact absurd ends settle_no_values
    | halted halts ends =>
      cases halts with
      | function _ halt => cases halt <;> cases ends
      | noKeys => cases ends
      | noKey => cases ends
      | noValues work held => exact ⟨held, compiled.reduce_work work⟩

end Visits

/-- Whenever a run without redirections comes to a reduce step, the context has the values of the
`foreach` right before it: one answer for each key, in the order of the keys, from the batch of the
visit just before, or no values if that visit was to a call that returned no keys. So a reduce step
is never left without values. -/
theorem reduce_sees_own_values {program : Program} {plan : Plan} {registry : Registry σ}
    {w : Workflow σ} (hplan : Plan.ofProgram program = .ok plan)
    (hw : Workflow.compile program registry = .ok w) (hne : program.statements ≠ [])
    (hstraight : registry.NeverRedirects) (settings : SimulatorSettings) (schedule : Schedule)
    (initial : Json) (s : σ) (bound : Nat) :
    (∀ k stop planned name, (w.itinerary settings schedule bound initial s)[k]? = some stop →
      plan.steps[stop.index]? = some planned → planned.function = some ⟨name, .reduce⟩ →
      ∃ before values, 0 < k ∧
        (w.itinerary settings schedule bound initial s)[k - 1]? = some before ∧
        stop.context.values = some values ∧
        Supplied registry program.statements stop.index before stop.state values) ∧
    ∀ step, (Job.runOn (w.simulate settings schedule bound initial) s).1 ≠
      .error (.violation step .noValuesToReduce) := by
  constructor
  · intro k stop planned name hstop hplanned hrole
    obtain ⟨st, hst, hk, hfollows⟩ := reduce_follows_loop hplan hplanned hrole
    exact stop_supplied hw hstraight hne hstop hst (by rw [hk]; rfl) hfollows
  · intro name h
    obtain ⟨now, i, s₀, hnow, haction, hbroken, hlast⟩ := Workflow.drive_breaks
      (fun run _ => Orderly program.statements run)
      (fun _ _ _ _ _ hrun haction hvisit => visit_orderly hw hstraight hrun haction hvisit)
      (start_orderly hw hne initial) (Prod.ext h rfl)
    obtain ⟨step, hstep, _⟩ := compile_step_at hw (hnow.track i haction).within
    obtain ⟨hnone, st, hst, hcall, hfollows⟩ :=
      comes_no_values hw (Workflow.visit_breaks hstep hbroken)
    obtain ⟨k, hk⟩ := List.mem_iff_getElem?.mp (List.mem_of_getLast? hlast)
    obtain ⟨_, values, _, _, hvalues, _⟩ :=
      stop_supplied hw hstraight hne hk hst hcall hfollows
    rw [hnone] at hvalues
    cases hvalues

def gatherProgram : Program where
  statements := [.at "split" 1 (.call "split") 0, .at "foreach count" 2 (.loop "count") 1,
    .at "gather" 3 (.call "gather") 2, .at "none" 4 (.call "none") 3,
    .at "foreach count" 5 (.loop "count") 4, .at "gather" 6 (.call "gather") 5]
  version := ""

def gatherRegistry : Registry Int where
  fanOuts := ⟨[("split", fun x => pure (.arr [x], [.int 7, .int 7])),
    ("none", fun x => pure (.arr [x], []))]⟩
  iterations := ⟨[("count", fun _ key => do
    let n ← get
    set (n + 1)
    return .arr [key, .int n])]⟩
  reduces := ⟨[("gather", fun x vs => pure (.arr [.arr (x :: vs)]))]⟩

theorem gather_never_redirects : gatherRegistry.NeverRedirects where
  call name f h := by cases h
  fanOut name f h x s c ks s' hc := by
    obtain ⟨rfl, rfl⟩ | ⟨rfl, rfl⟩ := by simpa [gatherRegistry] using find_mem h
    · cases hc; exact (wrapped_plain x).straight
    · cases hc; exact (wrapped_plain x).straight
  reduce name f h x vs s v s' hv := by
    obtain ⟨rfl, rfl⟩ := by simpa [gatherRegistry] using find_mem h
    cases hv
    exact (wrapped_plain _).straight

theorem gather_sees_own_values : ∃ plan w first second before,
    Plan.ofProgram gatherProgram = .ok plan ∧
    Workflow.compile gatherProgram gatherRegistry = .ok w ∧
    (w.itinerary {} .inKeyOrder 6 .null 0)[2]? = some first ∧ first.index = 2 ∧
    first.context.values = some [.arr [.int 7, .int 0], .arr [.int 7, .int 1]] ∧
    (w.itinerary {} .inKeyOrder 6 .null 0)[3]? = some before ∧ before.index = 3 ∧
    before.context.values = first.context.values ∧
    (w.itinerary {} .inKeyOrder 6 .null 0)[4]? = some second ∧ second.index = 5 ∧
    second.context.values = some [] ∧
    Supplied gatherRegistry gatherProgram.statements 5 before second.state [] := by
  have hplan : Plan.ofProgram gatherProgram = .ok _ := rfl
  have hw : Workflow.compile gatherProgram gatherRegistry = .ok _ := rfl
  obtain ⟨hreduce, _⟩ := reduce_sees_own_values hplan hw (by decide) gather_never_redirects {}
    .inKeyOrder .null 0 6
  obtain ⟨before, values, _, hbefore, hvalues, hsupplied⟩ := hreduce 4 _ _ "gather" rfl rfl rfl
  cases hvalues
  exact ⟨_, _, _, _, before, hplan, hw, rfl, rfl, rfl, hbefore, by cases hbefore; rfl,
    by cases hbefore; rfl, rfl, rfl, rfl, hsupplied⟩

end Lineflow
