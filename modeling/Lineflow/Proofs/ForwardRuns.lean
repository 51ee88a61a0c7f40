import Lineflow.Proofs.FanOutBatch
import Lineflow.Proofs.Itinerary

/-! # Runs without redirection

When no user function redirects control, a run goes through the statements from first to last. It
stays at a `wait until` while the condition fails, and it passes over a `foreach` without keys.
-/
namespace Lineflow

variable {σ : Type}

def Override.Redirects (v : Json) : Prop := ∃ value target, ofResult v = .jump value target

structure Registry.NeverRedirects (registry : Registry σ) : Prop where
  call : ∀ name f, registry.calls.find? name = some f →
    ∀ x s v s', Job.runOn (f x) s = (.ok v, s') → ¬ Override.Redirects v
  fanOut : ∀ name f, registry.fanOuts.find? name = some f →
    ∀ x s c ks s', Job.runOn (f x) s = (.ok (c, ks), s') → ¬ Override.Redirects c
  reduce : ∀ name f, registry.reduces.find? name = some f →
    ∀ x vs s v s', Job.runOn (f x vs) s = (.ok v, s') → ¬ Override.Redirects v

/-- The visit is to a `wait until` whose condition answers no. -/
def Declined (registry : Registry σ) (statements : List Statement) (stop : Stop σ) : Prop :=
  ∃ st seconds name holds, statements[stop.index]? = some st ∧
    st.kind = .waitUntil seconds name ∧ registry.conditions.find? name = some holds ∧
    (Job.runOn (holds stop.context.result) stop.state).1 = .ok false

/-- Where a visit leads when nothing redirects the run. -/
inductive Onward (registry : Registry σ) (statements : List Statement) (stop : Stop σ) :
    Action → Prop where
  | retry (declined : Declined registry statements stop) :
      Onward registry statements stop (.step stop.index)
  | next (within : stop.index < statements.length) :
      Onward registry statements stop (.step (stop.index + 1))
  | skip (loop : Plan.loopAt statements (stop.index + 1) = true)
      (here : Plan.loopAt statements stop.index = false)
      (within : stop.index + 2 < statements.length) :
      Onward registry statements stop (.step (stop.index + 2))
  | skipLast (loop : Plan.loopAt statements (stop.index + 1) = true)
      (here : Plan.loopAt statements stop.index = false)
      (last : stop.index + 2 = statements.length) : Onward registry statements stop .finish
  | completed (last : stop.index = statements.length) : Onward registry statements stop .finish

section Onward

variable {registry : Registry σ} {statements : List Statement} {stop : Stop σ} {j : Nat}

theorem Onward.le (h : Onward registry statements stop (.step j)) : stop.index ≤ j := by
  cases h <;> omega

theorem Onward.within (h : Onward registry statements stop (.step j))
    (hin : stop.index ≤ statements.length) : j ≤ statements.length := by
  cases h <;> omega

end Onward

/-! ## One step -/

theorem Step.settle_straight {names : List String} {step : Step σ} {a : Advance} {t : Transition}
    (h : step.settle names a = .ok t) (hstraight : ¬ Override.Redirects a.result) :
    Override.Plain a.result ∧ t = .advance a := by
  rcases settle_eq_ok h with hplain | ⟨value, target, _, hjump, _⟩
  · exact hplain
  · exact absurd ⟨value, target, hjump⟩ hstraight

theorem Override.Plain.straight {v : Json} (h : Override.Plain v) : ¬ Override.Redirects v := by
  rintro ⟨value, target, hjump⟩
  rw [Override.Plain, hjump] at h
  cases h

section Steps

variable {registry : Registry σ} {statements : List Statement} {i : Nat} {step : Step σ}
  {names : List String} {ctx : Context} {s s' : σ} {t : Transition}

/-- The visit goes on as if nothing could redirect it, and leaves a result that does not. -/
def GoesOn (registry : Registry σ) (statements : List Statement) (i : Nat) (ctx : Context) (s : σ)
    (t : Transition) : Prop :=
  Onward registry statements ⟨i, ctx, s⟩ (ctx.apply t).action ∧
    Override.Plain (ctx.apply t).result

theorem settle_goes_on {a : Advance} (h : step.settle names a = .ok t)
    (hstraight : ¬ Override.Redirects a.result)
    (honward : Onward registry statements ⟨i, ctx, s⟩ a.action) :
    GoesOn registry statements i ctx s t := by
  obtain ⟨hplain, rfl⟩ := Step.settle_straight h hstraight
  exact ⟨honward, hplain⟩

theorem skip_onward {entry : FanOutEntry} (hentry : Plan.entryBefore statements i = some entry)
    (hhere : Plan.loopAt statements i = false) :
    Onward registry statements ⟨i, ctx, s⟩ entry.reduce := by
  obtain ⟨next, hnext, _, hreduce⟩ := Plan.entry_before_eq_some hentry
  have hloop : Plan.loopAt statements (i + 1) = true := by
    rw [← Plan.entry_before_is_some, hentry]
    rfl
  have hlt := (List.getElem?_eq_some_iff.mp hnext).1
  rw [hreduce]
  split
  · next hwithin => exact .skip hloop hhere hwithin
  · next hlast => exact .skipLast hloop hhere (show i + 2 = statements.length by omega)

theorem pause_goes_on {entry : Option FanOutEntry} (hentry : Plan.entryBefore statements i = entry)
    (hwork : step.work = .pass) (hnext : step.next = .step (i + 1))
    (hfan : step.fanOut = entry.map fun entry => ⟨entry.reduce, .context⟩)
    (hin : i < statements.length) (hhere : Plan.loopAt statements i = false)
    (hplain : Override.Plain ctx.result) {start : σ}
    (h : Job.runOn (step.proceed names ctx) start = (.ok t, s')) :
    GoesOn registry statements i ctx s t := by
  have honward : Onward registry statements ⟨i, ctx, s⟩ step.next := by
    rw [hnext]
    exact .next hin
  cases entry with
  | none =>
    rw [Step.proceed_without_keys hfan, Step.perform_pass hwork] at h
    exact settle_goes_on (Prod.mk.inj h).1 hplain.straight honward
  | some entry =>
    rw [Step.proceed_with_context hfan] at h
    split at h
    · cases h
    · exact settle_goes_on (Prod.mk.inj h).1 hplain.straight (skip_onward hentry hhere)
    · rw [Step.perform_pass hwork] at h
      exact settle_goes_on (Prod.mk.inj h).1 hplain.straight honward

/-- The first statement is a call, and only a call may start from a payload. -/
def Ready (statements : List Statement) (i : Nat) (ctx : Context) : Prop :=
  Override.Plain ctx.result ∨ ∃ st, statements[i]? = some st ∧ st.kind.isCall = true

theorem Ready.plain (h : Ready statements i ctx)
    (hnot : ∀ st, statements[i]? = some st → st.kind.isCall = false) :
    Override.Plain ctx.result := by
  rcases h with hplain | ⟨st, hst, hcall⟩
  · exact hplain
  · rw [hnot st hst] at hcall
    cases hcall

theorem invoke_goes_on (hstraight : registry.NeverRedirects)
    (h : Compiled registry statements i step) (hloop : step.isLoop = false)
    (hready : Ready statements i ctx) (haction : ctx.action = .step i)
    (ht : Job.runOn (step.invoke names ctx) s = (.ok t, s')) :
    GoesOn registry statements i ctx s t := by
  cases h with
  | @call _ st name f hst hk _ _ hf =>
    rw [Step.invoke_without_poll rfl, Step.proceed_without_keys rfl, Step.perform_call rfl] at ht
    split at ht
    · next v s'' hv =>
      have hin := (List.getElem?_eq_some_iff.mp hst).1
      exact settle_goes_on (Prod.mk.inj ht).1 (hstraight.call name f hf _ _ _ _ hv) (.next hin)
    · cases ht
  | @reduce _ st name f hst hk _ _ hf =>
    rw [Step.invoke_without_poll rfl, Step.proceed_without_keys rfl, Step.perform_reduce rfl] at ht
    split at ht
    · cases ht
    · split at ht
      · next v s'' hv =>
        have hin := (List.getElem?_eq_some_iff.mp hst).1
        exact settle_goes_on (Prod.mk.inj ht).1 (hstraight.reduce name f hf _ _ _ _ _ hv)
          (.next hin)
      · cases ht
  | @fanOut _ st name f entry hst hk hentry hf =>
    have hhere : Plan.loopAt statements i = false := by rw [Plan.loop_at_eq hst, hk]; rfl
    rw [Step.invoke_without_poll rfl, Step.proceed_with_function rfl] at ht
    split at ht
    · next c s'' hc =>
      exact settle_goes_on (Prod.mk.inj ht).1 (hstraight.fanOut name f hf _ _ _ _ _ hc)
        (skip_onward hentry hhere)
    · next c key keys s'' hc =>
      have hin := (List.getElem?_eq_some_iff.mp hst).1
      rw [Step.perform_pass rfl] at ht
      exact settle_goes_on (Prod.mk.inj ht).1 (hstraight.fanOut name f hf _ _ _ _ _ hc)
        (.next hin)
    · cases ht
  | @wait _ st seconds hst hk =>
    have hhere : Plan.loopAt statements i = false := by rw [Plan.loop_at_eq hst, hk]; rfl
    have hplain : Override.Plain ctx.result := hready.plain (by simp [hst, hk, Kind.isCall])
    rw [Step.invoke_without_poll rfl] at ht
    exact pause_goes_on rfl rfl rfl rfl (List.getElem?_eq_some_iff.mp hst).1 hhere hplain ht
  | @waitUntil _ st seconds name holds hst hk hf =>
    have hhere : Plan.loopAt statements i = false := by rw [Plan.loop_at_eq hst, hk]; rfl
    have hplain : Override.Plain ctx.result := hready.plain (by simp [hst, hk, Kind.isCall])
    rw [Step.invoke_with_poll rfl] at ht
    split at ht
    · exact pause_goes_on rfl rfl rfl rfl (List.getElem?_eq_some_iff.mp hst).1 hhere hplain ht
    · next s'' hno =>
      cases ht
      have hdeclined : Declined registry statements ⟨i, ctx, s⟩ :=
        ⟨st, seconds, name, holds, hst, hk, hf, by rw [hno]⟩
      refine ⟨?_, hplain⟩
      show Onward registry statements ⟨i, ctx, s⟩ ctx.action
      rw [haction]
      exact .retry hdeclined
    · cases ht
  | loop _ hk => simp [Step.isLoop, hk, Kind.isLoop] at hloop
  | completed =>
    have hplain : Override.Plain ctx.result := hready.plain (by simp)
    rw [Step.invoke_without_poll rfl, Step.proceed_without_keys rfl, Step.perform_pass rfl] at ht
    exact settle_goes_on (Prod.mk.inj ht).1 hplain.straight (.completed rfl)

end Steps

/-! ## One batch -/

namespace Batch

variable {registry : Registry σ} {statements : List Statement} {w : Workflow σ} {i : Nat}
  {loop : Step σ} {ctx : Context} {keys : List Json}

theorem worker_goes_on (hloop : Compiled registry statements i loop) (h : loop.isLoop = true)
    (hkeys : ctx.keys = some keys) (hne : keys ≠ []) (hplain : Override.Plain ctx.result)
    {key value : Json} {s : σ} {other : Action}
    (hok : outcomeIn w loop ctx key s = .ok (value, other)) : other = loop.next := by
  obtain ⟨t, ht⟩ := answer_of_outcome_ok hok
  obtain ⟨a, v, _, _, hout, result, hshared⟩ := outcome_in_ok hloop h hkeys hne ht
  rw [hout] at hok
  cases hok
  rw [Step.settle_plain hplain] at hshared
  simp only [Except.ok.injEq, Transition.advance.injEq, Advance.mk.injEq] at hshared
  exact hshared.1.symm

/-- A batch on a plain result ends at the statement after its `foreach`. -/
theorem batch_goes_on (hloop : Compiled registry statements i loop) (h : loop.isLoop = true)
    (hplain : Override.Plain ctx.result) {pool : Nat} {failFast : Bool} {order : Nat → List Nat}
    (hperm : ∀ workers, (order workers).Perm (List.range workers)) {s s' : σ} {t : Transition}
    (ht : Job.runOn (run w loop ctx pool failFast order) s = (.ok t, s')) :
    ∃ values, t =
      .advance { action := loop.next, result := ctx.result, values := some values } := by
  cases hkeys : ctx.keys with
  | none =>
    simp only [run, hkeys, Job.run_on_throw] at ht
    cases ht
  | some keys =>
    by_cases hne : keys = []
    · subst hne
      rw [run_empty hkeys] at ht
      cases ht
      exact ⟨[], rfl⟩
    by_cases hpool : largestPool < pool
    · rw [run_pool_too_large hkeys hne hpool] at ht
      cases ht
    rw [run_nonempty hkeys hne (by omega)] at ht
    have hp : Possible w loop ctx keys ((outcomes w loop ctx keys).run s).1 :=
      outcomes_possible keys s
    have hagree : Agree loop.next ((outcomes w loop ctx keys).run s).1 :=
      hp.agree_on fun _ _ _ _ hok => worker_goes_on hloop h hkeys hne hplain hok
    have hall := hperm keys.length
    rw [← hp.length_eq] at hall ht
    rcases join_cases w loop ctx failFast hagree hall (hp.nonempty hne)
      with ⟨_, hok⟩ | ⟨_, _, _, herror⟩
    · rw [hok] at ht
      cases ht
      exact ⟨_, rfl⟩
    · rw [herror] at ht
      cases ht

end Batch

/-! ## Routes -/

inductive Route (registry : Registry σ) (statements : List Statement) : List (Stop σ) → Prop where
  | last {stop} (ends : Onward registry statements stop .finish) : Route registry statements [stop]
  | cons {stop next rest} (moves : Onward registry statements stop (.step next.index))
      (route : Route registry statements (next :: rest)) :
      Route registry statements (stop :: next :: rest)

namespace Route

variable {registry : Registry σ} {statements : List Statement} {stops : List (Stop σ)}

theorem after {stop : Stop σ} {j : Nat} (h : Route registry statements stops)
    (hfirst : ∀ first, stops.head? = some first → first.index = j)
    (hmoves : Onward registry statements stop (.step j)) :
    Route registry statements (stop :: stops) := by
  cases h with
  | last ends =>
    rw [← hfirst _ rfl] at hmoves
    exact .cons hmoves (.last ends)
  | cons moves route =>
    rw [← hfirst _ rfl] at hmoves
    exact .cons hmoves (.cons moves route)

theorem in_order (h : Route registry statements stops) :
    (stops.map Stop.index).Pairwise (· ≤ ·) := by
  induction h with
  | last => exact List.pairwise_singleton _ _
  | @cons stop next rest moves _ ih =>
    refine List.pairwise_cons.mpr ⟨?_, ih⟩
    intro k hk
    have hle := moves.le
    rcases List.mem_cons.mp hk with rfl | hk
    · exact hle
    · have := (List.pairwise_cons.mp ih).1 k hk
      omega

theorem covers (h : Route registry statements stops) {k : Nat}
    (hfirst : ∀ first, stops.head? = some first → first.index ≤ k) (hk : k < statements.length)
    (hnot : Plan.loopAt statements k = false) : k ∈ stops.map Stop.index := by
  induction h with
  | @last stop ends =>
    have hle := hfirst stop rfl
    cases ends with
    | skipLast loop _ last =>
      have hne : k ≠ stop.index + 1 := by
        rintro rfl
        rw [loop] at hnot
        cases hnot
      exact List.mem_singleton.mpr (by omega)
    | completed last => omega
  | @cons stop next rest moves _ ih =>
    have hle := hfirst stop rfl
    by_cases heq : k = stop.index
    · exact heq ▸ List.mem_cons_self
    refine List.mem_cons_of_mem _ (ih ?_)
    intro first hhead
    cases hhead
    generalize hj : next.index = j at moves ⊢
    cases moves with
    | retry => exact hle
    | next => omega
    | skip loop =>
      have hne : k ≠ stop.index + 1 := by
        rintro rfl
        rw [loop] at hnot
        cases hnot
      omega

theorem revisits (h : Route registry statements stops) {k : Nat}
    (hk : 1 < (stops.map Stop.index).count k) :
    ∃ st seconds name, statements[k]? = some st ∧ st.kind = .waitUntil seconds name := by
  induction h with
  | @last stop =>
    have := List.count_le_length (a := k) (l := [stop.index])
    simp only [List.map_cons, List.map_nil, List.length_singleton] at hk this
    omega
  | @cons stop next rest moves route ih =>
    rw [List.map_cons, List.count_cons] at hk
    by_cases heq : stop.index = k
    · have hmem : k ∈ (next :: rest).map Stop.index := by
        rw [if_pos (by simpa using heq)] at hk
        exact List.count_pos_iff.mp (by omega)
      have hle : next.index ≤ k := by
        rcases List.mem_cons.mp hmem with rfl | hmem
        · exact Nat.le_refl _
        · exact (List.pairwise_cons.mp route.in_order).1 k hmem
      generalize hj : next.index = j at moves hle
      cases moves with
      | retry declined =>
        obtain ⟨st, seconds, name, _, hst, hkind, _⟩ := declined
        exact ⟨st, seconds, name, heq ▸ hst, hkind⟩
      | next => omega
      | skip => omega
    · rw [if_neg (by simpa using heq)] at hk
      exact ih hk

/-- The completion step comes last, unless the last statement is a `foreach` that is passed over. -/
theorem completed_last (h : Route registry statements stops) {first : Stop σ}
    (hfirst : stops.head? = some first) (hin : first.index ≤ statements.length) :
    (stops.map Stop.index).getLast? = some statements.length ↔
      (first.index < statements.length →
        Plan.loopAt statements (statements.length - 1) = true →
        statements.length - 1 ∈ stops.map Stop.index) := by
  induction h generalizing first with
  | @last stop ends =>
    cases hfirst
    cases ends with
    | skipLast loop _ last =>
      have hlast : statements.length - 1 = stop.index + 1 := by omega
      rw [hlast]
      constructor
      · intro hend
        have hhere : stop.index = statements.length := by simpa using hend
        omega
      · intro hpassed
        have hhere : stop.index + 1 = stop.index := by simpa using hpassed (by omega) loop
        omega
    | completed last => simp [last]
  | @cons stop next rest moves _ ih =>
    cases hfirst
    rw [List.map_cons, List.map_cons, List.getLast?_cons_cons, ← List.map_cons,
      ih rfl (moves.within hin), List.mem_cons]
    have hmem : next.index ∈ (next :: rest).map Stop.index := List.mem_cons_self
    generalize hj : next.index = j at moves hmem
    cases moves with
    | retry =>
      constructor
      · exact fun h hlt hloop => .inr (h hlt hloop)
      · intro h hlt hloop
        rcases h hlt hloop with heq | hmem'
        · rw [heq]; exact hmem
        · exact hmem'
    | next hlt =>
      constructor
      · intro h _ hloop
        by_cases hend : stop.index + 1 < statements.length
        · exact .inr (h hend hloop)
        · exact .inl (by omega)
      · intro h hlt' hloop
        exact (h hlt hloop).resolve_left (by omega)
    | skip _ _ hlt =>
      constructor
      · exact fun h _ hloop => .inr (h hlt hloop)
      · exact fun h _ hloop => (h (by omega) hloop).resolve_left (by omega)

end Route

/-! ## One visit -/

structure OnTrack (statements : List Statement) (i : Nat) (run : Run) : Prop where
  action : run.context.action = .step i
  within : i ≤ statements.length
  ready : Ready statements i run.context

section Visits

variable {program : Program} {registry : Registry σ} {w : Workflow σ}
  {settings : SimulatorSettings} {schedule : Schedule} {run run' : Run} {i bound : Nat} {s s' : σ}

variable (hw : Workflow.compile program registry = .ok w) (hstraight : registry.NeverRedirects)

include hw hstraight

theorem transition_goes_on {step : Step σ} (hstep : w.steps[i]? = some step) {ctx : Context}
    (hready : Ready program.statements i ctx) (haction : ctx.action = .step i)
    {order : Nat → List Nat} (hperm : ∀ workers, (order workers).Perm (List.range workers))
    {t : Transition}
    (ht : Job.runOn (w.transition settings order step ctx) s = (.ok t, s')) :
    GoesOn registry program.statements i ctx s t := by
  have h := compile_compiled hw hstep
  cases hloop : step.isLoop with
  | false =>
    rw [Workflow.transition_step hloop] at ht
    exact invoke_goes_on hstraight h hloop hready haction ht
  | true =>
    rw [Workflow.transition_batch hloop] at ht
    obtain ⟨st, name, f, hst, hk, _, hform⟩ := h.of_loop hloop
    have hplain : Override.Plain ctx.result := hready.plain (by simp [hst, hk, Kind.isCall])
    obtain ⟨values, rfl⟩ := Batch.batch_goes_on h hloop hplain hperm ht
    have hnext : step.next = .step (i + 1) := by rw [hform]
    refine ⟨?_, hplain⟩
    show Onward registry program.statements ⟨i, ctx, s⟩ step.next
    rw [hnext]
    exact .next (List.getElem?_eq_some_iff.mp hst).1

/-- A visit on track leads onward, and the run stays on track. -/
theorem visit_onward (htrack : OnTrack program.statements i run)
    (h : Job.runOn (w.visit settings schedule run i) s = (.ok run', s')) :
    Onward registry program.statements ⟨i, run.context, s⟩ run'.context.action ∧
      ∀ j, run'.context.action = .step j → OnTrack program.statements j run' := by
  obtain ⟨step, t, hstep, ht, rfl⟩ := Workflow.visit_eq_ok h
  obtain ⟨honward, hplain⟩ := transition_goes_on hw hstraight hstep htrack.ready htrack.action
    (schedule.isPerm run.trail.length) ht
  refine ⟨honward, ?_⟩
  intro j hj
  have honward' : Onward registry program.statements ⟨i, run.context, s⟩ (.step j) := by
    rw [← hj]
    exact honward
  exact ⟨hj, honward'.within htrack.within, .inl hplain⟩

/-! ## Whole runs -/

theorem stops_onward (htrack : OnTrack program.statements i run) {k : Nat} {a b : Stop σ}
    (ha : (w.stops settings schedule bound run s)[k]? = some a)
    (hb : (w.stops settings schedule bound run s)[k + 1]? = some b) :
    Onward registry program.statements a (.step b.index) := by
  induction bound generalizing run i s k with
  | zero => cases ha
  | succ bound ih =>
    cases hvisit : Job.runOn (w.visit settings schedule run i) s with
    | mk r t =>
      cases r with
      | error e =>
        rw [Workflow.stops_broken htrack.action hvisit] at hb
        cases hb
      | ok run' =>
        rw [Workflow.stops_visit htrack.action hvisit] at ha hb
        obtain ⟨honward, hnext⟩ := visit_onward hw hstraight htrack hvisit
        cases haction : run'.context.action with
        | finish =>
          rw [Workflow.stops_finish haction] at hb
          cases hb
        | step j =>
          cases k with
          | zero =>
            cases ha
            have hfirst : b.index = j := Workflow.stops_first haction (by
              rw [List.head?_eq_getElem?]
              exact hb)
            rw [hfirst, ← haction]
            exact honward
          | succ k => exact ih (hnext j haction) ha hb

theorem drive_route (htrack : OnTrack program.statements i run) {report : RunReport}
    (h : Job.runOn (w.drive settings schedule bound run) s = (.ok (some report), s')) :
    Route registry program.statements (w.stops settings schedule bound run s) := by
  refine Workflow.drive_induction (motive := fun bound run s =>
    ∀ i, OnTrack program.statements i run →
      Route registry program.statements (w.stops settings schedule bound run s)) ?_ ?_ h i htrack
  · intro bound run hfinish _ i htrack
    rw [htrack.action] at hfinish
    cases hfinish
  · intro bound run index s run' t haction hvisit ih i htrack
    have hindex : i = index := Action.step.inj (htrack.action.symm.trans haction)
    subst hindex
    obtain ⟨honward, hnext⟩ := visit_onward hw hstraight htrack hvisit
    rw [Workflow.stops_visit haction hvisit]
    cases haction' : run'.context.action with
    | finish =>
      rw [Workflow.stops_finish haction']
      rw [haction'] at honward
      exact .last honward
    | step j =>
      rw [haction'] at honward
      exact (ih j (hnext j haction')).after (fun _ => Workflow.stops_first haction') honward

/-- A run in which every condition holds makes one visit to each step at most. -/
theorem undeclined_ends (htrack : OnTrack program.statements i run)
    (hholds : ∀ stop ∈ w.stops settings schedule bound run s,
      ¬ Declined registry program.statements stop) :
    (w.stops settings schedule bound run s).length ≤ program.statements.length + 1 - i ∧
      (program.statements.length + 1 - i ≤ bound →
        (Job.runOn (w.drive settings schedule bound run) s).1 ≠ .ok none) := by
  have hrank : run.context.action.ahead (program.statements.length + 1) =
      program.statements.length + 1 - i := by rw [htrack.action]; rfl
  rw [← hrank]
  refine Workflow.drive_ends_by_rank (fun bound run s => (∀ i, run.context.action = .step i →
      OnTrack program.statements i run) ∧ ∀ stop ∈ w.stops settings schedule bound run s,
        ¬ Declined registry program.statements stop)
    (fun run => run.context.action.ahead (program.statements.length + 1)) ?_ ?_ ⟨?_, hholds⟩
  · intro bound run index s hinv haction
    have := (hinv.1 index haction).within
    rw [haction]
    show 0 < program.statements.length + 1 - index
    omega
  · rintro bound run index s run' t ⟨htrack, hholds⟩ haction hvisit
    have hin := (htrack index haction).within
    obtain ⟨honward, hnext⟩ := visit_onward hw hstraight (htrack index haction) hvisit
    rw [Workflow.stops_visit haction hvisit] at hholds
    refine ⟨⟨hnext, fun stop hstop => hholds stop (List.mem_cons_of_mem _ hstop)⟩, ?_⟩
    rw [haction]
    show _ < program.statements.length + 1 - index
    -- Only a retry stays where it is.
    generalize run'.context.action = action at honward
    cases honward with
    | retry declined => exact absurd declined (hholds _ List.mem_cons_self)
    | next => show program.statements.length + 1 - (index + 1) < _; omega
    | skip => show program.statements.length + 1 - (index + 2) < _; omega
    | skipLast => show 0 < _; omega
    | completed => show 0 < _; omega
  · intro j hj
    have : j = i := Action.step.inj (hj.symm.trans htrack.action)
    subst this
    exact htrack

end Visits

/-- A whole run visits every statement that is no `foreach`, in order, and only a `wait until` more
than once. -/
structure Traverses (statements : List Statement) (path : List Nat) : Prop where
  in_order : path.Pairwise (· ≤ ·)
  covers : ∀ i < statements.length, Plan.loopAt statements i = false → i ∈ path
  revisits : ∀ i, 1 < path.count i →
    ∃ st seconds name, statements[i]? = some st ∧ st.kind = .waitUntil seconds name
  completed : path.getLast? = some statements.length ↔
    (Plan.loopAt statements (statements.length - 1) = true → statements.length - 1 ∈ path)

/-- When no function redirects it, a run begins at the first statement, and each visit leads to the
same `wait until` again, to the next step or past a `foreach`. A run that ends well traverses the
statements, and one in which no condition fails ends after at most one visit to each step. -/
theorem runs_move_forward {program : Program} {registry : Registry σ} {w : Workflow σ}
    (hw : Workflow.compile program registry = .ok w) (hne : program.statements ≠ [])
    (hstraight : registry.NeverRedirects) (settings : SimulatorSettings) (schedule : Schedule)
    (initial : Json) (s : σ) (bound : Nat) :
    (w.itinerary settings schedule (bound + 1) initial s).head?.map Stop.index = some 0 ∧
    (∀ k a b, (w.itinerary settings schedule bound initial s)[k]? = some a →
      (w.itinerary settings schedule bound initial s)[k + 1]? = some b →
      Onward registry program.statements a (.step b.index)) ∧
    (∀ report, (Job.runOn (w.simulate settings schedule bound initial) s).1 =
        .ok (some report) →
      report.visits.map (·.step) = (w.itinerary settings schedule bound initial s).map (fun stop =>
        w.actionName (.step stop.index)) ∧
      Traverses program.statements
        ((w.itinerary settings schedule bound initial s).map Stop.index)) ∧
    ((∀ stop ∈ w.itinerary settings schedule bound initial s,
        ¬ Declined registry program.statements stop) →
      (w.itinerary settings schedule bound initial s).length ≤ program.statements.length + 1 ∧
      (program.statements.length < bound →
        (Job.runOn (w.simulate settings schedule bound initial) s).1 ≠ .ok none)) := by
  obtain ⟨first, rest, hcons⟩ := List.exists_cons_of_ne_nil hne
  have hcall : first.kind.isCall = true := (compile_eq_ok hw).2 first rest hcons
  have htrack : OnTrack program.statements 0 (.start w.entry initial) :=
    ⟨rfl, Nat.zero_le _, .inr ⟨first, by rw [hcons]; rfl, hcall⟩⟩
  refine ⟨?_, fun k a b => stops_onward hw hstraight htrack, ?_, ?_⟩
  · rw [Workflow.itinerary, Workflow.stops_head rfl]
    rfl
  · intro report hended
    obtain ⟨s', h⟩ : ∃ s', Job.runOn (w.simulate settings schedule bound initial) s =
        (.ok (some report), s') := ⟨_, Prod.ext hended rfl⟩
    have hroute := drive_route hw hstraight htrack h
    refine ⟨Workflow.report_visits h, hroute.in_order, ?_, fun i => hroute.revisits, ?_⟩
    · intro i hi hnot
      refine hroute.covers ?_ hi hnot
      intro first hfirst
      rw [Workflow.stops_first rfl hfirst]
      exact Nat.zero_le _
    · cases hhead : (w.stops settings schedule bound (.start w.entry initial) s).head? with
      | none =>
        rw [List.head?_eq_none_iff.mp hhead] at hroute
        cases hroute
      | some first =>
        have hzero : first.index = 0 := Workflow.stops_first rfl hhead
        have hpos : 0 < program.statements.length := List.length_pos_iff.mpr hne
        have hlast := hroute.completed_last hhead (by omega)
        rw [hzero] at hlast
        exact hlast.trans ⟨fun h => h hpos, fun h _ => h⟩
  · intro hholds
    exact undeclined_ends hw hstraight htrack hholds

def forwardProgram : Program where
  statements := [.at "split" 1 (.call "split") 0, .at "foreach echo" 2 (.loop "echo") 1,
    .at "none" 3 (.call "none") 2, .at "foreach echo" 4 (.loop "echo") 3,
    .at "wait 3 until asked" 5 (.waitUntil 3 "asked") 4, .at "close" 6 (.call "close") 5,
    .at "none" 7 (.call "none") 6, .at "foreach echo" 8 (.loop "echo") 7]
  version := ""

def forwardRegistry : Registry Nat where
  calls := ⟨[("close", fun x => pure (.arr [x]))]⟩
  fanOuts := ⟨[("split", fun x => pure (.arr [x], [.int 7, .int 8])),
    ("none", fun x => pure (.arr [x], []))]⟩
  iterations := ⟨[("echo", fun _ k => pure k)]⟩
  conditions := ⟨[("asked", fun _ => do
    let asked ← get
    set (asked + 1)
    return 0 < asked)]⟩

theorem wrapped_plain (x : Json) : Override.Plain (.arr [x]) := rfl

theorem forward_never_redirects : forwardRegistry.NeverRedirects where
  call name f h x s v s' hv := by
    obtain ⟨rfl, rfl⟩ := by simpa [forwardRegistry] using find_mem h
    cases hv
    exact (wrapped_plain x).straight
  fanOut name f h x s c ks s' hc := by
    obtain ⟨rfl, rfl⟩ | ⟨rfl, rfl⟩ := by simpa [forwardRegistry] using find_mem h
    · cases hc; exact (wrapped_plain x).straight
    · cases hc; exact (wrapped_plain x).straight
  reduce name f h := by cases h

/-- The initial value is a payload, but the first call answers with a plain one. -/
theorem forward_run : ∃ w visits, Workflow.compile forwardProgram forwardRegistry = .ok w ∧
    (Job.runOn (w.simulate {} .inKeyOrder 8 (Override.goToEnd .null)) 0).1 =
      .ok (some ⟨.arr [.arr [.arr [.arr [Override.goToEnd .null]]]], visits⟩) ∧
    (w.itinerary {} .inKeyOrder 8 (Override.goToEnd .null) 0).map Stop.index =
      [0, 1, 2, 4, 4, 5, 6] ∧
    Traverses forwardProgram.statements [0, 1, 2, 4, 4, 5, 6] := by
  have hw : Workflow.compile forwardProgram forwardRegistry = .ok _ := rfl
  have hforward := runs_move_forward hw (by decide) forward_never_redirects {} .inKeyOrder
    (Override.goToEnd .null) 0 8
  refine ⟨_, [⟨"_func_split_0", 0⟩, ⟨"_foreach_echo_1", 0⟩, ⟨"_func_none_2", 0⟩,
    ⟨"_wait_3_until_asked_4", 3⟩, ⟨"_wait_3_until_asked_4", 0⟩, ⟨"_func_close_5", 0⟩,
    ⟨"_func_none_6", 0⟩], hw, ?run, rfl, (hforward.2.2.1 _ ?run).2⟩
  rfl

end Lineflow
