import Lineflow.Proofs.DriverState
import Lineflow.Proofs.ForwardRuns
import Lineflow.Proofs.InvocationCounts
import Lineflow.Proofs.OverrideConsumption

/-! # Redirection by functions

A call, a reduce or a fan-out function redirects the run by wrapping its value in a payload. The
payload wins over the next statement and over the way past a `foreach` without keys, and exactly one
layer is taken off. A target may name any step and the end, not the state before the first step.
-/
namespace Lineflow

variable {σ : Type}

/-! ## Payloads -/

namespace Override

/-- A pair whose second part is an object with the marker, whatever the marker holds. -/
def Payload (x : Json) : Prop :=
  ∃ value members, x = .arr [value, .obj members] ∧ overrideMarker ∈ members.map Prod.fst

theorem find_eq_none {key : String} {members : List (String × Json)}
    (h : key ∉ members.map Prod.fst) : Json.find? key members = none := by
  rw [Json.find?, List.lookup_eq_none_iff]
  intro member hmember
  rw [bne_iff_ne]
  rintro rfl
  exact h (List.mem_map_of_mem hmember)

theorem plain_of_not_payload {x : Json} (h : ¬ Payload x) : Plain x := by
  unfold Plain ofResult
  split
  · next value members =>
    have hnone : Json.find? overrideMarker members = none := by
      apply find_eq_none
      intro hmember
      exact h ⟨value, members, rfl, hmember⟩
    rw [hnone]
  · rfl

theorem of_result_go_to {t : String} (h : t ≠ "") (v : Json) : ofResult (goTo v t) = .jump v t := by
  simp [ofResult, goTo, Json.find?, h]

theorem of_result_go_to_empty (v : Json) :
    ofResult (goTo v "") = .refused (.obj [(overrideMarker, .str "")]) := by
  simp [ofResult, goTo, Json.find?]

end Override

/-! ## Functions that return -/

/-- The function of a call runs at a stop and returns: a result, or a carrier with some keys. -/
inductive Returns (registry : Registry σ) (statements : List Statement) (stop : Stop σ) :
    FunctionUse → Json → Option (List Json) → σ → Prop where
  | call {st name f v s'} (here : statements[stop.index]? = some st) (kind : st.kind = .call name)
      (role : Plan.callRole statements stop.index = .call)
      (found : registry.calls.find? name = some f)
      (ran : Job.runOn (f stop.context.result) stop.state = (.ok v, s')) :
      Returns registry statements stop ⟨name, .call⟩ v none s'
  | reduce {st name f values v s'} (here : statements[stop.index]? = some st)
      (kind : st.kind = .call name) (role : Plan.callRole statements stop.index = .reduce)
      (found : registry.reduces.find? name = some f) (held : stop.context.values = some values)
      (ran : Job.runOn (f stop.context.result values) stop.state = (.ok v, s')) :
      Returns registry statements stop ⟨name, .reduce⟩ v none s'
  | fanOut {st name f carrier keys s'} (here : statements[stop.index]? = some st)
      (kind : st.kind = .call name) (role : Plan.callRole statements stop.index = .fanOut)
      (found : registry.fanOuts.find? name = some f)
      (ran : Job.runOn (f stop.context.result) stop.state = (.ok (carrier, keys), s')) :
      Returns registry statements stop ⟨name, .fanOut⟩ carrier (some keys) s'

namespace Plan

variable {statements : List Statement} {i : Nat}

theorem call_role_call (h : callRole statements i = .call) :
    entryBefore statements i = none ∧ followsLoop statements i = false := by
  unfold callRole at h
  split at h
  · cases h
  · next hentry =>
    split at h
    · cases h
    · next hfollows => exact ⟨by simpa using hentry, by simpa using hfollows⟩

theorem call_role_reduce (h : callRole statements i = .reduce) :
    entryBefore statements i = none ∧ followsLoop statements i = true := by
  unfold callRole at h
  split at h
  · cases h
  · next hentry =>
    split at h
    · next hfollows => exact ⟨by simpa using hentry, hfollows⟩
    · cases h

theorem call_role_fan_out (h : callRole statements i = .fanOut) :
    ∃ entry, entryBefore statements i = some entry := by
  unfold callRole at h
  split at h
  · next hentry => exact Option.isSome_iff_exists.mp hentry
  · split at h
    · cases h
    · cases h

/-- Where a call leads by itself: on to the next step, or past the `foreach` if it returned an empty
list of keys. -/
def onwardFrom (statements : List Statement) (i : Nat) (v : Json) : Option (List Json) → Advance
  | some [] =>
    { action := if i + 2 < statements.length then .step (i + 2) else .finish
      result := v, values := some [] }
  | keys => { action := .step (i + 1), result := v, keys }

@[simp] theorem onward_from_result (v : Json) (keys : Option (List Json)) :
    (onwardFrom statements i v keys).result = v := by
  unfold onwardFrom
  split <;> rfl

@[simp] theorem onward_from_wait (v : Json) (keys : Option (List Json)) :
    (onwardFrom statements i v keys).wait = 0 := by
  unfold onwardFrom
  split <;> rfl

end Plan

section Calls

variable {registry : Registry σ} {statements : List Statement} {stop : Stop σ} {use : FunctionUse}
  {x : Json} {keys : Option (List Json)} {s' : σ} {step : Step σ}

theorem Returns.here (h : Returns registry statements stop use x keys s') :
    ∃ st, statements[stop.index]? = some st ∧ st.kind = .call use.name := by
  cases h with
  | call here kind => exact ⟨_, here, kind⟩
  | reduce here kind => exact ⟨_, here, kind⟩
  | fanOut here kind => exact ⟨_, here, kind⟩

theorem Returns.single (h : Returns registry statements stop use x keys s')
    (hstep : Compiled registry statements stop.index step) : step.isLoop = false := by
  obtain ⟨st, hst, hk⟩ := h.here
  rw [hstep.is_loop_eq hst, hk]
  rfl

/-- All that a call does after its function has returned is to settle where it leads. -/
theorem Returns.invoke (h : Returns registry statements stop use x keys s')
    (hstep : Compiled registry statements stop.index step) (names : List String) :
    Job.runOn (step.invoke names stop.context) stop.state =
      (step.settle names (Plan.onwardFrom statements stop.index x keys), s') := by
  cases h with
  | call here kind role found ran =>
    obtain ⟨hentry, hfollows⟩ := Plan.call_role_call role
    obtain ⟨f, hf, rfl⟩ := hstep.of_call here kind hentry hfollows
    rw [found] at hf
    cases hf
    rw [Step.invoke_without_poll rfl, Step.proceed_without_keys rfl, Step.perform_call rfl, ran]
    rfl
  | reduce here kind role found held ran =>
    obtain ⟨hentry, hfollows⟩ := Plan.call_role_reduce role
    obtain ⟨f, hf, rfl⟩ := hstep.of_reduce here kind hentry hfollows
    rw [found] at hf
    cases hf
    rw [Step.invoke_without_poll rfl, Step.proceed_without_keys rfl, Step.perform_reduce rfl, held]
    dsimp only
    rw [ran]
    rfl
  | @fanOut _ _ _ _ keys _ here kind role found ran =>
    obtain ⟨entry, hentry⟩ := Plan.call_role_fan_out role
    obtain ⟨f, hf, rfl⟩ := hstep.of_fan_out here kind hentry
    rw [found] at hf
    cases hf
    rw [Step.invoke_without_poll rfl, Step.proceed_with_function rfl, ran]
    cases keys with
    | nil =>
      obtain ⟨_, _, _, hreduce⟩ := Plan.entry_before_eq_some hentry
      rw [hreduce]
      rfl
    | cons key keys =>
      dsimp only
      rw [Step.perform_pass rfl]
      rfl

/-- A twin that notes its runs notes this one. -/
theorem Returns.tallied (h : Returns registry statements stop use x keys s')
    (log : List FunctionUse) :
    Returns registry.tallied statements ⟨stop.index, stop.context, stop.state, log⟩ use x keys
      (s', use :: log) := by
  cases h with
  | call here kind role found ran =>
    exact .call here kind role (Table.find_named_of_find found _) (Job.tally_ran ran _ log)
  | reduce here kind role found held ran =>
    exact .reduce here kind role (Table.find_named_of_find found _) held (Job.tally_ran ran _ log)
  | fanOut here kind role found ran =>
    exact .fanOut here kind role (Table.find_named_of_find found _) (Job.tally_ran ran _ log)

end Calls

/-! ## Targets -/

section Targets

variable {lines : List (List Char)} {program : Program} {registry : Registry σ} {w : Workflow σ}
  {names : List String} {step : Step σ} {a : Advance} {t : String}

theorem resolve_eq_none (hend : t ≠ endName) (hnames : t ∉ names) :
    Action.resolve? names t = none := by
  rw [Action.resolve?, if_neg hend, Option.map_eq_none_iff]
  cases hindex : lastIndex? t names with
  | none => rfl
  | some i => exact absurd (List.mem_of_getElem? (last_index_eq_some hindex)) hnames

theorem resolve_eq_some (h : t = endName ∨ t ∈ names) :
    ∃ action, Action.resolve? names t = some action := by
  by_cases hend : t = endName
  · exact ⟨.finish, if_pos hend⟩
  · obtain ⟨i, hi⟩ := List.mem_iff_getElem?.mp (h.resolve_left hend)
    obtain ⟨j, hj⟩ := last_index_found hi
    exact ⟨.step j, by rw [Action.resolve?, if_neg hend, hj]; rfl⟩

theorem name_nonempty (hparse : Program.ofLines lines = .ok program)
    (hw : Workflow.compile program registry = .ok w) (h : t = endName ∨ t ∈ w.names) : t ≠ "" := by
  rintro rfl
  rcases h with hend | hmem
  · exact absurd hend (by decide)
  · obtain ⟨plan, hplan, hnames⟩ := compile_names hw
    rw [hnames] at hmem
    exact plain_word_not_name hparse hplan (by decide) hmem

theorem Step.settle_refused {marker : Json} (h : Override.ofResult a.result = .refused marker) :
    step.settle names a = .error (.violation step.name (.badTarget marker)) := by
  simp [settle, h]

theorem Step.settle_unknown {v : Json} (h : Override.ofResult a.result = .jump v t)
    (hnone : Action.resolve? names t = none) : step.settle names a = .error (.unresolved t) := by
  simp [settle, h, hnone]

end Targets

structure Redirected (w : Workflow σ) (step : Step σ) (stop : Stop σ) (v : Json) (t : String)
    (s' : σ) : Prop where
  refused : t = "" → Job.runOn (w.invoke step stop.context) stop.state =
    (.error (.violation step.name (.badTarget (.obj [(overrideMarker, .str "")]))), s')
  unresolved : t ≠ "" → t ≠ endName → t ∉ w.names →
    Job.runOn (w.invoke step stop.context) stop.state = (.error (.unresolved t), s')
  followed : t = endName ∨ t ∈ w.names → ∃ a,
    Job.runOn (w.invoke step stop.context) stop.state = (.ok (.advance a), s') ∧
    w.resolve? t = some a.action ∧ w.actionName a.action = t ∧ a.result = v ∧ a.wait = 0

section Runs

variable {lines : List (List Char)} {program : Program} {registry : Registry σ} {w : Workflow σ}
  {stop : Stop σ} {use : FunctionUse} {x v : Json} {keys : Option (List Json)} {t : String} {s' : σ}
  {step : Step σ}

theorem Returns.redirected (hparse : Program.ofLines lines = .ok program)
    (hw : Workflow.compile program registry = .ok w)
    (h : Returns registry program.statements stop use (Override.goTo v t) keys s')
    (hstep : w.steps[stop.index]? = some step) : Redirected w step stop v t s' := by
  have hinvoke := h.invoke (compile_compiled hw hstep) w.names
  have hresult : (Plan.onwardFrom program.statements stop.index (Override.goTo v t) keys).result =
      Override.goTo v t := Plan.onward_from_result _ _
  constructor
  · rintro rfl
    have hrefused := hresult ▸ Override.of_result_go_to_empty v
    rw [Workflow.invoke, hinvoke, Step.settle_refused hrefused]
  · intro hempty hend hnames
    have hjump := hresult ▸ Override.of_result_go_to hempty v
    rw [Workflow.invoke, hinvoke, Step.settle_unknown hjump (resolve_eq_none hend hnames)]
  · intro hknown
    have hjump := hresult ▸ Override.of_result_go_to (name_nonempty hparse hw hknown) v
    obtain ⟨action, haction⟩ := resolve_eq_some hknown
    rw [Workflow.invoke, hinvoke, Step.settle_jump hjump haction]
    exact ⟨_, rfl, haction, name_in_of_resolve haction, rfl, Plan.onward_from_wait _ _⟩

/-- The visit at which a function returns the payload for the end is the last one. -/
theorem Returns.ends (hw : Workflow.compile program registry = .ok w)
    (h : Returns registry program.statements stop use (Override.goToEnd v) keys s')
    (hstep : w.steps[stop.index]? = some step) (hat : stop.context.action = .step stop.index)
    (settings : SimulatorSettings) (schedule : Schedule) (bound : Nat) (trail : List Visit) :
    w.stops settings schedule (bound + 1) ⟨stop.context, trail⟩ stop.state = [stop] ∧
    Job.runOn (w.drive settings schedule (bound + 1) ⟨stop.context, trail⟩) stop.state =
      (.ok (some { result := v, visits := trail.reverse ++ [⟨step.name, 0⟩] }), s') := by
  have hcompiled := compile_compiled hw hstep
  have hjump : Override.ofResult
      (Plan.onwardFrom program.statements stop.index (Override.goToEnd v) keys).result =
        .jump v endName := by
    rw [Plan.onward_from_result]
    exact Override.of_result_go_to (by decide) v
  have hinvoke := h.invoke hcompiled w.names
  have hfinish : Action.resolve? w.names endName = some .finish := rfl
  rw [Step.settle_jump hjump hfinish] at hinvoke
  have hvisit : Job.runOn (w.visit settings schedule ⟨stop.context, trail⟩ stop.index) stop.state =
      _ := Workflow.visit_run_on hstep stop.state
  rw [Workflow.transition_step (h.single hcompiled), Workflow.invoke, hinvoke] at hvisit
  constructor
  · rw [Workflow.stops_visit hat hvisit, Workflow.stops_finish rfl]
  · rw [Workflow.drive_visit_ok hat hvisit, Workflow.drive_finish rfl]
    simp [Run.after, Context.apply]

/-! ## Results that are no payloads -/

theorem Compiled.next_onward {statements : List Statement} {i : Nat} {ctx : Context} {s : σ}
    (h : Compiled registry statements i step) :
    Onward registry statements ⟨i, ctx, s⟩ step.next := by
  cases h with
  | completed => exact .completed rfl
  | call here | reduce here | fanOut here | wait here | waitUntil here | loop here =>
    exact .next (List.getElem?_eq_some_iff.mp here).1

theorem Compiled.skip_onward {statements : List Statement} {i : Nat} {ctx : Context} {s : σ}
    (h : Compiled registry statements i step) (hloop : step.isLoop = false) {fanOut : FanOut σ}
    (hfan : step.fanOut = some fanOut) :
    Onward registry statements ⟨i, ctx, s⟩ fanOut.reduce := by
  obtain ⟨entry, hentry, hreduce⟩ := h.feeds_entry hfan
  rw [hreduce]
  exact Lineflow.skip_onward hentry (h.is_loop_at ▸ hloop)

theorem Compiled.declines {statements : List Statement} {i : Nat} {ctx : Context} {s : σ}
    (h : Compiled registry statements i step) {poll : Poll σ} (hpoll : step.poll = some poll)
    (hran : Job.runOn (poll.holds ctx.result) s = (.ok false, s')) :
    Declined registry statements ⟨i, ctx, s⟩ := by
  obtain ⟨st, hst, hk⟩ := h.poll_kind hpoll
  obtain ⟨name, seconds, check⟩ := poll
  obtain ⟨holds, hfound, rfl⟩ := h.of_wait_until hst hk
  cases hpoll
  exact ⟨st, _, _, _, hst, hk, hfound, congrArg Prod.fst hran⟩

/-- A visit goes on by itself, and keeps the result, unless that is a payload. -/
theorem Workflow.Comes.onward (hw : Workflow.compile program registry = .ok w)
    {settings : SimulatorSettings} {t : Transition} (h : w.Comes settings stop (.ok t) s')
    (hat : stop.context.action = .step stop.index)
    (hcandidate : Candidate registry program.statements stop x) (hplain : Override.Plain x) :
    Onward registry program.statements stop (stop.context.apply t).action ∧
      (stop.context.apply t).result = x := by
  cases h.visited hw with
  | invoked compiled single ends =>
    rcases ends.of_ok with ⟨poll, polls, declined, rfl⟩ | ⟨a, s₁, admits, proposes, settled⟩
    · obtain ⟨st, hst, hk⟩ := compiled.poll_kind polls
      have hheld : Candidate registry program.statements stop stop.context.result :=
        .held (by simp [hst, hk, Kind.isCall])
      obtain rfl := hcandidate.unique hheld
      refine ⟨?_, rfl⟩
      show Onward registry program.statements stop stop.context.action
      rw [hat]
      exact .retry (compiled.declines polls declined)
    · obtain rfl := hcandidate.unique (proposes.candidate compiled single admits)
      rw [Step.settle_plain hplain] at settled
      cases settled
      refine ⟨?_, rfl⟩
      cases proposes with
      | skip feeds => exact compiled.skip_onward single feeds
      | pass => exact compiled.next_onward
      | call => exact compiled.next_onward
      | reduce => exact compiled.next_onward
      | iterate => exact compiled.next_onward
  | batched compiled here kind _ loop ends =>
    have hheld : Candidate registry program.statements stop stop.context.result :=
      .held (by simp [here, kind, Kind.isCall])
    obtain rfl := hcandidate.unique hheld
    rcases ends.of_ok with ⟨_, _, rfl⟩ | ⟨_, _, _, _, _, _, settled, rfl⟩
    · exact ⟨compiled.next_onward, rfl⟩
    · rw [Step.settle_plain hplain] at settled
      cases settled
      exact ⟨compiled.next_onward, rfl⟩

end Runs

/-- The run is over after this visit. The function noted in the twin is the last one to run. -/
structure LastVisit (w : Workflow σ) (twin : Workflow (Tallied σ)) (step : Step σ) (stop : Stop σ)
    (use : FunctionUse) (v : Json) (s' : σ) : Prop where
  stops : ∀ settings schedule bound trail,
    w.stops settings schedule (bound + 1) ⟨stop.context, trail⟩ stop.state = [stop]
  drive : ∀ settings schedule bound trail,
    Job.runOn (w.drive settings schedule (bound + 1) ⟨stop.context, trail⟩) stop.state =
      (.ok (some { result := v, visits := trail.reverse ++ [⟨step.name, 0⟩] }), s')
  noted : ∀ settings schedule bound trail log,
    Job.runOn (twin.drive settings schedule (bound + 1) ⟨stop.context, trail⟩) (stop.state, log) =
      (.ok (some { result := v, visits := trail.reverse ++ [⟨step.name, 0⟩] }), s', use :: log)

theorem Returns.last_visit {program : Program} {registry : Registry σ} {w : Workflow σ}
    {twin : Workflow (Tallied σ)} (hw : Workflow.compile program registry = .ok w)
    (htwin : Workflow.compile program registry.tallied = .ok twin) {stop : Stop σ}
    {use : FunctionUse} {v : Json} {keys : Option (List Json)} {s' : σ} {step : Step σ}
    (h : Returns registry program.statements stop use (Override.goToEnd v) keys s')
    (hstep : w.steps[stop.index]? = some step) (hat : stop.context.action = .step stop.index) :
    LastVisit w twin step stop use v s' := by
  constructor
  · intro settings schedule bound trail
    exact (h.ends hw hstep hat settings schedule bound trail).1
  · intro settings schedule bound trail
    exact (h.ends hw hstep hat settings schedule bound trail).2
  · intro settings schedule bound trail log
    obtain ⟨st, hst, _⟩ := h.here
    have hlt := (List.getElem?_eq_some_iff.mp hst).1
    obtain ⟨step', hstep', hcompiled⟩ := compile_step_at htwin (Nat.le_of_lt hlt)
    have hname : step'.name = step.name := by
      rw [hcompiled.name_eq hst, (compile_compiled hw hstep).name_eq hst]
    rw [← hname]
    exact ((h.tallied log).ends htwin hstep' hat settings schedule bound trail).2

/-- Whatever function of a call returns a payload, the step refuses an empty target, fails at one
that names nothing, and else goes to the target with the value in the payload, as it is and without
a wait. Sent to the end, the run is over and no other function runs. No visit alters a result that
is no payload, or is led astray by it. -/
theorem go_to_redirects_every_call {lines : List (List Char)} {program : Program}
    {registry : Registry σ} {w : Workflow σ} (hparse : Program.ofLines lines = .ok program)
    (hw : Workflow.compile program registry = .ok w) :
    ∃ twin, Workflow.compile program registry.tallied = .ok twin ∧
      (∀ stop use x keys s', Returns registry program.statements stop use x keys s' →
        ∃ step, w.steps[stop.index]? = some step ∧
          (∀ v t, x = Override.goTo v t → Redirected w step stop v t s') ∧
          (∀ v, x = Override.goToEnd v → stop.context.action = .step stop.index →
            LastVisit w twin step stop use v s') ∧
          (¬ Override.Payload x → Job.runOn (w.invoke step stop.context) stop.state =
            (.ok (.advance (Plan.onwardFrom program.statements stop.index x keys)), s'))) ∧
      ∀ settings stop x t s', Candidate registry program.statements stop x →
        ¬ Override.Payload x → stop.context.action = .step stop.index →
        w.Comes settings stop (.ok t) s' →
        Onward registry program.statements stop (stop.context.apply t).action ∧
          (stop.context.apply t).result = x := by
  obtain ⟨plan, hplan, _⟩ := compile_names hw
  obtain ⟨twin, htwin⟩ := twin_compiles hplan hw
  refine ⟨twin, htwin, ?_, ?_⟩
  · intro stop use x keys s' h
    obtain ⟨st, hst, _⟩ := h.here
    have hlt := (List.getElem?_eq_some_iff.mp hst).1
    obtain ⟨step, hstep, hcompiled⟩ := compile_step_at hw (Nat.le_of_lt hlt)
    refine ⟨step, hstep, ?_, ?_, ?_⟩
    · rintro v t rfl
      exact h.redirected hparse hw hstep
    · rintro v rfl hat
      exact h.last_visit hw htwin hstep hat
    · intro hpayload
      have hplain : Override.Plain
          (Plan.onwardFrom program.statements stop.index x keys).result := by
        rw [Plan.onward_from_result]
        exact Override.plain_of_not_payload hpayload
      rw [Workflow.invoke, h.invoke hcompiled, Step.settle_plain hplain]
  · intro settings stop x t s' hcandidate hpayload hat hcomes
    exact hcomes.onward hw hat hcandidate (Override.plain_of_not_payload hpayload)

def homewardProgram : Program := .ofStatements
  [.at "survey" 1 (.call "survey") 0, .at "foreach visit" 2 (.loop "visit") 1,
    .at "report" 3 (.call "report") 2]

def homewardRegistry : Registry Nat where
  fanOuts := ⟨[("survey", fun _ => do
    modify (· + 1)
    return (Override.goToEnd (Override.goTo (.int 5) "nowhere"), []))]⟩
  iterations := ⟨[("visit", fun _ key => do modify (· + 10); return key)]⟩
  reduces := ⟨[("report", fun _ values => do modify (· + 100); return .arr values)]⟩

theorem homeward_run_over : ∃ w,
    Program.ofLines (["survey", "foreach visit", "report"].map String.toList) =
      .ok homewardProgram ∧
    Workflow.compile homewardProgram homewardRegistry = .ok w ∧
    Returns homewardRegistry homewardProgram.statements
      ⟨0, (Run.start w.entry (.int 0)).context, 0⟩ ⟨"survey", .fanOut⟩
      (Override.goToEnd (Override.goTo (.int 5) "nowhere")) (some []) 1 ∧
    Job.runOn (w.simulate {} .inKeyOrder 9 (.int 0)) 0 = (.ok (some {
      result := Override.goTo (.int 5) "nowhere", visits := [⟨"_func_survey_0", 0⟩] }), 1) := by
  have hparse : Program.ofLines (["survey", "foreach visit", "report"].map String.toList) =
      .ok homewardProgram := rfl
  have hw : Workflow.compile homewardProgram homewardRegistry = .ok _ := rfl
  have hreturns : Returns homewardRegistry homewardProgram.statements
      ⟨0, (Run.start (.step 0) (.int 0)).context, 0⟩ ⟨"survey", .fanOut⟩
      (Override.goToEnd (Override.goTo (.int 5) "nowhere")) (some []) 1 :=
    .fanOut rfl rfl rfl rfl rfl
  obtain ⟨twin, _, hcalls, _⟩ := go_to_redirects_every_call hparse hw
  obtain ⟨step, hstep, _, hlast, _⟩ := hcalls _ _ _ _ _ hreturns
  cases hstep
  exact ⟨_, hparse, hw, hreturns, (hlast _ rfl rfl).drive {} .inKeyOrder 8 []⟩

end Lineflow
