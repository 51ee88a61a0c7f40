import Lineflow.Proofs.Transitions

/-! # Overrides that are followed

A payload is opened when its target is followed: the run goes to the target with the value in it. A
batch is the exception. Its workers open the payload, each for itself, and agree on the target; the
result that the batch hands on is the one that they were given. Payloads that lead nowhere are not
the subject here.
-/
namespace Lineflow

variable {σ : Type}

theorem Override.value_ne_payload {payload value : Json} {target : String}
    (h : ofResult payload = .jump value target) : value ≠ payload := by
  intro heq
  have hlayers := layers_jump h
  rw [heq] at hlayers
  omega

theorem Step.settle_jump {names : List String} {step : Step σ} {a : Advance} {value : Json}
    {target : String} {action : Action} (hjump : Override.ofResult a.result = .jump value target)
    (haction : Action.resolve? names target = some action) :
    step.settle names a = .ok (.advance { a with action, result := value }) := by
  simp [settle, hjump, haction]

/-- There is one result in which a visit looks for an override. -/
theorem Candidate.unique {registry : Registry σ} {statements : List Statement} {stop : Stop σ}
    {u v : Json} (hu : Candidate registry statements stop u)
    (hv : Candidate registry statements stop v) : u = v := by
  -- The kind and the role at the stop tell which function ran, and it ran once.
  cases hu <;> cases hv <;> grind [Kind.isCall]

section Visits

variable {program : Program} {registry : Registry σ} {w : Workflow σ}
  {settings : SimulatorSettings} {schedule : Schedule} {initial : Json} {start : σ}

/-- A visit that finds a payload whose target resolves follows it, unless its condition does not
hold yet. -/
theorem Workflow.Comes.follows (hw : Workflow.compile program registry = .ok w) {stop : Stop σ}
    {t : Transition} {s' : σ} (h : w.Comes settings stop (.ok t) s')
    (hkeys : stop.context.keys ≠ some []) {payload value : Json} {target : String} {action : Action}
    (hcandidate : Candidate registry program.statements stop payload)
    (hjump : Override.ofResult payload = .jump value target)
    (haction : Action.resolve? w.names target = some action) :
    (∃ st seconds condition, program.statements[stop.index]? = some st ∧
      st.kind = .waitUntil seconds condition ∧ t = .retry seconds) ∨
    ∃ a, t = .advance a ∧ a.action = action ∧
      a.result = if Plan.loopAt program.statements stop.index then payload else value := by
  cases h.visited hw with
  | invoked compiled single ends =>
    rcases ends.of_ok with ⟨poll, polls, _, rfl⟩ | ⟨a, _, admits, proposes, settled⟩
    · obtain ⟨st, hst, hk⟩ := compiled.poll_kind polls
      exact Or.inl ⟨st, _, _, hst, hk, rfl⟩
    · obtain rfl := hcandidate.unique (proposes.candidate compiled single admits)
      rw [Step.settle_jump hjump haction] at settled
      cases settled
      have hat : Plan.loopAt program.statements stop.index = false := by
        rw [← compiled.is_loop_at, single]
      exact Or.inr ⟨_, rfl, rfl, by simp [hat]⟩
  | batched compiled here kind _ loop ends =>
    have hheld : Candidate registry program.statements stop stop.context.result := by
      refine .held ?_
      intro st hst
      rw [here] at hst
      cases hst
      rw [kind]
      rfl
    obtain rfl := hcandidate.unique hheld
    have hat : Plan.loopAt program.statements stop.index = true := by
      rw [← compiled.is_loop_at, loop]
    rcases ends.of_ok with ⟨hempty, _⟩ | ⟨_, _, _, _, _, _, settled, rfl⟩
    · exact absurd hempty hkeys
    · rw [Step.settle_jump hjump haction] at settled
      cases settled
      exact Or.inr ⟨_, rfl, rfl, by simp [hat]⟩

theorem reachable_keys_ne (hw : Workflow.compile program registry = .ok w) {run : Run} {s : σ}
    (h : w.Reachable settings schedule initial start run s) : run.context.keys ≠ some [] := by
  induction h with
  | entry => simp [Run.start]
  | visit _ _ hvisit ih =>
    obtain ⟨t, hcomes, hcontext⟩ := Workflow.visit_comes hvisit
    rw [hcontext]
    exact hcomes.keys_ne hw ih

/-- In every run, a visit that finds a payload with a target that resolves asks again later, as a
`wait N until` may, or goes to the target. The payload is gone from the result then, and its value
is there, exactly if the visit was not that of a `foreach`; a batch leaves the payload in place. -/
theorem followed_override_kept_by_batch (hw : Workflow.compile program registry = .ok w)
    (settings : SimulatorSettings) (schedule : Schedule) (initial : Json) (start : σ) (i : Nat)
    {run run' : Run} {s s' : σ} (hreach : w.Reachable settings schedule initial start run s)
    (hvisit : Job.runOn (w.visit settings schedule run i) s = (.ok run', s'))
    {payload value : Json} {target : String} {action : Action}
    (hcandidate : Candidate registry program.statements ⟨i, run.context, s⟩ payload)
    (hjump : Override.ofResult payload = .jump value target)
    (haction : w.resolve? target = some action) :
    (∃ st seconds condition, program.statements[i]? = some st ∧
      st.kind = .waitUntil seconds condition ∧
      run'.context = { run.context with wait := seconds }) ∨
    run'.context.action = action ∧
      (run'.context.result = value ↔ Plan.loopAt program.statements i = false) ∧
      (run'.context.result = payload ↔ Plan.loopAt program.statements i = true) := by
  obtain ⟨t, hcomes, hcontext⟩ := Workflow.visit_comes hvisit
  have hkeys := reachable_keys_ne hw hreach
  have hne := Override.value_ne_payload hjump
  rw [hcontext]
  rcases hcomes.follows hw hkeys hcandidate hjump haction
    with ⟨st, seconds, condition, hst, hk, rfl⟩ | ⟨a, rfl, rfl, hresult⟩
  · exact Or.inl ⟨st, seconds, condition, hst, hk, rfl⟩
  · refine Or.inr ⟨rfl, ?_⟩
    show (a.result = value ↔ _) ∧ (a.result = payload ↔ _)
    cases hloop : Plan.loopAt program.statements i with
    | false => simp [hresult, hloop, hne]
    | true => simp [hresult, hloop, hne.symm]

end Visits

def nestedPayload : Json := Override.goTo (Override.goToEnd (.int 5)) "_foreach_echo_1"

def nestedLines : List (List Char) := ["spread", "foreach echo", "collect"].map String.toList

def nestedProgram : Program := .ofStatements
  [.at "spread" 1 (.call "spread") 0, .at "foreach echo" 2 (.loop "echo") 1,
    .at "collect" 3 (.call "collect") 2]

def nestedRegistry : Registry Unit where
  fanOuts := ⟨[("spread", fun _ => pure (nestedPayload, [.int 1]))]⟩
  iterations := ⟨[("echo", fun _ k => pure k)]⟩
  reduces := ⟨[("collect", fun _ vs => pure (.arr vs))]⟩

theorem nested_payload_kept_by_batch : ∃ w first second,
    Program.ofLines nestedLines = .ok nestedProgram ∧
    Workflow.compile nestedProgram nestedRegistry = .ok w ∧
    w.Reachable {} .inKeyOrder (.int 0) () first () ∧
    -- The call opens the outer payload.
    first.context.action = .step 1 ∧ first.context.result = Override.goToEnd (.int 5) ∧
    -- The batch follows the inner one and keeps it.
    Job.runOn (w.visit {} .inKeyOrder first 1) () = (.ok second, ()) ∧
    second.context.action = .finish ∧ second.context.result = Override.goToEnd (.int 5) ∧
    ¬ second.context.result = .int 5 ∧
    (Job.runOn (w.simulate {} .inKeyOrder 9 (.int 0)) ()).1.map (Option.map RunReport.result) =
      .ok (some (Override.goToEnd (.int 5))) := by
  have hw : Workflow.compile nestedProgram nestedRegistry = .ok _ := rfl
  have hbatch := followed_override_kept_by_batch hw {} .inKeyOrder (.int 0) () 1
    (.visit .entry rfl rfl) rfl (.held (by rintro st ⟨⟩; rfl)) rfl rfl
  obtain ⟨st, _, _, hst, hk, _⟩ | ⟨haction, hvalue, hkept⟩ := hbatch
  · cases hst
    cases hk
  · exact ⟨_, _, _, rfl, hw, .visit .entry rfl rfl, rfl, rfl, rfl, haction, hkept.mpr rfl,
      fun h => absurd (hvalue.mp h) (by decide), rfl⟩

end Lineflow
