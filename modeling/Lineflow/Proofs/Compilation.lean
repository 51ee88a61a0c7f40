import Lineflow.Proofs.Job
import Lineflow.Workflow.Basic

/-! # Compiled steps

Each step of a compiled workflow has one of seven forms, which the kinds of its statement and of the
neighbours decide. All later facts about steps are proved by cases on the form.
-/
namespace Lineflow

variable {σ ε α β : Type}

/-! ## Traversals that may fail -/

theorem except_bind_eq_ok {x : Except ε α} {f : α → Except ε β} {b : β}
    (h : (x >>= f) = .ok b) : ∃ a, x = .ok a ∧ f a = .ok b := by
  cases x with
  | error e => cases h
  | ok a => exact ⟨a, rfl, h⟩

theorem mapM_ok_length {f : α → Except ε β} {xs : List α} {ys : List β}
    (h : xs.mapM f = .ok ys) : ys.length = xs.length := by
  induction xs generalizing ys with
  | nil => cases h; rfl
  | cons x xs ih =>
    rw [List.mapM_cons] at h
    obtain ⟨y, _, h⟩ := except_bind_eq_ok h
    obtain ⟨rest, hrest, h⟩ := except_bind_eq_ok h
    cases h
    simp [ih hrest]

theorem mapM_ok_at {f : α → Except ε β} {xs : List α} {ys : List β} (h : xs.mapM f = .ok ys)
    {i : Nat} {y : β} (hi : ys[i]? = some y) : ∃ x, xs[i]? = some x ∧ f x = .ok y := by
  induction xs generalizing ys i with
  | nil => cases h; simp at hi
  | cons x xs ih =>
    rw [List.mapM_cons] at h
    obtain ⟨first, hfirst, h⟩ := except_bind_eq_ok h
    obtain ⟨rest, hrest, h⟩ := except_bind_eq_ok h
    cases h
    cases i with
    | zero => cases hi; exact ⟨x, rfl, hfirst⟩
    | succ i => exact ih hrest hi

theorem mapM_ok_from {f : α → Except ε β} {xs : List α} {ys : List β} (h : xs.mapM f = .ok ys)
    {i : Nat} {x : α} (hi : xs[i]? = some x) : ∃ y, ys[i]? = some y ∧ f x = .ok y := by
  have hlt : i < ys.length := mapM_ok_length h ▸ (List.getElem?_eq_some_iff.mp hi).1
  obtain ⟨x', hx', hf⟩ := mapM_ok_at h (List.getElem?_eq_getElem hlt)
  rw [hi] at hx'
  cases hx'
  exact ⟨ys[i], List.getElem?_eq_getElem hlt, hf⟩

/-- A traversal stops at the first failure. -/
theorem mapM_error_at {f : α → Except ε β} {xs : List α} {e : ε} (h : xs.mapM f = .error e) :
    ∃ (i : Nat) (x : α), xs[i]? = some x ∧ f x = .error e ∧
      ∀ j, j < i → ∀ y, xs[j]? = some y → ∃ b, f y = .ok b := by
  induction xs with
  | nil => cases h
  | cons x xs ih =>
    rw [List.mapM_cons] at h
    cases hx : f x with
    | error e' =>
      rw [hx] at h
      cases h
      exact ⟨0, x, rfl, hx, by simp⟩
    | ok b =>
      rw [hx] at h
      have hrest : xs.mapM f = .error e := by
        cases hxs : xs.mapM f with
        | error e' => rw [hxs] at h; cases h; rfl
        | ok bs => rw [hxs] at h; cases h
      obtain ⟨i, y, hy, hfy, hlow⟩ := ih hrest
      refine ⟨i + 1, y, hy, hfy, ?_⟩
      intro j hj z hz
      cases j with
      | zero => cases hz; exact ⟨b, hx⟩
      | succ j => exact hlow j (by omega) z hz

theorem mapM_ok {f : α → Except ε β} {xs : List α} (h : ∀ x ∈ xs, ∃ y, f x = .ok y) :
    ∃ ys, xs.mapM f = .ok ys := by
  cases hxs : xs.mapM f with
  | ok ys => exact ⟨ys, rfl⟩
  | error e =>
    obtain ⟨i, x, hx, herror, _⟩ := mapM_error_at hxs
    obtain ⟨y, hy⟩ := h x (List.mem_of_getElem? hx)
    rw [hy] at herror
    cases herror

/-! ## The forms of a step -/

namespace Plan

/-- An entry before a `foreach` leads to the statement after it, or to the end. -/
theorem entry_before_eq_some {statements : List Statement} {i : Nat} {entry : FanOutEntry}
    (h : entryBefore statements i = some entry) :
    ∃ st, statements[i + 1]? = some st ∧ st.kind.isLoop = true ∧
      entry.reduce = if i + 2 < statements.length then .step (i + 2) else .finish := by
  unfold entryBefore at h
  split at h
  · next st hst =>
    split at h
    · next hloop => cases h; exact ⟨st, hst, hloop, rfl⟩
    · cases h
  · cases h

theorem entry_before_loop {statements : List Statement} {i : Nat} {st : Statement}
    (hst : statements[i + 1]? = some st) (hloop : st.kind.isLoop = true) :
    ∃ entry, entryBefore statements i = some entry := by
  simp [entryBefore, hst, hloop]

theorem entry_before_eq_none {statements : List Statement} {i : Nat}
    (h : ∀ st, statements[i + 1]? = some st → st.kind.isLoop = false) :
    entryBefore statements i = none := by
  unfold entryBefore
  split
  · next st hst => simp [h st hst]
  · rfl

def loopAt (statements : List Statement) (i : Nat) : Bool :=
  (statements[i]?).any (·.kind.isLoop)

theorem loop_at_eq {statements : List Statement} {i : Nat} {st : Statement}
    (hst : statements[i]? = some st) : loopAt statements i = st.kind.isLoop := by
  simp [loopAt, hst]

/-- The step before a `foreach`, and no other, has an entry. -/
theorem entry_before_is_some (statements : List Statement) (i : Nat) :
    (entryBefore statements i).isSome = loopAt statements (i + 1) := by
  unfold entryBefore loopAt
  cases statements[i + 1]? with
  | none => rfl
  | some st => cases hloop : st.kind.isLoop <;> simp [hloop]

theorem follows_loop_succ {statements : List Statement} {i : Nat} {st : Statement}
    (hst : statements[i]? = some st) :
    followsLoop statements (i + 1) = st.kind.isLoop := by
  simp [followsLoop, hst]

end Plan

/-- The steps of a workflow compiled from `statements`, by position. -/
inductive Compiled (registry : Registry σ) (statements : List Statement) : Nat → Step σ → Prop where
  | call {i st name f} (here : statements[i]? = some st) (kind : st.kind = .call name)
      (plain : Plan.entryBefore statements i = none)
      (fresh : Plan.followsLoop statements i = false)
      (found : registry.calls.find? name = some f) :
      Compiled registry statements i
        { index := i, name := st.stepName, statement := some st, next := .step (i + 1), wait := 0
          poll := none, fanOut := none, work := .call name f }
  | reduce {i st name f} (here : statements[i]? = some st) (kind : st.kind = .call name)
      (plain : Plan.entryBefore statements i = none)
      (follows : Plan.followsLoop statements i = true)
      (found : registry.reduces.find? name = some f) :
      Compiled registry statements i
        { index := i, name := st.stepName, statement := some st, next := .step (i + 1), wait := 0
          poll := none, fanOut := none, work := .reduce name f }
  | fanOut {i st name f entry} (here : statements[i]? = some st) (kind : st.kind = .call name)
      (feeds : Plan.entryBefore statements i = some entry)
      (found : registry.fanOuts.find? name = some f) :
      Compiled registry statements i
        { index := i, name := st.stepName, statement := some st, next := .step (i + 1), wait := 0
          poll := none, fanOut := some ⟨entry.reduce, .function name f⟩, work := .pass }
  | wait {i st seconds} (here : statements[i]? = some st) (kind : st.kind = .wait seconds) :
      Compiled registry statements i
        { index := i, name := st.stepName, statement := some st, next := .step (i + 1)
          wait := seconds, poll := none
          fanOut := (Plan.entryBefore statements i).map fun entry => ⟨entry.reduce, .context⟩
          work := .pass }
  | waitUntil {i st seconds name holds} (here : statements[i]? = some st)
      (kind : st.kind = .waitUntil seconds name)
      (found : registry.conditions.find? name = some holds) :
      Compiled registry statements i
        { index := i, name := st.stepName, statement := some st, next := .step (i + 1), wait := 0
          poll := some ⟨name, seconds, holds⟩
          fanOut := (Plan.entryBefore statements i).map fun entry => ⟨entry.reduce, .context⟩
          work := .pass }
  | loop {i st name f} (here : statements[i]? = some st) (kind : st.kind = .loop name)
      (found : registry.iterations.find? name = some f) :
      Compiled registry statements i
        { index := i, name := st.stepName, statement := some st, next := .step (i + 1), wait := 0
          poll := none
          fanOut := (Plan.entryBefore statements i).map fun entry => ⟨entry.reduce, .context⟩
          work := .iterate name f }
  | completed :
      Compiled registry statements statements.length
        { index := statements.length, name := completedName, statement := none, next := .finish
          wait := 0, poll := none, fanOut := none, work := .pass }

theorem find_mem {table : Table α} {name : String} {a : α}
    (h : table.find? name = some a) : (name, a) ∈ table.entries := by
  obtain ⟨before, after, hentries, _⟩ := List.lookup_eq_some_iff.mp h
  rw [hentries]
  simp

theorem demand_eq_ok {registry : Registry σ} {use : FunctionUse} {step : String}
    {found : Option α} {f : α} (h : registry.demand use step found = .ok f) : found = some f := by
  unfold Registry.demand at h
  split at h
  · cases h; rfl
  · cases h

theorem bind_call_compiled {registry : Registry σ} {statements : List Statement} {i : Nat}
    {st : Statement} {step : Step σ} {name : String} (hst : statements[i]? = some st)
    (hk : st.kind = .call name) (h : Step.bind registry (Plan.stepAt statements i st) = .ok step) :
    Compiled registry statements i step := by
  unfold Step.bind at h
  obtain ⟨poll, hpoll, h⟩ := except_bind_eq_ok h
  obtain ⟨⟨keys, work⟩, hwork, h⟩ := except_bind_eq_ok h
  cases h
  simp only [Step.bindPoll, Plan.stepAt, hk, Plan.conditionUse] at hpoll
  cases hpoll
  simp only [Step.bindWork, Plan.stepAt, hk, Plan.functionUse, Plan.callRole] at hwork
  -- The neighbours decide the role, and the role the table that is searched.
  cases hentry : Plan.entryBefore statements i with
  | some entry =>
    simp only [hentry, Option.isSome_some, if_true] at hwork
    obtain ⟨f, hf, hwork⟩ := except_bind_eq_ok hwork
    cases hwork
    have := Compiled.fanOut hst hk hentry (demand_eq_ok hf)
    simpa [Plan.stepAt, PlannedStep.waitSeconds, PlannedStep.kind?, hk, hentry] using this
  | none =>
    simp only [hentry, Option.isSome_none, Bool.false_eq_true, if_false] at hwork
    cases hfollows : Plan.followsLoop statements i with
    | true =>
      simp only [hfollows, if_true] at hwork
      obtain ⟨f, hf, hwork⟩ := except_bind_eq_ok hwork
      cases hwork
      have := Compiled.reduce hst hk hentry hfollows (demand_eq_ok hf)
      simpa [Plan.stepAt, PlannedStep.waitSeconds, PlannedStep.kind?, hk, hentry] using this
    | false =>
      simp only [hfollows, Bool.false_eq_true, if_false] at hwork
      obtain ⟨f, hf, hwork⟩ := except_bind_eq_ok hwork
      cases hwork
      have := Compiled.call hst hk hentry hfollows (demand_eq_ok hf)
      simpa [Plan.stepAt, PlannedStep.waitSeconds, PlannedStep.kind?, hk, hentry] using this

/-- Binding a planned statement gives a step of one of the forms. -/
theorem bind_compiled {registry : Registry σ} {statements : List Statement} {i : Nat}
    {st : Statement} {step : Step σ} (hst : statements[i]? = some st)
    (h : Step.bind registry (Plan.stepAt statements i st) = .ok step) :
    Compiled registry statements i step := by
  have hbind := h
  unfold Step.bind at h
  obtain ⟨poll, hpoll, h⟩ := except_bind_eq_ok h
  obtain ⟨⟨keys, work⟩, hwork, h⟩ := except_bind_eq_ok h
  cases h
  cases hk : st.kind with
  | call name => exact bind_call_compiled hst hk hbind
  | wait seconds =>
    simp only [Step.bindPoll, Plan.stepAt, hk, Plan.conditionUse] at hpoll
    simp only [Step.bindWork, Plan.stepAt, hk, Plan.functionUse] at hwork
    cases hpoll
    cases hwork
    have : Compiled registry statements i _ := .wait hst hk
    simpa [Plan.stepAt, PlannedStep.waitSeconds, PlannedStep.kind?, hk] using this
  | waitUntil seconds name =>
    simp only [Step.bindPoll, Plan.stepAt, hk, Plan.conditionUse, PlannedStep.retrySeconds,
      PlannedStep.kind?, Option.map_some] at hpoll
    simp only [Step.bindWork, Plan.stepAt, hk, Plan.functionUse] at hwork
    obtain ⟨holds, hholds, hpoll⟩ := except_bind_eq_ok hpoll
    cases hpoll
    cases hwork
    have : Compiled registry statements i _ := .waitUntil hst hk (demand_eq_ok hholds)
    simpa [Plan.stepAt, PlannedStep.waitSeconds, PlannedStep.kind?, hk] using this
  | loop name =>
    simp only [Step.bindPoll, Plan.stepAt, hk, Plan.conditionUse] at hpoll
    simp only [Step.bindWork, Plan.stepAt, hk, Plan.functionUse] at hwork
    cases hpoll
    obtain ⟨f, hf, hwork⟩ := except_bind_eq_ok hwork
    cases hwork
    have : Compiled registry statements i _ := .loop hst hk (demand_eq_ok hf)
    simpa [Plan.stepAt, PlannedStep.waitSeconds, PlannedStep.kind?, hk] using this

/-! ## Compiled workflows -/

section Workflow

variable {program : Program} {registry : Registry σ} {w : Workflow σ}

theorem plan_of_program_eq_ok {plan : Plan} (h : Plan.ofProgram program = .ok plan) :
    plan.steps = program.statements.mapIdx (Plan.stepAt program.statements) ++
        [Plan.completion program.statements.length] ∧
      ∀ first rest, program.statements = first :: rest → first.kind.isCall = true := by
  unfold Plan.ofProgram at h
  split at h
  · next hnil =>
    cases h
    simp [hnil]
  · next first rest hcons =>
    split at h
    · next hcall =>
      cases h
      refine ⟨rfl, ?_⟩
      intro first' rest' hfirst
      rw [hcons] at hfirst
      cases hfirst
      exact hcall
    · cases h

theorem plan_step_at {plan : Plan} (hplan : Plan.ofProgram program = .ok plan) {i : Nat}
    {planned : PlannedStep} (h : plan.steps[i]? = some planned) :
    (∃ st, program.statements[i]? = some st ∧ planned = Plan.stepAt program.statements i st) ∨
      (i = program.statements.length ∧ planned = Plan.completion program.statements.length) := by
  rw [(plan_of_program_eq_ok hplan).1] at h
  by_cases hi : i < program.statements.length
  · rw [List.getElem?_append_left (by simpa using hi), List.getElem?_mapIdx] at h
    obtain ⟨st, hst, rfl⟩ := Option.map_eq_some_iff.mp h
    exact Or.inl ⟨st, hst, rfl⟩
  · have hlt := (List.getElem?_eq_some_iff.mp h).1
    have hend : i = program.statements.length := by
      simp only [List.length_append, List.length_mapIdx, List.length_singleton] at hlt
      omega
    subst hend
    rw [List.getElem?_append_right (by simp)] at h
    exact Or.inr ⟨rfl, by simpa using h.symm⟩

theorem compile_eq_ok (h : Workflow.compile program registry = .ok w) :
    (program.statements.mapIdx (Plan.stepAt program.statements) ++
        [Plan.completion program.statements.length]).mapM (Step.bind registry) = .ok w.steps ∧
      ∀ first rest, program.statements = first :: rest → first.kind.isCall = true := by
  unfold Workflow.compile at h
  obtain ⟨plan, hplan, h⟩ := except_bind_eq_ok h
  unfold Workflow.ofPlan at h
  obtain ⟨steps, hsteps, h⟩ := except_bind_eq_ok h
  cases h
  obtain ⟨heq, hfirst⟩ := plan_of_program_eq_ok hplan
  exact ⟨heq ▸ hsteps, hfirst⟩

theorem compile_length (h : Workflow.compile program registry = .ok w) :
    w.steps.length = program.statements.length + 1 := by
  have := mapM_ok_length (compile_eq_ok h).1
  simpa using this

theorem compile_compiled (h : Workflow.compile program registry = .ok w) {i : Nat} {step : Step σ}
    (hi : w.steps[i]? = some step) : Compiled registry program.statements i step := by
  obtain ⟨planned, hplanned, hbind⟩ := mapM_ok_at (compile_eq_ok h).1 hi
  by_cases hlt : i < program.statements.length
  · rw [List.getElem?_append_left (by simpa using hlt), List.getElem?_mapIdx] at hplanned
    obtain ⟨st, hst, rfl⟩ := Option.map_eq_some_iff.mp hplanned
    exact bind_compiled hst hbind
  · have hlen := compile_length h
    have hi' : i < w.steps.length := (List.getElem?_eq_some_iff.mp hi).1
    obtain rfl : i = program.statements.length := by omega
    rw [List.getElem?_append_right (by simp)] at hplanned
    simp only [List.length_mapIdx, Nat.sub_self, List.getElem?_cons_zero,
      Option.some.injEq] at hplanned
    subst planned
    cases hbind
    exact .completed

theorem compile_step_at (h : Workflow.compile program registry = .ok w) {i : Nat}
    (hi : i ≤ program.statements.length) :
    ∃ step, w.steps[i]? = some step ∧ Compiled registry program.statements i step := by
  have hlen := compile_length h
  have hlt : i < w.steps.length := by omega
  exact ⟨w.steps[i], List.getElem?_eq_getElem hlt,
    compile_compiled h (List.getElem?_eq_getElem hlt)⟩

end Workflow

namespace Compiled

variable {registry : Registry σ} {statements : List Statement} {i : Nat} {step : Step σ}

theorem index_eq (h : Compiled registry statements i step) : step.index = i := by
  cases h <;> rfl

theorem of_loop (h : Compiled registry statements i step) (hloop : step.isLoop = true) :
    ∃ st name f, statements[i]? = some st ∧ st.kind = .loop name ∧
      registry.iterations.find? name = some f ∧
      step = { index := i, name := st.stepName, statement := some st, next := .step (i + 1)
               wait := 0, poll := none
               fanOut := (Plan.entryBefore statements i).map fun entry => ⟨entry.reduce, .context⟩
               work := .iterate name f } := by
  cases h with
  | @loop _ st name f hst hk hf => exact ⟨st, name, f, hst, hk, hf, rfl⟩
  | completed => simp [Step.isLoop] at hloop
  | call _ hk => simp [Step.isLoop, hk, Kind.isLoop] at hloop
  | reduce _ hk => simp [Step.isLoop, hk, Kind.isLoop] at hloop
  | fanOut _ hk => simp [Step.isLoop, hk, Kind.isLoop] at hloop
  | wait _ hk => simp [Step.isLoop, hk, Kind.isLoop] at hloop
  | waitUntil _ hk => simp [Step.isLoop, hk, Kind.isLoop] at hloop

theorem is_loop_eq (h : Compiled registry statements i step) {st : Statement}
    (hst : statements[i]? = some st) : step.isLoop = st.kind.isLoop := by
  cases h with
  | completed => simp at hst
  | call hst' => rw [hst] at hst'; cases hst'; rfl
  | reduce hst' => rw [hst] at hst'; cases hst'; rfl
  | fanOut hst' => rw [hst] at hst'; cases hst'; rfl
  | wait hst' => rw [hst] at hst'; cases hst'; rfl
  | waitUntil hst' => rw [hst] at hst'; cases hst'; rfl
  | loop hst' => rw [hst] at hst'; cases hst'; rfl

theorem is_loop_at (h : Compiled registry statements i step) :
    step.isLoop = Plan.loopAt statements i := by
  cases hst : statements[i]? with
  | some st => rw [h.is_loop_eq hst, Plan.loop_at_eq hst]
  | none =>
    cases h with
    | completed => simp [Step.isLoop, Plan.loopAt]
    | call here | reduce here | fanOut here | wait here | waitUntil here | loop here =>
      rw [hst] at here
      cases here

theorem name_eq (h : Compiled registry statements i step) {st : Statement}
    (hst : statements[i]? = some st) : step.name = st.stepName := by
  cases h with
  | completed => simp at hst
  | call hst' => rw [hst] at hst'; cases hst'; rfl
  | reduce hst' => rw [hst] at hst'; cases hst'; rfl
  | fanOut hst' => rw [hst] at hst'; cases hst'; rfl
  | wait hst' => rw [hst] at hst'; cases hst'; rfl
  | waitUntil hst' => rw [hst] at hst'; cases hst'; rfl
  | loop hst' => rw [hst] at hst'; cases hst'; rfl

theorem next_step (h : Compiled registry statements i step) {j : Nat}
    (hnext : step.next = .step j) : j = i + 1 ∧ ∃ st, statements[i]? = some st := by
  cases h with
  | completed => cases hnext
  | call hst | reduce hst | fanOut hst | wait hst | waitUntil hst | loop hst =>
    cases hnext
    exact ⟨rfl, _, hst⟩

theorem step_wait (h : Compiled registry statements i step) :
    step.wait = 0 ∨ ∃ st, statements[i]? = some st ∧ st.kind = .wait step.wait := by
  cases h with
  | @wait _ st seconds hst hk => exact Or.inr ⟨st, hst, hk⟩
  | _ => exact Or.inl rfl

theorem poll_kind (h : Compiled registry statements i step) {poll : Poll σ}
    (hpoll : step.poll = some poll) :
    ∃ st, statements[i]? = some st ∧ st.kind = .waitUntil poll.seconds poll.name := by
  cases h with
  | @waitUntil _ st seconds name holds hst hk => cases hpoll; exact ⟨st, hst, hk⟩
  | _ => cases hpoll

/-! ### The form by the kind -/

section Inversion

variable {st : Statement} {name : String}

theorem of_call (h : Compiled registry statements i step) (hst : statements[i]? = some st)
    (hk : st.kind = .call name) (hentry : Plan.entryBefore statements i = none)
    (hfollows : Plan.followsLoop statements i = false) :
    ∃ f, registry.calls.find? name = some f ∧
      step = { index := i, name := st.stepName, statement := some st, next := .step (i + 1)
               wait := 0, poll := none, fanOut := none, work := .call name f } := by
  cases h with
  | @call _ _ _ f hst' hk' _ _ hf =>
    rw [hst] at hst'
    cases hst'
    rw [hk] at hk'
    cases hk'
    exact ⟨f, hf, rfl⟩
  | _ => simp_all

theorem of_reduce (h : Compiled registry statements i step) (hst : statements[i]? = some st)
    (hk : st.kind = .call name) (hentry : Plan.entryBefore statements i = none)
    (hfollows : Plan.followsLoop statements i = true) :
    ∃ f, registry.reduces.find? name = some f ∧
      step = { index := i, name := st.stepName, statement := some st, next := .step (i + 1)
               wait := 0, poll := none, fanOut := none, work := .reduce name f } := by
  cases h with
  | @reduce _ _ _ f hst' hk' _ _ hf =>
    rw [hst] at hst'
    cases hst'
    rw [hk] at hk'
    cases hk'
    exact ⟨f, hf, rfl⟩
  | _ => simp_all

theorem of_fan_out (h : Compiled registry statements i step) (hst : statements[i]? = some st)
    (hk : st.kind = .call name) {entry : FanOutEntry}
    (hentry : Plan.entryBefore statements i = some entry) :
    ∃ f, registry.fanOuts.find? name = some f ∧
      step = { index := i, name := st.stepName, statement := some st, next := .step (i + 1)
               wait := 0, poll := none, fanOut := some ⟨entry.reduce, .function name f⟩
               work := .pass } := by
  cases h with
  | @fanOut _ _ _ f _ hst' hk' hentry' hf =>
    rw [hst] at hst'
    cases hst'
    rw [hk] at hk'
    cases hk'
    rw [hentry] at hentry'
    cases hentry'
    exact ⟨f, hf, rfl⟩
  | _ => simp_all

theorem of_wait (h : Compiled registry statements i step) (hst : statements[i]? = some st)
    {seconds : Nat} (hk : st.kind = .wait seconds) :
    step = { index := i, name := st.stepName, statement := some st, next := .step (i + 1)
             wait := seconds, poll := none
             fanOut := (Plan.entryBefore statements i).map fun entry => ⟨entry.reduce, .context⟩
             work := .pass } := by
  cases h with
  | wait hst' hk' =>
    rw [hst] at hst'
    cases hst'
    rw [hk] at hk'
    cases hk'
    rfl
  | _ => simp_all

theorem of_wait_until (h : Compiled registry statements i step) (hst : statements[i]? = some st)
    {seconds : Nat} (hk : st.kind = .waitUntil seconds name) :
    ∃ holds, registry.conditions.find? name = some holds ∧
      step = { index := i, name := st.stepName, statement := some st, next := .step (i + 1)
               wait := 0, poll := some ⟨name, seconds, holds⟩
               fanOut := (Plan.entryBefore statements i).map fun entry => ⟨entry.reduce, .context⟩
               work := .pass } := by
  cases h with
  | @waitUntil _ _ _ _ holds hst' hk' found =>
    rw [hst] at hst'
    cases hst'
    rw [hk] at hk'
    cases hk'
    exact ⟨holds, found, rfl⟩
  | _ => simp_all

theorem of_foreach (h : Compiled registry statements i step) (hst : statements[i]? = some st)
    (hk : st.kind = .loop name) :
    ∃ f, registry.iterations.find? name = some f ∧
      step = { index := i, name := st.stepName, statement := some st, next := .step (i + 1)
               wait := 0, poll := none
               fanOut := (Plan.entryBefore statements i).map fun entry => ⟨entry.reduce, .context⟩
               work := .iterate name f } := by
  cases h with
  | @loop _ _ _ f hst' hk' found =>
    rw [hst] at hst'
    cases hst'
    rw [hk] at hk'
    cases hk'
    exact ⟨f, found, rfl⟩
  | _ => simp_all

theorem of_pause (h : Compiled registry statements i step) (hst : statements[i]? = some st)
    (hcall : st.kind.isCall = false) (hloop : st.kind.isLoop = false) :
    step.work = .pass ∧ step.next = .step (i + 1) ∧
      step.fanOut = (Plan.entryBefore statements i).map (fun entry => ⟨entry.reduce, .context⟩) ∧
      ∀ poll, step.poll = some poll → registry.conditions.find? poll.name = some poll.holds := by
  cases h with
  | wait => exact ⟨rfl, rfl, rfl, by simp⟩
  | waitUntil _ _ hf =>
    refine ⟨rfl, rfl, rfl, ?_⟩
    intro poll hpoll
    cases hpoll
    exact hf
  | completed => simp at hst
  | call hst' hk => rw [hst] at hst'; cases hst'; simp [hk, Kind.isCall] at hcall
  | reduce hst' hk => rw [hst] at hst'; cases hst'; simp [hk, Kind.isCall] at hcall
  | fanOut hst' hk => rw [hst] at hst'; cases hst'; simp [hk, Kind.isCall] at hcall
  | loop hst' hk => rw [hst] at hst'; cases hst'; simp [hk, Kind.isLoop] at hloop

/-- Only a step right before a `foreach` can skip it. -/
theorem feeds_entry (h : Compiled registry statements i step) {fanOut : FanOut σ}
    (hfan : step.fanOut = some fanOut) :
    ∃ entry, Plan.entryBefore statements i = some entry ∧ fanOut.reduce = entry.reduce := by
  cases h with
  | call | reduce | completed => cases hfan
  | @fanOut _ _ _ _ entry _ _ feeds => cases hfan; exact ⟨entry, feeds, rfl⟩
  | wait | waitUntil | loop =>
    obtain ⟨entry, hentry, rfl⟩ := Option.map_eq_some_iff.mp hfan
    exact ⟨entry, hentry, rfl⟩

theorem of_completed (h : Compiled registry statements statements.length step) :
    step = { index := statements.length, name := completedName, statement := none, next := .finish
             wait := 0, poll := none, fanOut := none, work := .pass } := by
  generalize hi : statements.length = i at h
  cases h with
  | completed => rfl
  | call hst => simp [← hi] at hst
  | reduce hst => simp [← hi] at hst
  | fanOut hst => simp [← hi] at hst
  | wait hst => simp [← hi] at hst
  | waitUntil hst => simp [← hi] at hst
  | loop hst => simp [← hi] at hst

end Inversion

end Compiled

end Lineflow
