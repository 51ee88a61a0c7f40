import Mathlib
import Lineflow.Proofs.Correspondence
import Lineflow.Proofs.Stubs
import Lineflow.Proofs.Transitions

/-! # How often functions run

A registry has a twin whose functions note each of their runs. A run of the twin, less its notes, is
the run of the registry itself, so the notes tell how often every function ran: once for each visit
to a step that was planned with it, and at a `foreach` once for each key.
-/
namespace Lineflow

variable {σ ε α β : Type}

/-! ## Notes -/

/-- A state with the functions that were run, the latest first. -/
abbrev Tallied (σ : Type) := σ × List FunctionUse

def Job.tally (use : FunctionUse) (job : Job σ ε α) : Job (Tallied σ) ε α :=
  ExceptT.mk fun p => ((Job.runOn job p.1).1, (Job.runOn job p.1).2, use :: p.2)

theorem Job.tally_ran {job : Job σ ε α} {s s' : σ} {r : Except ε α} (h : Job.runOn job s = (r, s'))
    (use : FunctionUse) (log : List FunctionUse) :
    Job.runOn (job.tally use) (s, log) = (r, s', use :: log) := by
  change ((Job.runOn job s).1, (Job.runOn job s).2, use :: log) = (r, s', use :: log)
  rw [h]

theorem Job.tally_notes {use : FunctionUse} {job : Job σ ε α} {p p' : Tallied σ} {r : Except ε α}
    (h : Job.runOn (job.tally use) p = (r, p')) : p'.2 = use :: p.2 :=
  (congrArg (·.2.2) h).symm

def Table.mapNamed (table : Table α) (f : String → α → β) : Table β :=
  ⟨table.entries.map fun entry => (entry.1, f entry.1 entry.2)⟩

theorem Table.find_map_named (table : Table α) (f : String → α → β) (name : String) :
    (table.mapNamed f).find? name = (table.find? name).map (f name) := by
  obtain ⟨entries⟩ := table
  simp only [mapNamed, find?]
  induction entries with
  | nil => rfl
  | cons entry entries ih =>
    obtain ⟨other, a⟩ := entry
    rw [List.map_cons, List.lookup_cons, List.lookup_cons]
    by_cases h : name = other
    · simp [h]
    · simp [beq_false_of_ne h, ih]

theorem Table.find_named_of_find {table : Table α} {name : String} {a : α}
    (h : table.find? name = some a) (f : String → α → β) :
    (table.mapNamed f).find? name = some (f name a) := by
  rw [find_map_named, h]
  rfl

theorem Table.find_named {table : Table α} {f : String → α → β} {name : String} {a : α} {b : β}
    (ha : table.find? name = some a) (hb : (table.mapNamed f).find? name = some b) :
    b = f name a := by
  rw [find_map_named, ha] at hb
  exact (Option.some.inj hb).symm

theorem Table.find_named_eq_some {table : Table α} {f : String → α → β} {name : String} {b : β}
    (h : (table.mapNamed f).find? name = some b) :
    ∃ a, table.find? name = some a ∧ b = f name a := by
  rw [find_map_named] at h
  obtain ⟨a, ha, rfl⟩ := Option.map_eq_some_iff.mp h
  exact ⟨a, ha, rfl⟩

def Registry.tallied (registry : Registry σ) : Registry (Tallied σ) where
  calls := registry.calls.mapNamed fun name f x => Job.tally ⟨name, .call⟩ (f x)
  fanOuts := registry.fanOuts.mapNamed fun name f x => Job.tally ⟨name, .fanOut⟩ (f x)
  reduces := registry.reduces.mapNamed fun name f x values =>
    Job.tally ⟨name, .reduce⟩ (f x values)
  iterations := registry.iterations.mapNamed fun name f x key =>
    Job.tally ⟨name, .iteration⟩ (f x key)
  conditions := registry.conditions.mapNamed fun name f x => Job.tally ⟨name, .condition⟩ (f x)

theorem tallied_provides (registry : Registry σ) (use : FunctionUse) :
    registry.tallied.provides use = registry.provides use := by
  obtain ⟨name, role⟩ := use
  cases role with
  | call | fanOut | reduce | iteration | condition =>
    simp [Registry.provides, Registry.tallied, Table.find_map_named]

/-! ## Planned functions -/

namespace Plan

def usesAt (statements : List Statement) (i : Nat) : List FunctionUse :=
  match (statements[i]?).map Statement.kind with
  | some (.call name) => [⟨name, callRole statements i⟩]
  | some (.loop name) => [⟨name, .iteration⟩]
  | some (.waitUntil _ name) => [⟨name, .condition⟩]
  | some (.wait _) => []
  | none => []

theorem uses_at_nodup (statements : List Statement) (i : Nat) : (usesAt statements i).Nodup := by
  unfold usesAt
  split <;> simp

theorem step_at_uses {statements : List Statement} {i : Nat} {st : Statement}
    (h : statements[i]? = some st) : (stepAt statements i st).uses = usesAt statements i := by
  simp only [stepAt, PlannedStep.uses, usesAt, h, Option.map_some]
  cases st.kind <;> rfl

theorem planned_uses {program : Program} {plan : Plan} (hplan : Plan.ofProgram program = .ok plan)
    {i : Nat} {planned : PlannedStep} (h : plan.steps[i]? = some planned) :
    planned.uses = usesAt program.statements i ∧
      planned.isLoop = loopAt program.statements i := by
  rcases plan_step_at hplan h with ⟨st, hst, rfl⟩ | ⟨rfl, rfl⟩
  · exact ⟨step_at_uses hst, by simp [PlannedStep.isLoop, PlannedStep.kind?, stepAt, loopAt, hst]⟩
  · simp [completion, PlannedStep.uses, usesAt, PlannedStep.isLoop, PlannedStep.kind?, loopAt]

end Plan

/-- How often a visit to a planned step runs a function: at a `foreach` once for each key. -/
def PlannedStep.invocations (planned : PlannedStep) (ctx : Context) (use : FunctionUse) : Nat :=
  if use ∈ planned.uses then
    if planned.isLoop then (ctx.keys.getD []).length else 1
  else 0

def Plan.invocations (plan : Plan) (use : FunctionUse) (index : Nat) (ctx : Context) : Nat :=
  (plan.steps[index]?).elim 0 fun planned => planned.invocations ctx use

theorem planned_at {program : Program} {plan : Plan} (hplan : Plan.ofProgram program = .ok plan)
    {i : Nat} (hi : i ≤ program.statements.length) : ∃ planned, plan.steps[i]? = some planned := by
  have hlt : i < plan.steps.length := by
    rw [(plan_of_program_eq_ok hplan).1]
    simpa using Nat.lt_succ_of_le hi
  exact ⟨_, List.getElem?_eq_getElem hlt⟩

theorem invocations_at {program : Program} {plan : Plan} (hplan : Plan.ofProgram program = .ok plan)
    {i : Nat} (hi : i ≤ program.statements.length) (use : FunctionUse) (ctx : Context) :
    plan.invocations use i ctx =
      if use ∈ Plan.usesAt program.statements i then
        if Plan.loopAt program.statements i then (ctx.keys.getD []).length else 1
      else 0 := by
  obtain ⟨planned, hplanned⟩ := planned_at hplan hi
  obtain ⟨huses, hloop⟩ := Plan.planned_uses hplan hplanned
  simp only [Plan.invocations, hplanned, Option.elim_some, PlannedStep.invocations, huses, hloop]

/-! ## The twin -/

/-- The state without its notes, all of which are allowed. -/
def Tallied.Of (allowed : FunctionUse → Prop) (s : σ) (p : Tallied σ) : Prop :=
  p.1 = s ∧ ∀ use ∈ p.2, allowed use

theorem related_tally {allowed : FunctionUse → Prop} {use : FunctionUse} (h : allowed use)
    (job : Job σ ε α) : Job.Related (Tallied.Of allowed) job (job.tally use) := by
  rintro s p ⟨rfl, hp⟩
  refine ⟨_, _, _, rfl, rfl, rfl, ?_⟩
  intro other hmem
  rcases List.mem_cons.mp hmem with rfl | hmem
  · exact h
  · exact hp other hmem

theorem related_entry (entry : Option FanOutEntry) (R : σ → Tallied σ → Prop) :
    Option.Rel (FanOut.Related R) (entry.map fun entry => ⟨entry.reduce, .context⟩)
      (entry.map fun entry => ⟨entry.reduce, .context⟩) := by
  cases entry with
  | none => exact .none
  | some entry => exact .some (.mk .context)

section Twins

variable {registry : Registry σ} {statements : List Statement} {i : Nat} {step : Step σ}
  {twin : Step (Tallied σ)}

theorem Compiled.provides (h : Compiled registry statements i step) {use : FunctionUse}
    (huse : use ∈ Plan.usesAt statements i) : registry.provides use = true := by
  cases h with
  | call hst hk plain fresh found =>
    obtain rfl := by simpa [Plan.usesAt, hst, hk, Plan.callRole, plain, fresh] using huse
    simp [Registry.provides, found]
  | reduce hst hk plain follows found =>
    obtain rfl := by simpa [Plan.usesAt, hst, hk, Plan.callRole, plain, follows] using huse
    simp [Registry.provides, found]
  | fanOut hst hk feeds found =>
    obtain rfl := by simpa [Plan.usesAt, hst, hk, Plan.callRole, feeds] using huse
    simp [Registry.provides, found]
  | wait hst hk => simp [Plan.usesAt, hst, hk] at huse
  | waitUntil hst hk found =>
    obtain rfl := by simpa [Plan.usesAt, hst, hk] using huse
    simp [Registry.provides, found]
  | loop hst hk found =>
    obtain rfl := by simpa [Plan.usesAt, hst, hk] using huse
    simp [Registry.provides, found]
  | completed => simp [Plan.usesAt] at huse

/-- The steps that are bound at one position differ in their notes alone. -/
theorem Compiled.related (h : Compiled registry statements i step)
    (htwin : Compiled registry.tallied statements i twin) {allowed : FunctionUse → Prop}
    (hallowed : ∀ use ∈ Plan.usesAt statements i, allowed use) :
    Step.Related (Tallied.Of allowed) step twin := by
  cases h with
  | call hst hk plain fresh found =>
    obtain ⟨_, hg, rfl⟩ := htwin.of_call hst hk plain fresh
    obtain rfl := Table.find_named found hg
    have huse := hallowed _ (by simp [Plan.usesAt, hst, hk, Plan.callRole, plain, fresh]; rfl)
    exact .mk .none .none (.call fun x => related_tally huse _)
  | reduce hst hk plain follows found =>
    obtain ⟨_, hg, rfl⟩ := htwin.of_reduce hst hk plain follows
    obtain rfl := Table.find_named found hg
    have huse := hallowed _ (by simp [Plan.usesAt, hst, hk, Plan.callRole, plain, follows]; rfl)
    exact .mk .none .none (.reduce fun x values => related_tally huse _)
  | fanOut hst hk feeds found =>
    obtain ⟨_, hg, rfl⟩ := htwin.of_fan_out hst hk feeds
    obtain rfl := Table.find_named found hg
    have huse := hallowed _ (by simp [Plan.usesAt, hst, hk, Plan.callRole, feeds]; rfl)
    exact .mk .none (.some (.mk (.function fun x => related_tally huse _))) .pass
  | wait hst hk =>
    obtain rfl := htwin.of_wait hst hk
    exact .mk .none (related_entry _ _) .pass
  | waitUntil hst hk found =>
    obtain ⟨_, hg, rfl⟩ := htwin.of_wait_until hst hk
    obtain rfl := Table.find_named found hg
    have huse := hallowed _ (by simp [Plan.usesAt, hst, hk]; rfl)
    exact .mk (.some (.mk fun x => related_tally huse _)) (related_entry _ _) .pass
  | loop hst hk found =>
    obtain ⟨_, hg, rfl⟩ := htwin.of_foreach hst hk
    obtain rfl := Table.find_named found hg
    have huse := hallowed _ (by simp [Plan.usesAt, hst, hk]; rfl)
    exact .mk .none (related_entry _ _) (.iterate fun x key => related_tally huse _)
  | completed =>
    obtain rfl := htwin.of_completed
    exact .mk .none .none .pass

end Twins

/-! ## One visit -/

section Visits

variable {registry : Registry σ} {statements : List Statement} {i : Nat}
  {step : Step (Tallied σ)} {names : List String} {ctx : Context} {p p' : Tallied σ}

theorem poll_notes (h : Compiled registry.tallied statements i step) {poll : Poll (Tallied σ)}
    (hpoll : step.poll = some poll) {r : Except Halt Bool}
    (hran : Job.runOn (poll.holds ctx.result) p = (r, p')) :
    p'.2 = Plan.usesAt statements i ++ p.2 := by
  cases h with
  | waitUntil hst hk found =>
    cases hpoll
    obtain ⟨f, _, rfl⟩ := Table.find_named_eq_some found
    rw [Job.tally_notes hran]
    simp [Plan.usesAt, hst, hk]
  | _ => cases hpoll

/-- An invocation that ends well has run every function of its step once. -/
theorem invoked_notes (h : Compiled registry.tallied statements i step)
    (hsingle : step.isLoop = false) {t : Transition}
    (hinvoked : step.Invoked names ctx p (.ok t) p') :
    p'.2 = Plan.usesAt statements i ++ p.2 := by
  rcases hinvoked.of_ok with ⟨poll, polls, declined, _⟩ | ⟨a, p₁, admits, proposes, _⟩
  · exact poll_notes h polls declined
  cases h with
  | call hst hk plain fresh found =>
    obtain rfl := admits.state_eq rfl
    obtain ⟨f, _, rfl⟩ := Table.find_named_eq_some found
    rw [Job.tally_notes (proposes.of_call rfl rfl)]
    simp [Plan.usesAt, hst, hk, Plan.callRole, plain, fresh]
  | reduce hst hk plain follows found =>
    obtain rfl := admits.state_eq rfl
    obtain ⟨f, _, rfl⟩ := Table.find_named_eq_some found
    obtain ⟨_, _, ran⟩ := proposes.of_reduce rfl rfl
    rw [Job.tally_notes ran]
    simp [Plan.usesAt, hst, hk, Plan.callRole, plain, follows]
  | fanOut hst hk feeds found =>
    obtain rfl := admits.state_eq rfl
    obtain ⟨f, _, rfl⟩ := Table.find_named_eq_some found
    obtain ⟨_, ran⟩ := proposes.of_fan_out rfl rfl
    rw [Job.tally_notes ran]
    simp [Plan.usesAt, hst, hk, Plan.callRole, feeds]
  | wait hst hk =>
    obtain rfl := admits.state_eq rfl
    obtain ⟨rfl, _⟩ := proposes.of_pass rfl (entry_context _)
    simp [Plan.usesAt, hst, hk]
  | waitUntil hst hk found =>
    obtain ⟨rfl, _⟩ := proposes.of_pass rfl (entry_context _)
    cases admits with
    | always free => cases free
    | holds polls ran => exact poll_notes (.waitUntil hst hk found) polls ran
  | loop hst hk => simp [Step.isLoop, hk, Kind.isLoop] at hsingle
  | completed =>
    obtain rfl := admits.state_eq rfl
    obtain ⟨rfl, _⟩ := proposes.of_pass rfl (by simp)
    simp [Plan.usesAt]

theorem workers_note {use : FunctionUse} {f : Json → Job σ Halt Json} (keys : List Json)
    {values : List Json}
    (h : Job.runOn (keys.mapM fun key => Job.tally use (f key)) p = (.ok values, p')) :
    p'.2 = List.replicate keys.length use ++ p.2 := by
  induction keys generalizing p values with
  | nil => cases h; rfl
  | cons key keys ih =>
    obtain ⟨v, p₁, rest, hfirst, hrest, rfl⟩ := Job.mapM_cons_eq_ok h
    rw [ih hrest, Job.tally_notes hfirst, List.length_cons, List.replicate_succ',
      List.append_assoc, List.singleton_append]

end Visits

/-! ## Runs -/

section Runs

variable {program : Program} {plan : Plan} {registry : Registry σ} {w : Workflow σ}
  {twin : Workflow (Tallied σ)} {settings : SimulatorSettings} {schedule : Schedule}
  {p p' : Tallied σ}

variable (hplan : Plan.ofProgram program = .ok plan)

include hplan

theorem twin_compiles (hw : Workflow.compile program registry = .ok w) :
    ∃ twin, Workflow.compile program registry.tallied = .ok twin := by
  rw [compile_of_plan hplan]
  apply plan_binds hplan
  intro planned hplanned use huse
  obtain ⟨i, hi⟩ := List.mem_iff_getElem?.mp hplanned
  rw [(Plan.planned_uses hplan hi).1] at huse
  have hle : i ≤ program.statements.length := by
    rcases plan_step_at hplan hi with ⟨st, hst, _⟩ | ⟨rfl, _⟩
    · exact Nat.le_of_lt (List.getElem?_eq_some_iff.mp hst).1
    · exact Nat.le_refl _
  obtain ⟨step, _, hcompiled⟩ := compile_step_at hw hle
  rw [tallied_provides]
  exact hcompiled.provides huse

omit hplan in
theorem twin_related (hw : Workflow.compile program registry = .ok w)
    (htwin : Workflow.compile program registry.tallied = .ok twin) :
    Workflow.Related (Tallied.Of fun _ => True) w twin := by
  intro i
  by_cases hi : i ≤ program.statements.length
  · obtain ⟨step, hstep, hcompiled⟩ := compile_step_at hw hi
    obtain ⟨step', hstep', hcompiled'⟩ := compile_step_at htwin hi
    rw [hstep, hstep']
    exact .some (hcompiled.related hcompiled' fun _ _ => trivial)
  · have hlen := compile_length hw
    have hlen' := compile_length htwin
    rw [List.getElem?_eq_none (by omega), List.getElem?_eq_none (by omega)]
    exact .none

theorem comes_notes (htwin : Workflow.compile program registry.tallied = .ok twin)
    {stop : Stop (Tallied σ)} {t : Transition} (h : twin.Comes settings stop (.ok t) p')
    (use : FunctionUse) :
    p'.2.count use = plan.invocations use stop.index stop.context + stop.state.2.count use := by
  have hle : stop.index ≤ program.statements.length := by
    obtain ⟨_, _, hstep, _⟩ := h
    have hlt := (List.getElem?_eq_some_iff.mp hstep).1
    rw [compile_length htwin] at hlt
    omega
  rw [invocations_at hplan hle]
  cases h.visited htwin with
  | invoked compiled single ends =>
    have hloop : Plan.loopAt program.statements stop.index = false := by
      cases hst : program.statements[stop.index]? with
      | none => simp [Plan.loopAt, hst]
      | some st => rw [Plan.loop_at_eq hst, ← compiled.is_loop_eq hst, single]
    rw [invoked_notes compiled single ends, List.count_append,
      (Plan.uses_at_nodup _ _).count, hloop]
    simp
  | @batched _ _ name _ _ here kind found _ ends =>
    obtain ⟨f, _, rfl⟩ := Table.find_named_eq_some found
    have hloop : Plan.loopAt program.statements stop.index = true := by
      rw [Plan.loop_at_eq here, kind]
      rfl
    have huses : Plan.usesAt program.statements stop.index = [⟨name, .iteration⟩] := by
      simp [Plan.usesAt, here, kind]
    rw [huses, hloop]
    rcases ends.of_ok with ⟨held, rests, _⟩ | ⟨keys, values, _, _, held, ran, _⟩
    · simp [held, rests]
    · rw [workers_note keys ran, List.count_append, List.count_replicate, held]
      by_cases huse : use = ⟨name, .iteration⟩
      · simp [huse]
      · simp [huse, Ne.symm huse]

/-- A run that ends well has run every function as often as its visits say. -/
theorem drive_notes (htwin : Workflow.compile program registry.tallied = .ok twin) {bound : Nat}
    {run : Run} {report : RunReport}
    (h : Job.runOn (twin.drive settings schedule bound run) p = (.ok (some report), p'))
    (use : FunctionUse) :
    p'.2.count use = ((twin.stops settings schedule bound run p).map fun stop =>
      plan.invocations use stop.index stop.context).sum + p.2.count use := by
  refine Workflow.drive_induction (motive := fun bound run p => p'.2.count use =
    ((twin.stops settings schedule bound run p).map fun stop =>
      plan.invocations use stop.index stop.context).sum + p.2.count use) ?_ ?_ h
  · intro bound run haction _
    simp [Workflow.stops_finish haction]
  · intro bound run index p run' p₁ haction hvisit ih
    obtain ⟨t, hcomes, _⟩ := Workflow.visit_comes hvisit
    rw [ih, Workflow.stops_visit haction hvisit, List.map_cons, List.sum_cons,
      comes_notes hplan htwin hcomes use]
    dsimp only
    omega

/-- However a visit ends, the functions that it ran are those of its step. -/
theorem visit_notes_within (hw : Workflow.compile program registry = .ok w)
    (htwin : Workflow.compile program registry.tallied = .ok twin) {run : Run} {index : Nat}
    {r : Except RunError Run}
    (hran : Job.runOn (twin.visit settings schedule run index) p = (r, p')) {use : FunctionUse}
    (h : use ∈ p'.2) :
    use ∈ p.2 ∨ ∃ planned, plan.steps[index]? = some planned ∧ use ∈ planned.uses := by
  cases hstep' : twin.steps[index]? with
  | none =>
    simp only [Workflow.visit, hstep', Job.run_on_throw] at hran
    cases hran
    exact Or.inl h
  | some step' =>
    have hle : index ≤ program.statements.length := by
      have hlt := (List.getElem?_eq_some_iff.mp hstep').1
      rw [compile_length htwin] at hlt
      omega
    obtain ⟨step, _, hcompiled⟩ := compile_step_at hw hle
    -- The step may write down its own functions; what was there before is allowed to stay.
    have hrelated : Job.Related
        (Tallied.Of fun use => use ∈ p.2 ∨ use ∈ Plan.usesAt program.statements index)
        (w.transition settings (schedule.order run.trail.length) step run.context)
        (twin.transition settings (schedule.order run.trail.length) step' run.context) :=
      Workflow.transition_related (twin_related hw htwin).names_eq
        (hcompiled.related (compile_compiled htwin hstep') fun _ => Or.inr) _ _
    obtain ⟨r', s', p₁, _, htransition, _, hallowed⟩ := hrelated p.1 p ⟨rfl, fun _ => Or.inl⟩
    rw [Workflow.visit_run_on hstep', htransition] at hran
    have hstate : p' = p₁ := by
      cases r' with
      | error e => cases hran; rfl
      | ok t => cases hran; rfl
    rw [hstate] at h
    rcases hallowed use h with hold | hnew
    · exact Or.inl hold
    · obtain ⟨planned, hplanned⟩ := planned_at hplan hle
      rw [← (Plan.planned_uses hplan hplanned).1] at hnew
      exact Or.inr ⟨planned, hplanned, hnew⟩

/-- However a run ends, every function that it ran belongs to a step that it visited. -/
theorem drive_notes_within (hw : Workflow.compile program registry = .ok w)
    (htwin : Workflow.compile program registry.tallied = .ok twin) {bound : Nat} {run : Run}
    {r : Except RunError (Option RunReport)}
    (hran : Job.runOn (twin.drive settings schedule bound run) p = (r, p')) {use : FunctionUse}
    (h : use ∈ p'.2) :
    use ∈ p.2 ∨ ∃ stop ∈ twin.stops settings schedule bound run p, ∃ planned,
      plan.steps[stop.index]? = some planned ∧ use ∈ planned.uses := by
  induction bound generalizing run p with
  | zero =>
    cases haction : run.context.action with
    | finish =>
      rw [Workflow.drive_finish haction] at hran
      cases hran
      exact Or.inl h
    | step index =>
      rw [Workflow.drive_exhausted haction] at hran
      cases hran
      exact Or.inl h
  | succ bound ih =>
    cases haction : run.context.action with
    | finish =>
      rw [Workflow.drive_finish haction] at hran
      cases hran
      exact Or.inl h
    | step index =>
      rcases hvisit : Job.runOn (twin.visit settings schedule run index) p with ⟨e | run', p₁⟩
      · rw [Workflow.drive_visit_broken haction hvisit] at hran
        cases hran
        rw [Workflow.stops_broken haction hvisit]
        rcases visit_notes_within hplan hw htwin hvisit h with hold | hnew
        · exact Or.inl hold
        · exact Or.inr ⟨_, List.mem_singleton_self _, hnew⟩
      · rw [Workflow.drive_visit_ok haction hvisit] at hran
        rw [Workflow.stops_visit haction hvisit]
        rcases ih hran with hold | ⟨stop, hstop, hnew⟩
        · rcases visit_notes_within hplan hw htwin hvisit hold with hold | hnew
          · exact Or.inl hold
          · exact Or.inr ⟨_, List.mem_cons_self, hnew⟩
        · exact Or.inr ⟨stop, List.mem_cons_of_mem _ hstop, hnew⟩

end Runs

/-- The notes of a run tell how often each function ran. If the run ends well, that is the sum of
what its visits say, and however it ends, only functions of visited steps were run. -/
theorem functions_run_as_visited {program : Program} {plan : Plan} {registry : Registry σ}
    {w : Workflow σ} (hplan : Plan.ofProgram program = .ok plan)
    (hw : Workflow.compile program registry = .ok w) :
    ∃ twin, Workflow.compile program registry.tallied = .ok twin ∧
      ∀ settings schedule bound initial s, ∃ r s' log,
        Job.runOn (w.simulate settings schedule bound initial) s = (r, s') ∧
        Job.runOn (twin.simulate settings schedule bound initial) (s, []) = (r, s', log) ∧
        (∀ report, r = .ok (some report) →
          (report.visits.map (·.step) = (w.itinerary settings schedule bound initial s).map
            fun stop => w.actionName (.step stop.index)) ∧
          ∀ use, log.count use = ((w.itinerary settings schedule bound initial s).map fun stop =>
            plan.invocations use stop.index stop.context).sum) ∧
        ∀ use ∈ log, ∃ stop ∈ w.itinerary settings schedule bound initial s, ∃ planned,
          plan.steps[stop.index]? = some planned ∧ use ∈ planned.uses := by
  obtain ⟨twin, htwin⟩ := twin_compiles hplan hw
  refine ⟨twin, htwin, ?_⟩
  intro settings schedule bound initial s
  have hrelated := twin_related hw htwin
  have hstart : Tallied.Of (fun _ => True) s (s, []) := ⟨rfl, by simp⟩
  have hsimulate : Job.Related (Tallied.Of fun _ => True)
      (w.simulate settings schedule bound initial)
      (twin.simulate settings schedule bound initial) := hrelated.simulate bound initial
  have hstops : (twin.itinerary settings schedule bound initial (s, [])).map
      (fun stop => (stop.index, stop.context)) = _ := hrelated.stops bound _ hstart
  obtain ⟨r, s', ⟨_, log⟩, hrun, hnoted, rfl, _⟩ := hsimulate s (s, []) hstart
  refine ⟨r, _, log, hrun, hnoted, ?_, ?_⟩
  · rintro report rfl
    refine ⟨Workflow.report_visits hrun, ?_⟩
    intro use
    have hsum := congrArg (List.map fun visit => plan.invocations use visit.1 visit.2) hstops
    rw [List.map_map, List.map_map] at hsum
    rw [drive_notes hplan htwin hnoted use]
    exact congrArg List.sum hsum
  · intro use huse
    rcases drive_notes_within hplan hw htwin hnoted huse with hold | ⟨stop, hstop, hplanned⟩
    · cases hold
    have hmem : (stop.index, stop.context) ∈ (twin.itinerary settings schedule bound initial
        (s, [])).map fun stop => (stop.index, stop.context) := List.mem_map.mpr ⟨stop, hstop, rfl⟩
    rw [hstops] at hmem
    obtain ⟨same, hsame, heq⟩ := List.mem_map.mp hmem
    refine ⟨same, hsame, ?_⟩
    rw [(Prod.mk.inj heq).1]
    exact hplanned

def replayProgram : Program where
  statements := [.at "split" 1 (.call "split") 0, .at "foreach count" 2 (.loop "count") 1,
    .at "gather" 3 (.call "gather") 2, .at "wait 1 until ready" 4 (.waitUntil 1 "ready") 3]
  version := ""

def replayRegistry : Registry Nat where
  fanOuts := ⟨[("split", fun x => pure (x, [.int 7, .int 7]))]⟩
  iterations := ⟨[("count", fun _ key => pure key)]⟩
  reduces := ⟨[("gather", fun x _ => do
    let asked ← get
    set (asked + 1)
    return if asked = 0 then Override.goTo x "_func_split_0" else x)]⟩
  conditions := ⟨[("ready", fun _ => do
    let asked ← get
    set (asked + 1)
    return asked == 3)]⟩

def replayReport : RunReport where
  result := .int 1
  visits := [⟨"_func_split_0", 0⟩, ⟨"_foreach_count_1", 0⟩, ⟨"_func_gather_2", 0⟩,
    ⟨"_func_split_0", 0⟩, ⟨"_foreach_count_1", 0⟩, ⟨"_func_gather_2", 0⟩,
    ⟨"_wait_1_until_ready_3", 1⟩, ⟨"_wait_1_until_ready_3", 0⟩, ⟨completedName, 0⟩]

theorem replay_counts : ∃ plan w twin log, Plan.ofProgram replayProgram = .ok plan ∧
    Workflow.compile replayProgram replayRegistry = .ok w ∧
    Workflow.compile replayProgram replayRegistry.tallied = .ok twin ∧
    Job.runOn (w.simulate {} .inKeyOrder 9 (.int 1)) 0 = (.ok (some replayReport), 4) ∧
    Job.runOn (twin.simulate {} .inKeyOrder 9 (.int 1)) (0, []) =
      (.ok (some replayReport), 4, log) ∧
    log.count ⟨"count", .iteration⟩ = 4 ∧ log.count ⟨"gather", .reduce⟩ = 2 ∧
    log.count ⟨"ready", .condition⟩ = 2 := by
  obtain ⟨plan, w, hplan, hw, hrun, hsums⟩ : ∃ plan w,
      Plan.ofProgram replayProgram = .ok plan ∧
      Workflow.compile replayProgram replayRegistry = .ok w ∧
      Job.runOn (w.simulate {} .inKeyOrder 9 (.int 1)) 0 = (.ok (some replayReport), 4) ∧
      ([⟨"count", .iteration⟩, ⟨"gather", .reduce⟩, ⟨"ready", .condition⟩].map fun use =>
        ((w.itinerary {} .inKeyOrder 9 (.int 1) 0).map fun stop =>
          plan.invocations use stop.index stop.context).sum) = [4, 2, 2] :=
    ⟨_, _, rfl, rfl, by cbv, by cbv⟩
  obtain ⟨twin, htwin, hall⟩ := functions_run_as_visited hplan hw
  obtain ⟨r, s', log, hrun', hnoted, hcounts, _⟩ := hall {} .inKeyOrder 9 (.int 1) 0
  rw [hrun] at hrun'
  cases hrun'
  obtain ⟨_, hcount⟩ := hcounts replayReport rfl
  simp only [List.map_cons, List.map_nil, ← hcount, List.cons.injEq, and_true] at hsums
  exact ⟨plan, w, twin, log, hplan, hw, htwin, hrun, hnoted, hsums⟩

end Lineflow
