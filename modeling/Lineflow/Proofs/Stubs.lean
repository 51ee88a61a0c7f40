import Lineflow.Proofs.SourceMeaning

/-! # Placeholder functions

The placeholders of a plan are pure, answer as announced, and suffice to bind the plan.
-/
namespace Lineflow

variable {σ α β ε : Type}

/-! ## Tables -/

theorem lookup_without (entries : List (String × α)) (name other : String) :
    (entries.filter (·.1 != name)).lookup other =
      if other = name then none else entries.lookup other := by
  induction entries with
  | nil => simp
  | cons entry entries ih =>
    obtain ⟨n, b⟩ := entry
    by_cases hn : n = name
    · subst hn
      rw [List.filter_cons_of_neg (by simp), ih]
      by_cases h : other = n
      · simp [h]
      · simp [h, List.lookup_cons, beq_false_of_ne h]
    · rw [List.filter_cons_of_pos (by simpa using hn), List.lookup_cons, List.lookup_cons, ih]
      by_cases h : other = n
      · simp [h, hn]
      · simp [beq_false_of_ne h]

theorem Table.find_insert (table : Table α) (name other : String) (a : α) :
    (table.insert name a).find? other = if other = name then some a else table.find? other := by
  rw [find?, insert, List.lookup_append, lookup_without]
  by_cases h : other = name
  · simp [h]
  · simp [h, List.lookup_cons, beq_false_of_ne h, find?]

/-- What holds of every entry and of a new one holds of every entry afterwards. -/
theorem Table.forall_insert {P : String → α → Prop} {table : Table α} {name : String} {a : α}
    (hold : ∀ other f, table.find? other = some f → P other f) (hnew : P name a) :
    ∀ other f, (table.insert name a).find? other = some f → P other f := by
  intro other f hf
  rw [find_insert] at hf
  split at hf
  · next h => cases hf; exact h ▸ hnew
  · exact hold other f hf

/-! ## Answers -/

def stubAnswers : Answers where
  call _ x := .ok x
  fanOut _ x := .ok (x, [])
  reduce _ x _ := .ok x
  iteration _ _ key := .ok key

theorem insert_stub_gives {registry : Registry σ} (h : registry.Gives stubAnswers)
    (use : FunctionUse) : (registry.insertStub use).Gives stubAnswers := by
  obtain ⟨name, role⟩ := use
  cases role with
  | call => exact { h with call := Table.forall_insert h.call fun _ _ => rfl }
  | fanOut => exact { h with fanOut := Table.forall_insert h.fanOut fun _ _ => rfl }
  | reduce => exact { h with reduce := Table.forall_insert h.reduce fun _ _ _ => rfl }
  | iteration => exact { h with iteration := Table.forall_insert h.iteration fun _ _ _ => rfl }
  | condition => exact { h with condition := Table.forall_insert h.condition fun _ _ => rfl }

theorem insert_stubs_gives {registry : Registry σ} (h : registry.Gives stubAnswers)
    (uses : List FunctionUse) : (uses.foldl Registry.insertStub registry).Gives stubAnswers := by
  induction uses generalizing registry with
  | nil => exact h
  | cons use uses ih => exact ih (insert_stub_gives h use)

theorem stubs_give (plan : Plan) : (Registry.stubs plan : Registry σ).Gives stubAnswers := by
  refine insert_stubs_gives ?_ plan.requiredFunctions
  constructor <;> intro name f hf <;> cases hf

/-! ## Binding -/

theorem insert_stub_provides (registry : Registry σ) (use other : FunctionUse) :
    (registry.insertStub use).provides other = true ↔
      other = use ∨ registry.provides other = true := by
  obtain ⟨name, role⟩ := use
  obtain ⟨otherName, otherRole⟩ := other
  cases role <;> cases otherRole <;>
    simp only [Registry.insertStub, Registry.provides, Table.find_insert, FunctionUse.mk.injEq,
      reduceCtorEq, and_false, and_true, false_or]
  all_goals by_cases h : otherName = name <;> simp [h]

theorem insert_stubs_provides (registry : Registry σ) (uses : List FunctionUse)
    (use : FunctionUse) : (uses.foldl Registry.insertStub registry).provides use = true ↔
      use ∈ uses ∨ registry.provides use = true := by
  induction uses generalizing registry with
  | nil => simp
  | cons first uses ih =>
    rw [List.foldl_cons, ih, insert_stub_provides, List.mem_cons, or_left_comm, or_assoc]

theorem mem_insert_new (seen uses : List FunctionUse) (use : FunctionUse) :
    use ∈ uses.foldl Plan.insertNew seen ↔ use ∈ seen ∨ use ∈ uses := by
  induction uses generalizing seen with
  | nil => simp
  | cons first uses ih =>
    rw [List.foldl_cons, ih, List.mem_cons, ← or_assoc]
    unfold Plan.insertNew
    split
    · next hseen =>
      constructor
      · exact Or.imp_left .inl
      · rintro ((h | rfl) | h)
        · exact .inl h
        · exact .inl hseen
        · exact .inr h
    · simp

theorem stubs_provide {plan : Plan} {planned : PlannedStep} (hplanned : planned ∈ plan.steps)
    {use : FunctionUse} (huse : use ∈ planned.uses) :
    (Registry.stubs plan : Registry σ).provides use = true := by
  rw [Registry.stubs, insert_stubs_provides, Plan.requiredFunctions, mem_insert_new]
  exact .inl (.inr (List.mem_flatMap.mpr ⟨planned, hplanned, huse⟩))

theorem demand_some {registry : Registry σ} {found : Option α} (h : found.isSome = true)
    (use : FunctionUse) (step : String) : ∃ f, registry.demand use step found = .ok f := by
  obtain ⟨f, rfl⟩ := Option.isSome_iff_exists.mp h
  exact ⟨f, rfl⟩

theorem bind_poll_provided {registry : Registry σ} {planned : PlannedStep}
    (hprovides : ∀ use ∈ planned.uses, registry.provides use = true)
    (hrole : ∀ use, planned.condition = some use → use.role = .condition) :
    ∃ poll, Step.bindPoll registry planned = .ok poll := by
  unfold Step.bindPoll
  split
  · next use seconds hcondition hseconds =>
    have huse := hprovides use (by simp [PlannedStep.uses, hcondition])
    simp only [Registry.provides, hrole use hcondition] at huse
    obtain ⟨holds, hholds⟩ := demand_some huse use planned.name
    rw [hholds]
    exact ⟨_, rfl⟩
  · exact ⟨none, rfl⟩

theorem bind_work_provided {registry : Registry σ} {planned : PlannedStep}
    (hprovides : ∀ use ∈ planned.uses, registry.provides use = true) :
    ∃ work, Step.bindWork registry planned = .ok work := by
  unfold Step.bindWork
  split
  · exact ⟨_, rfl⟩
  · next use hfunction =>
    have huse := hprovides use (by simp [PlannedStep.uses, hfunction])
    cases hrole : use.role <;> simp only [Registry.provides, hrole] at huse ⊢
    all_goals
      obtain ⟨f, hf⟩ := demand_some huse use planned.name
      rw [hf]
      exact ⟨_, rfl⟩

theorem bind_provided {registry : Registry σ} {planned : PlannedStep}
    (hprovides : ∀ use ∈ planned.uses, registry.provides use = true)
    (hrole : ∀ use, planned.condition = some use → use.role = .condition) :
    ∃ step, Step.bind registry planned = .ok step := by
  obtain ⟨poll, hpoll⟩ := bind_poll_provided hprovides hrole
  obtain ⟨work, hwork⟩ := bind_work_provided hprovides
  exact ⟨_, by rw [Step.bind, hpoll, hwork]; rfl⟩

theorem planned_condition_role {program : Program} {plan : Plan}
    (hplan : Plan.ofProgram program = .ok plan) {planned : PlannedStep}
    (hplanned : planned ∈ plan.steps) {use : FunctionUse} (huse : planned.condition = some use) :
    use.role = .condition := by
  rw [(plan_of_program_eq_ok hplan).1, List.mem_append, List.mem_singleton] at hplanned
  rcases hplanned with hplanned | rfl
  · obtain ⟨i, hi, rfl⟩ := List.mem_mapIdx.mp hplanned
    unfold Plan.stepAt Plan.conditionUse at huse
    split at huse
    · cases huse; rfl
    · cases huse
  · cases huse

/-- A plan can be bound to a registry that has all its functions. -/
theorem plan_binds {program : Program} {plan : Plan} (hplan : Plan.ofProgram program = .ok plan)
    {registry : Registry σ} (hprovides : ∀ planned ∈ plan.steps, ∀ use ∈ planned.uses,
      registry.provides use = true) : ∃ w, Workflow.ofPlan plan registry = .ok w := by
  have hsteps : ∀ planned ∈ plan.steps, ∃ step, Step.bind registry planned = .ok step :=
    fun planned hplanned => bind_provided (hprovides planned hplanned) fun _ =>
      planned_condition_role hplan hplanned
  obtain ⟨steps, hok⟩ := mapM_ok hsteps
  exact ⟨_, by rw [Workflow.ofPlan, hok]; rfl⟩

/-- Every plan of a program can be bound to its placeholders. -/
theorem stubs_bind {program : Program} {plan : Plan} (hplan : Plan.ofProgram program = .ok plan) :
    ∃ w : Workflow σ, Workflow.ofPlan plan (.stubs plan) = .ok w :=
  plan_binds hplan fun _ hplanned _ => stubs_provide hplanned

theorem compile_of_plan {program : Program} {plan : Plan}
    (hplan : Plan.ofProgram program = .ok plan) (registry : Registry σ) :
    Workflow.compile program registry = Workflow.ofPlan plan registry := by
  rw [Workflow.compile, hplan]
  rfl

end Lineflow
