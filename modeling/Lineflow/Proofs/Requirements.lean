import Lineflow.Proofs.InvocationCounts

/-! # What a plan needs

A plan lists the functions that it needs, and a registry either has them all or is told which one is
missed first. The list goes by the steps and names a function before a condition, binding looks for
the condition first; no step of a program has both, so the two orders are one.
-/
namespace Lineflow

variable {σ α : Type}

/-! ## The list of functions -/

section Lists

variable {uses seen : List FunctionUse}

theorem insert_new_nodup (h : seen.Nodup) : (uses.foldl Plan.insertNew seen).Nodup := by
  induction uses generalizing seen with
  | nil => exact h
  | cons use uses ih =>
    apply ih
    unfold Plan.insertNew
    split
    · exact h
    · next hnew =>
      refine List.nodup_append.mpr ⟨h, List.nodup_singleton use, ?_⟩
      intro other hother same hsame heq
      rw [heq, List.mem_singleton.mp hsame] at hother
      exact hnew hother

/-- Only what has been seen before is left out, so a search ends as in the list with repetitions. -/
theorem find_insert_new (p : FunctionUse → Bool) :
    (uses.foldl Plan.insertNew seen).find? p = (seen ++ uses).find? p := by
  induction uses generalizing seen with
  | nil => rw [List.append_nil]; rfl
  | cons use uses ih =>
    rw [List.foldl_cons, ih]
    unfold Plan.insertNew
    split
    · next hseen =>
      rw [List.find?_append, List.find?_append]
      cases hp : p use with
      | false => rw [List.find?_cons_of_neg (by simp [hp])]
      | true =>
        have hfound : (seen.find? p).isSome = true := List.find?_isSome.mpr ⟨use, hseen, hp⟩
        obtain ⟨found, hfound⟩ := Option.isSome_iff_exists.mp hfound
        rw [hfound]
        rfl
    · rw [List.append_assoc, List.singleton_append]

end Lists

theorem PlannedStep.mem_uses {planned : PlannedStep} {use : FunctionUse} :
    use ∈ planned.uses ↔ planned.function = some use ∨ planned.condition = some use := by
  rw [uses, List.mem_append, Option.mem_toList, Option.mem_toList]

theorem Plan.mem_required {plan : Plan} {use : FunctionUse} :
    use ∈ plan.requiredFunctions ↔ ∃ planned ∈ plan.steps, use ∈ planned.uses := by
  rw [requiredFunctions, mem_insert_new, List.mem_flatMap]
  simp

theorem Plan.uses_at_unique {statements : List Statement} {i : Nat} {use other : FunctionUse}
    (huse : use ∈ usesAt statements i) (hother : other ∈ usesAt statements i) : other = use := by
  unfold usesAt at huse hother
  split at huse <;> simp_all

/-! ## What is said of a missing function -/

/-- The report of a function that is not registered: unknown, or known in other roles, of which the
one with the least label is named. -/
inductive Blames (registry : Registry σ) (use : FunctionUse) (step : String) :
    CompileError → Prop where
  | unknown (nowhere : ∀ role, registry.provides ⟨use.name, role⟩ = false) :
      Blames registry use step (.unknownFunction use step)
  | mismatch {role} (registered : registry.provides ⟨use.name, role⟩ = true)
      (least : ∀ other, registry.provides ⟨use.name, other⟩ = true → role.label ≤ other.label) :
      Blames registry use step (.signatureMismatch use step role)

theorem Role.mem_all (role : Role) : role ∈ Role.all := by
  cases role <;> decide

theorem Role.all_sorted : Role.all.Pairwise fun a b => a.label ≤ b.label := by
  decide

theorem Registry.mem_roles {registry : Registry σ} {name : String} {role : Role} :
    role ∈ registry.roles name ↔ registry.provides ⟨name, role⟩ = true := by
  rw [roles, List.mem_filter]
  exact and_iff_right role.mem_all

theorem Registry.missing_blames (registry : Registry σ) (use : FunctionUse) (step : String) :
    Blames registry use step (registry.missing use step) := by
  have hsorted : (registry.roles use.name).Pairwise fun a b => a.label ≤ b.label :=
    Role.all_sorted.filter _
  unfold missing
  split
  · next role others hroles =>
    rw [hroles, List.pairwise_cons] at hsorted
    refine .mismatch (mem_roles.mp (hroles ▸ List.mem_cons_self)) ?_
    intro other hother
    have hmem := mem_roles.mpr hother
    rw [hroles] at hmem
    rcases List.mem_cons.mp hmem with rfl | hmem
    · exact String.le_refl _
    · exact hsorted.1 other hmem
  · next hroles =>
    refine .unknown ?_
    intro role
    by_contra hrole
    have hmem := mem_roles.mpr (Bool.eq_true_of_not_eq_false hrole)
    rw [hroles] at hmem
    cases hmem

/-! ## Binding one step -/

section Binding

variable {registry : Registry σ} {planned : PlannedStep} {use : FunctionUse} {e : CompileError}

theorem demand_eq_error {found : Option α} {step : String}
    (h : registry.demand use step found = .error e) :
    found.isSome = false ∧ e = registry.missing use step := by
  unfold Registry.demand at h
  split at h
  · cases h
  · cases h
    exact ⟨rfl, rfl⟩

theorem except_bind_eq_error {ε β : Type} {x : Except ε α} {f : α → Except ε β} {e : ε}
    (h : (x >>= f) = .error e) : x = .error e ∨ ∃ a, x = .ok a ∧ f a = .error e := by
  cases x with
  | error e' => cases h; exact Or.inl rfl
  | ok a => exact Or.inr ⟨a, rfl, h⟩

def Lacks (registry : Registry σ) (planned : PlannedStep) (use : FunctionUse) : Prop :=
  use ∈ planned.uses ∧ registry.provides use = false

theorem bind_poll_lacks (h : Step.bindPoll registry planned = .error e)
    (hrole : ∀ use, planned.condition = some use → use.role = .condition) :
    ∃ use, Lacks registry planned use ∧ e = registry.missing use planned.name := by
  unfold Step.bindPoll at h
  split at h
  · next use seconds hcondition _ =>
    rcases except_bind_eq_error h with hdemand | ⟨_, _, hreturn⟩
    · obtain ⟨hnone, he⟩ := demand_eq_error hdemand
      refine ⟨use, ⟨PlannedStep.mem_uses.mpr (Or.inr hcondition), ?_⟩, he⟩
      rw [Registry.provides, hrole use hcondition]
      exact hnone
    · cases hreturn
  · cases h

theorem bind_work_lacks (h : Step.bindWork registry planned = .error e) :
    ∃ use, Lacks registry planned use ∧ e = registry.missing use planned.name := by
  unfold Step.bindWork at h
  split at h
  · cases h
  · next use hfunction =>
    refine ⟨use, ?_⟩
    have hmem : use ∈ planned.uses := PlannedStep.mem_uses.mpr (Or.inl hfunction)
    -- The role decides which table is searched, and nothing but the search can fail.
    cases hrole : use.role <;> simp only [hrole] at h
    all_goals
      rcases except_bind_eq_error h with hdemand | ⟨_, _, hreturn⟩
      · obtain ⟨hnone, he⟩ := demand_eq_error hdemand
        refine ⟨⟨hmem, ?_⟩, he⟩
        rw [Registry.provides, hrole]
        exact hnone
      · cases hreturn

theorem bind_lacks (h : Step.bind registry planned = .error e)
    (hrole : ∀ use, planned.condition = some use → use.role = .condition) :
    ∃ use, Lacks registry planned use ∧ e = registry.missing use planned.name := by
  unfold Step.bind at h
  rcases except_bind_eq_error h with hpoll | ⟨_, _, h⟩
  · exact bind_poll_lacks hpoll hrole
  · rcases except_bind_eq_error h with hwork | ⟨_, _, hreturn⟩
    · exact bind_work_lacks hwork
    · cases hreturn

end Binding

/-! ## Binding a plan -/

section Plans

variable {program : Program} {plan : Plan} {registry : Registry σ}

variable (hplan : Plan.ofProgram program = .ok plan)

include hplan

theorem bound_provides {planned : PlannedStep} (hplanned : planned ∈ plan.steps) {step : Step σ}
    (h : Step.bind registry planned = .ok step) {use : FunctionUse} (huse : use ∈ planned.uses) :
    registry.provides use = true := by
  obtain ⟨i, hi⟩ := List.mem_iff_getElem?.mp hplanned
  rw [(Plan.planned_uses hplan hi).1] at huse
  rcases plan_step_at hplan hi with ⟨st, hst, rfl⟩ | ⟨rfl, rfl⟩
  · exact (bind_compiled hst h).provides huse
  · simp [Plan.usesAt] at huse

theorem planned_use_unique {planned : PlannedStep} (hplanned : planned ∈ plan.steps)
    {use other : FunctionUse} (huse : use ∈ planned.uses) (hother : other ∈ planned.uses) :
    other = use := by
  obtain ⟨i, hi⟩ := List.mem_iff_getElem?.mp hplanned
  rw [(Plan.planned_uses hplan hi).1] at huse hother
  exact Plan.uses_at_unique huse hother

theorem of_plan_ok_iff :
    (∃ w, Workflow.ofPlan plan registry = .ok w) ↔
      ∀ use ∈ plan.requiredFunctions, registry.provides use = true := by
  constructor
  · rintro ⟨w, h⟩ use huse
    obtain ⟨planned, hplanned, huse⟩ := Plan.mem_required.mp huse
    obtain ⟨steps, hsteps, _⟩ := except_bind_eq_ok h
    obtain ⟨i, hi⟩ := List.mem_iff_getElem?.mp hplanned
    obtain ⟨step, _, hbind⟩ := mapM_ok_from hsteps hi
    exact bound_provides hplan hplanned hbind huse
  · intro hall
    apply plan_binds hplan
    intro planned hplanned use huse
    exact hall use (Plan.mem_required.mpr ⟨planned, hplanned, huse⟩)

/-- Binding breaks off at the first step with a missing function. -/
theorem of_plan_breaks {e : CompileError} (h : Workflow.ofPlan plan registry = .error e) :
    ∃ before planned after use, plan.steps = before ++ planned :: after ∧
      Lacks registry planned use ∧ e = registry.missing use planned.name ∧
      ∀ earlier ∈ before, ∀ other ∈ earlier.uses, registry.provides other = true := by
  rcases except_bind_eq_error h with hsteps | ⟨_, _, hreturn⟩
  · obtain ⟨i, planned, hi, hbind, hearlier⟩ := mapM_error_at hsteps
    have hplanned : planned ∈ plan.steps := List.mem_of_getElem? hi
    obtain ⟨use, hlacks, he⟩ := bind_lacks hbind fun _ => planned_condition_role hplan hplanned
    obtain ⟨hlt, hget⟩ := List.getElem?_eq_some_iff.mp hi
    refine ⟨plan.steps.take i, planned, plan.steps.drop (i + 1), use, ?_, hlacks, he, ?_⟩
    · rw [← hget, ← List.drop_eq_getElem_cons, List.take_append_drop]
    · intro earlier hmem other hother
      obtain ⟨j, hj⟩ := List.mem_iff_getElem?.mp hmem
      have hji : j < i := by
        have := (List.getElem?_eq_some_iff.mp hj).1
        rw [List.length_take] at this
        omega
      rw [List.getElem?_take_of_lt hji] at hj
      obtain ⟨step, hstep⟩ := hearlier j hji earlier hj
      exact bound_provides hplan (List.mem_of_getElem? hj) hstep hother
  · cases hreturn

theorem find_missing {before after : List PlannedStep} {planned : PlannedStep} {use : FunctionUse}
    (hsteps : plan.steps = before ++ planned :: after) (hlacks : Lacks registry planned use)
    (hearlier : ∀ earlier ∈ before, ∀ other ∈ earlier.uses, registry.provides other = true) :
    plan.requiredFunctions.find? (fun use => !registry.provides use) = some use := by
  have hbefore : (before.flatMap PlannedStep.uses).find? (fun use => !registry.provides use) =
      none := by
    rw [List.find?_eq_none]
    intro other hother
    obtain ⟨earlier, hmem, hother⟩ := List.mem_flatMap.mp hother
    simp [hearlier earlier hmem other hother]
  have hhere : planned.uses.find? (fun use => !registry.provides use) = some use := by
    have hsome : (planned.uses.find? fun use => !registry.provides use).isSome = true :=
      List.find?_isSome.mpr ⟨use, hlacks.1, by simp [hlacks.2]⟩
    obtain ⟨found, hfound⟩ := Option.isSome_iff_exists.mp hsome
    have hplanned : planned ∈ plan.steps := by simp [hsteps]
    rw [hfound, planned_use_unique hplan hplanned hlacks.1 (List.mem_of_find?_eq_some hfound)]
  rw [Plan.requiredFunctions, find_insert_new, List.nil_append, hsteps, List.flatMap_append,
    List.flatMap_cons, List.find?_append, hbefore, List.find?_append, hhere]
  rfl

/-- The function that binding misses is the first one in the list that is missing, and the step it
is missed at is the first one that refers to it. -/
theorem of_plan_blames {use : FunctionUse}
    (h : plan.requiredFunctions.find? (fun use => !registry.provides use) = some use) :
    ∃ planned, plan.steps.find? (fun planned => use ∈ planned.uses) = some planned ∧
      Workflow.ofPlan plan registry = .error (registry.missing use planned.name) := by
  cases hbound : Workflow.ofPlan plan registry with
  | ok w =>
    have hprovides := (of_plan_ok_iff hplan).mp ⟨w, hbound⟩ use (List.mem_of_find?_eq_some h)
    have hmissing := List.find?_some h
    simp [hprovides] at hmissing
  | error e =>
    obtain ⟨before, planned, after, missed, hsteps, hlacks, rfl, hearlier⟩ :=
      of_plan_breaks hplan hbound
    have hfirst := find_missing hplan hsteps hlacks hearlier
    rw [h] at hfirst
    cases hfirst
    refine ⟨planned, ?_, rfl⟩
    rw [List.find?_eq_some_iff_append]
    refine ⟨by simpa using hlacks.1, before, after, hsteps, ?_⟩
    intro earlier hbefore
    by_contra huse
    have hprovides := hearlier earlier hbefore use (by simpa using huse)
    rw [hlacks.2] at hprovides
    cases hprovides

end Plans

/-- A plan can be bound exactly if all functions in its list are registered. If not, the first one
that is missing is blamed on the first step that refers to it. The list has every function of a step
once, and nothing else. -/
theorem binding_blames_first_missing {program : Program} {plan : Plan}
    (hplan : Plan.ofProgram program = .ok plan) (registry : Registry σ) :
    ((∃ w, Workflow.ofPlan plan registry = .ok w) ↔
      ∀ use ∈ plan.requiredFunctions, registry.provides use = true) ∧
    (∀ use, plan.requiredFunctions.find? (fun use => !registry.provides use) = some use →
      ∃ planned e, plan.steps.find? (fun planned => use ∈ planned.uses) = some planned ∧
        Blames registry use planned.name e ∧ Workflow.ofPlan plan registry = .error e) ∧
    plan.requiredFunctions.Nodup ∧
    ∀ use, use ∈ plan.requiredFunctions ↔
      ∃ planned ∈ plan.steps, planned.function = some use ∨ planned.condition = some use := by
  refine ⟨of_plan_ok_iff hplan, ?_, insert_new_nodup List.nodup_nil, ?_⟩
  · intro use h
    obtain ⟨planned, hfirst, herror⟩ := of_plan_blames hplan h
    exact ⟨planned, _, hfirst, registry.missing_blames use planned.name, herror⟩
  · intro use
    simp only [Plan.mem_required, PlannedStep.mem_uses]

def twofoldProgram : Program := .ofStatements
  [.at "load" 1 (.call "load") 0, .at "foreach part" 2 (.loop "part") 1,
    .at "load" 3 (.call "load") 2, .at "wait 1 until done" 4 (.waitUntil 1 "done") 3]

def twofoldRegistry : Registry Unit where
  calls := ⟨[("load", fun x => pure x)]⟩
  fanOuts := ⟨[("load", fun x => pure (x, [.int 1]))]⟩
  iterations := ⟨[("part", fun _ key => pure key)]⟩

theorem twofold_reduce_missing : ∃ plan, Plan.ofProgram twofoldProgram = .ok plan ∧
    plan.requiredFunctions = [⟨"load", .fanOut⟩, ⟨"part", .iteration⟩, ⟨"load", .reduce⟩,
      ⟨"done", .condition⟩] ∧
    Workflow.ofPlan plan twofoldRegistry =
      .error (.signatureMismatch ⟨"load", .reduce⟩ "_func_load_2" .call) := by
  have hplan : Plan.ofProgram twofoldProgram = .ok _ := rfl
  obtain ⟨_, hblames, _⟩ := binding_blames_first_missing hplan twofoldRegistry
  obtain ⟨planned, e, hfirst, hblamed, herror⟩ := hblames ⟨"load", .reduce⟩ (by decide)
  cases hfirst
  refine ⟨_, hplan, by decide, ?_⟩
  rw [herror]
  cases hblamed with
  | unknown nowhere => exact absurd (nowhere .call) (by decide)
  | @mismatch role registered least =>
    have hleast := least .call rfl
    cases role with
    | call => rfl
    | fanOut => exact absurd hleast (by decide)
    | reduce | iteration | condition => cases registered

end Lineflow
