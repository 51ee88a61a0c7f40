import Lineflow.Proofs.Compilation
import Lineflow.Proofs.Invocation
import Lineflow.Simulator.Batch

/-! # Joining a batch

The join of a fan-out batch is a fold over deliveries. What it has gathered depends on which workers
have been heard and not on the order in which they were heard.
-/
namespace Lineflow

namespace Batch

variable {σ : Type}

/-! ## What has been heard -/

def delivered? : WorkerOutcome → Option Json
  | .ok (value, _) => some value
  | .error _ => none

def Agree (action : Action) (outcomes : List WorkerOutcome) : Prop :=
  ∀ (i : Nat) (value : Json) (other : Action),
    outcomes[i]? = some (.ok (value, other)) → other = action

structure Gathered (action : Action) (outcomes : List WorkerOutcome) (heard : List Nat)
    (joined : Joined) : Prop where
  values : ∀ i, joined.values[i]? =
    outcomes[i]?.map fun outcome => if i ∈ heard then delivered? outcome else none
  joint_only : ∀ other, joined.joint = some other → other = action
  joint_heard : ∀ (i : Nat) (value : Json), i ∈ heard →
    outcomes[i]? = some (.ok (value, action)) → joined.joint = some action
  failures : ∀ i e, (i, e) ∈ joined.failures ↔ i ∈ heard ∧ outcomes[i]? = some (.error e)

theorem gathered_start (action : Action) (outcomes : List WorkerOutcome) :
    Gathered action outcomes [] { values := List.replicate outcomes.length none } := by
  constructor
  · intro i
    by_cases hi : i < outcomes.length
    · simp [hi]
    · simp [hi]
  · intro other h; cases h
  · intro i value h; simp at h
  · simp

variable (names : List String) (step : String) (failFast : Bool) {action : Action}
  {outcomes : List WorkerOutcome} {heard : List Nat} {joined : Joined} {i : Nat}

theorem Gathered.failure (h : Gathered action outcomes heard joined) {e : RunError}
    (hi : outcomes[i]? = some (.error e)) :
    Gathered action outcomes (i :: heard)
      { joined with failures := joined.failures ++ [(i, e)] } := by
  constructor
  · intro j
    rw [h.values j]
    by_cases hj : j = i
    · subst j; simp [hi, delivered?]
    · simp [hj]
  · exact h.joint_only
  · intro j value hj hok
    rcases List.mem_cons.mp hj with rfl | hj
    · rw [hi] at hok; cases hok
    · exact h.joint_heard j value hj hok
  · intro j e'
    simp only [List.mem_append, Prod.mk.injEq, List.mem_cons, List.not_mem_nil, or_false,
      h.failures]
    constructor
    · rintro (⟨hj, he⟩ | ⟨rfl, rfl⟩)
      · exact ⟨.inr hj, he⟩
      · exact ⟨.inl rfl, hi⟩
    · rintro ⟨rfl | hj, he⟩
      · rw [hi] at he; cases he; exact .inr ⟨rfl, rfl⟩
      · exact .inl ⟨hj, he⟩

theorem Gathered.value (h : Gathered action outcomes heard joined) {value : Json}
    (hi : outcomes[i]? = some (.ok (value, action))) :
    Gathered action outcomes (i :: heard)
      { joined with values := joined.values.set i (some value), joint := some action } := by
  have hlt : i < joined.values.length := by
    have hv := h.values i
    rw [hi, Option.map_some] at hv
    exact (List.getElem?_eq_some_iff.mp hv).1
  constructor
  · intro j
    by_cases hj : j = i
    · subst j; simp [hlt, hi, delivered?]
    · rw [List.getElem?_set_ne (Ne.symm hj), h.values j]
      simp [hj]
  · intro other h'; cases h'; rfl
  · exact fun _ _ _ _ => rfl
  · intro j e
    rw [h.failures]
    constructor
    · rintro ⟨hj, he⟩; exact ⟨List.mem_cons_of_mem _ hj, he⟩
    · rintro ⟨hj, he⟩
      rcases List.mem_cons.mp hj with rfl | hj
      · rw [hi] at he; cases he
      · exact ⟨hj, he⟩

/-- A delivery that is no reason to stop is gathered. -/
theorem deliver_gathered (agree : Agree action outcomes) (h : Gathered action outcomes heard joined)
    {outcome : WorkerOutcome} (hi : outcomes[i]? = some outcome)
    (hgoes : failFast = false ∨ ∃ v, outcome = .ok v) :
    ∃ joined', deliver names step failFast joined (i, outcome) = .ok joined' ∧
      Gathered action outcomes (i :: heard) joined' := by
  cases outcome with
  | error e =>
    have hslow : failFast = false := by
      rcases hgoes with hslow | ⟨v, hv⟩
      · exact hslow
      · cases hv
    exact ⟨_, by simp [deliver, hslow], h.failure hi⟩
  | ok output =>
    obtain ⟨value, other⟩ := output
    obtain rfl := agree i value other hi
    refine ⟨_, ?_, h.value hi⟩
    cases hjoint : joined.joint with
    | none => simp [deliver, hjoint]
    | some first =>
      obtain rfl := h.joint_only first hjoint
      simp [deliver, hjoint]

def deliveries (order : List Nat) (outcomes : List WorkerOutcome) : List (Nat × WorkerOutcome) :=
  order.filterMap fun index => outcomes[index]?.map (index, ·)

theorem deliveries_cons {outcome : WorkerOutcome} (order : List Nat)
    (hi : outcomes[i]? = some outcome) :
    deliveries (i :: order) outcomes = (i, outcome) :: deliveries order outcomes := by
  simp [deliveries, hi]

/-- Deliveries that are no reason to stop are gathered one after the other. -/
theorem fold_gathered (agree : Agree action outcomes) (order : List Nat)
    (hin : ∀ i ∈ order, ∃ outcome, outcomes[i]? = some outcome ∧
      (failFast = false ∨ ∃ v, outcome = .ok v))
    (h : Gathered action outcomes heard joined) :
    ∃ joined', (deliveries order outcomes).foldlM (deliver names step failFast) joined =
        .ok joined' ∧ Gathered action outcomes (order.reverse ++ heard) joined' := by
  induction order generalizing heard joined with
  | nil => exact ⟨joined, rfl, h⟩
  | cons i order ih =>
    obtain ⟨outcome, hi, hgoes⟩ := hin i (by simp)
    obtain ⟨next, hnext, hgathered⟩ := deliver_gathered names step failFast agree h hi hgoes
    obtain ⟨joined', hfold, hjoined⟩ := ih (fun j hj => hin j (by simp [hj])) hgathered
    refine ⟨joined', ?_, by simpa using hjoined⟩
    rw [deliveries_cons order hi, List.foldlM_cons, hnext]
    exact hfold

/-- The first failure delivered ends a fail-fast batch. -/
theorem fold_first_failure (agree : Agree action outcomes) (before after : List Nat)
    {e : RunError} (hbefore : ∀ j ∈ before, ∃ v, outcomes[j]? = some (.ok v))
    (hi : outcomes[i]? = some (.error e)) (h : Gathered action outcomes heard joined) :
    (deliveries (before ++ i :: after) outcomes).foldlM (deliver names step true) joined =
      .error e := by
  obtain ⟨joined', hfold, _⟩ := fold_gathered names step true agree before (fun j hj => by
      obtain ⟨v, hv⟩ := hbefore j hj
      exact ⟨_, hv, .inr ⟨v, rfl⟩⟩) h
  have hsplit : deliveries (before ++ i :: after) outcomes =
      deliveries before outcomes ++ (i, .error e) :: deliveries after outcomes := by
    simp [deliveries, List.filterMap_append, hi]
  rw [hsplit, List.foldlM_append, hfold]
  rfl

/-! ## The verdict -/

theorem lowest_eq_none {failures : List (Nat × RunError)} (h : lowest? failures = none) :
    failures = [] := by
  cases failures with
  | nil => rfl
  | cons failure failures =>
    simp only [lowest?] at h
    split at h
    · split at h <;> cases h
    · cases h

theorem lowest_eq_some {failures : List (Nat × RunError)} {failure : Nat × RunError}
    (h : lowest? failures = some failure) :
    failure ∈ failures ∧ ∀ other ∈ failures, failure.1 ≤ other.1 := by
  induction failures generalizing failure with
  | nil => cases h
  | cons first rest ih =>
    simp only [lowest?] at h
    split at h
    · next other hother =>
      obtain ⟨hmem, hle⟩ := ih hother
      split at h
      · next hlt =>
        cases h
        refine ⟨List.mem_cons_of_mem _ hmem, ?_⟩
        intro x hx
        rcases List.mem_cons.mp hx with rfl | hx
        · omega
        · exact hle x hx
      · next hge =>
        cases h
        refine ⟨List.mem_cons_self, ?_⟩
        intro x hx
        rcases List.mem_cons.mp hx with rfl | hx
        · omega
        · have := hle x hx; omega
    · next hnone =>
      cases h
      rw [lowest_eq_none hnone]
      simp

section Join

variable (w : Workflow σ) (loop : Step σ) (ctx : Context) {order : List Nat}

theorem join_eq : join w loop ctx failFast order outcomes =
    ((deliveries order outcomes).foldlM (deliver w.names loop.name failFast)
      { values := List.replicate outcomes.length none }) >>= conclude loop ctx := rfl

theorem order_mem_iff (hperm : order.Perm (List.range outcomes.length)) :
    i ∈ order ↔ i < outcomes.length := by
  rw [hperm.mem_iff, List.mem_range]

/-- A join that is not broken off has gathered every outcome. -/
theorem join_gathered (agree : Agree action outcomes)
    (hperm : order.Perm (List.range outcomes.length))
    (hgoes : failFast = false ∨ ∀ i, i < outcomes.length → ∃ v, outcomes[i]? = some (.ok v)) :
    ∃ joined, join w loop ctx failFast order outcomes = conclude loop ctx joined ∧
      joined.values = outcomes.map delivered? ∧
      (∀ (i : Nat) (value : Json), outcomes[i]? = some (.ok (value, action)) →
        joined.joint = some action) ∧
      ∀ i e, (i, e) ∈ joined.failures ↔ outcomes[i]? = some (.error e) := by
  obtain ⟨joined, hfold, h⟩ := fold_gathered w.names loop.name failFast agree order (fun i hi => by
      have hlt := (order_mem_iff hperm).mp hi
      refine ⟨outcomes[i], List.getElem?_eq_getElem hlt, hgoes.imp_right fun hok => ?_⟩
      obtain ⟨v, hv⟩ := hok i hlt
      rw [List.getElem?_eq_getElem hlt] at hv
      exact ⟨v, Option.some.inj hv⟩) (gathered_start action outcomes)
  have hheard : ∀ i outcome, outcomes[i]? = some outcome → i ∈ order.reverse ++ [] := by
    intro i outcome hi
    simpa using (order_mem_iff hperm).mpr (List.getElem?_eq_some_iff.mp hi).1
  refine ⟨joined, by rw [join_eq, hfold]; rfl, ?_, ?_, ?_⟩
  · apply List.ext_getElem?
    intro i
    rw [h.values i, List.getElem?_map]
    cases hi : outcomes[i]? with
    | none => rfl
    | some outcome => simp only [Option.map_some, if_pos (hheard i outcome hi)]
  · intro i value hi
    exact h.joint_heard i value (hheard i _ hi) hi
  · intro i e
    rw [h.failures]
    exact ⟨fun hie => hie.2, fun hie => ⟨hheard i _ hie, hie⟩⟩

theorem all_delivered {outcomes : List WorkerOutcome}
    (hok : ∀ i, i < outcomes.length → ∃ v, outcomes[i]? = some (.ok v)) :
    ((outcomes.map delivered?).filterMap id).length = outcomes.length ∧
      ∀ (i : Nat) (value : Json) (other : Action), outcomes[i]? = some (.ok (value, other)) →
        ((outcomes.map delivered?).filterMap id)[i]? = some value := by
  induction outcomes with
  | nil => simp
  | cons outcome outcomes ih =>
    obtain ⟨⟨v, b⟩, hv⟩ := hok 0 (by simp)
    simp only [List.getElem?_cons_zero, Option.some.injEq] at hv
    subst outcome
    obtain ⟨hlen, hat⟩ := ih (fun i hi => by simpa using hok (i + 1) (by simpa using hi))
    have hcons : (List.map delivered? (.ok (v, b) :: outcomes)).filterMap id =
        v :: (outcomes.map delivered?).filterMap id := rfl
    rw [hcons]
    refine ⟨by rw [List.length_cons, hlen, List.length_cons], ?_⟩
    intro i value other hi
    cases i with
    | zero => cases hi; rfl
    | succ i => exact hat i value other hi

theorem join_all_ok (agree : Agree action outcomes)
    (hperm : order.Perm (List.range outcomes.length)) (hne : outcomes ≠ [])
    (hok : ∀ i, i < outcomes.length → ∃ v, outcomes[i]? = some (.ok v)) :
    join w loop ctx failFast order outcomes =
      .ok (.advance { action, result := ctx.result
                      values := some ((outcomes.map delivered?).filterMap id) }) := by
  obtain ⟨joined, hjoin, hvalues, hjoint, hfail⟩ :=
    join_gathered failFast w loop ctx agree hperm (.inr hok)
  have hnone : lowest? joined.failures = none := by
    cases hl : lowest? joined.failures with
    | none => rfl
    | some failure =>
      have he := (hfail failure.1 failure.2).mp (lowest_eq_some hl).1
      obtain ⟨v, hv⟩ := hok failure.1 (List.getElem?_eq_some_iff.mp he).1
      rw [hv] at he
      cases he
  have hsome : joined.joint = some action := by
    have hpos : 0 < outcomes.length := List.length_pos_iff.mpr hne
    obtain ⟨⟨value, other⟩, hv⟩ := hok 0 hpos
    obtain rfl := agree 0 value other hv
    exact hjoint 0 value hv
  rw [hjoin]
  simp only [conclude, hnone, hvalues, hsome, (all_delivered hok).1, List.length_map, if_true,
    Option.getD_some]

theorem join_lowest_failure (agree : Agree action outcomes)
    (hperm : order.Perm (List.range outcomes.length)) {e : RunError}
    (hi : outcomes[i]? = some (.error e))
    (hlow : ∀ j, j < i → ∃ v, outcomes[j]? = some (.ok v)) :
    join w loop ctx false order outcomes = .error e := by
  obtain ⟨joined, hjoin, _, _, hfail⟩ :=
    join_gathered false w loop ctx agree hperm (.inl rfl)
  rw [hjoin]
  have hmem := (hfail i e).mpr hi
  cases hl : lowest? joined.failures with
  | none => rw [lowest_eq_none hl] at hmem; cases hmem
  | some failure =>
    obtain ⟨j, e'⟩ := failure
    obtain ⟨hj, hle⟩ := lowest_eq_some hl
    have hje := (hfail j e').mp hj
    have hij : j ≤ i := hle (i, e) hmem
    have hji : i ≤ j := by
      apply Nat.le_of_not_lt
      intro hlt
      obtain ⟨v, hv⟩ := hlow j hlt
      rw [hje] at hv
      cases hv
    obtain rfl : i = j := by omega
    rw [hi] at hje
    cases hje
    simp [conclude, hl]

theorem join_first_failure (agree : Agree action outcomes) {before after : List Nat}
    {e : RunError} (horder : order = before ++ i :: after)
    (hbefore : ∀ j ∈ before, ∃ v, outcomes[j]? = some (.ok v))
    (hi : outcomes[i]? = some (.error e)) :
    join w loop ctx true order outcomes = .error e := by
  rw [join_eq, horder, fold_first_failure w.names loop.name agree before after hbefore hi
    (gathered_start action outcomes)]
  rfl

end Join

end Batch

end Lineflow
