import Lineflow.Proofs.Job
import Lineflow.Workflow.Basic

/-! # Invoking a step

What each part of an invocation does with the state and the context: the condition, the keys, the
work and the override in the result.
-/
namespace Lineflow

variable {σ α : Type}

/-! ## Overrides -/

namespace Override

def Plain (v : Json) : Prop := ofResult v = .absent v

theorem absent_plain {v u : Json} (h : ofResult v = .absent u) : Plain v := by
  have hu : u = v := by
    unfold ofResult at h
    split at h
    · split at h
      · cases h; rfl
      · split at h <;> cases h
      · cases h
    · cases h; rfl
  rw [hu] at h
  exact h

theorem layers_jump {v value : Json} {target : String} (h : ofResult v = .jump value target) :
    layers v = layers value + 1 := by
  unfold ofResult at h
  split at h
  · next u members =>
    split at h
    · cases h
    · next t hfind =>
      split at h
      · cases h
      · cases h
        simp [layers, hfind]
    · cases h
  · cases h

end Override

namespace Step

variable {names : List String} {step : Step σ} {ctx : Context} {s s' : σ}

theorem settle_plain {a : Advance} (h : Override.Plain a.result) :
    step.settle names a = .ok (.advance a) := by
  have h' : Override.ofResult a.result = .absent a.result := h
  simp [settle, h']

/-- Settling changes the action and the result of an advance and nothing else. -/
theorem settle_eq_ok {a : Advance} {t : Transition} (h : step.settle names a = .ok t) :
    (Override.Plain a.result ∧ t = .advance a) ∨
      ∃ value target action, Override.ofResult a.result = .jump value target ∧
        Action.resolve? names target = some action ∧
        t = .advance { a with action, result := value } := by
  unfold settle at h
  split at h
  · next u hu => cases h; exact .inl ⟨Override.absent_plain hu, rfl⟩
  · cases h
  · next value target hjump =>
    split at h
    · next action haction => cases h; exact .inr ⟨value, target, action, hjump, haction, rfl⟩
    · cases h

theorem settle_advance {a : Advance} {t : Transition} (h : step.settle names a = .ok t) :
    ∃ action result, t = .advance { a with action, result } := by
  rcases settle_eq_ok h with ⟨_, rfl⟩ | ⟨value, _, action, _, _, rfl⟩
  · exact ⟨a.action, a.result, rfl⟩
  · exact ⟨action, value, rfl⟩

/-- Where settling leads and what fails in it depends on the result alone. -/
theorem settle_congr {a b : Advance} {t : Transition} (h : step.settle names a = .ok t)
    (haction : a.action = b.action) (hresult : a.result = b.result) :
    ∃ action result, t = .advance { a with action, result } ∧
      step.settle names b = .ok (.advance { b with action, result }) := by
  rcases settle_eq_ok h with ⟨hplain, rfl⟩ | ⟨value, target, action, hjump, htarget, rfl⟩
  · refine ⟨a.action, a.result, rfl, ?_⟩
    rw [hresult] at hplain
    rw [settle_plain hplain, haction, hresult]
  · refine ⟨action, value, rfl, ?_⟩
    rw [hresult] at hjump
    simp [settle, hjump, htarget]

/-! ## User functions -/

@[simp] theorem run_on_run (name : String) (job : Job σ Halt α) :
    Job.runOn (step.run name job) s =
      ((Job.runOn job s).1.mapError (step.report name), (Job.runOn job s).2) := rfl

/-! ## Conditions -/

/-- A step looks neither at the action of its context nor at the wait. -/
theorem invoke_congr {ctx' : Context} (hresult : ctx.result = ctx'.result)
    (hkeys : ctx.keys = ctx'.keys) (hvalues : ctx.values = ctx'.values)
    (hkey : ctx.key = ctx'.key) : step.invoke names ctx = step.invoke names ctx' := by
  cases ctx
  cases ctx'
  cases hresult
  cases hkeys
  cases hvalues
  cases hkey
  rfl

theorem invoke_without_poll (h : step.poll = none) :
    step.invoke names ctx = step.proceed names ctx := by
  simp [invoke, h]

theorem invoke_with_poll {poll : Poll σ} (h : step.poll = some poll) :
    Job.runOn (step.invoke names ctx) s =
      match Job.runOn (poll.holds ctx.result) s with
      | (.ok true, s') => Job.runOn (step.proceed names ctx) s'
      | (.ok false, s') => (.ok (.retry poll.seconds), s')
      | (.error e, s') => (.error (step.report poll.name e), s') := by
  simp only [invoke, h, Job.run_on_bind, run_on_run]
  rcases Job.runOn (poll.holds ctx.result) s with ⟨e | b, s'⟩
  · rfl
  · cases b <;> rfl

/-! ## Keys -/

theorem proceed_without_keys (h : step.fanOut = none) :
    step.proceed names ctx = step.perform names ctx ctx.result none := by
  simp [proceed, h]

theorem proceed_with_function {reduce : Action} {name : String} {f : FanOutFunction σ}
    (h : step.fanOut = some ⟨reduce, .function name f⟩) :
    Job.runOn (step.proceed names ctx) s =
      match Job.runOn (f ctx.result) s with
      | (.ok (carrier, []), s') =>
        (step.settle names { action := reduce, result := carrier, values := some [] }, s')
      | (.ok (carrier, key :: keys), s') =>
        Job.runOn (step.perform names ctx carrier (some (key :: keys))) s'
      | (.error e, s') => (.error (step.report name e), s') := by
  simp only [proceed, h, gather, Job.run_on_bind, run_on_run]
  rcases Job.runOn (f ctx.result) s with ⟨e | ⟨carrier, _ | ⟨key, keys⟩⟩, s'⟩
  · rfl
  · simp
  · simp

theorem proceed_with_context {reduce : Action} (h : step.fanOut = some ⟨reduce, .context⟩) :
    Job.runOn (step.proceed names ctx) s =
      match ctx.keys with
      | none => (.error (.violation step.name .noKeysToFanOut), s)
      | some [] =>
        (step.settle names { action := reduce, result := ctx.result, values := some [] }, s)
      | some (key :: keys) =>
        Job.runOn (step.perform names ctx ctx.result (some (key :: keys))) s := by
  simp only [proceed, h, gather, Job.run_on_bind, require]
  rcases ctx.keys with _ | _ | ⟨key, keys⟩ <;> simp

/-! ## Work -/

theorem perform_pass {result : Json} {keys : Option (List Json)} (h : step.work = .pass) :
    Job.runOn (step.perform names ctx result keys) s =
      (step.settle names { action := step.next, wait := step.wait, result, keys }, s) := by
  simp [perform, h]

theorem perform_call {name : String} {f : CallFunction σ} {result : Json}
    {keys : Option (List Json)} (h : step.work = .call name f) :
    Job.runOn (step.perform names ctx result keys) s =
      match Job.runOn (f result) s with
      | (.ok v, s') =>
        (step.settle names { action := step.next, wait := step.wait, result := v, keys }, s')
      | (.error e, s') => (.error (step.report name e), s') := by
  simp only [perform, h, Job.run_on_bind, run_on_run]
  rcases Job.runOn (f result) s with ⟨e | v, s'⟩ <;> simp

theorem perform_reduce {name : String} {f : ReduceFunction σ} {result : Json}
    {keys : Option (List Json)} (h : step.work = .reduce name f) :
    Job.runOn (step.perform names ctx result keys) s =
      match ctx.values with
      | none => (.error (.violation step.name .noValuesToReduce), s)
      | some values =>
        match Job.runOn (f result values) s with
        | (.ok v, s') =>
          (step.settle names { action := step.next, wait := step.wait, result := v, keys }, s')
        | (.error e, s') => (.error (step.report name e), s') := by
  simp only [perform, h, Job.run_on_bind, run_on_run, require]
  rcases ctx.values with _ | values
  · simp
  · simp only [Job.run_on_lift]
    rcases Job.runOn (f result values) s with ⟨e | v, s'⟩ <;> simp

theorem perform_iterate {name : String} {f : IterationFunction σ} {result : Json}
    {keys : Option (List Json)} (h : step.work = .iterate name f) :
    Job.runOn (step.perform names ctx result keys) s =
      match ctx.key with
      | none => (.error (.violation step.name .noIterationKey), s)
      | some key =>
        match Job.runOn (f result key) s with
        | (.ok v, s') =>
          (step.settle names
            { action := step.next, wait := step.wait, result, keys, value := some v }, s')
        | (.error e, s') => (.error (step.report name e), s') := by
  simp only [perform, h, Job.run_on_bind, run_on_run, require]
  rcases ctx.key with _ | key
  · simp
  · simp only [Job.run_on_lift]
    rcases Job.runOn (f result key) s with ⟨e | v, s'⟩ <;> simp

/-! ## Where a step leads -/

inductive Leads (names : List String) (step : Step σ) : Action → Prop where
  | next : Leads names step step.next
  | skip {fanOut : FanOut σ} (feeds : step.fanOut = some fanOut) : Leads names step fanOut.reduce
  | jump {target : String} {action : Action}
      (resolved : Action.resolve? names target = some action) : Leads names step action

theorem settle_leads {a : Advance} {t : Transition} (ha : Leads names step a.action)
    (h : step.settle names a = .ok t) : ∃ b, t = .advance b ∧ Leads names step b.action := by
  rcases settle_eq_ok h with ⟨_, rfl⟩ | ⟨value, target, action, _, htarget, rfl⟩
  · exact ⟨a, rfl, ha⟩
  · exact ⟨_, rfl, .jump htarget⟩

theorem perform_leads {result : Json} {keys : Option (List Json)} {t : Transition}
    (h : Job.runOn (step.perform names ctx result keys) s = (.ok t, s')) :
    ∃ a, t = .advance a ∧ Leads names step a.action := by
  cases hwork : step.work with
  | pass =>
    rw [perform_pass hwork, Prod.mk.injEq] at h
    exact settle_leads .next h.1
  | call name f =>
    rw [perform_call hwork] at h
    split at h
    · exact settle_leads .next (Prod.mk.inj h).1
    · cases h
  | reduce name f =>
    rw [perform_reduce hwork] at h
    split at h
    · cases h
    · split at h
      · exact settle_leads .next (Prod.mk.inj h).1
      · cases h
  | iterate name f =>
    rw [perform_iterate hwork] at h
    split at h
    · cases h
    · split at h
      · exact settle_leads .next (Prod.mk.inj h).1
      · cases h

theorem proceed_leads {t : Transition}
    (h : Job.runOn (step.proceed names ctx) s = (.ok t, s')) :
    ∃ a, t = .advance a ∧ Leads names step a.action := by
  rcases hfan : step.fanOut with _ | ⟨reduce, ⟨name, f⟩ | _⟩
  · rw [proceed_without_keys hfan] at h
    exact perform_leads h
  · rw [proceed_with_function hfan] at h
    split at h
    · exact settle_leads (.skip hfan) (Prod.mk.inj h).1
    · exact perform_leads h
    · cases h
  · rw [proceed_with_context hfan] at h
    split at h
    · cases h
    · exact settle_leads (.skip hfan) (Prod.mk.inj h).1
    · exact perform_leads h

/-- An invocation that ends well asks for a retry after the seconds of the step's condition, or it
advances. -/
theorem invoke_leads {t : Transition} (h : Job.runOn (step.invoke names ctx) s = (.ok t, s')) :
    (∃ poll, step.poll = some poll ∧ t = .retry poll.seconds) ∨
      ∃ a, t = .advance a ∧ Leads names step a.action := by
  cases hpoll : step.poll with
  | none =>
    rw [invoke_without_poll hpoll] at h
    exact .inr (proceed_leads h)
  | some poll =>
    rw [invoke_with_poll hpoll] at h
    split at h
    · exact .inr (proceed_leads h)
    · cases h; exact .inl ⟨poll, rfl, rfl⟩
    · cases h

end Step

end Lineflow
