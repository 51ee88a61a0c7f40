import Lineflow.Proofs.FanOutBatch
import Lineflow.Proofs.Itinerary

/-! # What a transition can be

An invocation asks for a retry, halts, or settles what the step proposes; a batch halts, joins the
values of its workers or fails with one of them. Both are said once, for every step and every state,
so that facts about runs are proved by cases on them.
-/
namespace Lineflow

variable {σ ε α β : Type}

/-! ## Invocations -/

namespace Step

/-- The result and the keys that a step starts its work with. A list of keys may be empty here. -/
inductive Gathers (step : Step σ) (ctx : Context) (s : σ) :
    Json → Option (List Json) → σ → Prop where
  | nothing (single : step.fanOut = none) : Gathers step ctx s ctx.result none s
  | returned {reduce name f carrier keys s'}
      (feeds : step.fanOut = some ⟨reduce, .function name f⟩)
      (ran : Job.runOn (f ctx.result) s = (.ok (carrier, keys), s')) :
      Gathers step ctx s carrier (some keys) s'
  | handed {reduce keys} (feeds : step.fanOut = some ⟨reduce, .context⟩)
      (held : ctx.keys = some keys) : Gathers step ctx s ctx.result (some keys) s

/-- The advance that a step settles. An override in its result has not been followed yet. -/
inductive Proposes (step : Step σ) (ctx : Context) (s : σ) : Advance → σ → Prop where
  | skip {fanOut carrier s'} (feeds : step.fanOut = some fanOut)
      (gathered : Gathers step ctx s carrier (some []) s') :
      Proposes step ctx s { action := fanOut.reduce, result := carrier, values := some [] } s'
  | pass {x keys s'} (work : step.work = .pass) (gathered : Gathers step ctx s x keys s')
      (goes : keys ≠ some []) :
      Proposes step ctx s { action := step.next, wait := step.wait, result := x, keys } s'
  | call {x keys s₁ name f v s'} (work : step.work = .call name f)
      (gathered : Gathers step ctx s x keys s₁) (goes : keys ≠ some [])
      (ran : Job.runOn (f x) s₁ = (.ok v, s')) :
      Proposes step ctx s { action := step.next, wait := step.wait, result := v, keys } s'
  | reduce {x keys s₁ name f values v s'} (work : step.work = .reduce name f)
      (gathered : Gathers step ctx s x keys s₁) (goes : keys ≠ some [])
      (held : ctx.values = some values) (ran : Job.runOn (f x values) s₁ = (.ok v, s')) :
      Proposes step ctx s { action := step.next, wait := step.wait, result := v, keys } s'
  | iterate {x keys s₁ name f key v s'} (work : step.work = .iterate name f)
      (gathered : Gathers step ctx s x keys s₁) (goes : keys ≠ some [])
      (held : ctx.key = some key) (ran : Job.runOn (f x key) s₁ = (.ok v, s')) :
      Proposes step ctx s
        { action := step.next, wait := step.wait, result := x, keys, value := some v } s'

inductive Halts (step : Step σ) (ctx : Context) : RunError → Prop where
  | function (name : String) (halt : Halt) : Halts step ctx (step.report name halt)
  | noKeys (held : ctx.keys = none) : Halts step ctx (.violation step.name .noKeysToFanOut)
  | noValues {name f} (work : step.work = .reduce name f) (held : ctx.values = none) :
      Halts step ctx (.violation step.name .noValuesToReduce)
  | noKey (held : ctx.key = none) : Halts step ctx (.violation step.name .noIterationKey)

inductive Admits (step : Step σ) (ctx : Context) (s : σ) : σ → Prop where
  | always (free : step.poll = none) : Admits step ctx s s
  | holds {poll s'} (polls : step.poll = some poll)
      (ran : Job.runOn (poll.holds ctx.result) s = (.ok true, s')) : Admits step ctx s s'

inductive Invoked (names : List String) (step : Step σ) (ctx : Context) (s : σ)
    (r : Except RunError Transition) (s' : σ) : Prop where
  | retry {poll} (polls : step.poll = some poll)
      (declined : Job.runOn (poll.holds ctx.result) s = (.ok false, s'))
      (ends : r = .ok (.retry poll.seconds)) : Invoked names step ctx s r s'
  | settled {a s₁} (admits : Admits step ctx s s₁) (proposes : Proposes step ctx s₁ a s')
      (ends : step.settle names a = r) : Invoked names step ctx s r s'
  | halted {e} (halts : Halts step ctx e) (ends : r = .error e) : Invoked names step ctx s r s'

section Invocations

variable {names : List String} {step : Step σ} {ctx : Context} {s s₁ : σ}

theorem Admits.state_eq (h : step.Admits ctx s s₁) (hpoll : step.poll = none) : s₁ = s := by
  cases h with
  | always => rfl
  | holds polls => rw [hpoll] at polls; cases polls

theorem Gathers.of_single {x : Json} {keys : Option (List Json)}
    (h : step.Gathers ctx s x keys s₁) (hfan : step.fanOut = none) :
    x = ctx.result ∧ keys = none ∧ s₁ = s := by
  cases h with
  | nothing => exact ⟨rfl, rfl, rfl⟩
  | returned feeds => rw [hfan] at feeds; cases feeds
  | handed feeds => rw [hfan] at feeds; cases feeds

/-- Only a fan-out function changes the result before the work begins. -/
theorem Gathers.of_context {x : Json} {keys : Option (List Json)}
    (h : step.Gathers ctx s x keys s₁)
    (hfan : ∀ fanOut, step.fanOut = some fanOut → fanOut.keys = .context) :
    x = ctx.result ∧ (keys = none ∨ keys = ctx.keys) ∧ s₁ = s := by
  cases h with
  | nothing => exact ⟨rfl, Or.inl rfl, rfl⟩
  | returned feeds => cases hfan _ feeds
  | handed _ held => exact ⟨rfl, Or.inr held.symm, rfl⟩

theorem Gathers.of_function {x : Json} {keys : Option (List Json)} {reduce : Action}
    {name : String} {f : FanOutFunction σ} (h : step.Gathers ctx s x keys s₁)
    (hfan : step.fanOut = some ⟨reduce, .function name f⟩) :
    ∃ ks, keys = some ks ∧ Job.runOn (f ctx.result) s = (.ok (x, ks), s₁) := by
  cases h with
  | nothing single => rw [hfan] at single; cases single
  | returned feeds ran => rw [hfan] at feeds; cases feeds; exact ⟨_, rfl, ran⟩
  | handed feeds => rw [hfan] at feeds; cases feeds

theorem Proposes.keys_ne {a : Advance} (h : step.Proposes ctx s a s₁) : a.keys ≠ some [] := by
  cases h with
  | skip => intro hkeys; cases hkeys
  | pass _ _ goes => exact goes
  | call _ _ goes => exact goes
  | reduce _ _ goes => exact goes
  | iterate _ _ goes => exact goes

theorem Proposes.wait_eq {a : Advance} (h : step.Proposes ctx s a s₁) :
    a.wait = 0 ∨ a.wait = step.wait := by
  cases h with
  | skip => exact Or.inl rfl
  | pass => exact Or.inr rfl
  | call => exact Or.inr rfl
  | reduce => exact Or.inr rfl
  | iterate => exact Or.inr rfl

/-- A step without a function skips on an empty list of keys in the context, or passes the result
on after its wait. -/
theorem Proposes.of_pass {a : Advance} (h : step.Proposes ctx s a s₁) (hwork : step.work = .pass)
    (hfan : ∀ fanOut, step.fanOut = some fanOut → fanOut.keys = .context) :
    s₁ = s ∧
    ((∃ fanOut, step.fanOut = some fanOut ∧ ctx.keys = some [] ∧
        a = { action := fanOut.reduce, result := ctx.result, values := some [] }) ∨
      ∃ keys, a = { action := step.next, wait := step.wait, result := ctx.result, keys }) := by
  cases h with
  | skip feeds gathered =>
    obtain ⟨rfl, hkeys, hstate⟩ := gathered.of_context hfan
    have hempty : ctx.keys = some [] := (hkeys.resolve_left (by simp)).symm
    exact ⟨hstate, Or.inl ⟨_, feeds, hempty, rfl⟩⟩
  | pass _ gathered =>
    obtain ⟨rfl, _, hstate⟩ := gathered.of_context hfan
    exact ⟨hstate, Or.inr ⟨_, rfl⟩⟩
  | call work => rw [hwork] at work; cases work
  | reduce work => rw [hwork] at work; cases work
  | iterate work => rw [hwork] at work; cases work

theorem Proposes.of_call {a : Advance} {name : String} {f : CallFunction σ}
    (h : step.Proposes ctx s a s₁) (hwork : step.work = .call name f) (hfan : step.fanOut = none) :
    Job.runOn (f ctx.result) s = (.ok a.result, s₁) := by
  cases h with
  | call work gathered _ ran =>
    rw [hwork] at work
    cases work
    obtain ⟨rfl, _, rfl⟩ := gathered.of_single hfan
    exact ran
  | skip feeds => rw [hfan] at feeds; cases feeds
  | pass work => rw [hwork] at work; cases work
  | reduce work => rw [hwork] at work; cases work
  | iterate work => rw [hwork] at work; cases work

theorem Proposes.of_reduce {a : Advance} {name : String} {f : ReduceFunction σ}
    (h : step.Proposes ctx s a s₁) (hwork : step.work = .reduce name f)
    (hfan : step.fanOut = none) :
    ∃ values, ctx.values = some values ∧
      Job.runOn (f ctx.result values) s = (.ok a.result, s₁) := by
  cases h with
  | reduce work gathered _ held ran =>
    rw [hwork] at work
    cases work
    obtain ⟨rfl, _, rfl⟩ := gathered.of_single hfan
    exact ⟨_, held, ran⟩
  | skip feeds => rw [hfan] at feeds; cases feeds
  | pass work => rw [hwork] at work; cases work
  | call work => rw [hwork] at work; cases work
  | iterate work => rw [hwork] at work; cases work

theorem Proposes.of_fan_out {a : Advance} {reduce : Action} {name : String} {f : FanOutFunction σ}
    (h : step.Proposes ctx s a s₁) (hwork : step.work = .pass)
    (hfan : step.fanOut = some ⟨reduce, .function name f⟩) :
    ∃ keys, Job.runOn (f ctx.result) s = (.ok (a.result, keys), s₁) := by
  cases h with
  | skip _ gathered =>
    obtain ⟨keys, _, ran⟩ := gathered.of_function hfan
    exact ⟨keys, ran⟩
  | pass _ gathered =>
    obtain ⟨keys, _, ran⟩ := gathered.of_function hfan
    exact ⟨keys, ran⟩
  | call work => rw [hwork] at work; cases work
  | reduce work => rw [hwork] at work; cases work
  | iterate work => rw [hwork] at work; cases work

theorem Invoked.of_ok {t : Transition} {s' : σ} (h : Invoked names step ctx s (.ok t) s') :
    (∃ poll, step.poll = some poll ∧ Job.runOn (poll.holds ctx.result) s = (.ok false, s') ∧
      t = .retry poll.seconds) ∨
    ∃ a s₁, Admits step ctx s s₁ ∧ Proposes step ctx s₁ a s' ∧ step.settle names a = .ok t := by
  cases h with
  | retry polls declined ends => cases ends; exact Or.inl ⟨_, polls, declined, rfl⟩
  | settled admits proposes ends => exact Or.inr ⟨_, _, admits, proposes, ends⟩
  | halted _ ends => cases ends

theorem perform_invoked {x : Json} {keys : Option (List Json)} (hadmits : Admits step ctx s s₁)
    {s₂ : σ} (hgathered : Gathers step ctx s₁ x keys s₂) (hgoes : keys ≠ some []) :
    Invoked names step ctx s (Job.runOn (step.perform names ctx x keys) s₂).1
      (Job.runOn (step.perform names ctx x keys) s₂).2 := by
  cases hwork : step.work with
  | pass =>
    rw [perform_pass hwork]
    exact .settled hadmits (.pass hwork hgathered hgoes) rfl
  | call name f =>
    rw [perform_call hwork]
    rcases hran : Job.runOn (f x) s₂ with ⟨e | v, s'⟩
    · exact .halted (.function name e) rfl
    · exact .settled hadmits (.call hwork hgathered hgoes hran) rfl
  | reduce name f =>
    rw [perform_reduce hwork]
    cases hheld : ctx.values with
    | none => exact .halted (.noValues hwork hheld) rfl
    | some values =>
      dsimp only
      rcases hran : Job.runOn (f x values) s₂ with ⟨e | v, s'⟩
      · exact .halted (.function name e) rfl
      · exact .settled hadmits (.reduce hwork hgathered hgoes hheld hran) rfl
  | iterate name f =>
    rw [perform_iterate hwork]
    cases hheld : ctx.key with
    | none => exact .halted (.noKey hheld) rfl
    | some key =>
      dsimp only
      rcases hran : Job.runOn (f x key) s₂ with ⟨e | v, s'⟩
      · exact .halted (.function name e) rfl
      · exact .settled hadmits (.iterate hwork hgathered hgoes hheld hran) rfl

theorem proceed_invoked (hadmits : Admits step ctx s s₁) :
    Invoked names step ctx s (Job.runOn (step.proceed names ctx) s₁).1
      (Job.runOn (step.proceed names ctx) s₁).2 := by
  rcases hfan : step.fanOut with _ | ⟨reduce, ⟨name, f⟩ | _⟩
  · rw [proceed_without_keys hfan]
    exact perform_invoked hadmits (.nothing hfan) (by simp)
  · rw [proceed_with_function hfan]
    rcases hran : Job.runOn (f ctx.result) s₁ with ⟨e | ⟨carrier, _ | ⟨key, keys⟩⟩, s'⟩
    · exact .halted (.function name e) rfl
    · exact .settled hadmits (.skip hfan (.returned hfan hran)) rfl
    · exact perform_invoked hadmits (.returned hfan hran) (by simp)
  · rw [proceed_with_context hfan]
    rcases hheld : ctx.keys with _ | _ | ⟨key, keys⟩
    · exact .halted (.noKeys hheld) rfl
    · exact .settled hadmits (.skip hfan (.handed hfan hheld)) rfl
    · exact perform_invoked hadmits (.handed hfan hheld) (by simp)

theorem invoke_invoked (names : List String) (step : Step σ) (ctx : Context) (s : σ) :
    Invoked names step ctx s (Job.runOn (step.invoke names ctx) s).1
      (Job.runOn (step.invoke names ctx) s).2 := by
  cases hpoll : step.poll with
  | none =>
    rw [invoke_without_poll hpoll]
    exact proceed_invoked (.always hpoll)
  | some poll =>
    rw [invoke_with_poll hpoll]
    rcases hran : Job.runOn (poll.holds ctx.result) s with ⟨e | _ | _, s'⟩
    · exact .halted (.function poll.name e) rfl
    · exact .retry hpoll hran rfl
    · exact proceed_invoked (.holds hpoll hran)

end Invocations

end Step

/-! ## Candidates -/

/-- The result in which a visit looks for an override: what the step's function returned, or else
what the context holds. -/
inductive Candidate (registry : Registry σ) (statements : List Statement) (stop : Stop σ) :
    Json → Prop where
  | call {st name f v s'} (here : statements[stop.index]? = some st) (kind : st.kind = .call name)
      (role : Plan.callRole statements stop.index = .call)
      (found : registry.calls.find? name = some f)
      (ran : Job.runOn (f stop.context.result) stop.state = (.ok v, s')) :
      Candidate registry statements stop v
  | reduce {st name f values v s'} (here : statements[stop.index]? = some st)
      (kind : st.kind = .call name) (role : Plan.callRole statements stop.index = .reduce)
      (found : registry.reduces.find? name = some f) (held : stop.context.values = some values)
      (ran : Job.runOn (f stop.context.result values) stop.state = (.ok v, s')) :
      Candidate registry statements stop v
  | fanOut {st name f carrier keys s'} (here : statements[stop.index]? = some st)
      (kind : st.kind = .call name) (role : Plan.callRole statements stop.index = .fanOut)
      (found : registry.fanOuts.find? name = some f)
      (ran : Job.runOn (f stop.context.result) stop.state = (.ok (carrier, keys), s')) :
      Candidate registry statements stop carrier
  | held (none : ∀ st, statements[stop.index]? = some st → st.kind.isCall = false) :
      Candidate registry statements stop stop.context.result

section Candidates

variable {registry : Registry σ} {statements : List Statement} {i : Nat} {step : Step σ}
  {ctx : Context} {s s' : σ} {a : Advance}

theorem Step.Proposes.result_of_pass (h : step.Proposes ctx s a s') (hwork : step.work = .pass)
    (hfan : ∀ fanOut, step.fanOut = some fanOut → fanOut.keys = .context) :
    a.result = ctx.result := by
  rcases h.of_pass hwork hfan with ⟨_, ⟨_, _, _, rfl⟩ | ⟨_, rfl⟩⟩
  · rfl
  · rfl

theorem entry_context (entry : Option FanOutEntry) (fanOut : FanOut σ)
    (h : entry.map (fun entry => ⟨entry.reduce, .context⟩) = some fanOut) :
    fanOut.keys = .context := by
  obtain ⟨_, _, rfl⟩ := Option.map_eq_some_iff.mp h
  rfl

/-- A function of a compiled step runs on the result of the context, whatever its role is. -/
theorem Step.Proposes.candidate {s₁ : σ} (h : Compiled registry statements i step)
    (hloop : step.isLoop = false) (hadmits : step.Admits ctx s s₁)
    (hproposes : step.Proposes ctx s₁ a s') :
    Candidate registry statements ⟨i, ctx, s⟩ a.result := by
  cases h with
  | @call _ st name f hst hk hentry hfollows hf =>
    obtain rfl := hadmits.state_eq rfl
    have hrole : Plan.callRole statements i = .call := by simp [Plan.callRole, hentry, hfollows]
    exact .call hst hk hrole hf (hproposes.of_call rfl rfl)
  | @reduce _ st name f hst hk hentry hfollows hf =>
    obtain rfl := hadmits.state_eq rfl
    have hrole : Plan.callRole statements i = .reduce := by simp [Plan.callRole, hentry, hfollows]
    obtain ⟨_, held, ran⟩ := hproposes.of_reduce rfl rfl
    exact .reduce hst hk hrole hf held ran
  | @fanOut _ st name f entry hst hk hentry hf =>
    obtain rfl := hadmits.state_eq rfl
    have hrole : Plan.callRole statements i = .fanOut := by simp [Plan.callRole, hentry]
    obtain ⟨_, ran⟩ := hproposes.of_fan_out rfl rfl
    exact .fanOut hst hk hrole hf ran
  | @wait _ st seconds hst hk =>
    rw [hproposes.result_of_pass rfl (entry_context _)]
    exact .held (by simp [hst, hk, Kind.isCall])
  | @waitUntil _ st seconds name holds hst hk hf =>
    rw [hproposes.result_of_pass rfl (entry_context _)]
    exact .held (by simp [hst, hk, Kind.isCall])
  | loop _ hk => simp [Step.isLoop, hk, Kind.isLoop] at hloop
  | completed =>
    rw [hproposes.result_of_pass rfl (by simp)]
    exact .held (by simp)

end Candidates

/-! ## Batches -/

namespace Batch

inductive Batched (w : Workflow σ) (loop : Step σ) (f : IterationFunction σ) (ctx : Context)
    (s : σ) (r : Except RunError Transition) (s' : σ) : Prop where
  | noKeys (held : ctx.keys = none) (ends : r = .error (.violation loop.name .noBatchKeys)) :
      Batched w loop f ctx s r s'
  | empty (held : ctx.keys = some []) (rests : s' = s) (ends : r = .ok (.advance {
      action := loop.next, result := ctx.result, values := some [] })) : Batched w loop f ctx s r s'
  | oversized (ends : r = .error .poolTooLarge) : Batched w loop f ctx s r s'
  | joined {keys values action result} (held : ctx.keys = some keys)
      (ran : Job.runOn (keys.mapM (f ctx.result)) s = (.ok values, s'))
      (settled : loop.settle w.names { action := loop.next, result := ctx.result } =
        .ok (.advance { action, result }))
      (ends : r = .ok (.advance { action, result := ctx.result, values := some values })) :
      Batched w loop f ctx s r s'
  | halted (name : String) (halt : Halt)
      (ends : r = .error (contain loop.name (loop.report name halt))) : Batched w loop f ctx s r s'
  | refused {e}
      (settled : loop.settle w.names { action := loop.next, result := ctx.result } = .error e)
      (ends : r = .error e) : Batched w loop f ctx s r s'

section Batches

variable {registry : Registry σ} {statements : List Statement} {w : Workflow σ} {i : Nat}
  {loop : Step σ} {ctx : Context} {keys : List Json} {f : IterationFunction σ}

theorem Batched.of_ok {s s' : σ} {t : Transition} (h : Batched w loop f ctx s (.ok t) s') :
    (ctx.keys = some [] ∧ s' = s ∧
      t = .advance { action := loop.next, result := ctx.result, values := some [] }) ∨
    ∃ keys values action result, ctx.keys = some keys ∧
      Job.runOn (keys.mapM (f ctx.result)) s = (.ok values, s') ∧
      loop.settle w.names { action := loop.next, result := ctx.result } =
        .ok (.advance { action, result }) ∧
      t = .advance { action, result := ctx.result, values := some values } := by
  cases h with
  | empty held rests ends => cases ends; exact Or.inl ⟨held, rests, rfl⟩
  | joined held ran settled ends => cases ends; exact Or.inr ⟨_, _, _, _, held, ran, settled, rfl⟩
  | noKeys _ ends => cases ends
  | oversized ends => cases ends
  | halted _ _ ends => cases ends
  | refused _ ends => cases ends

/-- A worker runs the iteration function on its key, and then settles what all workers settle. -/
def Serves (w : Workflow σ) (loop : Step σ) (ctx : Context) (name : String)
    (f : IterationFunction σ) (carried : Option (List Json)) : Prop :=
  ∀ key s, Job.runOn (w.invoke loop (ctx.forKey key)) s =
    match Job.runOn (f ctx.result key) s with
    | (.ok v, s') =>
      (loop.settle w.names
        { action := loop.next, result := ctx.result, keys := carried, value := some v }, s')
    | (.error e, s') => (.error (loop.report name e), s')

theorem settle_error_congr {names : List String} {a b : Advance} {e : RunError}
    (h : loop.settle names a = .error e) (hresult : a.result = b.result) :
    loop.settle names b = .error e ∧ contain loop.name e = e := by
  unfold Step.settle at h ⊢
  rw [hresult] at h
  split at h
  · cases h
  · cases h; exact ⟨rfl, rfl⟩
  · split at h
    · cases h
    · cases h; exact ⟨rfl, rfl⟩

variable {name : String} {carried : Option (List Json)} (hserves : Serves w loop ctx name f carried)

include hserves

theorem worker_cases (key : Json) (s : σ) :
    (∃ halt s', Job.runOn (f ctx.result key) s = (.error halt, s') ∧
      outcomeIn w loop ctx key s = .error (contain loop.name (loop.report name halt))) ∨
    ∃ v s', Job.runOn (f ctx.result key) s = (.ok v, s') ∧
      ((worker w loop ctx key).run s).2 = s' ∧
      ((∃ e, outcomeIn w loop ctx key s = .error e ∧
          loop.settle w.names { action := loop.next, result := ctx.result } = .error e) ∨
        ∃ action result, outcomeIn w loop ctx key s = .ok (v, action) ∧
          loop.settle w.names { action := loop.next, result := ctx.result } =
            .ok (.advance { action, result })) := by
  have hrun := hserves key s
  rcases hf : Job.runOn (f ctx.result key) s with ⟨halt | v, s'⟩
  · rw [hf] at hrun
    refine .inl ⟨halt, s', rfl, outcome_in_error ?_⟩
    rw [answerIn, hrun]
  · rw [hf] at hrun
    refine .inr ⟨v, s', rfl, by rw [worker_run]; exact congrArg Prod.snd hrun, ?_⟩
    dsimp only at hrun
    cases hsettle : loop.settle w.names
        { action := loop.next, result := ctx.result, keys := carried, value := some v } with
    | error e =>
      obtain ⟨hshared, hcontain⟩ := settle_error_congr hsettle (b := {
        action := loop.next, result := ctx.result }) rfl
      have hout : outcomeIn w loop ctx key s = .error (contain loop.name e) := by
        apply outcome_in_error
        rw [answerIn, hrun, hsettle]
      rw [hcontain] at hout
      exact .inl ⟨e, hout, hshared⟩
    | ok t =>
      obtain ⟨action, result, rfl, hshared⟩ := Step.settle_congr hsettle
        (b := { action := loop.next, result := ctx.result }) rfl rfl
      refine .inr ⟨action, result, ?_, hshared⟩
      rw [outcomeIn, worker_run, answerIn, hrun, hsettle]
      rfl

/-- If every worker succeeds, the values are the answers of the iteration function, key by key. -/
theorem outcomes_values (ks : List Json) (s : σ)
    (hok : ∀ outcome ∈ ((outcomes w loop ctx ks).run s).1, ∃ v, outcome = .ok v) :
    Job.runOn (ks.mapM (f ctx.result)) s =
      (.ok ((((outcomes w loop ctx ks).run s).1.map delivered?).filterMap id),
        ((outcomes w loop ctx ks).run s).2) := by
  induction ks generalizing s with
  | nil => rfl
  | cons key ks ih =>
    rw [outcomes_cons] at hok ⊢
    obtain ⟨⟨v, action⟩, hv⟩ := hok _ List.mem_cons_self
    rcases worker_cases hserves key s with ⟨halt, s', _, hout⟩ | ⟨u, s', hran, hstate, hout⟩
    · rw [hout] at hv
      cases hv
    have hfirst : outcomeIn w loop ctx key s = .ok (u, action) := by
      rcases hout with ⟨e, he, _⟩ | ⟨other, _, hother, _⟩
      · rw [he] at hv
        cases hv
      · rw [hother] at hv
        cases hv
        exact hother
    have hrest := ih ((worker w loop ctx key).run s).2
      fun outcome hmem => hok outcome (List.mem_cons_of_mem _ hmem)
    rw [hstate] at hrest ⊢
    rw [List.mapM_cons, Job.run_on_bind, hran]
    dsimp only
    rw [Job.run_on_bind, hrest, hfirst]
    rfl

theorem position_settles {outcomes : List WorkerOutcome} (hp : Possible w loop ctx keys outcomes)
    {action : Action} (hagree : Agree action outcomes) {j : Nat} {v : Json × Action}
    (hj : outcomes[j]? = some (.ok v)) :
    ∃ result, loop.settle w.names { action := loop.next, result := ctx.result } =
      .ok (.advance { action, result }) := by
  obtain ⟨u, other⟩ := v
  obtain rfl := hagree j u other hj
  obtain ⟨key, s, hs⟩ := hp.at_position hj
  rcases worker_cases hserves key s
    with ⟨_, _, _, hout⟩ | ⟨_, _, _, _, ⟨_, hout, _⟩ | ⟨_, result, hout, hsettled⟩⟩
  · rw [hout] at hs; cases hs
  · rw [hout] at hs; cases hs
  · rw [hout] at hs
    cases hs
    exact ⟨result, hsettled⟩

theorem position_fails {outcomes : List WorkerOutcome} (hp : Possible w loop ctx keys outcomes)
    {j : Nat} {e : RunError} (hj : outcomes[j]? = some (.error e)) :
    (∃ halt, e = contain loop.name (loop.report name halt)) ∨
      loop.settle w.names { action := loop.next, result := ctx.result } = .error e := by
  obtain ⟨key, s, hs⟩ := hp.at_position hj
  rcases worker_cases hserves key s
    with ⟨halt, _, _, hout⟩ | ⟨_, _, _, _, ⟨_, hout, hsettled⟩ | ⟨_, _, hout, _⟩⟩
  · rw [hout] at hs
    cases hs
    exact .inl ⟨halt, rfl⟩
  · rw [hout] at hs
    cases hs
    exact .inr hsettled
  · rw [hout] at hs; cases hs

omit hserves in
theorem run_batched (hloop : Compiled registry statements i loop) (h : loop.isLoop = true)
    {name : String} (hwork : loop.work = .iterate name f) (w : Workflow σ) (ctx : Context)
    (pool : Nat) (failFast : Bool) {order : Nat → List Nat}
    (hperm : ∀ workers, (order workers).Perm (List.range workers)) (s : σ) :
    Batched w loop f ctx s (Job.runOn (run w loop ctx pool failFast order) s).1
      (Job.runOn (run w loop ctx pool failFast order) s).2 := by
  cases hkeys : ctx.keys with
  | none =>
    rw [run_no_keys hkeys]
    exact .noKeys hkeys rfl
  | some keys =>
    by_cases hne : keys = []
    · subst hne
      rw [run_empty hkeys]
      exact .empty hkeys rfl rfl
    by_cases hpool : largestPool < pool
    · rw [run_pool_too_large hkeys hne hpool]
      exact .oversized rfl
    rw [run_nonempty hkeys hne (by omega)]
    -- From here on the workers have run; what is left is the join of outcomes that agree.
    obtain ⟨_, _, carried, hwork', _, hserves⟩ := loop_invoke (w := w) hloop h hkeys hne
    rw [hwork] at hwork'
    cases hwork'
    have hp : Possible w loop ctx keys ((outcomes w loop ctx keys).run s).1 :=
      outcomes_possible keys s
    obtain ⟨action, hagree⟩ := hp.agree hloop h hkeys hne
    have hall := hperm keys.length
    rw [← hp.length_eq] at hall ⊢
    rcases join_cases w loop ctx failFast hagree hall (hp.nonempty hne)
      with ⟨hok, hjoin⟩ | ⟨j, e, hj, hjoin⟩
    · rw [hjoin]
      have hran := outcomes_values hserves keys s (by
        intro outcome hmem
        obtain ⟨j, hj⟩ := List.mem_iff_getElem?.mp hmem
        obtain ⟨v, hv⟩ := hok j (List.getElem?_eq_some_iff.mp hj).1
        rw [hv] at hj
        exact ⟨v, (Option.some.inj hj).symm⟩)
      obtain ⟨v, hv⟩ := hok 0 (List.length_pos_iff.mpr (hp.nonempty hne))
      obtain ⟨result, hsettled⟩ := position_settles hserves hp hagree hv
      exact .joined hkeys hran hsettled rfl
    · rw [hjoin]
      rcases position_fails hserves hp hj with ⟨halt, rfl⟩ | hsettled
      · exact .halted name halt rfl
      · exact .refused hsettled rfl

end Batches

end Batch

/-! ## Visits -/

/-- All that the visit at a stop can come to: one invocation, or a batch at a `foreach`. -/
inductive Visited (registry : Registry σ) (statements : List Statement) (w : Workflow σ)
    (stop : Stop σ) (r : Except RunError Transition) (s' : σ) : Prop where
  | invoked {step} (compiled : Compiled registry statements stop.index step)
      (single : step.isLoop = false) (ends : step.Invoked w.names stop.context stop.state r s') :
      Visited registry statements w stop r s'
  | batched {step st name f} (compiled : Compiled registry statements stop.index step)
      (here : statements[stop.index]? = some st) (kind : st.kind = .loop name)
      (found : registry.iterations.find? name = some f) (loop : step.isLoop = true)
      (ends : Batch.Batched w step f stop.context stop.state r s') :
      Visited registry statements w stop r s'

theorem Workflow.Comes.visited {program : Program} {registry : Registry σ} {w : Workflow σ}
    (hw : Workflow.compile program registry = .ok w) {settings : SimulatorSettings} {stop : Stop σ}
    {r : Except RunError Transition} {s' : σ} (h : w.Comes settings stop r s') :
    Visited registry program.statements w stop r s' := by
  obtain ⟨step, order, hstep, hperm, ht⟩ := h
  have hcompiled := compile_compiled hw hstep
  cases hloop : step.isLoop with
  | true =>
    rw [Workflow.transition_batch hloop] at ht
    obtain ⟨st, name, f, hst, hk, hf, hform⟩ := hcompiled.of_loop hloop
    have hwork : step.work = .iterate name f := by rw [hform]
    have hbatched := Batch.run_batched hcompiled hloop hwork w stop.context settings.workerPoolSize
      settings.failFast hperm stop.state
    rw [ht] at hbatched
    exact .batched hcompiled hst hk hf hloop hbatched
  | false =>
    rw [Workflow.transition_step hloop] at ht
    have hinvoked := Step.invoke_invoked w.names step stop.context stop.state
    rw [← Workflow.invoke, ht] at hinvoked
    exact .invoked hcompiled hloop hinvoked

/-- An empty list of keys is acted upon at once and never gets into the context. -/
theorem Workflow.Comes.keys_ne {program : Program} {registry : Registry σ} {w : Workflow σ}
    (hw : Workflow.compile program registry = .ok w) {settings : SimulatorSettings} {stop : Stop σ}
    {t : Transition} {s' : σ} (h : w.Comes settings stop (.ok t) s')
    (hkeys : stop.context.keys ≠ some []) : (stop.context.apply t).keys ≠ some [] := by
  cases h.visited hw with
  | invoked _ _ ends =>
    rcases ends.of_ok with ⟨_, _, _, rfl⟩ | ⟨a, _, _, proposes, settled⟩
    · exact hkeys
    · obtain ⟨action, result, rfl⟩ := Step.settle_advance settled
      show a.keys.or stop.context.keys ≠ some []
      cases hown : a.keys with
      | none => exact hkeys
      | some keys =>
        have hne := proposes.keys_ne
        rw [hown] at hne
        exact hne
  | batched _ _ _ _ _ ends =>
    rcases ends.of_ok with ⟨_, _, rfl⟩ | ⟨_, _, _, _, _, _, _, rfl⟩
    · exact hkeys
    · exact hkeys

/-! ## Pools that are too large -/

def Stop.HasBatch (w : Workflow σ) (stop : Stop σ) : Prop :=
  ∃ loop keys, w.steps[stop.index]? = some loop ∧ loop.isLoop = true ∧
    stop.context.keys = some keys ∧ keys ≠ []

section Oversized

variable {w : Workflow σ} {settings : SimulatorSettings} {schedule : Schedule} {stop : Stop σ}

theorem Stop.HasBatch.breaks (h : stop.HasBatch w)
    (hpool : largestPool < settings.workerPoolSize) (run : Run)
    (hcontext : run.context = stop.context) :
    Job.runOn (w.visit settings schedule run stop.index) stop.state =
      (.error .poolTooLarge, stop.state) := by
  obtain ⟨loop, keys, hstep, hloop, hkeys, hne⟩ := h
  rw [← hcontext] at hkeys
  rw [Workflow.visit_run_on hstep, Workflow.transition_batch hloop,
    Batch.run_pool_too_large hkeys hne hpool]

/-- No worker starts: the functions have done what they did before the `foreach`, and no more. -/
theorem Workflow.simulate_pool_too_large (hpool : largestPool < settings.workerPoolSize)
    {bound : Nat} {initial : Json} {s : σ}
    (hstop : stop ∈ w.itinerary settings schedule bound initial s) (h : stop.HasBatch w) :
    (w.itinerary settings schedule bound initial s).getLast? = some stop ∧
      Job.runOn (w.simulate settings schedule bound initial) s =
        (.error .poolTooLarge, stop.state) :=
  drive_breaks_at hstop (h.breaks hpool)

end Oversized

end Lineflow
