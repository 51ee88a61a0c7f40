import Lineflow.Proofs.HandlerReplies
import Lineflow.Proofs.RecordText

/-! # Workers on the wire

The event for one key of a `foreach` is answered as the worker of that key would answer, with one
key apart: on the wire a null is no key. Nothing is said here of keys that hold numbers with a
fraction or an exponent.
-/
namespace Lineflow

variable {σ : Type}

def Record.forWorker (name : String) (ctx : Context) (key : Json) : Record where
  action := some name
  result := some ctx.result
  keys := ctx.keys
  values := ctx.values
  key := some key

structure Context.Portable (ctx : Context) : Prop where
  result : ctx.result.Portable Record.depthLimit
  keys : ∀ items ∈ ctx.keys, ∀ v ∈ items, v.Portable (Record.depthLimit - 1)
  values : ∀ items ∈ ctx.values, ∀ v ∈ items, v.Portable (Record.depthLimit - 1)

/-- The worker is done before it asks for its key: the next statement is a `foreach` as well, and
there are no keys to hand on to it. -/
def KeylessEnd (statements : List Statement) (i : Nat) (ctx : Context) : Prop :=
  Plan.loopAt statements (i + 1) = true ∧ (ctx.keys = none ∨ ctx.keys = some [])

/-! ## Workers without a key -/

section Keyless

variable {registry : Registry σ} {statements : List Statement} {i : Nat} {step : Step σ}
  {names : List String} {ctx : Context}

/-- A worker takes the keys to hand on from its context, if a `foreach` comes next. -/
theorem Compiled.loop_parts (h : Compiled registry statements i step)
    (hloop : step.isLoop = true) :
    step.poll = none ∧ (∃ name f, step.work = .iterate name f) ∧
      ((Plan.loopAt statements (i + 1) = false ∧ step.fanOut = none) ∨
        Plan.loopAt statements (i + 1) = true ∧
          ∃ reduce, step.fanOut = some ⟨reduce, .context⟩) := by
  obtain ⟨st, name, f, _, _, _, rfl⟩ := h.of_loop hloop
  have hnext := Plan.entry_before_is_some statements i
  refine ⟨rfl, ⟨name, f, rfl⟩, ?_⟩
  cases hentry : Plan.entryBefore statements i with
  | none =>
    rw [hentry] at hnext
    exact Or.inl ⟨hnext.symm, rfl⟩
  | some entry =>
    rw [hentry] at hnext
    exact Or.inr ⟨hnext.symm, entry.reduce, rfl⟩

theorem Compiled.invoke_keyless (h : Compiled registry statements i step)
    (hloop : step.isLoop = true) (hends : ¬ KeylessEnd statements i ctx) (s : σ) :
    Job.runOn (step.invoke names { ctx with key := none }) s =
      (.error (.violation step.name .noIterationKey), s) := by
  obtain ⟨hpoll, ⟨name, f, hwork⟩, ⟨_, hfan⟩ | ⟨hnext, reduce, hfan⟩⟩ := h.loop_parts hloop
  · rw [Step.invoke_without_poll hpoll, Step.proceed_without_keys hfan, Step.perform_iterate hwork]
  · rw [Step.invoke_without_poll hpoll, Step.proceed_with_context hfan]
    rcases hkeys : ctx.keys with _ | _ | ⟨first, others⟩
    · exact absurd ⟨hnext, Or.inl hkeys⟩ hends
    · exact absurd ⟨hnext, Or.inr hkeys⟩ hends
    · simp only [Step.perform_iterate hwork]

/-- A worker that is done before it asks for its key does the same with any key. -/
theorem Compiled.invoke_keyless_end (h : Compiled registry statements i step)
    (hloop : step.isLoop = true) (hends : KeylessEnd statements i ctx) (key : Json) (s : σ) :
    Job.runOn (step.invoke names { ctx with key := none }) s =
      Job.runOn (step.invoke names (ctx.forKey key)) s := by
  obtain ⟨hnext, hkeys⟩ := hends
  obtain ⟨hpoll, _, ⟨halone, _⟩ | ⟨_, reduce, hfan⟩⟩ := h.loop_parts hloop
  · rw [hnext] at halone
    cases halone
  · rw [Step.invoke_without_poll hpoll, Step.invoke_without_poll hpoll,
      Step.proceed_with_context hfan, Step.proceed_with_context hfan]
    rcases hkeys with hkeys | hkeys
    · simp only [Context.forKey, hkeys]
    · simp only [Context.forKey, hkeys]

end Keyless

/-! ## Events for workers -/

section Events

variable {name : String} {ctx : Context} {key : Json}

theorem Record.for_worker_portable (hctx : ctx.Portable) (hkey : key.Portable Record.depthLimit) :
    (Record.forWorker name ctx key).Portable where
  wait := by simp [forWorker]
  result := by
    rintro v ⟨⟩
    exact hctx.result
  keys := hctx.keys
  values := hctx.values
  key := by
    rintro v ⟨⟩
    exact hkey
  value := by simp [forWorker]

/-- A null result is no different from none. -/
theorem Record.drop_null_get (v : Json) : (Record.dropNull (some v)).getD .null = v := by
  cases v <;> rfl

theorem Record.drop_null_some (h : key ≠ .null) : Record.dropNull (some key) = some key := by
  cases key with
  | null => exact absurd rfl h
  | _ => rfl

end Events

namespace Workflow

def answerText (w : Workflow σ) :
    Except RunError Transition × σ → Except HandlerError String × σ
  | (.ok t, s) => (.ok (Record.ofTransition w.names t).encode, s)
  | (.error e, s) => (.error (.run e), s)

section Workers

variable {lines : List (List Char)} {program : Program} {registry : Registry σ} {w : Workflow σ}
  {i : Nat} {step : Step σ} {ctx : Context} {key : Json}

variable (hparse : Program.ofLines lines = .ok program)
  (hw : Workflow.compile program registry = .ok w)

include hparse hw

/-- The text of an event is answered as its step does in the context that the text keeps. -/
theorem handle_text_step (h : w.steps[i]? = some step) {event : Record} (hevent : event.Portable)
    (haction : event.action = some step.name) (s : σ) :
    Job.runOn (w.handleText event.encode) s =
      w.answerText (Job.runOn (w.invoke step (event.settled.toContext (.step i))) s) := by
  have hsettled : event.settled.action = some step.name := haction
  simp only [handleText, hevent.decode_encode, Job.run_on_bind, Job.run_on_adapt,
    handle_step hparse hw h hsettled]
  rcases Job.runOn (w.invoke step (event.settled.toContext (.step i))) s with ⟨e | t, s'⟩
  · rfl
  · rfl

/-- On the wire, the worker of a key has that key unless it is a null. -/
theorem handle_text_worker (h : w.steps[i]? = some step) (hctx : ctx.Portable)
    (hkey : key.Portable Record.depthLimit) (s : σ) :
    Job.runOn (w.handleText (Record.forWorker step.name ctx key).encode) s =
      w.answerText
        (Job.runOn (w.invoke step { ctx with key := Record.dropNull (some key) }) s) := by
  have hevent : (Record.forWorker step.name ctx key).Portable :=
    Record.for_worker_portable hctx hkey
  have hsame : w.invoke step ((Record.forWorker step.name ctx key).settled.toContext (.step i)) =
      w.invoke step { ctx with key := Record.dropNull (some key) } :=
    Step.invoke_congr (Record.drop_null_get ctx.result) rfl rfl rfl
  rw [handle_text_step hparse hw h hevent rfl, hsame]

/-- The worker of a key answers on the wire as in the process of the driver, unless its key is a
null that it would hand to its function: on the wire it fails for want of a key, and its function
does not run. -/
theorem wire_worker_loses_null (h : w.steps[i]? = some step) (hloop : step.isLoop = true)
    (hctx : ctx.Portable) (hkey : key.Portable Record.depthLimit) (s : σ) :
    (key ≠ .null ∨ KeylessEnd program.statements i ctx →
      Job.runOn (w.handleText (Record.forWorker step.name ctx key).encode) s =
        w.answerText (Job.runOn (w.invoke step (ctx.forKey key)) s)) ∧
    (key = .null → ¬ KeylessEnd program.statements i ctx →
      Job.runOn (w.handleText (Record.forWorker step.name ctx key).encode) s =
        (.error (.run (.violation step.name .noIterationKey)), s)) := by
  have hcompiled := compile_compiled hw h
  rw [handle_text_worker hparse hw h hctx hkey]
  constructor
  · intro hkeeps
    -- A worker that never asks for its key does not miss the null.
    by_cases hnull : key = .null
    · have hends := hkeeps.resolve_left (fun hne => hne hnull)
      subst hnull
      exact congrArg w.answerText (hcompiled.invoke_keyless_end hloop hends .null s)
    · rw [Record.drop_null_some hnull]
      rfl
  · rintro rfl hends
    exact congrArg w.answerText (hcompiled.invoke_keyless hloop hends s)

end Workers

def relayContext : Context where
  action := .step 1
  result := .int 1
  keys := some [.null, .int 2]

theorem relay_context_portable : relayContext.Portable where
  result := .int (by decide) (by decide)
  keys := by
    rintro items ⟨⟩ v hv
    rcases List.mem_cons.mp hv with rfl | hv
    · exact .null
    · rw [List.mem_singleton.mp hv]
      exact .int (by decide) (by decide)
  values := by simp [relayContext]

/-- The worker of a null answers with it, but not on the wire. -/
theorem relay_null_lost : ∃ w, Program.ofLines relayLines = .ok relayProgram ∧
    Workflow.compile relayProgram relayRegistry = .ok w ∧
    ∃ step, w.steps[1]? = some step ∧ step.isLoop = true ∧
      Job.runOn (w.handleText (Record.forWorker step.name relayContext (.int 2)).encode) () =
        w.answerText (Job.runOn (w.invoke step (relayContext.forKey (.int 2))) ()) ∧
      Job.runOn (w.invoke step (relayContext.forKey .null)) () =
        (.ok (.advance { action := .step 2, result := .int 1, keys := some [.null, .int 2]
                         value := some .null }), ()) ∧
      Job.runOn (w.handleText (Record.forWorker step.name relayContext .null).encode) () =
        (.error (.run (.violation step.name .noIterationKey)), ()) := by
  have hparse : Program.ofLines relayLines = .ok relayProgram := rfl
  have hw : Workflow.compile relayProgram relayRegistry = .ok _ := rfl
  have hends : ¬ KeylessEnd relayProgram.statements 1 relayContext := by
    rintro ⟨_, hkeys | hkeys⟩
    · cases hkeys
    · cases hkeys
  have htwo : (Json.int 2).Portable Record.depthLimit := .int (by decide) (by decide)
  refine ⟨_, hparse, hw, _, rfl, rfl, ?_, rfl, ?_⟩
  · exact (wire_worker_loses_null (i := 1) hparse hw rfl rfl relay_context_portable htwo ()).1
      (Or.inl (by simp))
  · exact (wire_worker_loses_null (i := 1) hparse hw rfl rfl relay_context_portable .null ()).2 rfl
      hends

end Workflow

end Lineflow
