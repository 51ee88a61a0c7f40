import Lineflow.Plan.Report
import Lineflow.Proofs.Compilation
import Lineflow.Proofs.NumberRanges

/-! # Reports that can be written

A report can always be written as JSON. TOML has no whole numbers from `2 ^ 63` on, so there the
numbers of a report decide: the line numbers and the intervals of `wait N until`. The seconds of a
`wait N` are in its name only.
-/
namespace Lineflow

variable {α β ε : Type}

theorem bind_pure_ok_iff {x : Except ε α} {f : α → β} :
    (∃ b, (x >>= fun a => pure (f a)) = .ok b) ↔ ∃ a, x = .ok a := by
  constructor
  · rintro ⟨b, hb⟩
    obtain ⟨a, ha, _⟩ := except_bind_eq_ok hb
    exact ⟨a, ha⟩
  · rintro ⟨a, rfl⟩
    exact ⟨f a, rfl⟩

theorem mapM_ok_iff {f : α → Except ε β} {xs : List α} :
    (∃ ys, xs.mapM f = .ok ys) ↔ ∀ x ∈ xs, ∃ y, f x = .ok y := by
  constructor
  · rintro ⟨ys, hys⟩ x hx
    obtain ⟨i, hi⟩ := List.mem_iff_getElem?.mp hx
    obtain ⟨y, _, hy⟩ := mapM_ok_from hys hi
    exact ⟨y, hy⟩
  · exact mapM_ok

/-! ## Tables -/

namespace Toml

def Item.Fits : Item → Prop
  | .text _ => True
  | .integer n => n < Word.signedBound

theorem item_written_iff {item : Item} : (∃ text, item.write = .ok text) ↔ item.Fits := by
  cases item with
  | text s => simp [Item.write, Item.Fits]
  | integer n =>
    by_cases hn : n < Word.signedBound
    · simp [Item.write, Item.Fits, hn]
    · simp [Item.write, Item.Fits, hn]

theorem entries_written_iff {entries : List (String × Item)} :
    (∃ text, writeEntries entries = .ok text) ↔ ∀ entry ∈ entries, entry.2.Fits := by
  rw [writeEntries, bind_pure_ok_iff, mapM_ok_iff]
  apply forall₂_congr
  intro entry _
  rw [bind_pure_ok_iff, item_written_iff]

theorem tables_written_iff {name : String} {tables : List (List (String × Item))} :
    (∃ text, writeTables name tables = .ok text) ↔
      ∀ entries ∈ tables, ∀ entry ∈ entries, entry.2.Fits := by
  rw [writeTables, bind_pure_ok_iff, mapM_ok_iff]
  apply forall₂_congr
  intro entries _
  rw [bind_pure_ok_iff, entries_written_iff]

end Toml

/-! ## Reports -/

namespace PlanReport

theorem step_items_fit_iff {step : StepReport} :
    (∀ entry ∈ stepItems step, entry.2.Fits) ↔
      (∀ n ∈ step.retrySeconds, n < Word.signedBound) ∧ ∀ n ∈ step.line, n < Word.signedBound := by
  simp [stepItems, Toml.Item.Fits, or_imp, forall_and]

theorem version_items_fit (version : String) :
    ∀ entry ∈ [("version", Toml.Item.text version)], entry.2.Fits := by
  simp [Toml.Item.Fits]

theorem function_items_fit (use : FunctionUse) : ∀ entry ∈ functionItems use, entry.2.Fits := by
  simp [functionItems, Toml.Item.Fits]

theorem toml_written_iff {report : PlanReport} :
    (∃ text, report.toToml = .ok text) ↔ ∀ step ∈ report.steps,
      (∀ n ∈ step.retrySeconds, n < Word.signedBound) ∧ ∀ n ∈ step.line, n < Word.signedBound := by
  have hsteps : (∃ text, Toml.writeTables "steps" (report.steps.map stepItems) = .ok text) ↔
      ∀ step ∈ report.steps, (∀ n ∈ step.retrySeconds, n < Word.signedBound) ∧
        ∀ n ∈ step.line, n < Word.signedBound := by
    simp only [Toml.tables_written_iff, List.forall_mem_map, step_items_fit_iff]
  rw [← hsteps]
  constructor
  · rintro ⟨text, htext⟩
    obtain ⟨_, _, htext⟩ := except_bind_eq_ok htext
    obtain ⟨steps, hwritten, _⟩ := except_bind_eq_ok htext
    exact ⟨steps, hwritten⟩
  · rintro ⟨steps, hwritten⟩
    obtain ⟨head, hhead⟩ := Toml.entries_written_iff.mpr (version_items_fit report.version)
    obtain ⟨functions, hfunctions⟩ :
        ∃ text, Toml.writeTables "functions" (report.functions.map functionItems) = .ok text := by
      rw [Toml.tables_written_iff, List.forall_mem_map]
      exact fun use _ => function_items_fit use
    rw [toToml, hhead, hwritten, hfunctions]
    exact ⟨_, rfl⟩

end PlanReport

/-! ## Plans -/

theorem retry_seconds_eq_some {step : PlannedStep} {n : Nat} (h : n ∈ step.retrySeconds) :
    ∃ condition, step.kind? = some (.waitUntil n condition) := by
  unfold PlannedStep.retrySeconds at h
  split at h
  · next seconds condition hkind =>
    cases h
    exact ⟨condition, hkind⟩
  · cases h

section Plans

variable {program : Program} {plan : Plan}

theorem step_at_mem_plan (hplan : Plan.ofProgram program = .ok plan) {i : Nat}
    {statement : Statement} (hi : program.statements[i]? = some statement) :
    Plan.stepAt program.statements i statement ∈ plan.steps := by
  have hat : (program.statements.mapIdx (Plan.stepAt program.statements))[i]? =
      some (Plan.stepAt program.statements i statement) := by
    rw [List.getElem?_mapIdx, hi]
    rfl
  rw [(plan_of_program_eq_ok hplan).1]
  exact List.mem_append_left _ (List.mem_of_getElem? hat)

theorem plan_toml_written_iff (hplan : Plan.ofProgram program = .ok plan) :
    (∃ text, (PlanReport.ofPlan plan).toToml = .ok text) ↔ ∀ statement ∈ program.statements,
      statement.line < Word.signedBound ∧
        ∀ n condition, statement.kind = .waitUntil n condition → n < Word.signedBound := by
  rw [PlanReport.toml_written_iff, PlanReport.ofPlan, List.forall_mem_map]
  constructor
  · intro hfits statement hstatement
    obtain ⟨i, hi⟩ := List.mem_iff_getElem?.mp hstatement
    obtain ⟨hretry, hline⟩ := hfits _ (step_at_mem_plan hplan hi)
    refine ⟨hline _ rfl, ?_⟩
    intro n condition hkind
    apply hretry
    simp [PlannedStep.retrySeconds, PlannedStep.kind?, Plan.stepAt, hkind]
  · intro hfits step hstep
    obtain ⟨i, hi⟩ := List.mem_iff_getElem?.mp hstep
    rcases plan_step_at hplan hi with ⟨statement, hstatement, rfl⟩ | ⟨_, rfl⟩
    · obtain ⟨hline, hretry⟩ := hfits statement (List.mem_of_getElem? hstatement)
      constructor
      · intro n hn
        obtain ⟨condition, hkind⟩ := retry_seconds_eq_some hn
        exact hretry n condition (by simpa [PlannedStep.kind?, Plan.stepAt] using hkind)
      · rintro _ ⟨⟩
        exact hline
    · -- The step of completion has neither.
      constructor
      · rintro _ ⟨⟩
      · rintro _ ⟨⟩

end Plans

/-- The report of a text that has a plan can be written as JSON, and as TOML if every interval of a
`wait N until` fits there; else it is refused. A text in memory is not longer than the bound here. -/
theorem report_refused_for_long_intervals {source : String} {program : Program} {plan : Plan}
    (hparse : Program.parse source = .ok program) (hplan : Plan.ofProgram program = .ok plan)
    (hlength : source.length < Word.signedBound) :
    (∃ text, (PlanReport.ofPlan plan).render .json = .ok text) ∧
      ((∀ statement ∈ program.statements, ∀ n condition,
          statement.kind = .waitUntil n condition → n < Word.signedBound) →
        ∃ text, (PlanReport.ofPlan plan).render .toml = .ok text) ∧
      ((∃ statement ∈ program.statements, ∃ n condition,
          statement.kind = .waitUntil n condition ∧ Word.signedBound ≤ n) →
        (PlanReport.ofPlan plan).render .toml = .error {}) := by
  refine ⟨⟨_, rfl⟩, ?_, ?_⟩
  · intro hfits
    refine (plan_toml_written_iff hplan).mpr ?_
    intro statement hstatement
    have hline := parse_line_le hparse hstatement
    exact ⟨by omega, hfits statement hstatement⟩
  · rintro ⟨statement, hstatement, n, condition, hkind, hn⟩
    have hrefused : ¬ ∃ text, (PlanReport.ofPlan plan).toToml = .ok text := by
      intro hwritten
      have hfits := (plan_toml_written_iff hplan).mp hwritten statement hstatement
      have := hfits.2 n condition hkind
      omega
    cases htext : (PlanReport.ofPlan plan).toToml with
    | error e => exact htext
    | ok text => exact absurd ⟨text, htext⟩ hrefused

def longestProgram : Program := .ofStatements [
  .at "poll" 1 (.call "poll") 0,
  .at "wait 9223372036854775807 until up" 2 (.waitUntil 9223372036854775807 "up") 1,
  .at "wait 18446744073709551615" 3 (.wait 18446744073709551615) 2]

def overlongProgram : Program := .ofStatements [
  .at "poll" 1 (.call "poll") 0,
  .at "wait 9223372036854775808 until up" 2 (.waitUntil 9223372036854775808 "up") 1]

theorem longest_intervals_fit {statement : Statement} (h : statement ∈ longestProgram.statements)
    {n : Nat} {condition : String} (hkind : statement.kind = .waitUntil n condition) :
    n < Word.signedBound := by
  simp only [longestProgram, Program.ofStatements, List.mem_cons, List.not_mem_nil, or_false] at h
  rcases h with rfl | rfl | rfl
  · cases hkind
  · cases hkind
    decide
  · cases hkind

theorem overlong_interval_refused :
    Program.parse "poll\nwait 9223372036854775807 until up\nwait 18446744073709551615" =
        .ok longestProgram ∧
      Program.parse "poll\nwait 9223372036854775808 until up" = .ok overlongProgram ∧
      ∃ longest overlong, Plan.ofProgram longestProgram = .ok longest ∧
        (∃ text, (PlanReport.ofPlan longest).render .toml = .ok text) ∧
        Plan.ofProgram overlongProgram = .ok overlong ∧
        (∃ text, (PlanReport.ofPlan overlong).render .json = .ok text) ∧
        (PlanReport.ofPlan overlong).render .toml = .error {} := by
  have hlongest : Program.parse
      "poll\nwait 9223372036854775807 until up\nwait 18446744073709551615" =
      .ok longestProgram := by rfl
  have hoverlong : Program.parse "poll\nwait 9223372036854775808 until up" =
      .ok overlongProgram := by rfl
  have hplan : Plan.ofProgram longestProgram = .ok _ := rfl
  have hplan' : Plan.ofProgram overlongProgram = .ok _ := rfl
  obtain ⟨_, hwritten, _⟩ := report_refused_for_long_intervals hlongest hplan (by decide)
  obtain ⟨hjson, _, hrefused⟩ := report_refused_for_long_intervals hoverlong hplan' (by decide)
  refine ⟨hlongest, hoverlong, _, _, hplan, hwritten ?_, hplan', hjson, hrefused ?_⟩
  · intro statement hstatement n condition
    exact longest_intervals_fit hstatement
  · exact ⟨_, List.mem_cons_of_mem _ List.mem_cons_self, _, _, rfl, by decide⟩

end Lineflow
