import Lineflow.Proofs.Compilation
import Lineflow.Proofs.Invocation

/-! # Step names

The name of a step ends in its position, set off by an underscore, whatever the names on its line
are. So the names of a parsed program tell its steps apart.
-/
namespace Lineflow

variable {σ : Type}

/-! ## Names of statements -/

theorem after_last_underscore {a b d e : List Char} (h : a ++ '_' :: d = b ++ '_' :: e)
    (hd : '_' ∉ d) (he : '_' ∉ e) : d = e := by
  -- If the cuts differ, the underscore of the later one stands in what follows the earlier one.
  rcases List.append_eq_append_iff.mp h with ⟨as, _, hcut⟩ | ⟨bs, _, hcut⟩
  · cases as with
    | nil => cases hcut; rfl
    | cons x as =>
      cases hcut
      simp at hd
  · cases bs with
    | nil => cases hcut; rfl
    | cons x bs =>
      cases hcut
      simp at he

theorem step_name_stem (kind : Kind) : ∃ stem, ∀ i, kind.stepName i = stem ++ "_" ++ i.repr := by
  cases kind with
  | call f => exact ⟨"_func_" ++ f, fun _ => rfl⟩
  | wait n => exact ⟨"_wait_" ++ n.repr, fun _ => rfl⟩
  | waitUntil n c => exact ⟨"_wait_" ++ n.repr ++ "_until_" ++ c, fun _ => rfl⟩
  | loop f => exact ⟨"_foreach_" ++ f, fun _ => rfl⟩

theorem step_name_ends (kind : Kind) (i : Nat) :
    ∃ before, (kind.stepName i).toList = before ++ '_' :: Nat.toDigits 10 i := by
  obtain ⟨stem, hstem⟩ := step_name_stem kind
  exact ⟨stem.toList, by simp [hstem i]⟩

/-- The position can be read off a name. -/
theorem step_name_index {kind kind' : Kind} {i j : Nat} (h : kind.stepName i = kind'.stepName j) :
    i = j := by
  obtain ⟨before, hi⟩ := step_name_ends kind i
  obtain ⟨before', hj⟩ := step_name_ends kind' j
  rw [h, hj] at hi
  have hdigits := after_last_underscore hi Nat.underscore_not_in_toDigits
    Nat.underscore_not_in_toDigits
  have hvalue := congrArg (Nat.ofDigitChars 10 · 0) hdigits
  simpa using hvalue.symm

theorem step_name_ne_completed (kind : Kind) (i : Nat) : kind.stepName i ≠ completedName := by
  intro h
  obtain ⟨before, hi⟩ := step_name_ends kind i
  rw [h] at hi
  have hcut : [] ++ '_' :: "completed".toList = before ++ '_' :: Nat.toDigits 10 i := hi
  have hdigits := after_last_underscore hcut (by decide) Nat.underscore_not_in_toDigits
  have hmem : 'c' ∈ Nat.toDigits 10 i := by rw [← hdigits]; decide
  have hdigit := Nat.isDigit_of_mem_toDigits (by decide) (by decide) hmem
  exact absurd hdigit (by decide)

theorem underscore_mem_step_name (kind : Kind) (i : Nat) : '_' ∈ (kind.stepName i).toList := by
  obtain ⟨before, hi⟩ := step_name_ends kind i
  rw [hi]
  simp

/-! ## Parsed statements -/

def Kind.Timed : Kind → Prop
  | .wait seconds => 0 < seconds
  | .waitUntil seconds _ => 0 < seconds
  | _ => True

theorem numeral_value_pos {digits : List Char} (h : isPositiveNumeral digits = true) :
    0 < numeralValue digits := by
  have hgrows : ∀ (cs : List Char) (n : Nat),
      n ≤ cs.foldl (fun n c => n * 10 + (c.toNat - '0'.toNat)) n := by
    intro cs
    induction cs with
    | nil => exact fun n => Nat.le_refl n
    | cons c cs ih =>
      intro n
      have := ih (n * 10 + (c.toNat - '0'.toNat))
      simp only [List.foldl_cons]
      omega
  cases digits with
  | nil => cases h
  | cons c cs =>
    simp only [isPositiveNumeral, Bool.and_eq_true, bne_iff_ne, ne_eq] at h
    have hc : 0 < c.toNat - '0'.toNat := by
      have hdigit := Char.isDigit_iff_toNat.mp h.1.1
      have hzero : c.toNat ≠ '0'.toNat := fun heq => h.1.2 (Char.toNat_inj.mp heq)
      omega
    have := hgrows cs (0 * 10 + (c.toNat - '0'.toNat))
    simp only [numeralValue, List.foldl_cons]
    omega

theorem read_seconds_pos {term : List Char} {n : Nat} (h : readSeconds term = .ok n) : 0 < n := by
  unfold readSeconds at h
  split at h
  · next hterm =>
    split at h
    · cases h; exact numeral_value_pos hterm
    · cases h
  · cases h

theorem of_text_timed {text : List Char} {kind : Kind} (h : Kind.ofText text = .ok kind) :
    kind.Timed := by
  unfold Kind.ofText Kind.ofTerms at h
  split at h
  · cases h; trivial
  · split at h
    · split at h
      · cases h; trivial
      · cases h
    · split at h
      · split at h
        · obtain ⟨n, hn, h⟩ := except_bind_eq_ok h
          cases h
          exact read_seconds_pos hn
        · split at h
          · obtain ⟨n, hn, h⟩ := except_bind_eq_ok h
            cases h
            exact read_seconds_pos hn
          · cases h
        · cases h
      · cases h; trivial

structure Placed (i : Nat) (st : Statement) : Prop where
  name : st.stepName = st.kind.stepName i
  timed : st.kind.Timed

theorem read_lines_placed {line first : Nat} {lines : List (List Char)}
    {statements : List Statement} (h : Program.readLines line first lines = .ok statements)
    {i : Nat} {st : Statement} (hst : statements[i]? = some st) : Placed (first + i) st := by
  induction lines generalizing line first statements i with
  | nil => cases h; simp at hst
  | cons raw lines ih =>
    unfold Program.readLines at h
    dsimp only at h
    split at h
    · exact ih h hst
    · split at h
      · cases h
      · next kind hkind =>
        obtain ⟨rest, hrest, h⟩ := except_bind_eq_ok h
        cases h
        cases i with
        | zero => cases hst; exact ⟨rfl, of_text_timed hkind⟩
        | succ i =>
          have := ih hrest hst
          rwa [Nat.add_right_comm] at this

theorem of_lines_placed {lines : List (List Char)} {program : Program}
    (h : Program.ofLines lines = .ok program) {i : Nat} {st : Statement}
    (hst : program.statements[i]? = some st) : Placed i st := by
  unfold Program.ofLines at h
  split at h
  · cases h
  · cases h
  · next statements _ hread =>
    cases h
    have := read_lines_placed hread hst
    rwa [Nat.zero_add] at this

/-! ## Names of workflows -/

theorem last_index_eq_some {name : String} {names : List String} {i : Nat}
    (h : lastIndex? name names = some i) : names[i]? = some name := by
  induction names generalizing i with
  | nil => cases h
  | cons n names ih =>
    unfold lastIndex? at h
    split at h
    · next j hj => cases h; exact ih hj
    · split at h
      · next heq => cases h; rw [heq]; rfl
      · cases h

theorem last_index_found {name : String} {names : List String} {i : Nat}
    (h : names[i]? = some name) : ∃ j, lastIndex? name names = some j := by
  induction names generalizing i with
  | nil => simp at h
  | cons n names ih =>
    unfold lastIndex?
    split
    · next j _ => exact ⟨j + 1, rfl⟩
    · next hnone =>
      cases i with
      | zero => cases h; exact ⟨0, by simp⟩
      | succ i =>
        obtain ⟨j, hj⟩ := ih h
        rw [hnone] at hj
        cases hj

def Action.Within (steps : Nat) : Action → Prop
  | .finish => True
  | .step i => i < steps

theorem resolve_within {names : List String} {target : String} {action : Action}
    (h : Action.resolve? names target = some action) : action.Within names.length := by
  unfold Action.resolve? at h
  split at h
  · cases h; trivial
  · obtain ⟨i, hi, rfl⟩ := Option.map_eq_some_iff.mp h
    exact (List.getElem?_eq_some_iff.mp (last_index_eq_some hi)).1

/-- A compiled step never leads out of its workflow. -/
theorem Compiled.leads_within {registry : Registry σ} {statements : List Statement} {i : Nat}
    {step : Step σ} {names : List String} {action : Action}
    (h : Compiled registry statements i step) (hnames : names.length = statements.length + 1)
    (hleads : Step.Leads names step action) : action.Within names.length := by
  cases hleads with
  | next =>
    cases h with
    | completed => trivial
    | call hst | reduce hst | fanOut hst | wait hst | waitUntil hst | loop hst =>
      have hlt := (List.getElem?_eq_some_iff.mp hst).1
      show i + 1 < names.length
      omega
  | skip feeds =>
    obtain ⟨entry, hentry, hreduce⟩ := h.feeds_entry feeds
    obtain ⟨_, _, _, htarget⟩ := Plan.entry_before_eq_some hentry
    rw [hreduce, htarget]
    split
    · show i + 2 < names.length
      omega
    · trivial
  | jump resolved => exact resolve_within resolved

/-! ## Names of plans -/

section Names

variable {lines : List (List Char)} {program : Program} {plan : Plan} {registry : Registry σ}
  {w : Workflow σ} {i j : Nat} {name : String}

theorem plan_names (hplan : Plan.ofProgram program = .ok plan) :
    plan.names = program.statements.map (·.stepName) ++ [completedName] := by
  rw [Plan.names, (plan_of_program_eq_ok hplan).1, List.map_append]
  congr 1
  apply List.ext_getElem?
  intro i
  simp only [List.getElem?_map, List.getElem?_mapIdx, Option.map_map]
  rfl

theorem plan_name_at (hplan : Plan.ofProgram program = .ok plan)
    (h : plan.names[i]? = some name) :
    (∃ st, program.statements[i]? = some st ∧ name = st.stepName) ∨
      (i = program.statements.length ∧ name = completedName) := by
  rw [plan_names hplan] at h
  by_cases hi : i < program.statements.length
  · rw [List.getElem?_append_left (by simpa using hi), List.getElem?_map] at h
    obtain ⟨st, hst, rfl⟩ := Option.map_eq_some_iff.mp h
    exact .inl ⟨st, hst, rfl⟩
  · have hlt := (List.getElem?_eq_some_iff.mp h).1
    have hend : i = program.statements.length := by
      simp only [List.length_append, List.length_map, List.length_singleton] at hlt
      omega
    subst hend
    rw [List.getElem?_append_right (by simp)] at h
    exact .inr ⟨rfl, by simpa using h.symm⟩

/-- The steps of a parsed program have different names. -/
theorem names_distinct (hparse : Program.ofLines lines = .ok program)
    (hplan : Plan.ofProgram program = .ok plan) (hi : plan.names[i]? = some name)
    (hj : plan.names[j]? = some name) : i = j := by
  rcases plan_name_at hplan hi with ⟨st, hst, rfl⟩ | ⟨rfl, rfl⟩
  · have hname := (of_lines_placed hparse hst).name
    rcases plan_name_at hplan hj with ⟨st', hst', hsame⟩ | ⟨_, hsame⟩
    · rw [hname, (of_lines_placed hparse hst').name] at hsame
      exact step_name_index hsame
    · rw [hname] at hsame
      exact absurd hsame (step_name_ne_completed _ _)
  · rcases plan_name_at hplan hj with ⟨st', hst', hsame⟩ | ⟨rfl, _⟩
    · rw [(of_lines_placed hparse hst').name] at hsame
      exact absurd hsame.symm (step_name_ne_completed _ _)
    · rfl

theorem underscore_mem_name (hparse : Program.ofLines lines = .ok program)
    (hplan : Plan.ofProgram program = .ok plan) (hi : plan.names[i]? = some name) :
    '_' ∈ name.toList := by
  rcases plan_name_at hplan hi with ⟨st, hst, rfl⟩ | ⟨_, rfl⟩
  · rw [(of_lines_placed hparse hst).name]
    exact underscore_mem_step_name _ _
  · decide

/-- Words without an underscore, as `begin` and `end`, are free for other uses. -/
theorem plain_word_not_name (hparse : Program.ofLines lines = .ok program)
    (hplan : Plan.ofProgram program = .ok plan) (hword : '_' ∉ name.toList) :
    name ∉ plan.names := by
  intro hmem
  obtain ⟨i, hi⟩ := List.mem_iff_getElem?.mp hmem
  exact hword (underscore_mem_name hparse hplan hi)

/-- The name of a step leads back to it. -/
theorem resolve_step_name (hparse : Program.ofLines lines = .ok program)
    (hplan : Plan.ofProgram program = .ok plan) (hi : plan.names[i]? = some name) :
    Action.resolve? plan.names name = some (.step i) := by
  have hend : name ≠ endName := by
    rintro rfl
    exact plain_word_not_name hparse hplan (by decide) (List.mem_of_getElem? hi)
  obtain ⟨j, hj⟩ := last_index_found hi
  obtain rfl := names_distinct hparse hplan hi (last_index_eq_some hj)
  rw [Action.resolve?, if_neg hend, hj]
  rfl

/-! ## Names of workflows -/

theorem bind_name {planned : PlannedStep} {step : Step σ}
    (h : Step.bind registry planned = .ok step) : step.name = planned.name := by
  unfold Step.bind at h
  obtain ⟨poll, _, h⟩ := except_bind_eq_ok h
  obtain ⟨⟨keys, work⟩, _, h⟩ := except_bind_eq_ok h
  cases h
  rfl

theorem of_plan_names (h : Workflow.ofPlan plan registry = .ok w) : w.names = plan.names := by
  unfold Workflow.ofPlan at h
  obtain ⟨steps, hsteps, h⟩ := except_bind_eq_ok h
  cases h
  apply List.ext_getElem?
  intro i
  rw [Workflow.names, Plan.names, List.getElem?_map, List.getElem?_map]
  cases hi : plan.steps[i]? with
  | some planned =>
    obtain ⟨step, hstep, hbind⟩ := mapM_ok_from hsteps hi
    rw [hstep, Option.map_some, Option.map_some, bind_name hbind]
  | none =>
    have hlen := mapM_ok_length hsteps
    have hge := List.getElem?_eq_none_iff.mp hi
    have hnone : steps[i]? = none := List.getElem?_eq_none (by omega)
    rw [hnone]
    rfl

theorem compile_names (hw : Workflow.compile program registry = .ok w) :
    ∃ plan, Plan.ofProgram program = .ok plan ∧ w.names = plan.names := by
  obtain ⟨plan, hplan, h⟩ := except_bind_eq_ok hw
  exact ⟨plan, hplan, of_plan_names h⟩

theorem compile_names_length (hw : Workflow.compile program registry = .ok w) :
    w.names.length = program.statements.length + 1 := by
  rw [Workflow.names, List.length_map, compile_length hw]

theorem name_ne_end (hparse : Program.ofLines lines = .ok program)
    (hw : Workflow.compile program registry = .ok w) (hi : w.names[i]? = some name) :
    name ≠ endName := by
  obtain ⟨plan, hplan, hnames⟩ := compile_names hw
  rintro rfl
  exact plain_word_not_name hparse hplan (by decide) (hnames ▸ List.mem_of_getElem? hi)

theorem name_ne_begin (hparse : Program.ofLines lines = .ok program)
    (hw : Workflow.compile program registry = .ok w) (hi : w.names[i]? = some name) :
    name ≠ beginName := by
  obtain ⟨plan, hplan, hnames⟩ := compile_names hw
  rintro rfl
  exact plain_word_not_name hparse hplan (by decide) (hnames ▸ List.mem_of_getElem? hi)

theorem resolve_name (hparse : Program.ofLines lines = .ok program)
    (hw : Workflow.compile program registry = .ok w) (hi : w.names[i]? = some name) :
    w.resolve? name = some (.step i) := by
  obtain ⟨plan, hplan, hnames⟩ := compile_names hw
  rw [Workflow.resolve?, hnames]
  exact resolve_step_name hparse hplan (hnames ▸ hi)

end Names

/-! ## Addresses -/

theorem name_in_of_resolve {names : List String} {name : String} {action : Action}
    (h : Action.resolve? names name = some action) : action.nameIn names = name := by
  unfold Action.resolve? at h
  split at h
  · next hend => cases h; exact hend.symm
  · obtain ⟨i, hi, rfl⟩ := Option.map_eq_some_iff.mp h
    rw [Action.nameIn, last_index_eq_some hi]
    rfl

/-- Names and actions of a parsed program stand in a one-to-one relation, whatever words the lines
are made of, and a workflow bound to its plan uses this relation. -/
theorem step_names_address_steps {lines : List (List Char)} {program : Program} {plan : Plan}
    (hparse : Program.ofLines lines = .ok program) (hplan : Plan.ofProgram program = .ok plan) :
    plan.names.Nodup ∧ completedName ∈ plan.names ∧ beginName ∉ plan.names ∧
    endName ∉ plan.names ∧
    (∀ action : Action, action.Within plan.steps.length →
      Action.resolve? plan.names (plan.actionName action) = some action) ∧
    (∀ name action, Action.resolve? plan.names name = some action →
      action.Within plan.steps.length ∧ plan.actionName action = name) ∧
    ∀ (registry : Registry σ) (w : Workflow σ), Workflow.ofPlan plan registry = .ok w →
      w.resolve? = Action.resolve? plan.names ∧ w.actionName = plan.actionName := by
  have hlen : plan.names.length = plan.steps.length := List.length_map _
  refine ⟨?_, ?_, plain_word_not_name hparse hplan (by decide),
    plain_word_not_name hparse hplan (by decide), ?_, ?_, ?_⟩
  · refine List.pairwise_iff_getElem.mpr ?_
    intro i j hi hj hlt hsame
    have hi' : plan.names[i]? = some plan.names[j] := by rw [← hsame, List.getElem?_eq_getElem]
    have := names_distinct hparse hplan hi' (List.getElem?_eq_getElem hj)
    omega
  · rw [plan_names hplan]
    simp
  · intro action hin
    cases action with
    | finish => rfl
    | step i =>
      have hi : plan.names[i]? = some (plan.names.get ⟨i, hlen ▸ hin⟩) :=
        List.getElem?_eq_getElem _
      have hname : plan.actionName (.step i) = plan.names.get ⟨i, hlen ▸ hin⟩ := by
        rw [Plan.actionName, Action.nameIn, hi]
        rfl
      rw [hname]
      exact resolve_step_name hparse hplan hi
  · intro name action h
    exact ⟨hlen ▸ resolve_within h, name_in_of_resolve h⟩
  · intro registry w hw
    have hnames := of_plan_names hw
    refine ⟨?_, ?_⟩
    · funext name
      rw [Workflow.resolve?, hnames]
    · funext action
      rw [Workflow.actionName, hnames]
      rfl

def mimicLines : List (List Char) :=
  ["x_1", "foreach x", "_completed", "end", "wait 2 until c_4", "2_until_c", "x_1", "wait 2",
    " begin  0 "].map String.toList

def mimicProgram : Program := .ofStatements
  [.at "x_1" 1 (.call "x_1") 0, .at "foreach x" 2 (.loop "x") 1,
    .at "_completed" 3 (.call "_completed") 2, .at "end" 4 (.call "end") 3,
    .at "wait 2 until c_4" 5 (.waitUntil 2 "c_4") 4, .at "2_until_c" 6 (.call "2_until_c") 5,
    .at "x_1" 7 (.call "x_1") 6, .at "wait 2" 8 (.wait 2) 7,
    .at "begin  0" 9 (.call "begin  0") 8]

theorem mimic_names_address_steps : ∃ plan, Program.ofLines mimicLines = .ok mimicProgram ∧
    Plan.ofProgram mimicProgram = .ok plan ∧
    plan.names = ["_func_x_1_0", "_foreach_x_1", "_func__completed_2", "_func_end_3",
      "_wait_2_until_c_4_4", "_func_2_until_c_5", "_func_x_1_6", "_wait_2_7", "_func_begin  0_8",
      "_completed"] ∧
    plan.names.Nodup ∧ endName ∉ plan.names ∧
    Action.resolve? plan.names "_func_x_1_6" = some (.step 6) := by
  have hparse : Program.ofLines mimicLines = .ok mimicProgram := rfl
  have hplan : Plan.ofProgram mimicProgram = .ok _ := rfl
  obtain ⟨hdistinct, _, _, hend, hback, _⟩ :=
    step_names_address_steps (σ := Unit) hparse hplan
  exact ⟨_, hparse, hplan, rfl, hdistinct, hend, hback (.step 6) (show 6 < 10 by decide)⟩

end Lineflow
