import Lineflow.Program.Stored
import Lineflow.Proofs.JsonText
import Lineflow.Proofs.NumberRanges
import Lineflow.Workflow.Basic

/-! # Programs that come back

A stored program is read back as it was, whatever its names, texts and version are, as long as its
numbers have 64 bits. The order of the members does not matter: the readers look them up by name.
-/
namespace Lineflow

/-! ## Members by name -/

namespace Json

theorem find_cons (key k : String) (v : Json) (members : List (String × Json)) :
    find? key ((k, v) :: members) = if key = k then some v else find? key members := by
  rw [find?, List.lookup_cons]
  by_cases hkey : key = k
  · simp [hkey]
  · rw [beq_eq_false_iff_ne.mpr hkey, if_neg hkey, find?]

theorem find_insert (key k : String) (v : Json) (members : List (String × Json)) :
    find? key (insert k v members) = if key = k then some v else find? key members := by
  induction members with
  | nil => exact find_cons key k v []
  | cons member members ih =>
    obtain ⟨k', v'⟩ := member
    rw [insert]
    split
    · rw [find_cons]
    · split
      · next hsame =>
        subst hsame
        rw [find_cons, find_cons]
        by_cases hkey : key = k'
        · rw [if_pos hkey, if_pos hkey]
        · rw [if_neg hkey, if_neg hkey, if_neg hkey]
      · next hother =>
        rw [find_cons, find_cons, ih]
        by_cases hkey : key = k'
        · have hne : key ≠ k := fun heq => hother (hkey.symm.trans heq)
          rw [if_pos hkey, if_neg hne, if_pos hkey]
        · rw [if_neg hkey, if_neg hkey]

def Distinct (members : List (String × Json)) : Prop := members.Pairwise fun a b => a.1 ≠ b.1

theorem find_sort_members {members : List (String × Json)} (h : Distinct members) (key : String) :
    find? key (sortMembers members) = find? key members := by
  have hfold : ∀ before, find? key
      (members.foldl (fun sorted member => insert member.1 member.2 sorted) before) =
        (find? key members).or (find? key before) := by
    induction members with
    | nil => intro before; rfl
    | cons member members ih =>
      obtain ⟨k, v⟩ := member
      obtain ⟨hnew, hrest⟩ := List.pairwise_cons.mp h
      intro before
      rw [List.foldl_cons, ih hrest, find_insert, find_cons]
      by_cases hkey : key = k
      · -- Later members have other names, so this one is the one that is found.
        have hnone : find? key members = none := by
          rw [find?, List.lookup_eq_none_iff]
          intro other hother
          rw [bne_iff_ne, hkey]
          exact hnew other hother
        rw [if_pos hkey, if_pos hkey, hnone]
        rfl
      · rw [if_neg hkey, if_neg hkey]
  rw [sortMembers, hfold]
  exact Option.or_none

theorem distinct_sorted_members {members : List (String × Json)} (h : Distinct members) :
    Distinct (sortedMembers members) := by
  rw [Distinct, sorted_members_eq]
  exact List.pairwise_map.mpr h

theorem find_sorted {members : List (String × Json)} (h : Distinct members) (key : String) :
    find? key (sortMembers (sortedMembers members)) = find? key (sortedMembers members) :=
  find_sort_members (distinct_sorted_members h) key

theorem fields_sorted {members : List (String × Json)} (h : Distinct members)
    (names : List String) :
    fields? names (sorted (.obj members)) = fields? names (.obj (sortedMembers members)) := by
  simp only [sorted, ofMembers, fields?, find_sorted h]

theorem unsigned_of_nat {n : Nat} (h : n < Word.bound) : (ofNat n).unsigned? = some n := by
  have hfits : Word.isUnsigned (n : Int) = true := by
    simp only [Word.isUnsigned, Bool.and_eq_true, decide_eq_true_eq]
    omega
  simp [ofNat, unsigned?, hfits]

theorem of_nat_legible {n : Nat} (h : n < Word.bound) (depth : Nat) :
    (ofNat n).Legible depth := by
  exact .int (by omega) (by omega)

end Json

/-! ## Kinds -/

theorem Kind.of_json_sorted {members : List (String × Json)} (h : Json.Distinct members) :
    Kind.ofJson? (Json.sorted (.obj members)) = Kind.ofJson? (.obj (Json.sortedMembers members)) := by
  have htagged : ∀ tag, Kind.ofTagged? tag (Json.sorted (.obj members)) =
      Kind.ofTagged? tag (.obj (Json.sortedMembers members)) := by
    intro tag
    simp only [Kind.ofTagged?, Json.fields_sorted h]
  rw [Json.sorted, Json.ofMembers] at htagged ⊢
  simp only [Kind.ofJson?, Json.find_sorted h, htagged]

theorem Kind.to_json_legible {kind : Kind} (h : ∀ n ∈ kind.seconds?, n < Word.bound)
    (depth : Nat) : kind.toJson.Legible (depth + 1) := by
  cases kind with
  | call function => exact .obj (by simp [Json.Legible.str])
  | wait seconds =>
    have hseconds := Json.of_nat_legible (h seconds rfl) depth
    exact .obj (by simp [Json.Legible.str, hseconds])
  | waitUntil seconds condition =>
    have hseconds := Json.of_nat_legible (h seconds rfl) depth
    exact .obj (by simp [Json.Legible.str, hseconds])
  | loop function => exact .obj (by simp [Json.Legible.str])

/-- Each kind is known by its tag, wherever the tag stands. -/
theorem Kind.of_json_to_json {kind : Kind} (h : ∀ n ∈ kind.seconds?, n < Word.bound) :
    Kind.ofJson? kind.toJson.sorted = some kind := by
  cases kind with
  | call function =>
    rw [Kind.toJson, Kind.of_json_sorted (by simp [Json.Distinct])]
    rfl
  | wait seconds =>
    have hseconds := Json.unsigned_of_nat (h seconds rfl)
    rw [Kind.toJson, Kind.of_json_sorted (by simp [Json.Distinct])]
    change ((Json.ofNat seconds).unsigned?.bind fun n => some (Kind.wait n)) = _
    rw [hseconds]
    rfl
  | waitUntil seconds condition =>
    have hseconds := Json.unsigned_of_nat (h seconds rfl)
    rw [Kind.toJson, Kind.of_json_sorted (by simp [Json.Distinct])]
    change ((Json.ofNat seconds).unsigned?.bind fun n => some (Kind.waitUntil n condition)) = _
    rw [hseconds]
    rfl
  | loop function =>
    rw [Kind.toJson, Kind.of_json_sorted (by simp [Json.Distinct])]
    rfl

/-! ## Statements and programs -/

structure Statement.Storable (statement : Statement) : Prop where
  line : statement.line < Word.bound
  seconds : ∀ n ∈ statement.kind.seconds?, n < Word.bound

theorem Statement.Storable.to_json_legible {statement : Statement} (h : statement.Storable)
    (depth : Nat) : statement.toJson.Legible (depth + 2) := by
  have hline := Json.of_nat_legible h.line (depth + 1)
  have hkind := Kind.to_json_legible h.seconds depth
  exact .obj (by simp [Json.Legible.str, hline, hkind])

theorem Statement.Storable.of_json_to_json {statement : Statement} (h : statement.Storable) :
    Statement.ofJson? statement.toJson.sorted = some statement := by
  have hline := Json.unsigned_of_nat h.line
  have hkind := Kind.of_json_to_json h.seconds
  have hfields : statement.toJson.sorted.fields? ["raw_text", "line", "kind", "step_name"] =
      some [some (.str statement.text), some (.ofNat statement.line),
        some statement.kind.toJson.sorted, some (.str statement.stepName)] := by
    rw [Statement.toJson, Json.fields_sorted (by simp [Json.Distinct])]
    simp [Json.fields?, Json.sortedMembers, Json.find_cons, Json.sorted, Json.ofNat]
  rw [Statement.ofJson?, hfields]
  simp only [Json.string?, hline, hkind]
  rfl

def Program.Storable (program : Program) : Prop :=
  ∀ statement ∈ program.statements, statement.Storable

theorem Program.Storable.to_json_legible {program : Program} (h : program.Storable)
    (depth : Nat) : program.toJson.Legible (depth + 4) := by
  have hstatements : (Json.arr (program.statements.map Statement.toJson)).Legible (depth + 3) := by
    refine .arr ?_
    intro v hv
    obtain ⟨statement, hstatement, rfl⟩ := List.mem_map.mp hv
    exact (h statement hstatement).to_json_legible depth
  exact .obj (by simp [Json.Legible.str, hstatements])

theorem Program.Storable.parse_compact {program : Program} (h : program.Storable) :
    Json.parse program.toJson.compact = .ok program.toJson.sorted := by
  -- A program opens four containers inside one another.
  have hlegible : program.toJson.Legible (123 + 4) := h.to_json_legible 123
  exact hlegible.parse_compact

theorem statements_of_json {statements : List Statement}
    (h : ∀ statement ∈ statements, statement.Storable) :
    ((statements.map Statement.toJson).map Json.sorted).mapM Statement.ofJson? =
      some statements := by
  induction statements with
  | nil => rfl
  | cons statement statements ih =>
    have hfirst := (h statement List.mem_cons_self).of_json_to_json
    have hrest := ih fun other hother => h other (List.mem_cons_of_mem _ hother)
    rw [List.map_cons, List.map_cons, List.mapM_cons, hfirst, hrest]
    rfl

theorem Program.Storable.of_json_to_json {program : Program} (h : program.Storable) :
    Program.ofJson? program.toJson.sorted = some program := by
  have hstatements := statements_of_json h
  have hfields : program.toJson.sorted.fields? ["statements", "version"] =
      some [some (.arr ((program.statements.map Statement.toJson).map Json.sorted)),
        some (.str program.version)] := by
    rw [Program.toJson, Json.fields_sorted (by simp [Json.Distinct])]
    simp [Json.fields?, Json.sortedMembers, Json.find_cons, Json.sorted, Json.sorted_items_eq]
  rw [Program.ofJson?, hfields]
  simp only [Json.items?, Json.string?, Option.bind_eq_bind, Option.bind_some, hstatements]
  rfl

theorem parse_storable {source : String} {program : Program}
    (h : Program.parse source = .ok program) (hlength : source.length < Word.bound) :
    program.Storable := by
  intro statement hstatement
  have hline := parse_line_le h hstatement
  exact ⟨by omega, fun _ => parse_seconds_lt h hstatement⟩

/-- A program is read back from its text as it was. So a parsed program and its stored form have the
same plan, need the same functions and bind to the same workflow. -/
theorem stored_program_read_back :
    (∀ program : Program, program.Storable →
      Json.parse program.toJson.compact = .ok program.toJson.sorted ∧
        Program.ofJson? program.toJson.sorted = some program) ∧
      ∀ source program, Program.parse source = .ok program → source.length < Word.bound →
        ∃ stored restored, Json.parse program.toJson.compact = .ok stored ∧
          Program.ofJson? stored = some restored ∧ restored.version = program.version ∧
          Plan.ofProgram restored = Plan.ofProgram program ∧
          (Plan.ofProgram restored).map Plan.requiredFunctions =
            (Plan.ofProgram program).map Plan.requiredFunctions ∧
          ∀ (σ : Type) (registry : Registry σ),
            Workflow.compile restored registry = Workflow.compile program registry := by
  constructor
  · intro program hstorable
    exact ⟨hstorable.parse_compact, hstorable.of_json_to_json⟩
  · intro source program hparse hlength
    have hstorable := parse_storable hparse hlength
    exact ⟨_, program, hstorable.parse_compact, hstorable.of_json_to_json, rfl, rfl, rfl,
      fun _ _ => rfl⟩

def oddProgram : Program where
  statements := [
    { text := "\u2028", line := 0, kind := .call "\"\\", stepName := "" },
    { text := "", line := 18446744073709551615, kind := .loop "\n", stepName := "end" },
    { text := "wait", line := 7, kind := .wait 0, stepName := "end" },
    { text := "t", line := 7, kind := .waitUntil 18446744073709551615 "\x00", stepName := "t" }]
  version := ""

theorem odd_program_storable : oddProgram.Storable := by
  intro statement hstatement
  simp only [oddProgram, List.mem_cons, List.not_mem_nil, or_false] at hstatement
  rcases hstatement with rfl | rfl | rfl | rfl
  · exact ⟨by decide, by simp [Kind.seconds?]⟩
  · exact ⟨by decide, by simp [Kind.seconds?]⟩
  · exact ⟨by decide, by simp [Kind.seconds?, Word.bound]⟩
  · exact ⟨by decide, by simp [Kind.seconds?, Word.bound]⟩

theorem odd_program_read_back :
    (∃ stored, Json.parse oddProgram.toJson.compact = .ok stored ∧
      Program.ofJson? stored = some oddProgram) ∧
      ∃ program, Program.parse "fetch\nwait 5" = .ok program ∧
        ∃ stored restored, Json.parse program.toJson.compact = .ok stored ∧
          Program.ofJson? stored = some restored ∧
          Plan.ofProgram restored = Plan.ofProgram program := by
  have hparse : Program.parse "fetch\nwait 5" = .ok (.ofStatements
      [.at "fetch" 1 (.call "fetch") 0, .at "wait 5" 2 (.wait 5) 1]) := by rfl
  obtain ⟨stored, restored, htext, hprogram, _, hplan, _⟩ :=
    stored_program_read_back.2 _ _ hparse (by decide)
  exact ⟨⟨_, stored_program_read_back.1 oddProgram odd_program_storable⟩, _, hparse, stored,
    restored, htext, hprogram, hplan⟩

end Lineflow
