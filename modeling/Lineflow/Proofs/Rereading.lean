import Lineflow.Proofs.NormalForm

/-! # Texts that are read again

The texts of a program's statements, one a line, are a program again. Its statements are the same,
with the same names and the same version, and stand on the lines from the first on: the blank lines
are gone, and no statement's text has a line feed or a carriage return at its end.
-/
namespace Lineflow

/-! ## Trimmed texts on lines of their own -/

namespace Text

theorem trim_trim (cs : List Char) : trim (trim cs) = trim cs := by
  obtain ⟨before, after, hbefore, hafter, hcs⟩ := trim_between cs
  calc
    trim (trim cs) = trim (trim cs ++ after) := (trim_trailing hafter _).symm
    _ = trim (before ++ (trim cs ++ after)) := (trim_leading hbefore _).symm
    _ = trim cs := by rw [← List.append_assoc, ← hcs]

theorem trim_ends_solid {cs : List Char} {c : Char} (h : c ∈ (trim cs).getLast?) :
    isBlank c = false := by
  have hhead := List.head?_dropWhile_not isBlank (cs.dropWhile isBlank).reverse
  rw [trim, List.getLast?_reverse, Option.mem_def] at h
  rw [h] at hhead
  exact hhead

theorem terminated_eq {texts : List (List Char)} (h : texts ≠ []) :
    terminated texts = ['\n'].intercalate texts ++ ['\n'] := by
  induction texts with
  | nil => exact absurd rfl h
  | cons text texts ih =>
    cases texts with
    | nil => simp [terminated]
    | cons next texts =>
      rw [terminated_cons, ih (List.cons_ne_nil _ _), List.intercalate_cons_cons]
      simp

theorem cut_intercalate {texts : List (List Char)} (hne : texts ≠ [])
    (h : ∀ text ∈ texts, '\n' ∉ text) :
    cut (· == '\n') (['\n'].intercalate texts) = texts := by
  have hpieces := cut_terminated h
  rw [terminated_eq hne, cut_separator (by decide)] at hpieces
  exact List.append_cancel_right hpieces

theorem drop_return_trimmed {cs : List Char} (h : trim cs = cs) : dropReturn cs = cs := by
  have hlast : cs.getLast? ≠ some '\r' := by
    intro hreturn
    rw [← h] at hreturn
    exact absurd (trim_ends_solid hreturn) (by decide)
  rw [dropReturn, if_neg hlast]

theorem solid_line_trimmed {cs line : List Char} (h : line ∈ solidLines cs) : trim line = line := by
  obtain ⟨piece, _, rfl⟩ := List.mem_map.mp (List.mem_of_mem_filter h)
  exact trim_trim piece

theorem solid_line_nonempty {cs line : List Char} (h : line ∈ solidLines cs) : line ≠ [] := by
  have hsolid := (List.mem_filter.mp h).2
  rintro rfl
  cases hsolid

/-- Trimmed texts that are not empty are the lines of the text that has a line feed between any two
of them. -/
theorem lines_intercalate {texts : List (List Char)} (hne : texts ≠ [])
    (hfeed : ∀ text ∈ texts, '\n' ∉ text) (htrim : ∀ text ∈ texts, trim text = text)
    (hsolid : ∀ text ∈ texts, text ≠ []) : lines (['\n'].intercalate texts) = texts := by
  obtain ⟨others, last, rfl⟩ := List.eq_nil_or_concat texts |>.resolve_left hne
  rw [List.concat_eq_append] at *
  have hothers : others.map dropReturn = others := by
    calc
      others.map dropReturn = others.map id :=
        List.map_congr_left fun text htext => drop_return_trimmed (htrim text (by simp [htext]))
      _ = others := List.map_id others
  have hlast : last.isEmpty = false := by
    have := hsolid last (by simp)
    simpa using this
  rw [lines_of_cut (cut_intercalate hne hfeed), hothers, hlast]
  rfl

end Text

/-! ## Statements on lines of their own -/

def Statement.numbered (n : Nat) (statements : List Statement) : List Statement :=
  statements.mapIdx fun i statement => { statement with line := i + n }

def Program.renumbered (program : Program) : Program :=
  { program with statements := Statement.numbered 1 program.statements }

theorem numbered_cons (n : Nat) (statement : Statement) (statements : List Statement) :
    Statement.numbered n (statement :: statements) =
      { statement with line := n } :: Statement.numbered (n + 1) statements := by
  simp only [Statement.numbered, List.mapIdx_cons, Nat.zero_add, Nat.add_assoc, Nat.add_comm 1]

theorem numbered_unnumbered (n : Nat) (statements : List Statement) :
    (Statement.numbered n statements).map Statement.unnumbered =
      statements.map Statement.unnumbered := by
  induction statements generalizing n with
  | nil => rfl
  | cons statement statements ih =>
    rw [numbered_cons, List.map_cons, List.map_cons, ih]
    rfl

section Rereading

variable {lines : List (List Char)} {statements : List Statement} {n i : Nat}

/-- What lines have been read into is read from the statements' texts too, on any lines that follow
one another. -/
theorem read_lines_again (h : Program.readLines n i lines = .ok statements) (m : Nat) :
    Program.readLines m i (statements.map (·.text.toList)) =
      .ok (Statement.numbered m statements) := by
  induction lines generalizing n i m statements with
  | nil => cases h; rfl
  | cons line lines ih =>
    by_cases hblank : Blank line
    · rw [read_lines_blank hblank] at h
      exact ih h m
    · cases hkind : Kind.ofText (Text.trim line) with
      | error fault =>
        rw [read_lines_fault hblank hkind] at h
        cases h
      | ok kind =>
        rw [read_lines_line hblank hkind] at h
        cases hrest : Program.readLines (n + 1) (i + 1) lines with
        | error e => rw [hrest] at h; cases h
        | ok rest =>
          rw [hrest] at h
          cases h
          -- The text of the new statement is trimmed, so it is neither blank nor of another kind.
          have htrim := Text.trim_trim line
          have hsolid : ¬ Blank (Text.trim line) := by
            rwa [← trim_is_empty_iff, htrim, trim_is_empty_iff]
          rw [List.map_cons, numbered_cons, Statement.at, String.toList_ofList,
            read_lines_line hsolid (by rw [htrim]; exact hkind), ih hrest (m + 1), htrim]
          rfl

theorem of_lines_again {program : Program} (h : Program.ofLines lines = .ok program) :
    Program.ofLines (program.statements.map (·.text.toList)) = .ok program.renumbered := by
  obtain ⟨statements, hread, hne, rfl⟩ := of_lines_eq_ok.mp h
  refine of_lines_eq_ok.mpr ⟨_, read_lines_again hread 1, ?_, ?_⟩
  · intro hempty
    exact hne (List.mapIdx_eq_nil_iff.mp hempty)
  · have hversion := normal_form_of_unnumbered (numbered_unnumbered 1 statements)
    simp only [Program.renumbered, Program.ofStatements, hversion]

/-- The texts of a program's statements are the lines of the text that they make together. -/
theorem lines_of_texts {source : String} {program : Program}
    (h : Program.parse source = .ok program) :
    Text.lines ("\n".intercalate (program.statements.map (·.text))).toList =
      program.statements.map (·.text.toList) := by
  have htexts := parse_texts h
  have hne : program.statements.map (·.text.toList) ≠ [] := by
    obtain ⟨statements, _, hne, rfl⟩ := of_lines_eq_ok.mp h
    intro hempty
    exact hne (List.map_eq_nil_iff.mp hempty)
  have hjoined : ("\n".intercalate (program.statements.map (·.text))).toList =
      ['\n'].intercalate (program.statements.map (·.text.toList)) := by
    rw [String.toList_intercalate, List.map_map]
    rfl
  rw [hjoined]
  apply Text.lines_intercalate hne
  · rw [htexts]
    exact fun _ => Text.feed_not_mem_solid_line
  · rw [htexts]
    exact fun _ => Text.solid_line_trimmed
  · rw [htexts]
    exact fun _ => Text.solid_line_nonempty

end Rereading

/-- A program is read again from its statements' texts, written on the lines of a text or handed
over as a list of lines, which may have line feeds inside. Only the line numbers change. -/
theorem texts_read_again :
    (∀ source program, Program.parse source = .ok program →
      Program.parse ("\n".intercalate (program.statements.map (·.text))) =
        .ok program.renumbered) ∧
      ∀ lines program, Program.ofLines lines = .ok program →
        Program.ofLines (program.statements.map (·.text.toList)) = .ok program.renumbered := by
  constructor
  · intro source program h
    rw [Program.parse, lines_of_texts h]
    exact of_lines_again h
  · intro lines program h
    exact of_lines_again h

/-- A text with blank lines and line ends of two characters, and a line with a line feed inside, which
would be two lines of a text. -/
theorem gapped_text_read_again :
    ∃ p q, Program.parse "\r\n\n fetch\r\n\nwait  5\n" = .ok p ∧
      Program.parse "fetch\nwait  5" = .ok p.renumbered ∧ p.renumbered ≠ p ∧
      Program.ofLines [[' '], " load\nall ".toList] = .ok q ∧
      Program.ofLines ["load\nall".toList] = .ok q.renumbered ∧ q.renumbered ≠ q := by
  have hparse : Program.parse "\r\n\n fetch\r\n\nwait  5\n" = .ok (.ofStatements
      [.at "fetch" 3 (.call "fetch") 0, .at "wait  5" 5 (.wait 5) 1]) := by rfl
  have hlines : Program.ofLines [[' '], " load\nall ".toList] = .ok (.ofStatements
      [.at "load\nall" 2 (.call "load\nall") 0]) := by rfl
  have hparsed := texts_read_again.1 _ _ hparse
  have hlisted := texts_read_again.2 _ _ hlines
  refine ⟨_, _, hparse, hparsed, ?_, hlines, hlisted, ?_⟩
  · intro heq
    have := congrArg Program.statements heq
    exact absurd this (by decide)
  · intro heq
    have := congrArg Program.statements heq
    exact absurd this (by decide)

end Lineflow
