import Lineflow.Program.Basic
import Lineflow.Proofs.LineTokens

/-! # The line grammar

Which lines are statements, and which statement each line is, said of its tokens alone. A text is
read exactly if it has a line that is not blank and no line is malformed; else the first malformed
line is blamed. What is wrong with that line is left open here.
-/
namespace Lineflow

/-! ## Seconds -/

def Numeral (term : List Char) : Prop :=
  ∃ c cs, term = c :: cs ∧ ('1' ≤ c ∧ c ≤ '9') ∧ ∀ d ∈ cs, '0' ≤ d ∧ d ≤ '9'

structure Seconds (term : List Char) (n : Nat) : Prop where
  numeral : Numeral term
  value : n = Nat.ofDigitChars 10 term 0
  fits : n < Word.bound

theorem is_digit_iff {c : Char} : c.isDigit = true ↔ '0' ≤ c ∧ c ≤ '9' := by
  simp [Char.isDigit, Char.le_def]

theorem is_nonzero_digit_iff {c : Char} :
    (c.isDigit && c != '0') = true ↔ '1' ≤ c ∧ c ≤ '9' := by
  rw [Bool.and_eq_true, is_digit_iff, bne_iff_ne, ne_eq, ← Char.toNat_inj]
  simp only [Char.le_def, UInt32.le_iff_toNat_le]
  change ((48 ≤ c.toNat ∧ c.toNat ≤ 57) ∧ ¬ c.toNat = 48) ↔ 49 ≤ c.toNat ∧ c.toNat ≤ 57
  omega

theorem numeral_iff {term : List Char} : isPositiveNumeral term = true ↔ Numeral term := by
  cases term with
  | nil => simp [isPositiveNumeral, Numeral]
  | cons c cs =>
    rw [isPositiveNumeral, Bool.and_eq_true, is_nonzero_digit_iff, List.all_eq_true]
    constructor
    · rintro ⟨hc, hcs⟩
      exact ⟨c, cs, rfl, hc, fun d hd => is_digit_iff.mp (hcs d hd)⟩
    · rintro ⟨_, _, ⟨⟩, hc, hcs⟩
      exact ⟨hc, fun d hd => is_digit_iff.mpr (hcs d hd)⟩

theorem numeral_value_eq (digits : List Char) :
    numeralValue digits = Nat.ofDigitChars 10 digits 0 := by
  rw [numeralValue, Nat.ofDigitChars_eq_foldl]
  congr 1
  funext n c
  rw [Nat.mul_comm]

theorem Seconds.read {term : List Char} {n : Nat} (h : Seconds term n) :
    readSeconds term = .ok n := by
  have hvalue : numeralValue term = n := by rw [numeral_value_eq, h.value]
  rw [readSeconds, if_pos (numeral_iff.mpr h.numeral), hvalue, if_pos h.fits]

theorem read_seconds_refused {term : List Char} (h : ∀ n, ¬ Seconds term n) :
    ∃ fault, readSeconds term = .error fault := by
  cases hread : readSeconds term with
  | error fault => exact ⟨fault, rfl⟩
  | ok n =>
    unfold readSeconds at hread
    split at hread
    · next hnumeral =>
      split at hread
      · next hfits =>
        cases hread
        exact absurd ⟨numeral_iff.mp hnumeral, numeral_value_eq term, hfits⟩ (h _)
      · cases hread
    · cases hread

/-! ## Lines -/

inductive LineKind (line : List Char) : Kind → Prop where
  | loop {function} (tokens : Tokens line ["foreach".toList, function]) :
      LineKind line (.loop (String.ofList function))
  | wait {term n} (tokens : Tokens line ["wait".toList, term]) (seconds : Seconds term n) :
      LineKind line (.wait n)
  | waitUntil {term n condition}
      (tokens : Tokens line ["wait".toList, term, "until".toList, condition])
      (seconds : Seconds term n) : LineKind line (.waitUntil n (String.ofList condition))
  | call {first arguments} (tokens : Tokens line (first :: arguments))
      (noLoop : first ≠ "foreach".toList) (noWait : first ≠ "wait".toList) :
      LineKind line (.call (String.ofList (Text.trim line)))

/-- A keyword without the arguments that it takes. -/
def Malformed (line : List Char) : Prop :=
  ∃ first arguments, Tokens line (first :: arguments) ∧
    (first = "foreach".toList ∧ arguments.length ≠ 1 ∨
      first = "wait".toList ∧ (∀ term n, arguments = [term] → ¬ Seconds term n) ∧
        ∀ term condition n, arguments = [term, "until".toList, condition] → ¬ Seconds term n)

section Lines

variable {line : List Char} {kind : Kind}

theorem Malformed.nonblank (h : Malformed line) : ¬ Blank line := by
  obtain ⟨_, _, htokens, _⟩ := h
  exact htokens.nonblank

theorem of_text_eq {tokens : List (List Char)} (h : Tokens line tokens) :
    Kind.ofText (Text.trim line) = Kind.ofTerms (Text.trim line) tokens := by
  rw [Kind.ofText, (trim_tokens_iff.mpr h).terms_eq]

theorem LineKind.of_text (h : LineKind line kind) : Kind.ofText (Text.trim line) = .ok kind := by
  cases h with
  | loop tokens => rw [of_text_eq tokens]; rfl
  | wait tokens seconds =>
    rw [of_text_eq tokens]
    simp only [Kind.ofTerms, seconds.read]
    rfl
  | waitUntil tokens seconds =>
    rw [of_text_eq tokens]
    simp only [Kind.ofTerms, seconds.read]
    rfl
  | call tokens noLoop noWait =>
    rw [of_text_eq tokens]
    simp only [Kind.ofTerms, if_neg noLoop, if_neg noWait]

theorem Malformed.of_text (h : Malformed line) :
    ∃ fault, Kind.ofText (Text.trim line) = .error fault := by
  obtain ⟨first, arguments, htokens, ⟨rfl, hlength⟩ | ⟨rfl, hwait, huntil⟩⟩ := h
  · rw [of_text_eq htokens]
    refine ⟨.loopArguments, ?_⟩
    match arguments, hlength with
    | [], _ => rfl
    | _ :: _ :: _, _ => rfl
  · rw [of_text_eq htokens]
    match arguments with
    | [] => exact ⟨.waitArguments, rfl⟩
    | [term] =>
      obtain ⟨fault, hfault⟩ := read_seconds_refused fun n => hwait term n rfl
      exact ⟨fault, by simp only [Kind.ofTerms, hfault]; rfl⟩
    | [_, _] => exact ⟨.waitArguments, rfl⟩
    | [term, between, condition] =>
      by_cases hbetween : between = "until".toList
      · subst hbetween
        obtain ⟨fault, hfault⟩ := read_seconds_refused fun n => huntil term condition n rfl
        exact ⟨fault, by simp only [Kind.ofTerms, hfault]; rfl⟩
      · refine ⟨.waitArguments, ?_⟩
        simp only [Kind.ofTerms, if_neg hbetween]
        rfl
    | _ :: _ :: _ :: _ :: _ => exact ⟨.waitArguments, rfl⟩

theorem not_malformed_of_text (h : Kind.ofText (Text.trim line) = .ok kind) : ¬ Malformed line := by
  intro hmalformed
  obtain ⟨fault, hfault⟩ := hmalformed.of_text
  rw [h] at hfault
  cases hfault

/-- A line that is not blank is one of the two. -/
theorem malformed_or_kind (h : ¬ Blank line) : Malformed line ∨ ∃ kind, LineKind line kind := by
  obtain ⟨tokens, htokens⟩ := Tokens.exists_tokens line
  cases tokens with
  | nil =>
    cases htokens with
    | none blank => exact absurd blank h
  | cons first arguments =>
    by_cases hloop : first = "foreach".toList
    · subst hloop
      by_cases hlength : arguments.length = 1
      · obtain ⟨function, rfl⟩ := List.length_eq_one_iff.mp hlength
        exact Or.inr ⟨_, .loop htokens⟩
      · exact Or.inl ⟨_, arguments, htokens, Or.inl ⟨rfl, hlength⟩⟩
    · by_cases hwait : first = "wait".toList
      · subst hwait
        by_cases hone : ∃ term n, arguments = [term] ∧ Seconds term n
        · obtain ⟨term, n, rfl, hseconds⟩ := hone
          exact Or.inr ⟨_, .wait htokens hseconds⟩
        by_cases hthree : ∃ term condition n,
            arguments = [term, "until".toList, condition] ∧ Seconds term n
        · obtain ⟨term, condition, n, rfl, hseconds⟩ := hthree
          exact Or.inr ⟨_, .waitUntil htokens hseconds⟩
        · refine Or.inl ⟨_, arguments, htokens, Or.inr ⟨rfl, ?_, ?_⟩⟩
          · intro term n harguments hseconds
            exact hone ⟨term, n, harguments, hseconds⟩
          · intro term condition n harguments hseconds
            exact hthree ⟨term, condition, n, harguments, hseconds⟩
      · exact Or.inr ⟨_, .call htokens hloop hwait⟩

theorem trim_is_empty_iff : (Text.trim line).isEmpty = true ↔ Blank line := by
  rw [List.isEmpty_iff]
  constructor
  · intro hempty
    obtain ⟨before, after, hbefore, hafter, hline⟩ := Text.trim_between line
    rw [hempty, List.append_nil] at hline
    rw [hline]
    exact hbefore.append hafter
  · intro hblank
    have hnone : line.dropWhile isBlank = [] := List.dropWhile_eq_nil_iff.mpr hblank
    simp [Text.trim, hnone]

end Lines

/-! ## Texts -/

/-- The lines that are not blank, with their numbers from `n` on. -/
def numberedLines (n : Nat) (lines : List (List Char)) : List (List Char × Nat) :=
  (lines.zipIdx n).filter fun entry => ¬ Blank entry.1

def Transcribed (line : List Char) (n i : Nat) (statement : Statement) : Prop :=
  ∃ kind, LineKind line kind ∧ statement = { text := String.ofList (Text.trim line), line := n, kind
                                             stepName := kind.stepName i }

section Texts

variable {line : List Char} {lines : List (List Char)} {n i : Nat}

theorem Transcribed.eq_at {statement : Statement} (h : Transcribed line n i statement) {kind : Kind}
    (hkind : Kind.ofText (Text.trim line) = .ok kind) :
    statement = .at (String.ofList (Text.trim line)) n kind i := by
  obtain ⟨kind', hkind', rfl⟩ := h
  have hsame := hkind'.of_text
  rw [hkind] at hsame
  cases hsame
  rfl

theorem numbered_blank (h : Blank line) :
    numberedLines n (line :: lines) = numberedLines (n + 1) lines := by
  simp [numberedLines, List.zipIdx_cons, h]

theorem numbered_line (h : ¬ Blank line) :
    numberedLines n (line :: lines) = (line, n) :: numberedLines (n + 1) lines := by
  simp [numberedLines, List.zipIdx_cons, h]

theorem read_lines_blank (h : Blank line) :
    Program.readLines n i (line :: lines) = Program.readLines (n + 1) i lines := by
  simp [Program.readLines, trim_is_empty_iff.mpr h]

theorem read_lines_line (h : ¬ Blank line) {kind : Kind}
    (hkind : Kind.ofText (Text.trim line) = .ok kind) :
    Program.readLines n i (line :: lines) =
      (Program.readLines (n + 1) (i + 1) lines).map
        (.at (String.ofList (Text.trim line)) n kind i :: ·) := by
  rw [← trim_is_empty_iff] at h
  simp only [Program.readLines, if_neg h, hkind]
  rfl

theorem read_lines_fault (h : ¬ Blank line) {fault : LineFault}
    (hfault : Kind.ofText (Text.trim line) = .error fault) :
    Program.readLines n i (line :: lines) =
      .error (.line n (String.ofList (Text.trim line)) fault) := by
  rw [← trim_is_empty_iff] at h
  simp only [Program.readLines, if_neg h, hfault]

/-- Without a malformed line, each line that is not blank becomes a statement. -/
theorem read_lines_transcribes (h : ∀ line ∈ lines, ¬ Malformed line) (n i : Nat) :
    ∃ statements, Program.readLines n i lines = .ok statements ∧
      statements.length = (numberedLines n lines).length ∧
      ∀ j line m, (numberedLines n lines)[j]? = some (line, m) →
        ∃ statement, statements[j]? = some statement ∧ Transcribed line m (i + j) statement := by
  induction lines generalizing n i with
  | nil => exact ⟨[], rfl, rfl, by simp [numberedLines]⟩
  | cons line lines ih =>
    have hrest : ∀ other ∈ lines, ¬ Malformed other :=
      fun other hother => h other (List.mem_cons_of_mem _ hother)
    by_cases hblank : Blank line
    · rw [read_lines_blank hblank, numbered_blank hblank]
      exact ih hrest (n + 1) i
    · obtain ⟨kind, hkind⟩ := (malformed_or_kind hblank).resolve_left (h line List.mem_cons_self)
      obtain ⟨statements, hread, hlength, heach⟩ := ih hrest (n + 1) (i + 1)
      rw [read_lines_line hblank hkind.of_text, numbered_line hblank, hread]
      refine ⟨_, rfl, by simp [hlength], ?_⟩
      intro j other m hother
      cases j with
      | zero => cases hother; exact ⟨_, rfl, kind, hkind, rfl⟩
      | succ j =>
        obtain ⟨statement, hstatement, hother⟩ := heach j other m hother
        rw [Nat.add_right_comm] at hother
        exact ⟨statement, hstatement, hother⟩

structure FirstMalformed (lines : List (List Char)) (i : Nat) (line : List Char) : Prop where
  here : lines[i]? = some line
  malformed : Malformed line
  before : ∀ j, j < i → ∀ other, lines[j]? = some other → ¬ Malformed other

theorem FirstMalformed.cons {other : List Char} (h : FirstMalformed lines i line)
    (hother : ¬ Malformed other) : FirstMalformed (other :: lines) (i + 1) line := by
  refine ⟨h.here, h.malformed, ?_⟩
  intro j hj earlier hearlier
  cases j with
  | zero => cases hearlier; exact hother
  | succ j => exact h.before j (by omega) earlier hearlier

theorem read_lines_blames (h : ∃ line ∈ lines, Malformed line) (n i : Nat) :
    ∃ k line fault, FirstMalformed lines k line ∧ Program.readLines n i lines =
      .error (.line (n + k) (String.ofList (Text.trim line)) fault) := by
  induction lines generalizing n i with
  | nil => simp at h
  | cons line lines ih =>
    by_cases hline : Malformed line
    · obtain ⟨fault, hfault⟩ := hline.of_text
      refine ⟨0, line, fault, ⟨rfl, hline, by simp⟩, ?_⟩
      exact read_lines_fault hline.nonblank hfault
    have hrest : ∃ other ∈ lines, Malformed other := by
      obtain ⟨other, hmem, hother⟩ := h
      rcases List.mem_cons.mp hmem with rfl | hmem
      · exact absurd hother hline
      · exact ⟨other, hmem, hother⟩
    -- The blame lies further down; what this line is only moves the position of the statements.
    by_cases hblank : Blank line
    · obtain ⟨k, other, fault, hfirst, hread⟩ := ih hrest (n + 1) i
      refine ⟨k + 1, other, fault, hfirst.cons hline, ?_⟩
      rw [read_lines_blank hblank, hread, Nat.add_right_comm, Nat.add_assoc]
    · obtain ⟨kind, hkind⟩ := (malformed_or_kind hblank).resolve_left hline
      obtain ⟨k, other, fault, hfirst, hread⟩ := ih hrest (n + 1) (i + 1)
      refine ⟨k + 1, other, fault, hfirst.cons hline, ?_⟩
      rw [read_lines_line hblank hkind.of_text, hread, Nat.add_right_comm, Nat.add_assoc]
      rfl

theorem numbered_empty_iff (n : Nat) :
    numberedLines n lines = [] ↔ ∀ line ∈ lines, Blank line := by
  induction lines generalizing n with
  | nil => simp [numberedLines]
  | cons line lines ih =>
    by_cases hblank : Blank line
    · simp [numbered_blank hblank, ih, hblank]
    · simp [numbered_line hblank, hblank]

theorem of_lines_eq_ok {program : Program} :
    Program.ofLines lines = .ok program ↔
      ∃ statements, Program.readLines 1 0 lines = .ok statements ∧ statements ≠ [] ∧
        program = .ofStatements statements := by
  rw [Program.ofLines]
  cases hread : Program.readLines 1 0 lines with
  | error e => simp
  | ok found =>
    cases found with
    | nil => simp
    | cons first found => simp [eq_comm]

theorem of_lines_blames (h : ∃ line ∈ lines, Malformed line) :
    ∃ i line fault, FirstMalformed lines i line ∧ Program.ofLines lines =
      .error (.line (i + 1) (String.ofList (Text.trim line)) fault) := by
  obtain ⟨i, line, fault, hfirst, hread⟩ := read_lines_blames h 1 0
  refine ⟨i, line, fault, hfirst, ?_⟩
  rw [Program.ofLines, hread, Nat.add_comm]

theorem of_lines_blank (h : ∀ line ∈ lines, Blank line) :
    Program.ofLines lines = .error .empty := by
  have hnone : ∀ line ∈ lines, ¬ Malformed line :=
    fun line hline hmalformed => hmalformed.nonblank (h line hline)
  obtain ⟨statements, hread, hlength, _⟩ := read_lines_transcribes hnone 1 0
  rw [(numbered_empty_iff 1).mpr h, List.length_nil, List.length_eq_zero_iff] at hlength
  rw [Program.ofLines, hread, hlength]

theorem of_lines_transcribes (hsome : ∃ line ∈ lines, ¬ Blank line)
    (hnone : ∀ line ∈ lines, ¬ Malformed line) :
    ∃ statements, Program.ofLines lines = .ok (.ofStatements statements) ∧
      statements.length = (numberedLines 1 lines).length ∧
      ∀ j line n, (numberedLines 1 lines)[j]? = some (line, n) →
        ∃ statement, statements[j]? = some statement ∧ Transcribed line n j statement := by
  obtain ⟨statements, hread, hlength, heach⟩ := read_lines_transcribes hnone 1 0
  have hnonempty : statements ≠ [] := by
    rintro rfl
    obtain ⟨line, hline, hblank⟩ := hsome
    have hnumbered : numberedLines 1 lines = [] := List.length_eq_zero_iff.mp hlength.symm
    exact hblank ((numbered_empty_iff 1).mp hnumbered line hline)
  refine ⟨statements, ?_, hlength, ?_⟩
  · rw [Program.ofLines, hread]
    obtain ⟨first, others, rfl⟩ := List.exists_cons_of_ne_nil hnonempty
    rfl
  · intro j line n hline
    obtain ⟨statement, hstatement, htranscribed⟩ := heach j line n hline
    rw [Nat.zero_add] at htranscribed
    exact ⟨statement, hstatement, htranscribed⟩

end Texts

/-- The expression for lines has one outcome on a line that is not blank: its tokens. -/
theorem line_tokenized {line : List Char} (h : ¬ Blank line) :
    ∃ tokens, tokens ≠ [] ∧ Tokens line tokens ∧
      ∀ outcome, Peg.Parses Peg.line (Text.trim line) outcome ↔ outcome = some (tokens, []) := by
  obtain ⟨tokens, htokens⟩ := Tokens.exists_tokens line
  cases tokens with
  | nil =>
    cases htokens with
    | none blank => exact absurd blank h
  | cons token tokens =>
    have hparses := Peg.parses_line (trim_tokens_iff.mpr htokens)
    refine ⟨_, List.cons_ne_nil _ _, htokens, ?_⟩
    intro outcome
    constructor
    · intro houtcome
      exact houtcome.unique hparses
    · rintro rfl
      exact hparses

/-- A text is empty, or its first malformed line is blamed, or all its lines are transcribed. -/
theorem text_read_by_line_grammar (lines : List (List Char)) :
    (Program.ofLines lines = .error .empty ↔ ∀ line ∈ lines, Blank line) ∧
      ((∃ line ∈ lines, Malformed line) →
        ∃ i line fault, FirstMalformed lines i line ∧ Program.ofLines lines =
          .error (.line (i + 1) (String.ofList (Text.trim line)) fault)) ∧
      ((∃ line ∈ lines, ¬ Blank line) → (∀ line ∈ lines, ¬ Malformed line) →
        ∃ statements, Program.ofLines lines = .ok (.ofStatements statements) ∧
          statements.length = (numberedLines 1 lines).length ∧
          ∀ j line n, (numberedLines 1 lines)[j]? = some (line, n) →
            ∃ statement, statements[j]? = some statement ∧ Transcribed line n j statement) ∧
      ∀ line, ¬ Blank line → ∃ tokens, tokens ≠ [] ∧ Tokens line tokens ∧
        ∀ outcome, Peg.Parses Peg.line (Text.trim line) outcome ↔
          outcome = some (tokens, []) := by
  refine ⟨⟨?_, of_lines_blank⟩, of_lines_blames, of_lines_transcribes, fun _ => line_tokenized⟩
  intro hempty
  by_cases hmalformed : ∃ line ∈ lines, Malformed line
  · obtain ⟨_, _, _, _, hread⟩ := of_lines_blames hmalformed
    rw [hempty] at hread
    cases hread
  · intro line hline
    by_contra hblank
    have hnone : ∀ other ∈ lines, ¬ Malformed other :=
      fun other hother h => hmalformed ⟨other, hother, h⟩
    obtain ⟨_, hread, _⟩ := of_lines_transcribes ⟨line, hline, hblank⟩ hnone
    rw [hempty] at hread
    cases hread

def kindsLines : List (List Char) :=
  ["", " fetch page ", "foreach load", "wait\t5", "wait 2 until up"].map String.toList

theorem kinds_not_malformed : ∀ line ∈ kindsLines, ¬ Malformed line := by
  intro line hline
  have hkind : Blank line ∨ ∃ kind, Kind.ofText (Text.trim line) = .ok kind := by
    revert line
    simp only [kindsLines, List.map_cons, List.map_nil, List.forall_mem_cons]
    exact ⟨.inl (by decide), .inr ⟨_, rfl⟩, .inr ⟨_, rfl⟩, .inr ⟨_, rfl⟩, .inr ⟨_, rfl⟩, by simp⟩
  rcases hkind with hblank | ⟨kind, hkind⟩
  · exact fun h => h.nonblank hblank
  · exact not_malformed_of_text hkind

def kindsStatements : List Statement :=
  [.at "fetch page" 2 (.call "fetch page") 0, .at "foreach load" 3 (.loop "load") 1,
    .at "wait\t5" 4 (.wait 5) 2, .at "wait 2 until up" 5 (.waitUntil 2 "up") 3]

theorem kinds_transcribed {statements : List Statement}
    (hlength : statements.length = (numberedLines 1 kindsLines).length)
    (heach : ∀ j line n, (numberedLines 1 kindsLines)[j]? = some (line, n) →
      ∃ statement, statements[j]? = some statement ∧ Transcribed line n j statement) :
    statements = kindsStatements := by
  have hat : ∀ (j : Nat) line n kind, (numberedLines 1 kindsLines)[j]? = some (line, n) →
      Kind.ofText (Text.trim line) = .ok kind →
      statements[j]? = some (.at (String.ofList (Text.trim line)) n kind j) := by
    intro j line n kind hline hkind
    obtain ⟨statement, hstatement, htranscribed⟩ := heach j line n hline
    rw [hstatement, htranscribed.eq_at hkind]
  apply List.ext_getElem?
  intro j
  match j with
  | 0 => exact hat 0 _ _ _ rfl rfl
  | 1 => exact hat 1 _ _ _ rfl rfl
  | 2 => exact hat 2 _ _ _ rfl rfl
  | 3 => exact hat 3 _ _ _ rfl rfl
  | j + 4 =>
    have hfour : (numberedLines 1 kindsLines).length = 4 := rfl
    rw [List.getElem?_eq_none (by omega)]
    rfl

theorem bare_wait_malformed : Malformed "wait".toList := by
  have htokens : Tokens ([] ++ "wait".toList ++ []) ["wait".toList] :=
    .next (by decide) (by decide) (by simp [isBlank]) (by simp) (.none (by decide))
  exact ⟨_, [], htokens, Or.inr ⟨rfl, by simp, by simp⟩⟩

/-- Of a blank line and two keywords alone, the first keyword is blamed. A line of each kind becomes
the statement that it stands for. -/
theorem bare_wait_blamed :
    (∃ fault, Program.ofLines [[' '], "wait".toList, "foreach".toList] =
      .error (.line 2 "wait" fault)) ∧
    Program.ofLines kindsLines = .ok (.ofStatements kindsStatements) := by
  constructor
  · have hblank : ¬ Malformed [' '] := fun h => h.nonblank (by decide)
    obtain ⟨i, line, fault, hfirst, hread⟩ :=
      (text_read_by_line_grammar [[' '], "wait".toList, "foreach".toList]).2.1
        ⟨_, List.mem_cons_of_mem _ List.mem_cons_self, bare_wait_malformed⟩
    have hpositive : i ≠ 0 := by
      rintro rfl
      cases hfirst.here
      exact hblank hfirst.malformed
    have hnext : ¬ 1 < i := fun h => hfirst.before 1 h _ rfl bare_wait_malformed
    obtain rfl : i = 1 := by omega
    cases hfirst.here
    exact ⟨fault, hread⟩
  · obtain ⟨statements, hread, hlength, heach⟩ := (text_read_by_line_grammar kindsLines).2.2.1
      ⟨_, List.mem_cons_of_mem _ List.mem_cons_self, by decide⟩ kinds_not_malformed
    rw [hread, kinds_transcribed hlength heach]

end Lineflow
