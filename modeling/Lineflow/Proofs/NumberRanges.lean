import Lineflow.Proofs.NormalForm

/-! # Numbers of parsed programs

A statement has two numbers. Its seconds have 64 bits, because the line grammar says so; its line
number has an upper bound in the length of the text, since each line takes a character at least.
-/
namespace Lineflow

namespace Text

theorem cut_pieces_le {p : Char → Bool} (cs : List Char) :
    ∃ pieces last, cut p cs = pieces ++ [last] ∧ pieces.length + last.length ≤ cs.length := by
  induction cs with
  | nil => exact ⟨[], [], rfl, Nat.le_refl 0⟩
  | cons c cs ih =>
    obtain ⟨pieces, last, hcut, hlength⟩ := ih
    cases hc : p c with
    | true =>
      refine ⟨[] :: pieces, last, by simp [cut, hc, hcut], ?_⟩
      simp only [List.length_cons]
      omega
    | false =>
      -- The character makes the first piece longer, which counts if it is the last one too.
      cases pieces with
      | nil =>
        refine ⟨[], c :: last, by simp [cut, hc, hcut], ?_⟩
        simp only [List.length_cons] at *
        omega
      | cons piece pieces =>
        refine ⟨(c :: piece) :: pieces, last, by simp [cut, hc, hcut], ?_⟩
        simp only [List.length_cons] at *
        omega

theorem lines_length_le (cs : List Char) : (lines cs).length ≤ cs.length := by
  obtain ⟨pieces, last, hcut, hlength⟩ := cut_pieces_le (p := (· == '\n')) cs
  rw [lines_of_cut hcut, List.length_append, List.length_map]
  cases last with
  | nil => exact hlength
  | cons c last =>
    simp only [List.length_cons] at hlength
    simp only [List.isEmpty_cons, Bool.false_eq_true, if_false, List.length_singleton]
    omega

end Text

def Kind.seconds? : Kind → Option Nat
  | .wait seconds => some seconds
  | .waitUntil seconds _ => some seconds
  | .call _ => none
  | .loop _ => none

theorem LineKind.seconds_fit {line : List Char} {kind : Kind} (h : LineKind line kind) {n : Nat}
    (hn : n ∈ kind.seconds?) : n < Word.bound := by
  cases h with
  | loop => cases hn
  | wait _ seconds => cases hn; exact seconds.fits
  | waitUntil _ seconds => cases hn; exact seconds.fits
  | call => cases hn

theorem of_lines_transcribed {lines : List (List Char)} {program : Program}
    (h : Program.ofLines lines = .ok program) {statement : Statement}
    (hstatement : statement ∈ program.statements) :
    ∃ line n i, (line, n) ∈ numberedLines 1 lines ∧ Transcribed line n i statement := by
  have hnone : ∀ line ∈ lines, ¬ Malformed line := by
    intro line hline hmalformed
    obtain ⟨_, _, _, _, hblamed⟩ := of_lines_blames ⟨line, hline, hmalformed⟩
    rw [h] at hblamed
    cases hblamed
  have hsome : ∃ line ∈ lines, ¬ Blank line := by
    by_contra hall
    have hblank : ∀ line ∈ lines, Blank line := by
      intro line hline
      by_contra hsolid
      exact hall ⟨line, hline, hsolid⟩
    rw [of_lines_blank hblank] at h
    cases h
  obtain ⟨statements, hread, hlength, heach⟩ := of_lines_transcribes hsome hnone
  rw [h] at hread
  cases hread
  obtain ⟨i, hi⟩ := List.mem_iff_getElem?.mp hstatement
  have hlt : i < (numberedLines 1 lines).length := by
    rw [← hlength]
    exact (List.getElem?_eq_some_iff.mp hi).1
  obtain ⟨found, hfound, htranscribed⟩ := heach i _ _ (List.getElem?_eq_getElem hlt)
  have hsame : found = statement := by
    rw [Program.ofStatements] at hi
    rw [hi] at hfound
    exact (Option.some.inj hfound).symm
  rw [hsame] at htranscribed
  exact ⟨_, _, i, List.getElem_mem hlt, htranscribed⟩

section Parsed

variable {source : String} {program : Program} {statement : Statement}

theorem parse_line_le (h : Program.parse source = .ok program)
    (hstatement : statement ∈ program.statements) : statement.line ≤ source.length := by
  obtain ⟨line, n, i, hline, _, _, rfl⟩ := of_lines_transcribed h hstatement
  have hn := (List.mem_zipIdx (List.mem_of_mem_filter hline)).2.1
  have hlength := Text.lines_length_le source.toList
  rw [String.length_toList] at hlength
  show n ≤ source.length
  omega

theorem parse_seconds_lt (h : Program.parse source = .ok program)
    (hstatement : statement ∈ program.statements) {n : Nat} (hn : n ∈ statement.kind.seconds?) :
    n < Word.bound := by
  obtain ⟨line, _, _, _, kind, hkind, rfl⟩ := of_lines_transcribed h hstatement
  exact hkind.seconds_fit hn

end Parsed

end Lineflow
