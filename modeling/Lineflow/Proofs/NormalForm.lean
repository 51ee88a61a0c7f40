import Mathlib.Data.List.Basic
import Mathlib.Logic.Relation
import Lineflow.Proofs.LineGrammar

/-! # The normal form of a text

A program's fingerprint is taken of its statements' texts, each with a line feed after it. These
bytes stand for the lines of the text without the blank space between and around them, and for
nothing else: a statement's text has no line feed, though it may have any other character at which
some reader of texts begins a new line.
-/
namespace Lineflow

/-! ## Solid lines -/

namespace Text

/-- What is left of lines without the blanks at their ends, as far as there is something left. -/
def solid (pieces : List (List Char)) : List (List Char) :=
  (pieces.map trim).filter (!·.isEmpty)

def solidLines (cs : List Char) : List (List Char) := solid (lines cs)

theorem trim_leading {gap : List Char} (hgap : Blank gap) (cs : List Char) :
    trim (gap ++ cs) = trim cs := by
  rw [trim, List.dropWhile_append_of_pos hgap, trim]

theorem trim_trailing {gap : List Char} (hgap : Blank gap) (cs : List Char) :
    trim (cs ++ gap) = trim cs := by
  have hback : ∀ c ∈ gap.reverse, isBlank c = true := fun c hc => hgap c (List.mem_reverse.mp hc)
  rw [trim, trim, List.dropWhile_append]
  split
  · next hempty =>
    rw [List.isEmpty_iff.mp hempty, List.dropWhile_eq_nil_iff.mpr hgap]
  · rw [List.reverse_append, List.dropWhile_append_of_pos hback]

theorem mem_of_mem_trim {cs : List Char} {c : Char} (h : c ∈ trim cs) : c ∈ cs := by
  obtain ⟨before, after, _, _, hcs⟩ := trim_between cs
  rw [hcs]
  exact List.mem_append_left _ (List.mem_append_right _ h)

theorem trim_drop_return (cs : List Char) : trim (dropReturn cs) = trim cs := by
  unfold dropReturn
  split
  · next hlast =>
    have hcs : cs.dropLast ++ ['\r'] = cs := List.dropLast_append_getLast? _ hlast
    have hblank : Blank ['\r'] := by decide
    rw [← trim_trailing hblank, hcs]
  · rfl

section Cut

variable {p : Char → Bool}

theorem cut_cons_separator {c : Char} (hc : p c = true) (cs : List Char) :
    cut p (c :: cs) = [] :: cut p cs := by
  simp [cut, hc]

theorem cut_cons_solid {c : Char} (hc : p c = false) (cs : List Char) :
    ∃ piece pieces, cut p cs = piece :: pieces ∧
      cut p (c :: cs) = (c :: piece) :: pieces := by
  induction cs generalizing c with
  | nil => exact ⟨[], [], rfl, by simp [cut, hc]⟩
  | cons d cs ih =>
    cases hd : p d with
    | true => exact ⟨[], cut p cs, by simp [cut, hd], by simp [cut, hc, hd]⟩
    | false =>
      obtain ⟨piece, pieces, _, hcut⟩ := ih hd
      exact ⟨d :: piece, pieces, hcut, by rw [cut, hc, hcut]; rfl⟩

theorem cut_separator {c : Char} (hc : p c = true) (before after : List Char) :
    cut p (before ++ c :: after) = cut p before ++ cut p after := by
  induction before with
  | nil => exact cut_cons_separator hc after
  | cons d before ih =>
    cases hd : p d with
    | true => rw [List.cons_append, cut_cons_separator hd, cut_cons_separator hd, ih]; rfl
    | false =>
      obtain ⟨piece, pieces, hbefore, hcut⟩ := cut_cons_solid hd before
      obtain ⟨_, _, hboth, hlonger⟩ := cut_cons_solid hd (before ++ c :: after)
      rw [ih, hbefore] at hboth
      cases hboth
      rw [List.cons_append, hlonger, hcut]
      rfl

/-- Characters that separate nothing make the last piece longer. -/
theorem cut_append_solid {token : List Char} (hsolid : ∀ c ∈ token, p c = false)
    (cs : List Char) : ∃ pieces last, cut p cs = pieces ++ [last] ∧
      cut p (cs ++ token) = pieces ++ [last ++ token] := by
  induction cs with
  | nil =>
    have hnil : cut p [] = [[]] := rfl
    have htoken := cut_solid hsolid hnil
    rw [List.append_nil] at htoken
    exact ⟨[], [], rfl, htoken⟩
  | cons c cs ih =>
    obtain ⟨pieces, last, hcut, hlonger⟩ := ih
    cases hc : p c with
    | true => exact ⟨[] :: pieces, last, by simp [cut, hc, hcut], by simp [cut, hc, hlonger]⟩
    | false =>
      -- The character joins the first piece, which may be the last one too.
      cases pieces with
      | nil => exact ⟨[], c :: last, by simp [cut, hc, hcut], by simp [cut, hc, hlonger]⟩
      | cons piece pieces =>
        exact ⟨(c :: piece) :: pieces, last, by simp [cut, hc, hcut], by simp [cut, hc, hlonger]⟩

theorem separator_not_mem_cut {cs piece : List Char} (hpiece : piece ∈ cut p cs)
    {c : Char} (hc : c ∈ piece) : p c = false := by
  induction cs generalizing piece c with
  | nil =>
    rw [List.mem_singleton.mp hpiece] at hc
    cases hc
  | cons d cs ih =>
    cases hd : p d with
    | true =>
      rw [cut_cons_separator hd] at hpiece
      rcases List.mem_cons.mp hpiece with rfl | hpiece
      · cases hc
      · exact ih hpiece hc
    | false =>
      obtain ⟨first, pieces, hcut, hlonger⟩ := cut_cons_solid hd cs
      rw [hlonger] at hpiece
      rw [hcut] at ih
      rcases List.mem_cons.mp hpiece with rfl | hpiece
      · rcases List.mem_cons.mp hc with rfl | hc
        · exact hd
        · exact ih List.mem_cons_self hc
      · exact ih (List.mem_cons_of_mem _ hpiece) hc

end Cut

theorem solid_append (pieces pieces' : List (List Char)) :
    solid (pieces ++ pieces') = solid pieces ++ solid pieces' := by
  simp [solid]

theorem solid_cons_congr {piece piece' : List Char} (h : trim piece = trim piece')
    (pieces : List (List Char)) : solid (piece :: pieces) = solid (piece' :: pieces) := by
  rw [solid, solid, List.map_cons, List.map_cons, h]

theorem solid_cons_empty (pieces : List (List Char)) : solid ([] :: pieces) = solid pieces := rfl

theorem lines_of_cut {cs : List Char} {pieces : List (List Char)} {last : List Char}
    (h : cut (· == '\n') cs = pieces ++ [last]) :
    lines cs = pieces.map dropReturn ++ if last.isEmpty then [] else [last] := by
  simp [lines, h]

/-- The marks of the line ends are blank, so only the line feeds matter. -/
theorem solid_lines_cut (cs : List Char) : solidLines cs = solid (cut (· == '\n') cs) := by
  have hnothing : ∀ c ∈ ([] : List Char), (c == '\n') = false := by simp
  obtain ⟨pieces, last, hcut, _⟩ := cut_append_solid hnothing cs
  have hreturns : solid (pieces.map dropReturn) = solid pieces := by
    have hsame : trim ∘ dropReturn = trim := funext trim_drop_return
    rw [solid, List.map_map, hsame, solid]
  have hlast : solid (if last.isEmpty then [] else [last]) = solid [last] := by
    cases last <;> rfl
  rw [solidLines, lines_of_cut hcut, hcut, solid_append, solid_append, hreturns, hlast]

theorem solid_lines_feed (before after : List Char) :
    solidLines (before ++ '\n' :: after) = solidLines before ++ solidLines after := by
  simp only [solid_lines_cut]
  rw [cut_separator (by decide), solid_append]

theorem solid_lines_leading {gap : List Char} (hgap : Blank gap) (cs : List Char) :
    solidLines (gap ++ cs) = solidLines cs := by
  induction gap with
  | nil => rfl
  | cons c gap ih =>
    have hc : Blank [c] := by simpa [Blank] using hgap c List.mem_cons_self
    rw [← ih fun d hd => hgap d (List.mem_cons_of_mem _ hd)]
    simp only [solid_lines_cut]
    cases hfeed : c == '\n' with
    | true => rw [List.cons_append, cut_cons_separator (p := (· == '\n')) hfeed, solid_cons_empty]
    | false =>
      obtain ⟨piece, pieces, hcut, hlonger⟩ :=
        cut_cons_solid (p := (· == '\n')) hfeed (gap ++ cs)
      rw [List.cons_append, hlonger, hcut]
      exact solid_cons_congr (trim_leading hc piece) pieces

theorem solid_lines_trailing {gap : List Char} (hgap : Blank gap) (cs : List Char) :
    solidLines (cs ++ gap) = solidLines cs := by
  induction gap generalizing cs with
  | nil => rw [List.append_nil]
  | cons c gap ih =>
    -- The blank goes over to the text, and the rest of the gap is at the end of a longer one.
    have hc : Blank [c] := by simpa [Blank] using hgap c List.mem_cons_self
    rw [List.append_cons, ih fun d hd => hgap d (List.mem_cons_of_mem _ hd)]
    cases hfeed : c == '\n' with
    | true =>
      rw [beq_iff_eq.mp hfeed, solid_lines_feed]
      exact List.append_nil _
    | false =>
      have hsolid : ∀ d ∈ [c], (d == '\n') = false := by simpa using hfeed
      obtain ⟨pieces, last, hcut, hlonger⟩ := cut_append_solid hsolid cs
      rw [solid_lines_cut, solid_lines_cut, hlonger, hcut, solid_append, solid_append,
        solid_cons_congr (trim_trailing hc last)]

theorem feed_not_mem_solid_line {cs line : List Char} (h : line ∈ solidLines cs) :
    '\n' ∉ line := by
  rw [solid_lines_cut, solid] at h
  obtain ⟨piece, hpiece, rfl⟩ := List.mem_map.mp (List.mem_of_mem_filter h)
  intro hfeed
  have := separator_not_mem_cut hpiece (mem_of_mem_trim hfeed)
  exact absurd this (by decide)

end Text

/-! ## Blank space between and around lines -/

/-- Blank space comes in where a line begins or where it ends. It may have line feeds, so there can
be more lines than before; with a carriage return, a line feed is a line end of two characters. -/
inductive Spaced : List Char → List Char → Prop where
  | leading {before gap after} (start : ∀ c ∈ before.getLast?, c = '\n') (blank : Blank gap) :
      Spaced (before ++ after) (before ++ gap ++ after)
  | trailing {before gap after} (stop : ∀ c ∈ after.head?, c = '\n') (blank : Blank gap) :
      Spaced (before ++ after) (before ++ gap ++ after)

/-- Blank space comes in or goes away, any number of times. -/
def Respaced : List Char → List Char → Prop := Relation.EqvGen Spaced

theorem Spaced.solid_lines {cs ds : List Char} (h : Spaced cs ds) :
    Text.solidLines cs = Text.solidLines ds := by
  cases h with
  | @leading before gap after start blank =>
    rcases List.eq_nil_or_concat before with rfl | ⟨line, c, rfl⟩
    · exact (Text.solid_lines_leading blank after).symm
    · obtain rfl : c = '\n' := start c (by simp)
      simp only [List.concat_eq_append, List.append_assoc, List.cons_append,
        List.nil_append, Text.solid_lines_feed, Text.solid_lines_leading blank]
  | @trailing before gap after stop blank =>
    cases after with
    | nil =>
      rw [List.append_nil, List.append_nil, Text.solid_lines_trailing blank]
    | cons c after =>
      obtain rfl : c = '\n' := stop c rfl
      rw [Text.solid_lines_feed, Text.solid_lines_feed, Text.solid_lines_trailing blank]

theorem Respaced.solid_lines {cs ds : List Char} (h : Respaced cs ds) :
    Text.solidLines cs = Text.solidLines ds := by
  induction h with
  | rel _ _ h => exact h.solid_lines
  | refl => rfl
  | symm _ _ _ ih => exact ih.symm
  | trans _ _ _ _ _ ih ih' => exact ih.trans ih'

def Text.withReturns (cs : List Char) : List Char :=
  cs.flatMap fun c => if c = '\n' then ['\r', '\n'] else [c]

/-- The line feeds of the rest of a text become line ends of two characters one after the other. -/
theorem respaced_returns (before cs : List Char) :
    Respaced (before ++ cs) (before ++ Text.withReturns cs) := by
  induction cs generalizing before with
  | nil => exact .refl _
  | cons c cs ih =>
    by_cases hc : c = '\n'
    · subst hc
      have hreturn : Spaced (before ++ '\n' :: cs) (before ++ ['\r'] ++ '\n' :: cs) :=
        .trailing (by simp) (by decide)
      have hrest := ih (before ++ ['\r', '\n'])
      simp only [List.append_assoc, List.cons_append, List.nil_append] at hreturn hrest
      exact .trans _ _ _ (.rel _ _ hreturn) hrest
    · have hrest := ih (before ++ [c])
      simpa [Text.withReturns, hc] using hrest

/-! ## Statements of solid lines -/

def Statement.unnumbered (statement : Statement) : Statement := { statement with line := 0 }

/-- The statements of solid lines, without line numbers, the first at position `index`. -/
def Program.outline (index : Nat) : List (List Char) → Option (List Statement)
  | [] => some []
  | text :: texts => do
    let kind ← (Kind.ofText text).toOption
    let statements ← outline (index + 1) texts
    return .at (String.ofList text) 0 kind index :: statements

theorem read_lines_outline (n i : Nat) (lines : List (List Char)) :
    (Program.readLines n i lines).toOption.map (·.map Statement.unnumbered) =
      Program.outline i (Text.solid lines) := by
  induction lines generalizing n i with
  | nil => rfl
  | cons line lines ih =>
    by_cases hblank : Blank line
    · have hempty : Text.trim line = Text.trim [] :=
        List.isEmpty_iff.mp (trim_is_empty_iff.mpr hblank)
      rw [read_lines_blank hblank, ih, Text.solid_cons_congr hempty, Text.solid_cons_empty]
    · have hsolid : Text.solid (line :: lines) = Text.trim line :: Text.solid lines := by
        rw [← trim_is_empty_iff] at hblank
        simp [Text.solid, hblank]
      rw [hsolid, Program.outline]
      cases hkind : Kind.ofText (Text.trim line) with
      | error fault => rw [read_lines_fault hblank hkind]; rfl
      | ok kind =>
        rw [read_lines_line hblank hkind, ← ih (n + 1) (i + 1)]
        cases Program.readLines (n + 1) (i + 1) lines <;> rfl

theorem parse_version {source : String} {program : Program}
    (h : Program.parse source = .ok program) :
    program.version = Sha256.hexDigest (Program.normalForm program.statements) := by
  obtain ⟨_, _, _, rfl⟩ := of_lines_eq_ok.mp h
  rfl

/-- A text is a program exactly when its solid lines have statements, and has those. -/
theorem parse_iff_outline {source : String} {statements : List Statement} :
    (∃ program, Program.parse source = .ok program ∧
        program.statements.map Statement.unnumbered = statements) ↔
      statements ≠ [] ∧ Program.outline 0 (Text.solidLines source.toList) = some statements := by
  have hread := read_lines_outline 1 0 (Text.lines source.toList)
  rw [Text.solidLines, ← hread, Program.parse, Program.ofLines]
  cases Program.readLines 1 0 (Text.lines source.toList) with
  | error e => simp [Except.toOption]
  | ok found =>
    cases found with
    | nil => simp [Except.toOption, eq_comm]
    | cons first found =>
      constructor
      · rintro ⟨_, ⟨⟩, rfl⟩
        exact ⟨List.cons_ne_nil _ _, rfl⟩
      · rintro ⟨_, hfound⟩
        exact ⟨_, rfl, Option.some.inj hfound⟩

theorem outline_texts {i : Nat} {texts : List (List Char)} {statements : List Statement}
    (h : Program.outline i texts = some statements) :
    statements.map (·.text.toList) = texts := by
  induction texts generalizing i statements with
  | nil => cases h; rfl
  | cons text texts ih =>
    simp only [Program.outline, Option.bind_eq_bind, Option.bind_eq_some_iff] at h
    obtain ⟨kind, _, rest, hrest, hstatements⟩ := h
    cases hstatements
    rw [List.map_cons, ih hrest, Statement.at, String.toList_ofList]

theorem parse_texts {source : String} {program : Program}
    (h : Program.parse source = .ok program) :
    program.statements.map (·.text.toList) = Text.solidLines source.toList := by
  obtain ⟨_, houtline⟩ := parse_iff_outline.mp ⟨program, h, rfl⟩
  rw [← outline_texts houtline, List.map_map]
  rfl

/-- The statements of a program depend on the solid lines of its text only. -/
theorem parse_of_solid_lines {source source' : String} {program : Program}
    (h : Program.parse source = .ok program)
    (hsame : Text.solidLines source.toList = Text.solidLines source'.toList) :
    ∃ program', Program.parse source' = .ok program' ∧
      program'.statements.map Statement.unnumbered =
        program.statements.map Statement.unnumbered := by
  have houtline := parse_iff_outline.mp ⟨program, h, rfl⟩
  rw [hsame] at houtline
  exact parse_iff_outline.mpr houtline

/-! ## Bytes -/

theorem bytes_from (bytes : ByteArray) (i : Nat) (before : List UInt8) :
    ByteArray.toList.loop bytes i before = before.reverse ++ bytes.data.toList.drop i := by
  induction i, before using ByteArray.toList.loop.induct bytes with
  | case1 i before hlt ih =>
    have hi : i < bytes.data.toList.length := hlt
    have hbyte : bytes.get! i = bytes.data.toList[i] := by
      rw [ByteArray.get!, Array.getElem_toList]
      exact getElem!_pos bytes.data i hlt
    rw [ByteArray.toList.loop, if_pos hlt, ih, List.drop_eq_getElem_cons hi, hbyte]
    simp
  | case2 i before hge =>
    have hi : bytes.data.toList.length ≤ i := Nat.le_of_not_lt hge
    rw [ByteArray.toList.loop, if_neg hge, List.drop_eq_nil_of_le hi, List.append_nil]

theorem bytes_eq_data (bytes : ByteArray) : bytes.toList = bytes.data.toList := by
  rw [ByteArray.toList, bytes_from]
  rfl

def Text.terminated (texts : List (List Char)) : List Char := texts.flatMap (· ++ ['\n'])

theorem terminated_cons (text : List Char) (texts : List (List Char)) :
    Text.terminated (text :: texts) = text ++ '\n' :: Text.terminated texts := by
  simp [Text.terminated]

theorem normal_form_eq (statements : List Statement) :
    Program.normalForm statements =
      (Text.terminated (statements.map (·.text.toList))).utf8Encode.data.toList := by
  induction statements with
  | nil => rfl
  | cons statement statements ih =>
    have hfeed : (['\n'] : List Char).utf8Encode.data.toList = [10] := by decide
    have htext : statement.text.toUTF8 = statement.text.toList.utf8Encode := by
      rw [← String.toByteArray_ofList, String.ofList_toList]
      rfl
    rw [List.map_cons, terminated_cons, List.utf8Encode_append, List.utf8Encode_cons]
    simp only [ByteArray.data_append, Array.toList_append]
    -- A line feed is one byte, so what is left differs in the order of the two concatenations.
    rw [← ih, hfeed, ← htext, ← bytes_eq_data, ← List.append_assoc]
    rfl

/-- Texts without line feeds are the pieces between the line feeds after them. -/
theorem cut_terminated {texts : List (List Char)} (h : ∀ text ∈ texts, '\n' ∉ text) :
    Text.cut (· == '\n') (Text.terminated texts) = texts ++ [[]] := by
  induction texts with
  | nil => rfl
  | cons text texts ih =>
    have hsolid : ∀ c ∈ text, (c == '\n') = false := by
      intro c hc
      have hother : c ≠ '\n' := fun heq => h text List.mem_cons_self (heq ▸ hc)
      exact beq_eq_false_iff_ne.mpr hother
    have hrest := ih fun other hother => h other (List.mem_cons_of_mem _ hother)
    have hfeed : Text.cut (· == '\n') ('\n' :: Text.terminated texts) = [] :: (texts ++ [[]]) := by
      rw [Text.cut_cons_separator (by decide), hrest]
    rw [terminated_cons, Text.cut_solid hsolid hfeed, List.append_nil]
    rfl

theorem terminated_of_normal_form {statements statements' : List Statement}
    (h : Program.normalForm statements = Program.normalForm statements') :
    Text.terminated (statements.map (·.text.toList)) =
      Text.terminated (statements'.map (·.text.toList)) := by
  rw [normal_form_eq, normal_form_eq] at h
  have hbytes := ByteArray.ext (Array.toList_inj.mp h)
  rwa [← String.toByteArray_ofList, ← String.toByteArray_ofList, String.toByteArray_inj,
    String.ofList_inj] at hbytes

theorem normal_form_of_unnumbered {statements statements' : List Statement}
    (h : statements.map Statement.unnumbered = statements'.map Statement.unnumbered) :
    Program.normalForm statements = Program.normalForm statements' := by
  have htexts := congrArg (List.map (·.text.toList)) h
  rw [List.map_map, List.map_map] at htexts
  rw [normal_form_eq, normal_form_eq]
  exact congrArg (fun texts => (Text.terminated texts).utf8Encode.data.toList) htexts

theorem solid_lines_of_normal_form {source source' : String} {program program' : Program}
    (hparse : Program.parse source = .ok program)
    (hparse' : Program.parse source' = .ok program')
    (h : Program.normalForm program.statements = Program.normalForm program'.statements) :
    Text.solidLines source.toList = Text.solidLines source'.toList := by
  have hterminated := terminated_of_normal_form h
  rw [parse_texts hparse, parse_texts hparse'] at hterminated
  -- The characters split at their line feeds into the lines of either text.
  have hpieces := congrArg (Text.cut (· == '\n')) hterminated
  rw [cut_terminated fun _ => Text.feed_not_mem_solid_line,
    cut_terminated fun _ => Text.feed_not_mem_solid_line] at hpieces
  exact List.append_cancel_right hpieces

/-! ## The version -/

/-- Two programs have the same bytes under their fingerprints exactly when their texts have the same
solid lines, and exactly when their statements differ in line numbers at most. A text that differs
from a program's in blank space alone is a program of the same version. -/
theorem normal_form_unambiguous {source source' : String} {program program' : Program}
    (hparse : Program.parse source = .ok program)
    (hparse' : Program.parse source' = .ok program') :
    (Program.normalForm program.statements = Program.normalForm program'.statements ↔
        Text.solidLines source.toList = Text.solidLines source'.toList) ∧
      (Program.normalForm program.statements = Program.normalForm program'.statements ↔
        program.statements.map Statement.unnumbered =
          program'.statements.map Statement.unnumbered) ∧
      program.version = Sha256.hexDigest (Program.normalForm program.statements) ∧
      ∀ other : String, Respaced source.toList other.toList →
        ∃ program'', Program.parse other = .ok program'' ∧
          program''.version = program.version := by
  have hbytes := solid_lines_of_normal_form hparse hparse'
  have hstatements : Text.solidLines source.toList = Text.solidLines source'.toList →
      program.statements.map Statement.unnumbered =
        program'.statements.map Statement.unnumbered := by
    intro hlines
    obtain ⟨found, hfound, hunnumbered⟩ := parse_of_solid_lines hparse hlines
    rw [hparse'] at hfound
    cases hfound
    exact hunnumbered.symm
  refine ⟨⟨hbytes, fun hlines => normal_form_of_unnumbered (hstatements hlines)⟩,
    ⟨fun hsame => hstatements (hbytes hsame), normal_form_of_unnumbered⟩,
    parse_version hparse, ?_⟩
  intro other hrespaced
  obtain ⟨found, hfound, hunnumbered⟩ := parse_of_solid_lines hparse hrespaced.solid_lines
  refine ⟨found, hfound, ?_⟩
  rw [parse_version hfound, normal_form_of_unnumbered hunnumbered, parse_version hparse]

/-- A text with line feeds, and the same text with a blank line, an indented line and line ends of
two characters. -/
theorem returns_keep_version :
    ∃ p p', Program.parse "fetch\nwait 5\n" = .ok p ∧
      Program.parse "\r\n fetch\r\nwait 5\r\n" = .ok p' ∧ p.statements ≠ p'.statements ∧
      Program.normalForm p.statements = Program.normalForm p'.statements ∧
      p'.version = p.version := by
  have hparse : Program.parse "fetch\nwait 5\n" = .ok (.ofStatements
      [.at "fetch" 1 (.call "fetch") 0, .at "wait 5" 2 (.wait 5) 1]) := by rfl
  have hparse' : Program.parse "\r\n fetch\r\nwait 5\r\n" = .ok (.ofStatements
      [.at "fetch" 2 (.call "fetch") 0, .at "wait 5" 3 (.wait 5) 1]) := by rfl
  obtain ⟨hbytes, _, _, hversion⟩ := normal_form_unambiguous hparse hparse'
  have hindent : Spaced ([] ++ "fetch\nwait 5\n".toList)
      ([] ++ ['\n', ' '] ++ "fetch\nwait 5\n".toList) := .leading (by simp) (by decide)
  obtain ⟨found, hfound, hsame⟩ := hversion "\r\n fetch\r\nwait 5\r\n"
    (.trans _ _ _ (.rel _ _ hindent) (respaced_returns [] _))
  rw [hparse'] at hfound
  cases hfound
  exact ⟨_, _, hparse, hparse', by decide, hbytes.mpr (by decide), hsame⟩

end Lineflow
