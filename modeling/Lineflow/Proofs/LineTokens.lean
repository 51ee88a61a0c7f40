import Mathlib.Data.List.TakeWhile
import Lineflow.Text.Blank

/-! # Tokens of a line

The tokens of a line are its maximal runs of characters that are not blank. `Text.terms` finds them,
and so does the parsing expression for lines, in which blanks may stand between any two parts. No
line with a token fails to be tokenized.
-/
namespace Lineflow

def Blank (cs : List Char) : Prop := ∀ c ∈ cs, isBlank c = true

instance (cs : List Char) : Decidable (Blank cs) :=
  decidable_of_iff (cs.all isBlank = true) List.all_eq_true

/-- The tokens of a text in their order. A token is followed by a blank or by nothing, so it cannot
be extended. -/
inductive Tokens : List Char → List (List Char) → Prop where
  | none {gap} (blank : Blank gap) : Tokens gap []
  | next {gap token rest tokens} (blank : Blank gap) (nonempty : token ≠ [])
      (solid : ∀ c ∈ token, isBlank c = false) (ends : ∀ c ∈ rest.head?, isBlank c = true)
      (after : Tokens rest tokens) : Tokens (gap ++ token ++ rest) (token :: tokens)

theorem Blank.append {a b : List Char} (ha : Blank a) (hb : Blank b) : Blank (a ++ b) := by
  intro c hc
  rcases List.mem_append.mp hc with hc | hc
  · exact ha c hc
  · exact hb c hc

/-! ## Terms -/

namespace Text

theorem cut_solid {isSeparator : Char → Bool} {token rest : List Char}
    (hsolid : ∀ c ∈ token, isSeparator c = false) {piece : List Char} {pieces : List (List Char)}
    (hrest : cut isSeparator rest = piece :: pieces) :
    cut isSeparator (token ++ rest) = (token ++ piece) :: pieces := by
  induction token with
  | nil => exact hrest
  | cons c token ih =>
    have hc : isSeparator c = false := hsolid c List.mem_cons_self
    have htail := ih fun d hd => hsolid d (List.mem_cons_of_mem _ hd)
    simp [cut, hc, htail]

theorem terms_blank {gap : List Char} (hgap : Blank gap) (cs : List Char) :
    terms (gap ++ cs) = terms cs := by
  induction gap with
  | nil => rfl
  | cons c gap ih =>
    have hc : isBlank c = true := hgap c List.mem_cons_self
    have htail := ih fun d hd => hgap d (List.mem_cons_of_mem _ hd)
    rw [← htail]
    simp [terms, cut, hc]

theorem terms_token {token rest : List Char} (hnonempty : token ≠ [])
    (hsolid : ∀ c ∈ token, isBlank c = false) (hends : ∀ c ∈ rest.head?, isBlank c = true) :
    terms (token ++ rest) = token :: terms rest := by
  obtain ⟨pieces, hrest⟩ : ∃ pieces, cut isBlank rest = [] :: pieces := by
    cases rest with
    | nil => exact ⟨[], rfl⟩
    | cons c rest => exact ⟨cut isBlank rest, by simp [cut, hends c rfl]⟩
  have hcut := cut_solid hsolid hrest
  simp [terms, hcut, hrest, hnonempty]

/-- A text is what `trim` leaves of it between two gaps. -/
theorem trim_between (cs : List Char) :
    ∃ before after, Blank before ∧ Blank after ∧ cs = before ++ trim cs ++ after := by
  have hfront := List.takeWhile_append_dropWhile (p := isBlank) (l := cs)
  have hback := List.takeWhile_append_dropWhile (p := isBlank)
    (l := (cs.dropWhile isBlank).reverse)
  have hrest : cs.dropWhile isBlank =
      trim cs ++ ((cs.dropWhile isBlank).reverse.takeWhile isBlank).reverse := by
    rw [trim, ← List.reverse_append, hback, List.reverse_reverse]
  refine ⟨cs.takeWhile isBlank, ((cs.dropWhile isBlank).reverse.takeWhile isBlank).reverse,
    ?_, ?_, ?_⟩
  · intro c hc
    exact List.mem_takeWhile_imp hc
  · intro c hc
    exact List.mem_takeWhile_imp (List.mem_reverse.mp hc)
  · rw [List.append_assoc, ← hrest, hfront]

end Text

namespace Tokens

theorem terms_eq {cs : List Char} {tokens : List (List Char)} (h : Tokens cs tokens) :
    Text.terms cs = tokens := by
  induction h with
  | none blank =>
    have hterms := Text.terms_blank blank []
    rwa [List.append_nil] at hterms
  | next blank nonempty solid ends _ ih =>
    rw [List.append_assoc, Text.terms_blank blank, Text.terms_token nonempty solid ends, ih]

theorem unique {cs : List Char} {ts us : List (List Char)} (ht : Tokens cs ts)
    (hu : Tokens cs us) : ts = us := by
  rw [← ht.terms_eq, hu.terms_eq]

theorem cons_blank {c : Char} {cs : List Char} {tokens : List (List Char)}
    (hc : isBlank c = true) (h : Tokens cs tokens) : Tokens (c :: cs) tokens := by
  have hgap : ∀ {gap}, Blank gap → Blank (c :: gap) := by
    intro gap hgap d hd
    rcases List.mem_cons.mp hd with rfl | hd
    · exact hc
    · exact hgap d hd
  cases h with
  | none blank => exact .none (hgap blank)
  | next blank nonempty solid ends after => exact .next (hgap blank) nonempty solid ends after

/-- A solid character begins a token, or it makes the token that follows it at once longer. -/
theorem cons_solid {c : Char} {cs : List Char} {tokens : List (List Char)}
    (hc : isBlank c = false) (h : Tokens cs tokens) : ∃ tokens, Tokens (c :: cs) tokens := by
  have hempty : Blank [] := by simp [Blank]
  have halone : ∀ d ∈ [c], isBlank d = false := by simpa using hc
  cases h with
  | none blank =>
    have hends : ∀ d ∈ cs.head?, isBlank d = true := fun d hd => blank d (List.mem_of_mem_head? hd)
    exact ⟨_, .next hempty (List.cons_ne_nil c []) halone hends (.none blank)⟩
  | @next gap token rest tokens blank nonempty solid ends after =>
    cases gap with
    | nil =>
      have hsolid : ∀ d ∈ c :: token, isBlank d = false := by
        intro d hd
        rcases List.mem_cons.mp hd with rfl | hd
        · exact hc
        · exact solid d hd
      exact ⟨_, .next hempty (List.cons_ne_nil c token) hsolid ends after⟩
    | cons b gap =>
      have hends : ∀ d ∈ (b :: gap ++ token ++ rest).head?, isBlank d = true := by
        rintro d ⟨⟩
        exact blank b List.mem_cons_self
      exact ⟨_, .next hempty (List.cons_ne_nil c []) halone hends
        (.next blank nonempty solid ends after)⟩

theorem exists_tokens (cs : List Char) : ∃ tokens, Tokens cs tokens := by
  induction cs with
  | nil => exact ⟨[], .none (by simp [Blank])⟩
  | cons c cs ih =>
    obtain ⟨tokens, h⟩ := ih
    cases hc : isBlank c with
    | true => exact ⟨tokens, h.cons_blank hc⟩
    | false => exact h.cons_solid hc

/-- Gaps at the ends of a text do not count. -/
theorem pad {before cs after : List Char} {tokens : List (List Char)} (h : Tokens cs tokens)
    (hbefore : Blank before) (hafter : Blank after) : Tokens (before ++ cs ++ after) tokens := by
  induction h generalizing before with
  | none blank => exact .none ((hbefore.append blank).append hafter)
  | @next gap token rest tokens blank nonempty solid ends _ ih =>
    have hends : ∀ c ∈ (rest ++ after).head?, isBlank c = true := by
      intro c hc
      cases rest with
      | nil => exact hafter c (List.mem_of_mem_head? hc)
      | cons d rest => exact ends c hc
    have hrest : Tokens ([] ++ rest ++ after) tokens := ih (by simp [Blank])
    have hnext := Tokens.next (hbefore.append blank) nonempty solid hends hrest
    simpa using hnext

theorem nonblank {cs token : List Char} {tokens : List (List Char)}
    (h : Tokens cs (token :: tokens)) : ¬ Blank cs := by
  intro hblank
  cases h with
  | @next gap _ rest _ _ nonempty solid =>
    obtain ⟨c, token, rfl⟩ := List.exists_cons_of_ne_nil nonempty
    have hc := hblank c (by simp)
    rw [solid c List.mem_cons_self] at hc
    cases hc

end Tokens

theorem trim_tokens_iff {cs : List Char} {tokens : List (List Char)} :
    Tokens (Text.trim cs) tokens ↔ Tokens cs tokens := by
  obtain ⟨before, after, hbefore, hafter, hcs⟩ := Text.trim_between cs
  have hpad : ∀ {ts}, Tokens (Text.trim cs) ts → Tokens cs ts := by
    intro ts h
    rw [hcs]
    exact h.pad hbefore hafter
  constructor
  · exact hpad
  · intro h
    obtain ⟨ts, hts⟩ := Tokens.exists_tokens (Text.trim cs)
    rwa [h.unique (hpad hts)]

/-! ## Parsing expressions -/

/-- Parsing expressions with ordered, greedy matching. A `token` keeps the text that it matches. -/
inductive Peg where
  | one (accepts : Char → Bool)
  | eoi
  | seq (a b : Peg)
  | star (a : Peg)
  | not (a : Peg)
  | token (a : Peg)

namespace Peg

/-- What an expression does with a text: it fails, or it leaves a rest and has kept some tokens. -/
inductive Parses : Peg → List Char → Option (List (List Char) × List Char) → Prop where
  | one {accepts c cs} (hit : accepts c = true) : Parses (one accepts) (c :: cs) (some ([], cs))
  | oneMiss {accepts c cs} (miss : accepts c = false) : Parses (one accepts) (c :: cs) none
  | oneEnd {accepts} : Parses (one accepts) [] none
  | eoi : Parses eoi [] (some ([], []))
  | eoiMiss {c cs} : Parses eoi (c :: cs) none
  | seq {a b cs ts rest us last} (first : Parses a cs (some (ts, rest)))
      (second : Parses b rest (some (us, last))) : Parses (seq a b) cs (some (ts ++ us, last))
  | seqFirst {a b cs} (first : Parses a cs none) : Parses (seq a b) cs none
  | seqSecond {a b cs ts rest} (first : Parses a cs (some (ts, rest)))
      (second : Parses b rest none) : Parses (seq a b) cs none
  | more {a cs ts rest us last} (first : Parses a cs (some (ts, rest)))
      (others : Parses (star a) rest (some (us, last))) :
      Parses (star a) cs (some (ts ++ us, last))
  | done {a cs} (first : Parses a cs none) : Parses (star a) cs (some ([], cs))
  | not {a cs} (inner : Parses a cs none) : Parses (not a) cs (some ([], cs))
  | notMiss {a cs r} (inner : Parses a cs (some r)) : Parses (not a) cs none
  | token {a cs text ts rest} (inner : Parses a cs (some (ts, rest))) (kept : text ++ rest = cs) :
      Parses (token a) cs (some ([text], rest))
  | tokenMiss {a cs} (inner : Parses a cs none) : Parses (token a) cs none

theorem Parses.unique {e : Peg} {cs : List Char} {r r' : Option (List (List Char) × List Char)}
    (h : Parses e cs r) (h' : Parses e cs r') : r = r' := by
  -- The form of the expression and the two outcomes of its first part leave one rule at a time.
  induction h generalizing r' with
  | token _ kept ih =>
    cases h' with
    | token inner kept' =>
      obtain ⟨_, rfl⟩ := Prod.mk.inj (Option.some.inj (ih inner))
      rw [List.append_cancel_right (kept.trans kept'.symm)]
    | tokenMiss inner => cases ih inner
  | _ => cases h' <;> grind

def gap : Peg := star (one isBlank)

def term : Peg :=
  let solid := seq (not (one isBlank)) (one fun _ => true)
  token (seq solid (star solid))

def line : Peg := seq gap (seq (seq term (star (seq gap term))) (seq gap eoi))

theorem parses_gap {blanks rest : List Char} (hblank : Blank blanks)
    (hends : ∀ c ∈ rest.head?, isBlank c = false) :
    Parses gap (blanks ++ rest) (some ([], rest)) := by
  induction blanks with
  | nil =>
    cases rest with
    | nil => exact .done .oneEnd
    | cons c rest => exact .done (.oneMiss (hends c rfl))
  | cons c blanks ih =>
    have hc := hblank c List.mem_cons_self
    exact .more (.one hc) (ih fun d hd => hblank d (List.mem_cons_of_mem _ hd))

theorem parses_solid {c : Char} (hc : isBlank c = false) (rest : List Char) :
    Parses (seq (not (one isBlank)) (one fun _ => true)) (c :: rest) (some ([], rest)) :=
  .seq (.not (.oneMiss hc)) (.one rfl)

theorem parses_solid_miss {rest : List Char} (hends : ∀ c ∈ rest.head?, isBlank c = true) :
    Parses (seq (not (one isBlank)) (one fun _ => true)) rest none := by
  cases rest with
  | nil => exact .seqSecond (.not .oneEnd) .oneEnd
  | cons c rest => exact .seqFirst (.notMiss (.one (hends c rfl)))

theorem parses_solids {token rest : List Char} (hsolid : ∀ c ∈ token, isBlank c = false)
    (hends : ∀ c ∈ rest.head?, isBlank c = true) :
    Parses (star (seq (not (one isBlank)) (one fun _ => true))) (token ++ rest)
      (some ([], rest)) := by
  induction token with
  | nil => exact .done (parses_solid_miss hends)
  | cons c token ih =>
    have hc := hsolid c List.mem_cons_self
    exact .more (parses_solid hc _) (ih fun d hd => hsolid d (List.mem_cons_of_mem _ hd))

theorem parses_term {token rest : List Char} (hnonempty : token ≠ [])
    (hsolid : ∀ c ∈ token, isBlank c = false) (hends : ∀ c ∈ rest.head?, isBlank c = true) :
    Parses term (token ++ rest) (some ([token], rest)) := by
  obtain ⟨c, token, rfl⟩ := List.exists_cons_of_ne_nil hnonempty
  have hc := hsolid c List.mem_cons_self
  have hothers := parses_solids (fun d hd => hsolid d (List.mem_cons_of_mem _ hd)) hends
  exact .token (.seq (parses_solid hc _) hothers) rfl

theorem parses_term_miss {rest : List Char} (hends : ∀ c ∈ rest.head?, isBlank c = true) :
    Parses term rest none :=
  .tokenMiss (.seqFirst (parses_solid_miss hends))

theorem head_solid {token : List Char} (hnonempty : token ≠ [])
    (hsolid : ∀ c ∈ token, isBlank c = false) (rest : List Char) :
    ∀ c ∈ (token ++ rest).head?, isBlank c = false := by
  obtain ⟨c, token, rfl⟩ := List.exists_cons_of_ne_nil hnonempty
  rintro d ⟨⟩
  exact hsolid c List.mem_cons_self

/-- After the first token come the others; a last gap is left to what follows. -/
theorem parses_terms {cs : List Char} {tokens : List (List Char)} (h : Tokens cs tokens) :
    ∃ rest, Blank rest ∧ Parses (star (seq gap term)) cs (some (tokens, rest)) := by
  induction h with
  | @none blanks blank =>
    have hgap : Parses gap (blanks ++ []) (some ([], [])) := parses_gap blank (by simp)
    rw [List.append_nil] at hgap
    exact ⟨blanks, blank, .done (.seqSecond hgap (parses_term_miss (by simp)))⟩
  | @next blanks token rest tokens blank nonempty solid ends _ ih =>
    obtain ⟨last, hlast, hothers⟩ := ih
    have hgap := parses_gap blank (head_solid nonempty solid rest)
    have hterm := parses_term nonempty solid ends
    refine ⟨last, hlast, ?_⟩
    rw [List.append_assoc]
    exact .more (.seq hgap hterm) hothers

/-- The expression for lines keeps the tokens of a text, if it has any, and reads all of it. -/
theorem parses_line {cs token : List Char} {tokens : List (List Char)}
    (h : Tokens cs (token :: tokens)) : Parses line cs (some (token :: tokens, [])) := by
  cases h with
  | @next blanks _ rest _ blank nonempty solid ends after =>
    obtain ⟨last, hlast, hothers⟩ := parses_terms after
    have hgap := parses_gap blank (head_solid nonempty solid rest)
    have hend : Parses gap (last ++ []) (some ([], [])) := parses_gap hlast (by simp)
    rw [List.append_nil] at hend
    have hterms := Parses.seq (parses_term nonempty solid ends) hothers
    have hall := Parses.seq hgap (.seq hterms (.seq hend .eoi))
    simpa [line] using hall

end Peg

end Lineflow
