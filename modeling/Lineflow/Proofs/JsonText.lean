import Lineflow.Json.Printer
import Lineflow.Json.Reader

/-! # Reading back what was written

The reader takes the text of a value for that value with the members of its objects in order, whatever
follows it, as long as the numbers in it are whole numbers of 64 bits and it is not nested too deeply.
Nothing is said here of numbers with a fraction or an exponent.
-/
namespace Lineflow.Json

/-- A reader that has read something hands it on. -/
@[simp] theorem ok_bind (a : α) (f : α → Except Fault β) : (Except.ok a >>= f) = f a := rfl

/-! ## Numbers -/

def StopsNumber (rest : List Char) : Prop :=
  ∀ c ∈ rest.head?, c.isDigit = false ∧ c ≠ '.' ∧ c ≠ 'e' ∧ c ≠ 'E'

theorem stops_number_nil : StopsNumber [] := by
  rintro c ⟨⟩

theorem le_of_digit_chars (digits : List Char) (n : Nat) : n ≤ Nat.ofDigitChars 10 digits n := by
  induction digits generalizing n with
  | nil => simp
  | cons c digits ih =>
    rw [Nat.ofDigitChars_cons]
    have hnext := ih (10 * n + (c.toNat - '0'.toNat))
    omega

/-- Digits are all absorbed if the number that they make fits a word. -/
theorem absorb_eq {digits : List Char} {n : Nat}
    (h : Nat.ofDigitChars 10 digits n < Word.bound) :
    absorb n digits = (Nat.ofDigitChars 10 digits n, digits.length) := by
  induction digits generalizing n with
  | nil => simp [absorb]
  | cons c digits ih =>
    have hnext : 10 * n + (c.toNat - '0'.toNat) = n * 10 + digitValue c := by
      rw [digitValue, Nat.mul_comm]
    rw [Nat.ofDigitChars_cons, hnext] at h ⊢
    have hle := le_of_digit_chars digits (n * 10 + digitValue c)
    have hfits : ¬ Word.bound ≤ n * 10 + digitValue c := by omega
    rw [absorb, if_neg hfits, ih h]
    rfl

theorem to_digits_head {n : Nat} (h : 0 < n) :
    ∃ c cs, Nat.toDigits 10 n = c :: cs ∧ c ≠ '0' := by
  induction n using Nat.strongRecOn with
  | ind n ih =>
    by_cases hsmall : n < 10
    · refine ⟨n.digitChar, [], Nat.toDigits_of_lt_base hsmall, ?_⟩
      simpa using Nat.ne_of_gt h
    · obtain ⟨c, cs, hcs, hc⟩ := ih (n / 10) (by omega) (by omega)
      rw [Nat.toDigits_of_base_le (by decide) (by omega), hcs]
      exact ⟨c, _, rfl, hc⟩

theorem number_tail_whole {rest : List Char} (h : StopsNumber rest) (negative : Bool) (n : Nat) :
    numberTail negative n 0 rest = .ok (wholeNumber negative n, rest) := by
  cases rest with
  | nil => rfl
  | cons c rest =>
    obtain ⟨_, hpoint, hlower, hupper⟩ := h c rfl
    simp [numberTail, hpoint, hlower, hupper]

theorem take_digits {digits rest : List Char} (hdigits : ∀ c ∈ digits, c.isDigit = true)
    (h : StopsNumber rest) :
    (digits ++ rest).takeWhile Char.isDigit = digits ∧
      (digits ++ rest).dropWhile Char.isDigit = rest := by
  have hrest : rest.takeWhile Char.isDigit = [] ∧ rest.dropWhile Char.isDigit = rest := by
    cases rest with
    | nil => exact ⟨rfl, rfl⟩
    | cons c rest => simp [(h c rfl).1]
  rw [List.takeWhile_append_of_pos hdigits, List.dropWhile_append_of_pos hdigits, hrest.1, hrest.2]
  simp

theorem number_digits {n : Nat} (hn : n < Word.bound) {rest : List Char} (h : StopsNumber rest)
    (negative : Bool) :
    number negative (Nat.toDigits 10 n ++ rest) = .ok (wholeNumber negative n, rest) := by
  -- A zero at the front is read apart: no digit may follow it.
  by_cases hzero : n = 0
  · subst hzero
    cases rest with
    | nil => exact number_tail_whole h negative 0
    | cons c rest =>
      have hc := (h c rfl).1
      simp only [Nat.toDigits_zero, List.singleton_append, number, hc]
      exact number_tail_whole h negative 0
  · obtain ⟨c, cs, hcs, hc⟩ := to_digits_head (Nat.pos_of_ne_zero hzero)
    have hdigits : ∀ d ∈ Nat.toDigits 10 n, d.isDigit = true :=
      fun d hd => Nat.isDigit_of_mem_toDigits (by decide) (by decide) hd
    have hvalue : Nat.ofDigitChars 10 (Nat.toDigits 10 n) 0 = n := Nat.ofDigitChars_ten_toDigits
    have hall := take_digits hdigits h
    have habsorb : absorb 0 (Nat.toDigits 10 n) = (n, (Nat.toDigits 10 n).length) := by
      rw [absorb_eq (by rw [hvalue]; exact hn), hvalue]
    have hfirst : c.isDigit = true := hdigits c (by simp [hcs])
    rw [hcs] at hall habsorb ⊢
    rw [List.cons_append] at hall ⊢
    simp only [number, hfirst, if_true, hall, habsorb, Nat.sub_self]
    exact number_tail_whole h negative n

theorem skip_space_cons {c : Char} (h : isSpace c = false) (cs : List Char) :
    skipSpace (c :: cs) = c :: cs := by
  simp [skipSpace, h]

theorem digit_not_blank {c : Char} (h : c.isDigit = true) : isSpace c = false := by
  cases hspace : isSpace c with
  | false => rfl
  | true =>
    simp only [isSpace, Bool.or_eq_true, beq_iff_eq] at hspace
    obtain ((rfl | rfl) | rfl) | rfl := hspace <;> cases h

/-! ## Strings -/

theorem hex_value_digit {n : Nat} (h : n < 16) : hexValue? (hexDigit n) = some n := by
  have hall : ∀ m < 16, hexValue? (hexDigit m) = some m := by decide
  exact hall n h

theorem escape_char_length (c : Char) : 1 ≤ (escapeChar c).length := by
  unfold escapeChar
  split
  · decide
  · decide
  · decide
  · decide
  · decide
  · decide
  · decide
  · split <;> simp

theorem escape_unit {c : Char} (h : c.toNat < 0x20) (rest : List Char) :
    escape ('u' :: '0' :: '0' :: hexDigit (c.toNat / 16) :: hexDigit (c.toNat % 16) :: rest) =
      .ok (c, rest) := by
  have hzero : hexValue? '0' = some 0 := by decide
  have hhigh := hex_value_digit (n := c.toNat / 16) (by omega)
  have hlow := hex_value_digit (n := c.toNat % 16) (by omega)
  have hvalue : ((0 * 16 + 0) * 16 + c.toNat / 16) * 16 + c.toNat % 16 = c.toNat := by omega
  have hunit : hexUnit ('0' :: '0' :: hexDigit (c.toNat / 16) :: hexDigit (c.toNat % 16) :: rest) =
      .ok (c.toNat, rest) := by
    simp only [hexUnit, hzero, hhigh, hlow, hvalue]
  have htail : ¬ (0xdc00 ≤ c.toNat ∧ c.toNat ≤ 0xdfff) := by omega
  have hlead : ¬ (0xd800 ≤ c.toNat ∧ c.toNat ≤ 0xdbff) := by omega
  simp only [escape, hunit, ok_bind, if_neg htail, if_neg hlead, Char.ofNat_toNat]
  rfl

/-- A character is read from its escape, or from itself. -/
theorem string_from_escape (n : Nat) (read : List Char) (c : Char) (rest : List Char) :
    stringFrom (n + 1) read (escapeChar c ++ rest) = stringFrom n (c :: read) rest := by
  unfold escapeChar
  -- The short escapes compute; what is left is a unit in four digits or the character itself.
  split
  · rfl
  · rfl
  · rfl
  · rfl
  · rfl
  · rfl
  · rfl
  · by_cases hlow : c.toNat < 0x20
    · rw [if_pos hlow]
      simp only [List.cons_append, List.nil_append, stringFrom, escape_unit hlow]
      rfl
    · rw [if_neg hlow]
      simp [stringFrom, hlow]

theorem string_from_write {cs : List Char} {n : Nat} (h : cs.length < n)
    (read rest : List Char) :
    stringFrom n read (cs.flatMap escapeChar ++ '"' :: rest) =
      .ok (String.ofList (read.reverse ++ cs), rest) := by
  induction cs generalizing n read with
  | nil =>
    obtain ⟨n, rfl⟩ : ∃ m, n = m + 1 := ⟨n - 1, by omega⟩
    simp [stringFrom]
  | cons c cs ih =>
    obtain ⟨n, rfl⟩ : ∃ m, n = m + 1 := ⟨n - 1, by omega⟩
    rw [List.flatMap_cons, List.append_assoc, string_from_escape]
    rw [ih (by simpa using h)]
    simp

theorem length_le_escaped (cs : List Char) : cs.length ≤ (cs.flatMap escapeChar).length := by
  induction cs with
  | nil => simp
  | cons c cs ih =>
    have hc := escape_char_length c
    rw [List.flatMap_cons, List.length_append, List.length_cons]
    omega

/-- A string is read from its text after the opening quote. -/
theorem string_write (s : String) (rest : List Char) :
    string (s.toList.flatMap escapeChar ++ '"' :: rest) = .ok (s, rest) := by
  have hlength := length_le_escaped s.toList
  rw [string, string_from_write (by rw [List.length_append]; omega)]
  simp

theorem write_string_append (s : String) (rest : List Char) :
    writeString s ++ rest = '"' :: (s.toList.flatMap escapeChar ++ '"' :: rest) := by
  simp [writeString]

/-! ## Containers -/

structure Closes (close : Char) : Prop where
  space : isSpace close = false
  comma : close ≠ ','
  ends : StopsNumber [close]

def trailing (text : α → List Char) (close : Char) : List α → List Char
  | [] => [close]
  | a :: as => ',' :: text a ++ trailing text close as

def contents (text : α → List Char) (close : Char) : List α → List Char
  | [] => [close]
  | a :: as => text a ++ trailing text close as

theorem write_items_eq (items : List Json) : writeItems items = trailing write ']' items := by
  induction items with
  | nil => rfl
  | cons item items ih => rw [writeItems, trailing, ih]

theorem write_arr (items : List Json) : write (.arr items) = '[' :: contents write ']' items := by
  cases items with
  | nil => rfl
  | cons item items => rw [write, write_items_eq, contents, List.cons_append]

def writeMember (member : String × Json) : List Char :=
  writeString member.1 ++ ':' :: write member.2

theorem write_members_eq (members : List (String × Json)) :
    writeMembers members = trailing writeMember '\x7d' members := by
  induction members with
  | nil => rfl
  | cons member members ih => simp [writeMembers, trailing, ih, writeMember]

theorem write_obj (members : List (String × Json)) :
    write (.obj members) = '\x7b' :: contents writeMember '\x7d' members := by
  cases members with
  | nil => rfl
  | cons member members => simp [write, write_members_eq, contents, writeMember]

/-- Each element in turn takes the state on. `Reached` tells the states after the first elements. -/
structure StepsThrough (step : σ → List Char → Except Fault (σ × List Char)) (close : Char)
    (text : α → List Char) (Reached : List α → σ → Prop) (all : List α) : Prop where
  starts : ∀ a ∈ all, ∃ c cs, text a = c :: cs ∧ isSpace c = false ∧ c ≠ close
  steps : ∀ done a todo s rest, all = done ++ a :: todo → Reached done s → StopsNumber rest →
    ∃ s', step s (text a ++ rest) = .ok (s', rest) ∧ Reached (done ++ [a]) s'

section Elements

variable {α σ : Type} {step : σ → List Char → Except Fault (σ × List Char)} {close : Char}
  {text : α → List Char} {all : List α} {Reached : List α → σ → Prop}

theorem trailing_cons (text : α → List Char) (a : α) (as : List α) (rest : List Char) :
    trailing text close (a :: as) ++ rest = ',' :: (text a ++ (trailing text close as ++ rest)) := by
  simp [trailing]

theorem contents_map {β : Type} (text : α → List Char) (f : β → α) (bs : List β) :
    contents text close (bs.map f) = contents (fun b => text (f b)) close bs := by
  have htrailing : ∀ bs : List β,
      trailing text close (bs.map f) = trailing (fun b => text (f b)) close bs := by
    intro bs
    induction bs with
    | nil => rfl
    | cons b bs ih => simp only [List.map_cons, trailing, ih]
  cases bs with
  | nil => rfl
  | cons b bs => simp only [List.map_cons, contents, htrailing]

theorem length_lt_trailing (text : α → List Char) (close : Char) (as : List α) :
    as.length < (trailing text close as).length := by
  induction as with
  | nil => simp [trailing]
  | cons a as ih =>
    rw [trailing, List.cons_append, List.length_cons, List.length_cons, List.length_append]
    omega

theorem trailing_ends (hclose : Closes close) (text : α → List Char) (as : List α)
    (rest : List Char) :
    StopsNumber (trailing text close as ++ rest) := by
  cases as with
  | nil => exact hclose.ends
  | cons a as =>
    rintro c ⟨⟩
    decide

theorem elements_from_close (hclose : Closes close) {s s' : σ} {cs rest : List Char}
    (h : step s cs = .ok (s', close :: rest)) (n : Nat) :
    elementsFrom step close (n + 1) s cs = .ok (s', rest) := by
  simp only [elementsFrom, h, ok_bind, skip_space_cons hclose.space, if_true]
  rfl

theorem elements_from_comma (hclose : Closes close) {s s' : σ} {cs rest : List Char}
    (h : step s cs = .ok (s', ',' :: rest)) (n : Nat) :
    elementsFrom step close (n + 1) s cs = elementsFrom step close n s' rest := by
  have hcomma : isSpace ',' = false := by decide
  simp only [elementsFrom, h, ok_bind, skip_space_cons hcomma, if_neg hclose.comma.symm, if_true]

theorem StepsThrough.elements_from (h : StepsThrough step close text Reached all)
    (hclose : Closes close) {done others : List α} {first : α} {s : σ}
    (hall : all = done ++ first :: others) (hreached : Reached done s) {n : Nat}
    (hn : others.length < n) (rest : List Char) :
    ∃ s', elementsFrom step close n s (text first ++ (trailing text close others ++ rest)) =
      .ok (s', rest) ∧ Reached all s' := by
  induction others generalizing done first s n with
  | nil =>
    obtain ⟨n, rfl⟩ : ∃ m, n = m + 1 := ⟨n - 1, by omega⟩
    obtain ⟨s', hs', hlast⟩ := h.steps done first [] s (close :: rest) hall hreached hclose.ends
    rw [← hall] at hlast
    exact ⟨s', elements_from_close hclose hs' n, hlast⟩
  | cons second others ih =>
    obtain ⟨n, rfl⟩ : ∃ m, n = m + 1 := ⟨n - 1, by omega⟩
    obtain ⟨s₁, hs₁, hdone⟩ :=
      h.steps done first _ s _ hall hreached (trailing_ends hclose text (second :: others) rest)
    have hall' : all = done ++ [first] ++ second :: others := by simpa using hall
    obtain ⟨s', hs', hlast⟩ := ih hall' hdone (by simpa using hn)
    refine ⟨s', ?_, hlast⟩
    rw [trailing_cons] at hs₁ ⊢
    rw [elements_from_comma hclose hs₁, hs']

/-- A container is read to its end, and all its elements have been taken. -/
theorem StepsThrough.elements (h : StepsThrough step close text Reached all)
    (hclose : Closes close) {s : σ} (hreached : Reached [] s) (rest : List Char) :
    ∃ s', Json.elements step close s (contents text close all ++ rest) = .ok (s', rest) ∧
      Reached all s' := by
  cases all with
  | nil =>
    refine ⟨s, ?_, hreached⟩
    rw [contents, List.singleton_append, Json.elements, skip_space_cons hclose.space]
    simp only [if_true]
  | cons first others =>
    obtain ⟨c, cs, hc, hspace, hne⟩ := h.starts first List.mem_cons_self
    have hlength := length_lt_trailing text close others
    obtain ⟨s', hs', hlast⟩ := h.elements_from hclose rfl hreached
      -- Each element takes a comma at least, so the length of the text bounds their number.
      (n := (cs ++ (trailing text close others ++ rest)).length + 1)
      (by simp only [List.length_append]; omega) rest
    refine ⟨s', ?_, hlast⟩
    rw [contents, List.append_assoc]
    rw [hc, List.cons_append] at hs' ⊢
    rw [Json.elements, skip_space_cons hspace]
    simp only [if_neg hne]
    exact hs'

end Elements

/-! ## Members -/

theorem insert_last {key : String} {value : Json} {members : List (String × Json)}
    (h : ∀ member ∈ members, member.1 < key) :
    insert key value members = members ++ [(key, value)] := by
  induction members with
  | nil => rfl
  | cons member members ih =>
    have hlt := h member List.mem_cons_self
    have hne : member.1 ≠ key := by
      intro heq
      rw [heq] at hlt
      exact String.lt_irrefl key hlt
    have hrest := ih fun other hother => h other (List.mem_cons_of_mem _ hother)
    simp only [insert, if_neg (String.lt_asymm hlt), if_neg hne, hrest, List.cons_append]

/-- Members that stand in order stay as they are. -/
theorem sort_members_sorted {members : List (String × Json)}
    (h : members.Pairwise fun a b => a.1 < b.1) : sortMembers members = members := by
  have hfold : ∀ before after : List (String × Json),
      (before ++ after).Pairwise (fun a b => a.1 < b.1) →
      after.foldl (fun sorted member => insert member.1 member.2 sorted) before =
        before ++ after := by
    intro before after
    induction after generalizing before with
    | nil => simp
    | cons member after ih =>
      intro hsorted
      have hlast : ∀ other ∈ before, other.1 < member.1 := by
        intro other hother
        exact (List.pairwise_append.mp hsorted).2.2 other hother member List.mem_cons_self
      rw [List.append_cons] at hsorted
      rw [List.foldl_cons, insert_last hlast, ih _ hsorted, ← List.append_cons]
  exact hfold [] members h

/-! ## Values -/

mutual

/-- The value with the members of its objects in order, as it is read. -/
def sorted : Json → Json
  | .null => .null
  | .bool b => .bool b
  | .int n => .int n
  | .float x => .float x
  | .str s => .str s
  | .arr items => .arr (sortedItems items)
  | .obj members => ofMembers (sortedMembers members)

def sortedItems : List Json → List Json
  | [] => []
  | item :: items => sorted item :: sortedItems items

def sortedMembers : List (String × Json) → List (String × Json)
  | [] => []
  | (key, value) :: members => (key, sorted value) :: sortedMembers members

end

theorem sorted_items_eq (items : List Json) : sortedItems items = items.map sorted := by
  induction items with
  | nil => rfl
  | cons item items ih => rw [sortedItems, ih, List.map_cons]

theorem sorted_members_eq (members : List (String × Json)) :
    sortedMembers members = members.map fun member => (member.1, sorted member.2) := by
  induction members with
  | nil => rfl
  | cons member members ih => rw [sortedMembers, ih, List.map_cons]

/-- A value that can be read from its text, with at most `depth` containers inside one another. -/
inductive Legible : Nat → Json → Prop where
  | null {depth} : Legible depth .null
  | bool {depth} (b : Bool) : Legible depth (.bool b)
  | int {depth n} (low : -(Word.signedBound : Int) ≤ n) (high : n < (Word.bound : Int)) :
      Legible depth (.int n)
  | str {depth} (s : String) : Legible depth (.str s)
  | arr {depth items} (each : ∀ item ∈ items, Legible depth item) : Legible (depth + 1) (.arr items)
  | obj {depth members} (each : ∀ member ∈ members, Legible depth member.2) :
      Legible (depth + 1) (.obj members)

/-- A value that its text keeps, with at most `depth` containers inside one another. -/
inductive Portable : Nat → Json → Prop where
  | null {depth} : Portable depth .null
  | bool {depth} (b : Bool) : Portable depth (.bool b)
  | int {depth n} (low : -(Word.signedBound : Int) ≤ n) (high : n < (Word.bound : Int)) :
      Portable depth (.int n)
  | str {depth} (s : String) : Portable depth (.str s)
  | arr {depth items} (each : ∀ item ∈ items, Portable depth item) : Portable (depth + 1) (.arr items)
  | obj {depth members} (sorted : members.Pairwise fun a b => a.1 < b.1)
      (each : ∀ member ∈ members, Portable depth member.2) : Portable (depth + 1) (.obj members)

theorem Portable.legible {depth : Nat} {v : Json} (h : Portable depth v) : Legible depth v := by
  induction h with
  | null => exact .null
  | bool b => exact .bool b
  | int low high => exact .int low high
  | str s => exact .str s
  | arr _ ih => exact .arr ih
  | obj _ _ ih => exact .obj ih

theorem Portable.sorted_eq {depth : Nat} {v : Json} (h : Portable depth v) : sorted v = v := by
  induction h with
  | null | bool | int | str => rfl
  | @arr _ items _ ih =>
    have hitems : items.map sorted = items := by
      rw [List.map_congr_left ih, List.map_id']
    rw [sorted, sorted_items_eq, hitems]
  | @obj _ members ordered _ ih =>
    have hmembers : members.map (fun member => (member.1, sorted member.2)) = members := by
      rw [List.map_congr_left fun member hmember => congrArg (member.1, ·) (ih member hmember),
        List.map_id']
    rw [sorted, sorted_members_eq, hmembers, ofMembers, sort_members_sorted ordered]

theorem to_digits_first (n : Nat) : ∃ c cs, Nat.toDigits 10 n = c :: cs ∧ c.isDigit = true := by
  obtain ⟨c, cs, hcs⟩ := List.exists_cons_of_ne_nil (Nat.toDigits_ne_nil (n := n) (b := 10))
  have hmem : c ∈ Nat.toDigits 10 n := by simp [hcs]
  exact ⟨c, cs, hcs, Nat.isDigit_of_mem_toDigits (by decide) (by decide) hmem⟩

theorem value_digit {c : Char} (h : c.isDigit = true) (depth : Nat) (cs : List Char) :
    value depth (c :: cs) = number false (c :: cs) := by
  unfold value
  rw [skip_space_cons (digit_not_blank h)]
  -- No other kind of value begins with a digit.
  split
  · next heq => cases heq
  · next heq => cases heq; cases h
  · next heq => cases heq; cases h
  · next heq => cases heq; cases h
  · next heq => cases heq; cases h
  · next heq => cases heq; cases h
  · next heq => cases heq; cases h
  · next heq => cases heq; cases h
  · next heq => cases heq; rw [if_pos h]

theorem value_write_int {n : Int} (hlow : -(Word.signedBound : Int) ≤ n)
    (hhigh : n < (Word.bound : Int)) {rest : List Char} (hrest : StopsNumber rest) (depth : Nat) :
    value depth (writeInt n ++ rest) = .ok (.int n, rest) := by
  have hbounds : Word.signedBound < Word.bound := by decide
  have hfits : n.natAbs < Word.bound := by omega
  by_cases hneg : n < 0
  · have hsmall : ¬ (n.natAbs = 0 ∨ Word.signedBound < n.natAbs) := by omega
    have hvalue : (-(n.natAbs : Int)) = n := by omega
    have hminus : isSpace '-' = false := by decide
    rw [writeInt, if_pos hneg, List.cons_append]
    simp only [value, skip_space_cons hminus, number_digits hfits hrest, wholeNumber, if_true,
      if_neg hsmall, hvalue]
  · obtain ⟨c, cs, hcs, hc⟩ := to_digits_first n.natAbs
    have hvalue : (n.natAbs : Int) = n := by omega
    have hnumber := number_digits hfits hrest false
    rw [writeInt, if_neg hneg]
    rw [hcs, List.cons_append] at hnumber ⊢
    rw [value_digit hc, hnumber]
    simp [wholeNumber, hvalue]

/-- The first character of a value's text, by which the reader tells what comes. -/
theorem Legible.write_head {depth : Nat} {v : Json} (h : Legible depth v) :
    ∃ c cs, write v = c :: cs ∧ isSpace c = false ∧ c ≠ ']' ∧ c ≠ '\x7d' ∧
      (c = 'n' → v = .null) := by
  cases h with
  | null => exact ⟨_, _, rfl, by decide, by decide, by decide, fun _ => rfl⟩
  | bool b => cases b <;> exact ⟨_, _, rfl, by decide, by decide, by decide, by simp⟩
  | @int _ n =>
    by_cases hneg : n < 0
    · rw [write, writeInt, if_pos hneg]
      exact ⟨_, _, rfl, by decide, by decide, by decide, by simp⟩
    · obtain ⟨c, cs, hcs, hc⟩ := to_digits_first n.natAbs
      rw [write, writeInt, if_neg hneg]
      refine ⟨c, cs, hcs, digit_not_blank hc, ?_, ?_, ?_⟩
      · rintro rfl; cases hc
      · rintro rfl; cases hc
      · rintro rfl; cases hc
  | str => exact ⟨_, _, rfl, by decide, by decide, by decide, by simp⟩
  | @arr _ items => cases items <;> exact ⟨_, _, rfl, by decide, by decide, by decide, by simp⟩
  | @obj _ members => cases members <;> exact ⟨_, _, rfl, by decide, by decide, by decide, by simp⟩

theorem bracket_closes : Closes ']' where
  space := by decide
  comma := by decide
  ends := by
    rintro c ⟨⟩
    decide

theorem brace_closes : Closes '\x7d' where
  space := by decide
  comma := by decide
  ends := by
    rintro c ⟨⟩
    decide

section Containers

variable {depth : Nat} {item : List Char → Except Fault (Json × List Char)}

theorem array_items_write {f : Json → Json} {items : List Json}
    (hlegible : ∀ v ∈ items, Legible depth v)
    (hitem : ∀ v ∈ items, ∀ rest, StopsNumber rest → item (write v ++ rest) = .ok (f v, rest))
    (rest : List Char) :
    arrayItems item (contents write ']' items ++ rest) = .ok (items.map f, rest) := by
  have hsteps : StepsThrough (itemStep item) ']' write
      (fun done read => read = (done.map f).reverse) items := by
    constructor
    · intro v hv
      obtain ⟨c, cs, hc, hspace, hbracket, _⟩ := (hlegible v hv).write_head
      exact ⟨c, cs, hc, hspace, hbracket⟩
    · rintro done v todo _ rest hall rfl hrest
      have hv := hitem v (by simp [hall]) rest hrest
      refine ⟨f v :: (done.map f).reverse, ?_, by simp⟩
      simp only [itemStep, hv, ok_bind]
      rfl
  obtain ⟨read, hread, rfl⟩ := hsteps.elements bracket_closes rfl rest
  rw [List.map_nil, List.reverse_nil] at hread
  simp only [arrayItems, hread, ok_bind, List.reverse_reverse]
  rfl

theorem member_key_write (key : String) (rest : List Char) :
    memberKey (writeString key ++ rest) = .ok (key, rest) := by
  have hquote : isSpace '"' = false := by decide
  rw [write_string_append, memberKey, skip_space_cons hquote]
  exact string_write key rest

theorem members_write {f : Json → Json} {members : List (String × Json)}
    (hitem : ∀ member ∈ members, ∀ rest, StopsNumber rest →
      item (write member.2 ++ rest) = .ok (f member.2, rest)) (rest : List Char) :
    elements (memberStep item) '\x7d' [] (contents writeMember '\x7d' members ++ rest) =
      .ok ((members.map fun member => (member.1, f member.2)).reverse, rest) := by
  have hsteps : StepsThrough (memberStep item) '\x7d' writeMember
      (fun done read => read = (done.map fun member => (member.1, f member.2)).reverse) members := by
    constructor
    · intro member hmember
      exact ⟨'"', _, rfl, by decide, by decide⟩
    · rintro done member todo _ rest hall rfl hrest
      have hv := hitem member (by simp [hall]) rest hrest
      have hcolon : isSpace ':' = false := by decide
      refine ⟨(member.1, f member.2) :: (done.map fun member => (member.1, f member.2)).reverse, ?_,
        by simp⟩
      rw [writeMember, List.append_assoc, List.cons_append, memberStep]
      simp only [member_key_write, ok_bind, colon, skip_space_cons hcolon, hv]
      rfl
  obtain ⟨read, hread, rfl⟩ := hsteps.elements brace_closes rfl rest
  exact hread

end Containers

/-- The reader takes the text of a value for that value in order. -/
theorem Legible.value_write {depth : Nat} {v : Json} (h : Legible depth v) {rest : List Char}
    (hrest : StopsNumber rest) : value depth (write v ++ rest) = .ok (sorted v, rest) := by
  induction h generalizing rest with
  | null => rw [value]; rfl
  | bool b => cases b <;> rw [value] <;> rfl
  | int low high => exact value_write_int low high hrest _
  | str s =>
    have hquote : isSpace '"' = false := by decide
    rw [write, write_string_append]
    simp only [value, skip_space_cons hquote, string_write, ok_bind]
    rfl
  | @arr depth items each ih =>
    have hbracket : isSpace '[' = false := by decide
    have hitems := array_items_write each (fun v hv _ => ih v hv) rest
    rw [write_arr, List.cons_append, sorted, sorted_items_eq]
    simp only [value, skip_space_cons hbracket, hitems, ok_bind]
    rfl
  | @obj depth members each ih =>
    have hbrace : isSpace '\x7b' = false := by decide
    have hmembers := members_write (fun member hmember _ => ih member hmember) rest
    rw [write_obj, List.cons_append, sorted, sorted_members_eq]
    simp only [value, skip_space_cons hbrace, hmembers, ok_bind, List.reverse_reverse]
    rfl

theorem Portable.value_write {depth : Nat} {v : Json} (h : Portable depth v) {rest : List Char}
    (hrest : StopsNumber rest) : value depth (write v ++ rest) = .ok (v, rest) := by
  have hvalue := h.legible.value_write hrest
  rwa [h.sorted_eq] at hvalue

theorem finish_end (a : α) : finish (.ok (a, [])) = .ok a := rfl

theorem Legible.parse_compact {v : Json} (h : Legible depthLimit v) :
    parse v.compact = .ok v.sorted := by
  have hvalue := h.value_write stops_number_nil
  rw [List.append_nil] at hvalue
  rw [parse, compact, String.toList_ofList, hvalue, finish_end]

end Lineflow.Json
