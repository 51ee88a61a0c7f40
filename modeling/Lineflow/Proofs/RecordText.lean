import Lineflow.Proofs.JsonText
import Lineflow.Wire.Record

/-! # Records that come back

A record is read back from its text field by field, in the order in which it was written. All that
is lost is a null in a field of its own: such a field counts as absent. It is the reader that loses
it, since no two records have the same text.
-/
namespace Lineflow.Record

open Json (Fault)

/-! ## Fields -/

def held (r : Record) : Slot → Option Json
  | .action => r.action.map .str
  | .wait => r.wait.map .ofNat
  | .result => r.result
  | .keys => r.keys.map .arr
  | .values => r.values.map .arr
  | .key => r.key
  | .value => r.value

theorem ext_held {a b : Record} (h : ∀ slot, a.held slot = b.held slot) : a = b := by
  have haction : a.action = b.action :=
    Option.map_injective (fun _ _ => Json.str.inj) (h .action)
  have hwait : a.wait = b.wait :=
    Option.map_injective (fun _ _ heq => Int.ofNat.inj (Json.int.inj heq)) (h .wait)
  have hkeys : a.keys = b.keys := Option.map_injective (fun _ _ => Json.arr.inj) (h .keys)
  have hvalues : a.values = b.values := Option.map_injective (fun _ _ => Json.arr.inj) (h .values)
  have hresult : a.result = b.result := h .result
  have hkey : a.key = b.key := h .key
  have hvalue : a.value = b.value := h .value
  cases a
  cases b
  simp only at haction hwait hkeys hvalues hresult hkey hvalue
  rw [haction, hwait, hkeys, hvalues, hresult, hkey, hvalue]

def present (r : Record) : List (Slot × Json) :=
  Slot.all.filterMap fun slot => (r.held slot).map fun v => (slot, v)

theorem mem_present {r : Record} {slot : Slot} {v : Json} :
    (slot, v) ∈ r.present ↔ r.held slot = some v := by
  have hall : ∀ slot, slot ∈ Slot.all := by
    intro slot
    cases slot <;> decide
  simp [present, hall]

theorem present_distinct (r : Record) : r.present.Pairwise fun p q => p.1 ≠ q.1 := by
  have hall : Slot.all.Pairwise (· ≠ ·) := by decide
  refine List.pairwise_filterMap.mpr (hall.imp ?_)
  intro slot other hne p hp q hq
  obtain ⟨_, _, rfl⟩ := Option.map_eq_some_iff.mp hp
  obtain ⟨_, _, rfl⟩ := Option.map_eq_some_iff.mp hq
  exact hne

theorem filter_map_cons {f : α → Option β} (a : α) (as : List α) :
    (a :: as).filterMap f = (f a).toList ++ as.filterMap f := by
  cases h : f a <;> simp [h]

theorem to_json_eq (r : Record) :
    r.toJson = .obj (r.present.map fun p => (p.1.label, p.2)) := by
  simp only [present, Slot.all, filter_map_cons, List.filterMap_nil]
  simp [toJson, field, held, Slot.label, Function.comp_def, Option.toList_map]

/-! ## Reading one field -/

/-- The records whose text keeps them, but for nulls. -/
structure Portable (r : Record) : Prop where
  wait : ∀ n ∈ r.wait, n < Word.bound
  result : ∀ v ∈ r.result, v.Portable depthLimit
  keys : ∀ items ∈ r.keys, ∀ v ∈ items, v.Portable (depthLimit - 1)
  values : ∀ items ∈ r.values, ∀ v ∈ items, v.Portable (depthLimit - 1)
  key : ∀ v ∈ r.key, v.Portable depthLimit
  value : ∀ v ∈ r.value, v.Portable depthLimit

def dropNull : Option Json → Option Json
  | some .null => none
  | field => field

/-- What a reader finds: nulls are absent fields. -/
def settled (r : Record) : Record :=
  { r with result := dropNull r.result, key := dropNull r.key, value := dropNull r.value }

def put (r other : Record) : Slot → Record
  | .action => { r with action := other.action }
  | .wait => { r with wait := other.wait }
  | .result => { r with result := other.result }
  | .keys => { r with keys := other.keys }
  | .values => { r with values := other.values }
  | .key => { r with key := other.key }
  | .value => { r with value := other.value }

theorem put_held (r other : Record) (slot asked : Slot) :
    (r.put other slot).held asked = if asked = slot then other.held slot else r.held asked := by
  cases slot <;> cases asked <;> rfl

section Slots

variable {rest : List Char}

theorem or_null_read {read : List Char → Except Fault (α × List Char)} {c : Char} {cs : List Char}
    {a : α} (hspace : Json.isSpace c = false) (hnull : c ≠ 'n')
    (hread : read (c :: cs) = .ok (a, rest)) : orNull read (c :: cs) = .ok (some a, rest) := by
  unfold orNull
  rw [Json.skip_space_cons hspace]
  split
  · next heq => cases heq
  · next heq => cases heq; exact absurd rfl hnull
  · simp only [hread, Json.ok_bind]
    rfl

theorem or_null_text (s : String) (rest : List Char) :
    orNull readText (Json.write (.str s) ++ rest) = .ok (some s, rest) := by
  rw [Json.write, Json.write_string_append]
  exact or_null_read (by decide) (by decide) (Json.string_write s rest)

theorem or_null_seconds {n : Nat} (hn : n < Word.bound) (hrest : Json.StopsNumber rest) :
    orNull readSeconds (Json.write (.ofNat n) ++ rest) = .ok (some n, rest) := by
  obtain ⟨c, cs, hcs, hc⟩ := Json.to_digits_first n
  have hwrite : Json.write (.ofNat n) = c :: cs := by
    simp [Json.write, Json.ofNat, Json.writeInt, hcs]
  have hminus : c ≠ '-' := by rintro rfl; cases hc
  have hnull : c ≠ 'n' := by rintro rfl; cases hc
  have hnumber := Json.number_digits hn hrest false
  rw [hcs, List.cons_append] at hnumber
  have hread : readSeconds (c :: (cs ++ rest)) = .ok (n, rest) := by
    simp [readSeconds, hc, hnumber, Json.wholeNumber]
  rw [hwrite]
  exact or_null_read (Json.digit_not_blank hc) hnull hread

theorem or_null_value {v : Json} {depth : Nat} (hv : v.Portable depth) (hrest : Json.StopsNumber rest) :
    orNull (Json.value depth) (v.write ++ rest) = .ok (dropNull (some v), rest) := by
  by_cases hnull : v = .null
  · subst hnull
    rfl
  · obtain ⟨c, cs, hc, hspace, _, _, hn⟩ := hv.legible.write_head
    have hread := hv.value_write hrest
    have hkept : dropNull (some v) = some v := by
      cases v with
      | null => exact absurd rfl hnull
      | _ => rfl
    rw [hkept]
    rw [hc, List.cons_append] at hread ⊢
    exact or_null_read hspace (fun heq => hnull (hn heq)) hread

theorem or_null_items {items : List Json}
    (hitems : ∀ v ∈ items, v.Portable (depthLimit - 1)) (rest : List Char) :
    orNull readItems (Json.write (.arr items) ++ rest) = .ok (some items, rest) := by
  have hread := Json.array_items_write (fun v hv => (hitems v hv).legible)
    (fun v hv _ => (hitems v hv).value_write) rest
  rw [List.map_id'] at hread
  rw [Json.write_arr, List.cons_append]
  exact or_null_read (by decide) (by decide) hread

/-- A field is read from its text into the record that there is. -/
theorem read_slot_write {r : Record} (h : r.Portable) {slot : Slot} {v : Json}
    (hv : r.held slot = some v) (hrest : Json.StopsNumber rest) (before : Record) :
    readSlot before slot (v.write ++ rest) = .ok (before.put r.settled slot, rest) := by
  cases slot with
  | action =>
    obtain ⟨s, hs, rfl⟩ := Option.map_eq_some_iff.mp hv
    simp only [readSlot, or_null_text, Json.ok_bind, put, settled, hs]
    rfl
  | wait =>
    obtain ⟨n, hn, rfl⟩ := Option.map_eq_some_iff.mp hv
    simp only [readSlot, or_null_seconds (h.wait n hn) hrest, Json.ok_bind, put, settled, hn]
    rfl
  | keys =>
    obtain ⟨items, hitems, rfl⟩ := Option.map_eq_some_iff.mp hv
    simp only [readSlot, or_null_items (h.keys items hitems), Json.ok_bind, put, settled, hitems]
    rfl
  | values =>
    obtain ⟨items, hitems, rfl⟩ := Option.map_eq_some_iff.mp hv
    simp only [readSlot, or_null_items (h.values items hitems), Json.ok_bind, put, settled, hitems]
    rfl
  | result =>
    have hfield : r.result = some v := hv
    simp only [readSlot, or_null_value (h.result v hv) hrest, Json.ok_bind, put, settled, hfield]
    rfl
  | key =>
    have hfield : r.key = some v := hv
    simp only [readSlot, or_null_value (h.key v hv) hrest, Json.ok_bind, put, settled, hfield]
    rfl
  | value =>
    have hfield : r.value = some v := hv
    simp only [readSlot, or_null_value (h.value v hv) hrest, Json.ok_bind, put, settled, hfield]
    rfl

end Slots

/-! ## Reading all fields -/

theorem of_label_label (slot : Slot) : Slot.ofLabel? slot.label = some slot := by
  cases slot <;> decide

theorem settled_absent {r : Record} {slot : Slot} (h : r.held slot = none) :
    r.settled.held slot = none := by
  cases slot with
  | action => exact h
  | wait => exact h
  | keys => exact h
  | values => exact h
  | result =>
    have hfield : r.result = none := h
    simp [settled, held, hfield, dropNull]
  | key =>
    have hfield : r.key = none := h
    simp [settled, held, hfield, dropNull]
  | value =>
    have hfield : r.value = none := h
    simp [settled, held, hfield, dropNull]

/-- The record after some fields: they are those of `r`, and the others are absent. -/
def ReadUpTo (r : Record) (done : List (Slot × Json)) (state : Record × List Slot) : Prop :=
  state.2 = (done.map Prod.fst).reverse ∧
    ∀ slot, state.1.held slot = if slot ∈ done.map Prod.fst then r.settled.held slot else none

theorem ReadUpTo.all_present {r : Record} {state : Record × List Slot}
    (h : ReadUpTo r r.present state) : state.1 = r.settled := by
  apply ext_held
  intro slot
  rw [h.2]
  split
  · rfl
  · next habsent =>
    have hnone : r.held slot = none := by
      cases hheld : r.held slot with
      | none => rfl
      | some v =>
        have hmem : (slot, v) ∈ r.present := mem_present.mpr hheld
        exact absurd (List.mem_map_of_mem hmem) habsent
    exact (settled_absent hnone).symm

theorem Portable.steps_through {r : Record} (h : r.Portable) :
    Json.StepsThrough readMember '\x7d' (fun p => Json.writeMember (p.1.label, p.2)) (ReadUpTo r)
      r.present := by
  constructor
  · intro p _
    exact ⟨'"', _, rfl, by decide, by decide⟩
  · rintro done ⟨slot, v⟩ todo ⟨before, seen⟩ rest hall ⟨rfl, hbefore⟩ hrest
    have hheld : r.held slot = some v := mem_present.mp (by simp [hall])
    have hnew : slot ∉ done.map Prod.fst := by
      have hdistinct := r.present_distinct
      rw [hall] at hdistinct
      intro hmem
      obtain ⟨p, hp, rfl⟩ := List.mem_map.mp hmem
      exact (List.pairwise_append.mp hdistinct).2.2 p hp _ List.mem_cons_self rfl
    have hcolon : Json.isSpace ':' = false := by decide
    refine ⟨(before.put r.settled slot, slot :: (done.map Prod.fst).reverse), ?_, by simp, ?_⟩
    · rw [Json.writeMember, List.append_assoc, List.cons_append]
      simp only [readMember, Json.member_key_write, Json.ok_bind, of_label_label, List.mem_reverse,
        if_neg hnew, Json.colon, Json.skip_space_cons hcolon, read_slot_write h hheld hrest]
      rfl
    · intro other
      simp only [put_held, hbefore, List.map_append, List.mem_append, List.map_cons, List.map_nil,
        List.mem_singleton]
      by_cases hother : other = slot
      · simp [hother]
      · simp only [hother, or_false, if_false]

/-- A record is read back without the nulls in its fields. -/
theorem Portable.decode_encode {r : Record} (h : r.Portable) : decode r.encode = .ok r.settled := by
  have hbrace : Json.isSpace '\x7b' = false := by decide
  have hstart : ReadUpTo r [] ({}, []) := by
    refine ⟨rfl, ?_⟩
    intro slot
    cases slot <;> rfl
  obtain ⟨⟨read, seen⟩, hread, hall⟩ := h.steps_through.elements Json.brace_closes hstart []
  rw [List.append_nil] at hread
  have hsettled : read = r.settled := hall.all_present
  subst hsettled
  rw [decode, encode, Json.compact, String.toList_ofList, to_json_eq, Json.write_obj,
    Json.contents_map, Record.read, Json.skip_space_cons hbrace]
  simp only [hread, Json.ok_bind]
  rfl

/-! ## Telling records apart -/

theorem label_injective {a b : Slot} (h : a.label = b.label) : a = b := by
  have hlabel := of_label_label a
  rw [h, of_label_label] at hlabel
  exact (Option.some.inj hlabel).symm

theorem Portable.held_portable {r : Record} (h : r.Portable) {slot : Slot} {v : Json}
    (hv : r.held slot = some v) : v.Portable depthLimit := by
  cases slot with
  | action =>
    obtain ⟨s, _, rfl⟩ := Option.map_eq_some_iff.mp hv
    exact .str s
  | wait =>
    obtain ⟨n, hn, rfl⟩ := Option.map_eq_some_iff.mp hv
    have hbound := h.wait n hn
    exact .int (by omega) (by omega)
  | keys =>
    obtain ⟨items, hitems, rfl⟩ := Option.map_eq_some_iff.mp hv
    exact .arr (h.keys items hitems)
  | values =>
    obtain ⟨items, hitems, rfl⟩ := Option.map_eq_some_iff.mp hv
    exact .arr (h.values items hitems)
  | result => exact h.result v hv
  | key => exact h.key v hv
  | value => exact h.value v hv

def members (r : Record) : List (String × Json) := r.present.map fun p => (p.1.label, p.2)

theorem members_injective {r s : Record} (h : r.members = s.members) : r = s := by
  have hpresent : r.present = s.present := by
    refine (List.map_inj_right ?_).mp h
    rintro ⟨a, v⟩ ⟨b, w⟩ heq
    obtain ⟨hlabel, hvalue⟩ := Prod.mk.inj heq
    exact Prod.ext (label_injective hlabel) hvalue
  apply ext_held
  intro slot
  apply Option.ext
  intro v
  rw [← mem_present, hpresent, mem_present]

/-- A reader of any object finds all the fields, since it keeps nulls. -/
theorem Portable.members_read {r : Record} (h : r.Portable) :
    Json.elements (Json.memberStep (Json.value depthLimit)) '\x7d' []
      (Json.contents Json.writeMember '\x7d' r.members) = .ok (r.members.reverse, []) := by
  have hread : ∀ member ∈ r.members, ∀ rest, Json.StopsNumber rest →
      Json.value depthLimit (member.2.write ++ rest) = .ok (member.2, rest) := by
    intro member hmember rest hrest
    obtain ⟨⟨slot, v⟩, hpresent, rfl⟩ := List.mem_map.mp hmember
    exact (h.held_portable (mem_present.mp hpresent)).value_write hrest
  have hmembers := Json.members_write (f := id) hread []
  simpa using hmembers

theorem Portable.encode_injective {r s : Record} (hr : r.Portable) (hs : s.Portable)
    (h : r.encode = s.encode) : r = s := by
  have htext : r.toJson.write = s.toJson.write := String.ofList_inj.mp h
  rw [to_json_eq, to_json_eq, Json.write_obj, Json.write_obj] at htext
  have hcontents : Json.contents Json.writeMember '\x7d' r.members =
      Json.contents Json.writeMember '\x7d' s.members := (List.cons.inj htext).2
  have hread := hr.members_read
  rw [hcontents, hs.members_read] at hread
  obtain ⟨hmembers, _⟩ := Prod.mk.inj (Except.ok.inj hread)
  exact (members_injective (List.reverse_inj.mp hmembers)).symm

/-- A record is read back from its text with all its fields, but a null in a field of its own is read
as none. Writing loses nothing: records with the same text are the same. -/
theorem record_read_back :
    (∀ r : Record, r.Portable → decode r.encode = .ok
      { r with result := dropNull r.result, key := dropNull r.key, value := dropNull r.value }) ∧
      ∀ r s : Record, r.Portable → s.Portable → r.encode = s.encode → r = s := by
  constructor
  · intro r hr
    exact hr.decode_encode
  · intro r s hr hs
    exact hr.encode_injective hs

def nullsRecord : Record where
  wait := some 18446744073709551615
  result := some .null
  keys := some []
  values := some [.null, .int (-9223372036854775808)]
  key := some .null

theorem nulls_record_portable : nullsRecord.Portable where
  wait := by
    rintro n ⟨⟩
    decide
  result := by
    rintro v ⟨⟩
    exact .null
  keys := by
    rintro items ⟨⟩ v hv
    cases hv
  values := by
    rintro items ⟨⟩ v hv
    rcases List.mem_cons.mp hv with rfl | hv
    · exact .null
    · rw [List.mem_singleton.mp hv]
      exact .int (by decide) (by decide)
  key := by
    rintro v ⟨⟩
    exact .null
  value := by simp [nullsRecord]

/-- The nulls in fields of their own are lost, and yet there is no other record with that text. -/
theorem nulls_read_back :
    decode nullsRecord.encode = .ok { wait := some 18446744073709551615, keys := some []
                                      values := some [.null, .int (-9223372036854775808)] } ∧
      ∀ other : Record, other.Portable → other.encode = nullsRecord.encode →
        other = nullsRecord := by
  constructor
  · exact record_read_back.1 nullsRecord nulls_record_portable
  · intro other hother
    exact record_read_back.2 other nullsRecord hother nulls_record_portable

end Lineflow.Record
