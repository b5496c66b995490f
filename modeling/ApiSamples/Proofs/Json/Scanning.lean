import ApiSamples.Json.Scanner
import ApiSamples.Proofs.Json.Quoted
import ApiSamples.Proofs.Number.ReadBack

namespace ApiSamples.Document

open Numeral

def entries (fields : List (String × Document)) : List (Document × Document) :=
  fields.map fun (key, value) => entry key value

theorem entries_cons (key : String) (value : Document) (fields : List (String × Document)) :
    entries ((key, value) :: fields) = (string key, value) :: entries fields := rfl

theorem record_eq (fields : List (String × Document)) : record fields = object (entries fields) true := rfl

/-- A tree without faults whose numbers are read back. -/
inductive Readable : Document → Prop
  | null : Readable null
  | bool (b : Bool) : Readable (bool b)
  | number {n : Number} (h : Number.ofText? n.text = some n) : Readable (number n)
  | string (s : String) : Readable (string s)
  | list {items : List Document} (h : ∀ item ∈ items, Readable item) : Readable (list items)
  | record {fields : List (String × Document)} (h : ∀ field ∈ fields, Readable field.2) :
    Readable (record fields)

/-- The tree is read off its text, whatever follows that is no part of a numeral, and what follows is
left. -/
def ScansBack (d : Document) : Prop :=
  ∀ fuel rest, Ends rest → 2 * d.text.toList.length ≤ fuel →
    scanValue fuel (d.text.toList ++ rest) = (d, rest)

variable {d : Document} {items : List Document} {fields : List (String × Document)}

theorem skipSpace_cons {c : Char} (h : isSpace c = false) (cs : List Char) :
    skipSpace (c :: cs) = c :: cs := by
  simp [skipSpace, h]

theorem isSpace_of_isNumeric {c : Char} (h : isNumeric c = true) : isSpace c = false := by
  have hcode := graphic_of_isNumeric h
  simp only [isSpace, Bool.or_eq_false_iff, decide_eq_false_iff_not]
  refine ⟨⟨⟨?_, ?_⟩, ?_⟩, ?_⟩ <;>
    · rintro rfl
      revert hcode
      decide

theorem toList_quote (s : String) :
    (Quoted.quote s).toList = '"' :: (s.toList.flatMap Quoted.escape ++ ['"']) := by
  simp [Quoted.quote, Quoted.encode]

theorem toList_text_list (items : List Document) :
    (list items).text.toList = '[' :: ((itemsText items).toList ++ [']']) := by
  have hopen : "[".toList = ['['] := rfl
  have hclose : "]".toList = [']'] := rfl
  simp [list, text, hopen, hclose]

theorem toList_itemsText (item other : Document) (items : List Document) :
    (itemsText (item :: other :: items)).toList =
      item.text.toList ++ ',' :: (itemsText (other :: items)).toList := by
  have hcomma : ",".toList = [','] := rfl
  simp [itemsText, hcomma]

def fieldsText (fields : List (String × Document)) : List Char :=
  (entriesText (entries fields)).toList

theorem toList_text_record (fields : List (String × Document)) :
    (record fields).text.toList = '\x7b' :: (fieldsText fields ++ ['\x7d']) := by
  have hopen : "\x7b".toList = ['\x7b'] := rfl
  have hclose : "\x7d".toList = ['\x7d'] := rfl
  simp [record_eq, text, fieldsText, hopen, hclose]

theorem fieldsText_singleton (key : String) (value : Document) :
    fieldsText [(key, value)] = (string key).text.toList ++ ':' :: value.text.toList := by
  have hcolon : ":".toList = [':'] := rfl
  simp [fieldsText, entries, entriesText, entry, hcolon]

theorem fieldsText_cons (key : String) (value : Document) (field : String × Document)
    (fields : List (String × Document)) :
    fieldsText ((key, value) :: field :: fields) =
      (string key).text.toList ++ ':' :: (value.text.toList ++ ',' :: fieldsText (field :: fields)) := by
  have hcolon : ":".toList = [':'] := rfl
  have hcomma : ",".toList = [','] := rfl
  simp [fieldsText, entries, entriesText, entry, hcolon, hcomma]

theorem scanNumber_text {n : Number} (hn : Number.ofText? n.text = some n) {rest : List Char}
    (hr : Ends rest) : scanNumber (n.text.toList ++ rest) = (number n, rest) := by
  unfold Number.ofText? at hn
  split at hn
  · next numeral hscan =>
    rw [scanNumber, undisturbed_scan hr, hscan]
    simp [hn]
  · cases hn

/-- A text that begins like a numeral is read as one. -/
theorem scanValue_of_numeric {c : Char} (hc : isNumeric c = true) (fuel : Nat) (cs : List Char) :
    scanValue (fuel + 1) (c :: cs) = scanNumber (c :: cs) := by
  have hother : ∀ {d : Char}, isNumeric d = false → c ≠ d := by
    rintro d hd rfl
    rw [hc] at hd
    cases hd
  rw [scanValue, skipSpace_cons (isSpace_of_isNumeric hc)]
  split
  case h_7 => rfl
  all_goals next h => exact absurd (List.cons.inj h).1 (hother (by decide))

theorem Readable.opens (h : d.Readable) :
    ∃ c cs, d.text.toList = c :: cs ∧ isSpace c = false ∧ c ≠ ']' := by
  cases h with
  | null => exact ⟨'n', _, rfl, by decide, by decide⟩
  | bool b => cases b <;> exact ⟨_, _, rfl, by decide, by decide⟩
  | @number n h =>
    obtain ⟨hne, hall⟩ := numeric_text n
    obtain ⟨c, cs, hc⟩ := List.exists_cons_of_ne_nil hne
    have hnumeric : isNumeric c = true := List.all_eq_true.mp hall c (by simp [hc])
    refine ⟨c, cs, hc, isSpace_of_isNumeric hnumeric, ?_⟩
    rintro rfl
    revert hnumeric
    decide
  | string s => exact ⟨'"', _, toList_quote s, by decide, by decide⟩
  | list h => exact ⟨'[', _, toList_text_list _, by decide, by decide⟩
  | record h => exact ⟨'\x7b', _, toList_text_record _, by decide, by decide⟩

theorem readable_text? (s : Option String) : (text? s).Readable := by
  cases s with
  | none => exact .null
  | some s => exact .string s

theorem readable_list {α : Type} {write : α → Document} {as : List α}
    (h : ∀ a ∈ as, (write a).Readable) : (list (as.map write)).Readable := by
  refine .list fun item hi => ?_
  obtain ⟨a, ha, rfl⟩ := List.mem_map.mp hi
  exact h a ha

theorem Readable.ne_broken (h : d.Readable) : d ≠ broken := by
  rintro rfl
  cases h

theorem scanItems_last {fuel : Nat} {cs rest : List Char} (h : scanValue fuel cs = (d, ']' :: rest))
    (hb : d ≠ broken) : scanItems (fuel + 1) cs = ([d], some rest) := by
  rw [scanItems, h]
  cases d <;> first | rfl | exact absurd rfl hb

theorem scanItems_next {fuel : Nat} {cs more : List Char} {after : Option (List Char)}
    (h : scanValue fuel cs = (d, ',' :: more)) (hb : d ≠ broken)
    (hm : scanItems fuel more = (items, after)) : scanItems (fuel + 1) cs = (d :: items, after) := by
  have hskip : skipSpace (',' :: more) = ',' :: more := skipSpace_cons (by decide) more
  rw [scanItems, h]
  cases d <;> first | exact absurd rfl hb | simp only [hskip, hm]

theorem scanItems_text (hne : items ≠ []) (hread : ∀ item ∈ items, item.Readable)
    (hscan : ∀ item ∈ items, item.ScansBack) {fuel : Nat} (rest : List Char)
    (hfuel : 2 * (itemsText items).toList.length + 1 ≤ fuel) :
    scanItems fuel ((itemsText items).toList ++ ']' :: rest) = (items, some rest) := by
  induction items generalizing fuel with
  | nil => exact absurd rfl hne
  | cons item items ih =>
    obtain ⟨fuel, rfl⟩ : ∃ n, fuel = n + 1 := ⟨fuel - 1, by omega⟩
    have hbroken := (hread item List.mem_cons_self).ne_broken
    have hitem := hscan item List.mem_cons_self
    cases items with
    | nil =>
      have hvalue := hitem fuel (']' :: rest) (ends_cons (by decide)) (by simpa [itemsText] using hfuel)
      exact scanItems_last hvalue hbroken
    | cons other items =>
      rw [toList_itemsText, List.length_append, List.length_cons] at hfuel
      have hvalue := hitem fuel (',' :: ((itemsText (other :: items)).toList ++ ']' :: rest))
        (ends_cons (by decide)) (by omega)
      have hmore : scanItems fuel ((itemsText (other :: items)).toList ++ ']' :: rest) =
          (other :: items, some rest) :=
        ih (List.cons_ne_nil _ _) (fun i hi => hread i (List.mem_cons_of_mem item hi))
          (fun i hi => hscan i (List.mem_cons_of_mem item hi)) (by omega)
      rw [toList_itemsText, List.append_assoc]
      exact scanItems_next hvalue hbroken hmore

/-- A text takes one step for its first character, which stands for the kind of the tree. -/
theorem scansBack_of_cons {c : Char} {cs : List Char} (htext : d.text.toList = c :: cs)
    (hscan : ∀ fuel rest, Ends rest → 2 * cs.length + 1 ≤ fuel →
      scanValue (fuel + 1) (c :: (cs ++ rest)) = (d, rest)) : d.ScansBack := by
  intro fuel rest hr hfuel
  rw [htext, List.length_cons] at hfuel
  obtain ⟨fuel, rfl⟩ : ∃ n, fuel = n + 1 := ⟨fuel - 1, by omega⟩
  rw [htext]
  exact hscan fuel rest hr (by omega)

theorem scansBack_string (s : String) : (string s).ScansBack := by
  refine scansBack_of_cons (toList_quote s) fun fuel rest _ _ => ?_
  rw [List.append_assoc, List.singleton_append, scanValue, skipSpace_cons (by decide)]
  simp only [scanString, Quoted.scan_flatMap_escape, Quoted.join?_map_partOf, String.ofList_toList]

variable {fuel : Nat} {key : String} {cs more rest : List Char}

theorem scanEntries_last (hk : scanValue fuel cs = (string key, ':' :: more))
    (hv : scanValue fuel more = (d, '\x7d' :: rest)) :
    scanEntries (fuel + 1) cs = ([(string key, d)], some rest) := by
  have hcolon : skipSpace (':' :: more) = ':' :: more := skipSpace_cons (by decide) more
  have hclose : skipSpace ('\x7d' :: rest) = '\x7d' :: rest := skipSpace_cons (by decide) rest
  simp only [scanEntries, hk, hcolon, hv, hclose]

theorem scanEntries_next {found : List (Document × Document)} {others : List Char}
    {after : Option (List Char)} (hk : scanValue fuel cs = (string key, ':' :: more))
    (hv : scanValue fuel more = (d, ',' :: others)) (ho : scanEntries fuel others = (found, after)) :
    scanEntries (fuel + 1) cs = ((string key, d) :: found, after) := by
  have hcolon : skipSpace (':' :: more) = ':' :: more := skipSpace_cons (by decide) more
  have hcomma : skipSpace (',' :: others) = ',' :: others := skipSpace_cons (by decide) others
  simp only [scanEntries, hk, hcolon, hv, hcomma, ho]

theorem scanEntries_text (hne : fields ≠ []) (hscan : ∀ field ∈ fields, field.2.ScansBack)
    (rest : List Char) (hfuel : 2 * (fieldsText fields).length + 1 ≤ fuel) :
    scanEntries fuel (fieldsText fields ++ '\x7d' :: rest) = (entries fields, some rest) := by
  induction fields generalizing fuel with
  | nil => exact absurd rfl hne
  | cons field fields ih =>
    obtain ⟨key, value⟩ := field
    obtain ⟨fuel, rfl⟩ : ∃ n, fuel = n + 1 := ⟨fuel - 1, by omega⟩
    have hkey := scansBack_string key
    have hvalue : value.ScansBack := hscan (key, value) List.mem_cons_self
    cases fields with
    | nil =>
      rw [fieldsText_singleton, List.length_append, List.length_cons] at hfuel
      rw [fieldsText_singleton, List.append_assoc, List.cons_append]
      exact scanEntries_last (hkey fuel _ (ends_cons (by decide)) (by omega))
        (hvalue fuel _ (ends_cons (by decide)) (by omega))
    | cons other fields =>
      rw [fieldsText_cons, List.length_append, List.length_cons, List.length_append,
        List.length_cons] at hfuel
      have hmore : scanEntries fuel (fieldsText (other :: fields) ++ '\x7d' :: rest) =
          (entries (other :: fields), some rest) :=
        ih (List.cons_ne_nil _ _) (fun f hf => hscan f (List.mem_cons_of_mem _ hf)) (by omega)
      rw [fieldsText_cons, List.append_assoc, List.cons_append, List.append_assoc, List.cons_append]
      exact scanEntries_next (hkey fuel _ (ends_cons (by decide)) (by omega))
        (hvalue fuel _ (ends_cons (by decide)) (by omega)) hmore

theorem itemsText_opens (hne : items ≠ []) (hread : ∀ item ∈ items, item.Readable) :
    ∃ c cs, (itemsText items).toList = c :: cs ∧ isSpace c = false ∧ c ≠ ']' := by
  match items, hne with
  | [item], _ => exact (hread item List.mem_cons_self).opens
  | item :: other :: items, _ =>
    obtain ⟨c, cs, hc, hspace, hclose⟩ := (hread item List.mem_cons_self).opens
    rw [toList_itemsText, hc]
    exact ⟨c, _, rfl, hspace, hclose⟩

theorem fieldsText_opens (hne : fields ≠ []) :
    ∃ c cs, fieldsText fields = c :: cs ∧ isSpace c = false ∧ c ≠ '\x7d' := by
  match fields, hne with
  | [(key, value)], _ =>
    rw [fieldsText_singleton, text, toList_quote]
    exact ⟨'"', _, rfl, by decide, by decide⟩
  | (key, value) :: other :: fields, _ =>
    rw [fieldsText_cons, text, toList_quote]
    exact ⟨'"', _, rfl, by decide, by decide⟩

theorem scansBack_number {n : Number} (h : Number.ofText? n.text = some n) : (number n).ScansBack := by
  obtain ⟨hne, hall⟩ := numeric_text n
  obtain ⟨c, cs, hc⟩ := List.exists_cons_of_ne_nil hne
  have hnumeric : isNumeric c = true := List.all_eq_true.mp hall c (by simp [hc])
  have htext : (number n).text.toList = c :: cs := hc
  refine scansBack_of_cons htext fun fuel rest hr _ => ?_
  rw [scanValue_of_numeric hnumeric, ← List.cons_append, ← hc]
  exact scanNumber_text h hr

theorem scansBack_list (hread : ∀ item ∈ items, item.Readable)
    (hscan : ∀ item ∈ items, item.ScansBack) : (list items).ScansBack := by
  refine scansBack_of_cons (toList_text_list items) fun fuel rest _ hfuel => ?_
  rw [List.append_assoc, List.singleton_append, scanValue, skipSpace_cons (by decide)]
  by_cases hne : items = []
  · subst hne
    rfl
  · have hitems : scanItems fuel ((itemsText items).toList ++ ']' :: rest) = (items, some rest) :=
      scanItems_text hne hread hscan rest (by simp at hfuel; omega)
    obtain ⟨c, cs, hc, hspace, hclose⟩ := itemsText_opens hne hread
    rw [hc, List.cons_append] at hitems ⊢
    simp only [skipSpace_cons hspace, List.cons.injEq, hclose, false_and, imp_self, implies_true, hitems]
    rfl

theorem scansBack_record (hscan : ∀ field ∈ fields, field.2.ScansBack) : (record fields).ScansBack := by
  refine scansBack_of_cons (toList_text_record fields) fun fuel rest _ hfuel => ?_
  rw [List.append_assoc, List.singleton_append, scanValue, skipSpace_cons (by decide)]
  by_cases hne : fields = []
  · subst hne
    rfl
  · have hentries : scanEntries fuel (fieldsText fields ++ '\x7d' :: rest) = (entries fields, some rest) :=
      scanEntries_text hne hscan rest (by simp at hfuel; omega)
    obtain ⟨c, cs, hc, hspace, hclose⟩ := fieldsText_opens hne
    rw [hc, List.cons_append] at hentries ⊢
    simp only [skipSpace_cons hspace, List.cons.injEq, hclose, false_and, imp_self, implies_true,
      hentries]
    rfl

theorem Readable.scansBack (h : d.Readable) : d.ScansBack := by
  induction h with
  | null => exact scansBack_of_cons rfl fun _ _ _ _ => rfl
  | bool b => cases b <;> exact scansBack_of_cons rfl fun _ _ _ _ => rfl
  | number h => exact scansBack_number h
  | string s => exact scansBack_string s
  | list h ih => exact scansBack_list h ih
  | record h ih => exact scansBack_record ih

/-- The text of a tree without faults is read to its end, and gives the tree. -/
theorem ofText_text (h : d.Readable) : ofText d.text = (d, true) := by
  have hscan := h.scansBack (2 * d.text.toList.length + 2) [] (by simp [Ends]) (by omega)
  rw [List.append_nil] at hscan
  rw [ofText, hscan]
  rfl

end ApiSamples.Document
