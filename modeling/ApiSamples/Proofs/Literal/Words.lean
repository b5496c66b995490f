import ApiSamples.Proofs.Json.Parts
import ApiSamples.Proofs.Literal.Strings
import ApiSamples.Proofs.Literal.Synthesis

namespace ApiSamples

open Scanner

/-- The words outside of string literals, with an empty one where two marks meet. -/
def words (cs : List Char) : List (List Char) := Text.pieces (fun c => !isNameChar c) (Mode.code.outside cs)

def SaysNull (cs : List Char) : Prop := "null".toList ∈ words cs

instance (cs : List Char) : Decidable (SaysNull cs) := inferInstanceAs (Decidable (_ ∈ words cs))

def isMark (c : Char) : Bool := !isNameChar c && !isQuote c

section

variable {xs ys : List Char} {c : Char}

theorem saysNull_append_mark (hx : Mode.code.run xs = .code) (hc : isMark c = true) (ys : List Char) :
    SaysNull (xs ++ c :: ys) ↔ SaysNull xs ∨ SaysNull ys := by
  simp only [isMark, Bool.and_eq_true, Bool.not_eq_true'] at hc
  obtain ⟨hname, hquote⟩ := hc
  have hnext : Mode.code.next c = .code := by simp [Mode.next, hquote]
  have hmark : Mode.code.outside (c :: ys) = c :: Mode.code.outside ys := by
    rw [Mode.outside, if_pos rfl, hnext]
  have hwords : words (xs ++ c :: ys) = words xs ++ words ys := by
    simp only [words, Mode.outside_append, hx, hmark, Text.pieces_eq_splitOnP]
    exact List.splitOnP_append_cons _ _ (by simp [hname])
  rw [SaysNull, hwords, List.mem_append]
  rfl

theorem saysNull_cons_mark (hc : isMark c = true) (ys : List Char) : SaysNull (c :: ys) ↔ SaysNull ys := by
  have hnothing : ¬ SaysNull [] := by decide
  have hfront : SaysNull ([] ++ c :: ys) ↔ SaysNull [] ∨ SaysNull ys := saysNull_append_mark rfl hc ys
  rwa [or_iff_right hnothing] at hfront

theorem saysNull_concat_mark (hx : Mode.code.run xs = .code) (hc : isMark c = true) :
    SaysNull (xs ++ [c]) ↔ SaysNull xs := by
  have hnothing : ¬ SaysNull [] := by decide
  rw [saysNull_append_mark hx hc, or_iff_left hnothing]

/-- Closed strings, and outside of them not even the last letter of null. -/
structure Mute (cs : List Char) : Prop where
  closed : Mode.code.run cs = .code
  letter : 'l' ∉ Mode.code.outside cs

theorem Mute.append (hx : Mute xs) (hy : Mute ys) : Mute (xs ++ ys) := by
  refine ⟨by rw [Mode.run_append, hx.closed, hy.closed], ?_⟩
  rw [Mode.outside_append, hx.closed, List.mem_append, not_or]
  exact ⟨hx.letter, hy.letter⟩

theorem Mute.not_saysNull (h : Mute xs) : ¬ SaysNull xs :=
  fun hnull => h.letter (Text.of_mem_pieces hnull (by decide)).1

theorem Numeric.mute (h : Numeric xs) : Mute xs := by
  have hletter : isNumeric 'l' = false := by decide
  refine ⟨h.token.closed, fun hmem => ?_⟩
  have hnumeric := List.all_eq_true.mp h.2 'l' (Mode.mem_of_mem_outside hmem)
  rw [hletter] at hnumeric
  cases hnumeric

end

namespace Quoted

theorem mute_quote (s : String) : Mute (quote s).toList := by
  refine ⟨(token_quote s).closed, ?_⟩
  rw [outside_quote]
  decide

end Quoted

namespace Json

def HoldsNull (v : Json) : Prop := v = .null ∨ v.Contains .null

variable {v : Json}

theorem HoldsNull.of_contains {w : Json} (h : v.Contains w) (hw : w.HoldsNull) : v.HoldsNull := by
  rcases hw with rfl | hw
  · exact .inr h
  · exact .inr (h.trans hw)

theorem holdsNull_iff (hv : v ≠ .null) : v.HoldsNull ↔ ∃ w, HasPart v w ∧ w.HoldsNull := by
  rw [HoldsNull, or_iff_right hv, contains_iff]
  rfl

theorem not_holdsNull (hv : v ≠ .null) (h : ∀ w, ¬ HasPart v w) : ¬ v.HoldsNull := by
  rw [holdsNull_iff hv]
  rintro ⟨w, hw, -⟩
  exact h w hw

theorem holdsNull_array {items : List Json} : (array items).HoldsNull ↔ ∃ item ∈ items, item.HoldsNull := by
  simp only [holdsNull_iff (Json.noConfusion : array items ≠ null), hasPart_array_iff]

theorem holdsNull_object {fields : Fields} :
    (object fields).HoldsNull ↔ ∃ field ∈ fields, field.2.HoldsNull := by
  simp only [holdsNull_iff (Json.noConfusion : object fields ≠ null), hasPart_object_iff]
  constructor
  · rintro ⟨w, ⟨key, hw⟩, hnull⟩
    exact ⟨(key, w), hw, hnull⟩
  · rintro ⟨⟨key, w⟩, hw, hnull⟩
    exact ⟨w, ⟨key, hw⟩, hnull⟩

end Json

theorem saysNull_entry (key : String) (value : List Char) :
    SaysNull ((Quoted.quote key).toList ++ ':' :: value) ↔ SaysNull value := by
  rw [saysNull_append_mark (Quoted.token_quote key).closed (by decide),
    or_iff_right (Quoted.mute_quote key).not_saysNull]

mutual

theorem Json.saysNull_text : ∀ v : Json, SaysNull v.text.toList ↔ v.HoldsNull
  | .null => iff_of_true (by decide) (.inl rfl)
  | .bool b => by
    refine iff_of_false ?_ (Json.not_holdsNull Json.noConfusion fun _ h => nomatch h)
    cases b <;> decide
  | .number n => by
    refine iff_of_false ?_ (Json.not_holdsNull Json.noConfusion fun _ h => nomatch h)
    exact (numeric_text n).mute.not_saysNull
  | .string s =>
    iff_of_false (Quoted.mute_quote s).not_saysNull (Json.not_holdsNull Json.noConfusion fun _ h => nomatch h)
  | .array items => by
    have htext : (Json.array items).text.toList =
        '[' :: ((Document.itemsText (Document.ofItems items)).toList ++ [']']) := by
      simp [Json.text, Document.ofJson, Document.text]
    rw [htext, saysNull_cons_mark (by decide), saysNull_concat_mark (balanced_itemsText items).closed (by decide),
      saysNull_itemsText, Json.holdsNull_array]
  | .object fields => by
    have htext : (Json.object fields).text.toList =
        '\x7b' :: ((Document.entriesText (Document.ofFields fields)).toList ++ ['\x7d']) := by
      simp [Json.text, Document.ofJson, Document.text]
    rw [htext, saysNull_cons_mark (by decide),
      saysNull_concat_mark (balanced_entriesText fields).closed (by decide), saysNull_entriesText,
      Json.holdsNull_object]

theorem saysNull_itemsText : ∀ items : List Json,
    SaysNull (Document.itemsText (Document.ofItems items)).toList ↔ ∃ item ∈ items, item.HoldsNull
  | [] => iff_of_false (by decide) (by simp)
  | [item] => by
    have htext : Document.itemsText (Document.ofItems [item]) = item.text := rfl
    rw [htext, Json.saysNull_text]
    simp
  | item :: other :: items => by
    have htext : (Document.itemsText (Document.ofItems (item :: other :: items))).toList =
        item.text.toList ++ ',' :: (Document.itemsText (Document.ofItems (other :: items))).toList := by
      simp [Document.ofItems, Document.itemsText, Json.text]
    rw [htext, saysNull_append_mark (Json.token_text item).closed (by decide), Json.saysNull_text,
      saysNull_itemsText (other :: items)]
    simp

theorem saysNull_entriesText : ∀ fields : Json.Fields,
    SaysNull (Document.entriesText (Document.ofFields fields)).toList ↔ ∃ field ∈ fields, field.2.HoldsNull
  | [] => iff_of_false (by decide) (by simp)
  | [(key, value)] => by
    have htext : (Document.entriesText (Document.ofFields [(key, value)])).toList =
        (Quoted.quote key).toList ++ ':' :: value.text.toList := by
      simp [Document.ofFields, Document.entriesText, Document.text, Json.text]
    rw [htext, saysNull_entry, Json.saysNull_text]
    simp
  | (key, value) :: other :: fields => by
    have htext : (Document.entriesText (Document.ofFields ((key, value) :: other :: fields))).toList =
        ((Quoted.quote key).toList ++ ':' :: value.text.toList) ++
          ',' :: (Document.entriesText (Document.ofFields (other :: fields))).toList := by
      simp [Document.ofFields, Document.entriesText, Document.text, Json.text]
    have hentry := (token_entry (Quoted.token_quote key) (Json.token_text value)).closed
    rw [List.append_assoc, List.singleton_append] at hentry
    rw [htext, saysNull_append_mark hentry (by decide), saysNull_entry, Json.saysNull_text,
      saysNull_entriesText (other :: fields)]
    simp

end

namespace Scalar

theorem mute_numeric (v : Json) : Mute (numeric v).toList := by
  unfold numeric
  cases h : bare? v with
  | none => exact Quoted.mute_quote _
  | some text => exact (numeric_bare? h).mute

theorem not_saysNull_boolean (v : Json) : ¬ SaysNull (boolean v).toList := by
  have htrue : ¬ SaysNull "true".toList := by decide
  have hfalse : ¬ SaysNull "false".toList := by decide
  cases v with
  | bool b => cases b <;> assumption
  | string s =>
    simp only [boolean]
    split_ifs
    · exact htrue
    · exact hfalse
    · exact (Quoted.mute_quote s).not_saysNull
  | _ => exact (Quoted.mute_quote _).not_saysNull

theorem mute_date {argument : String} (h : Mute argument.toList) : Mute (date argument).toList := by
  have hlead : Mute "new Date(".toList := ⟨by decide, by decide⟩
  have hclose : Mute ")".toList := ⟨by decide, by decide⟩
  simpa [date] using (hlead.append h).append hclose

theorem mute_unixTime (v : Json) : Mute (unixTime v).toList := by
  refine mute_date ?_
  cases h : bare? v with
  | none => exact Quoted.mute_quote _
  | some seconds =>
    have hfactor : Mute " * 1000".toList := ⟨by decide, by decide⟩
    simpa using (numeric_bare? h).mute.append hfactor

theorem mute_buffer (s : String) : Mute ("Buffer.from(" ++ Quoted.quote s ++ ", \"base64\")").toList := by
  have hlead : Mute "Buffer.from(".toList := ⟨by decide, by decide⟩
  have hclose : Mute ", \"base64\")".toList := ⟨by decide, by decide⟩
  simpa using (hlead.append (Quoted.mute_quote s)).append hclose

theorem not_saysNull_literal {kind : Kind} (hkind : kind ≠ .object) (v : Json) :
    ¬ SaysNull (literal kind v).toList := by
  cases kind with
  | int | long | double | decimal => exact (mute_numeric v).not_saysNull
  | boolean => exact not_saysNull_boolean v
  | unixTime => exact (mute_unixTime v).not_saysNull
  | date | dateTime | dateTimeRfc1123 => exact (mute_date (Quoted.mute_quote _)).not_saysNull
  | byteArray => exact (mute_buffer _).not_saysNull
  | object => exact absurd rfl hkind
  | string | uuid | timeSpan | base64Url | stream => exact (Quoted.mute_quote _).not_saysNull

end Scalar

end ApiSamples
