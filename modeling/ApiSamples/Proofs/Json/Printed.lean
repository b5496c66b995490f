import ApiSamples.Json.Document
import ApiSamples.Proofs.Number.Characters

namespace ApiSamples

def Printed (cs : List Char) : Prop := ∀ c ∈ cs, 32 ≤ c.toNat

instance (cs : List Char) : Decidable (Printed cs) := List.decidableBAll _ cs

section

variable {xs ys : List Char}

theorem Printed.append (hx : Printed xs) (hy : Printed ys) : Printed (xs ++ ys) :=
  List.forall_mem_append.mpr ⟨hx, hy⟩

theorem Printed.feed_not_mem (h : Printed xs) : '\n' ∉ xs := by
  intro hm
  have hfeed := h '\n' hm
  revert hfeed
  decide

theorem Numeric.printed (h : Numeric xs) : Printed xs := by
  intro c hc
  obtain ⟨hl, -⟩ := graphic_of_isNumeric (List.all_eq_true.mp h.2 c hc)
  omega

end

namespace Quoted

theorem printed_hexDigit {n : Nat} (h : n < 16) : 32 ≤ (hexDigit n).toNat := by
  have hall : ∀ n < 16, 32 ≤ (hexDigit n).toNat := by decide
  exact hall n h

theorem printed_escape (c : Char) : Printed (escape c) := by
  unfold escape
  split_ifs with _ _ _ _ _ _ _ hcontrol
  · decide
  · decide
  · decide
  · decide
  · decide
  · decide
  · decide
  · have hlead : Printed ['\\', 'u', '0', '0'] := by decide
    have hhigh := printed_hexDigit (show c.toNat / 16 < 16 by omega)
    have hlow := printed_hexDigit (show c.toNat % 16 < 16 by omega)
    have hdigits : Printed [hexDigit (c.toNat / 16), hexDigit (c.toNat % 16)] :=
      List.forall_mem_cons.mpr ⟨hhigh, List.forall_mem_singleton.mpr hlow⟩
    exact hlead.append hdigits
  · exact List.forall_mem_singleton.mpr (by omega)

theorem printed_quote (s : String) : Printed (quote s).toList := by
  have hmark : Printed ['"'] := by decide
  have hbody : Printed (s.toList.flatMap escape) := by
    intro c hc
    obtain ⟨d, -, hd⟩ := List.mem_flatMap.mp hc
    exact printed_escape d c hd
  rw [quote, String.toList_ofList]
  exact (hmark.append hbody).append hmark

end Quoted

mutual

theorem Json.printed_text : ∀ v : Json, Printed v.text.toList
  | .null => by decide
  | .bool b => by cases b <;> decide
  | .number n => (numeric_text n).printed
  | .string s => Quoted.printed_quote s
  | .array items => by
    have hopen : Printed "[".toList := by decide
    have hclose : Printed "]".toList := by decide
    have h := (hopen.append (printed_itemsText items)).append hclose
    simpa [Json.text, Document.ofJson, Document.text] using h
  | .object fields => by
    have hopen : Printed "\x7b".toList := by decide
    have hclose : Printed "\x7d".toList := by decide
    have h := (hopen.append (printed_entriesText fields)).append hclose
    simpa [Json.text, Document.ofJson, Document.text] using h

theorem printed_itemsText : ∀ items : List Json,
    Printed (Document.itemsText (Document.ofItems items)).toList
  | [] => by decide
  | [item] => Json.printed_text item
  | item :: other :: items => by
    have hcomma : Printed ",".toList := by decide
    have h := ((Json.printed_text item).append hcomma).append (printed_itemsText (other :: items))
    simpa [Document.ofItems, Document.itemsText, Json.text] using h

theorem printed_entriesText : ∀ fields : Json.Fields,
    Printed (Document.entriesText (Document.ofFields fields)).toList
  | [] => by decide
  | [(key, value)] => by
    have hcolon : Printed ":".toList := by decide
    have h := ((Quoted.printed_quote key).append hcolon).append (Json.printed_text value)
    simpa [Document.ofFields, Document.entriesText, Document.text, Json.text] using h
  | (key, value) :: other :: fields => by
    have hcolon : Printed ":".toList := by decide
    have hcomma : Printed ",".toList := by decide
    have hentry := ((Quoted.printed_quote key).append hcolon).append (Json.printed_text value)
    have h := (hentry.append hcomma).append (printed_entriesText (other :: fields))
    simpa [Document.ofFields, Document.entriesText, Document.text, Json.text] using h

end

end ApiSamples
