import ApiSamples.Json.Document
import ApiSamples.Literal.Layout
import ApiSamples.Literal.Scalar
import ApiSamples.Proofs.Literal.Token
import ApiSamples.Proofs.Number.Characters

namespace ApiSamples

open Scanner

theorem isBlank_of_isNumeric (c : Char) (h : isNumeric c = true) : Text.isBlank c = false := by
  obtain ⟨hl, hu⟩ := graphic_of_isNumeric h
  exact isBlank_of_graphic hl hu

theorem Numeric.token {cs : List Char} (h : Numeric cs) : Token cs :=
  token_of_all (by decide) isBlank_of_isNumeric h.1 h.2

theorem graphic_of_isKeyChar {c : Char} (h : Literal.isKeyChar c = true) :
    33 ≤ c.toNat ∧ c.toNat ≤ 126 := by
  simp only [Literal.isKeyChar, Bool.or_eq_true, beq_iff_eq] at h
  rcases h with (h | rfl) | rfl
  · exact graphic_of_isAlphanum h
  · decide
  · decide

theorem isBlank_of_isKeyChar (c : Char) (h : Literal.isKeyChar c = true) : Text.isBlank c = false := by
  obtain ⟨hl, hu⟩ := graphic_of_isKeyChar h
  exact isBlank_of_graphic hl hu

theorem token_word {cs : List Char} (hne : cs ≠ []) (h : cs.all Literal.isKeyChar = true) : Token cs :=
  token_of_all (by decide) isBlank_of_isKeyChar hne h

theorem token_entry {key value : List Char} (hk : Token key) (hv : Token value) :
    Token (key ++ [':'] ++ value) :=
  hk.append (sealed_of_isPlain (by decide)) hv

mutual

theorem Json.token_text : ∀ v : Json, Token v.text.toList
  | .null => token_word (by decide) (by decide)
  | .bool b => by
    cases b
    · exact token_word (by decide) (by decide)
    · exact token_word (by decide) (by decide)
  | .number n => (numeric_text n).token
  | .string s => Quoted.token_quote s
  | .array items => by
    have h := token_brackets (balanced_itemsText items)
    simpa [Json.text, Document.ofJson, Document.text] using h
  | .object fields => by
    have h := token_braces (balanced_entriesText fields)
    simpa [Json.text, Document.ofJson, Document.text] using h

theorem balanced_itemsText : ∀ items : List Json,
    Scanner.Balanced (Document.itemsText (Document.ofItems items)).toList
  | [] => balanced_nil
  | [item] => (Json.token_text item).isSealed.balanced
  | item :: other :: items => by
    have hitem := (Json.token_text item).isSealed.balanced
    have hrest := balanced_itemsText (other :: items)
    have h := (hitem.append balanced_comma).append hrest
    simpa [Document.ofItems, Document.itemsText, Json.text] using h

theorem balanced_entriesText : ∀ fields : Json.Fields,
    Scanner.Balanced (Document.entriesText (Document.ofFields fields)).toList
  | [] => balanced_nil
  | [(key, value)] => by
    have h := token_entry (Quoted.token_quote key) (Json.token_text value)
    simpa [Document.ofFields, Document.entriesText, Document.text, Json.text] using h.isSealed.balanced
  | (key, value) :: other :: fields => by
    have hentry := token_entry (Quoted.token_quote key) (Json.token_text value)
    have hrest := balanced_entriesText (other :: fields)
    have h := (hentry.isSealed.balanced.append balanced_comma).append hrest
    simpa [Document.ofFields, Document.entriesText, Document.text, Json.text] using h

end

namespace Scalar

theorem token_call {name arguments : List Char} (hn : Token name) (ha : Scanner.Balanced arguments) :
    Token (name ++ ('(' :: arguments ++ [')'])) := by
  have h := hn.append sealed_nil (token_parentheses ha)
  rwa [List.append_nil] at h

theorem token_newDate : Token "new Date".toList := by
  refine ⟨sealed_of_isPlain (by decide), ⟨'n', "ew Date".toList, rfl, by decide⟩, ?_⟩
  exact ⟨"new Dat".toList, 'e', rfl, by decide⟩

theorem token_date {argument : String} (h : Scanner.Balanced argument.toList) :
    Token (date argument).toList := by
  have hlead : "new Date(".toList = "new Date".toList ++ ['('] := rfl
  have hclose : ")".toList = [')'] := rfl
  simpa [date, hlead, hclose] using token_call token_newDate h

theorem numeric_number? {s text : String} (h : number? s = some text) : Numeric text.toList := by
  obtain ⟨hread, htext⟩ := Option.ite_none_right_eq_some.mp h
  rw [Bool.and_eq_true] at hread
  obtain ⟨hbegin, hfinite⟩ := hread
  obtain ⟨x, hx⟩ := Option.isSome_iff_exists.mp hfinite
  obtain ⟨n, hn, -⟩ := Option.bind_eq_some_iff.mp hx
  obtain rfl := Option.some.inj htext
  rw [String.toList_ofList]
  refine ⟨fun hempty => ?_, Numeral.numeric_of_ofText? hn⟩
  rw [hempty] at hbegin
  cases hbegin

theorem numeric_bare? {v : Json} {text : String} (h : bare? v = some text) : Numeric text.toList := by
  cases v with
  | number n =>
    obtain rfl := Option.some.inj h
    exact numeric_text n
  | string s => exact numeric_number? h
  | _ => cases h

theorem token_numeric (v : Json) : Token (numeric v).toList := by
  unfold numeric
  cases h : bare? v with
  | none => exact Quoted.token_quote _
  | some text => exact (numeric_bare? h).token

theorem token_boolean (v : Json) : Token (boolean v).toList := by
  have htrue : Token "true".toList := token_word (by decide) (by decide)
  have hfalse : Token "false".toList := token_word (by decide) (by decide)
  cases v with
  | bool b => cases b <;> assumption
  | string s =>
    simp only [boolean]
    split_ifs
    · exact htrue
    · exact hfalse
    · exact Quoted.token_quote s
  | _ => exact Quoted.token_quote _

theorem token_unixTime (v : Json) : Token (unixTime v).toList := by
  refine token_date ?_
  cases h : bare? v with
  | none => exact (Quoted.token_quote _).isSealed.balanced
  | some seconds =>
    have hfactor : Sealed " * 1000".toList := sealed_of_isPlain (by decide)
    have hproduct := (numeric_bare? h).token.isSealed.append hfactor
    simpa using hproduct.balanced

theorem token_buffer (s : String) : Token ("Buffer.from(" ++ Quoted.quote s ++ ", \"base64\")").toList := by
  have hname : Token "Buffer.from".toList := by
    refine ⟨sealed_of_isPlain (by decide), ⟨'B', "uffer.from".toList, rfl, by decide⟩, ?_⟩
    exact ⟨"Buffer.fro".toList, 'm', rfl, by decide⟩
  have hencoding : Scanner.Balanced ", \"base64\"".toList := by
    unfold Scanner.Balanced
    decide
  have h := token_call hname ((Quoted.token_quote s).isSealed.balanced.append hencoding)
  have hlead : "Buffer.from(".toList = "Buffer.from".toList ++ ['('] := rfl
  have htail : ", \"base64\")".toList = ", \"base64\"".toList ++ [')'] := rfl
  simpa [hlead, htail] using h

theorem token_literal (kind : Kind) (v : Json) : Token (literal kind v).toList := by
  cases kind with
  | int | long | double | decimal => exact token_numeric v
  | boolean => exact token_boolean v
  | unixTime => exact token_unixTime v
  | date | dateTime | dateTimeRfc1123 => exact token_date (Quoted.token_quote _).isSealed.balanced
  | byteArray => exact token_buffer _
  | object => exact v.token_text
  | string | uuid | timeSpan | base64Url | stream => exact Quoted.token_quote _

end Scalar

end ApiSamples
