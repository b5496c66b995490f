import ApiSamples.Json.Basic
import ApiSamples.Json.Quoted

namespace ApiSamples

inductive Document where
  | null
  | bool (b : Bool)
  | number (n : Number)
  /-- A numeral that is too large for a number. -/
  | overflow
  | string (s : String)
  /-- A string in which half of a surrogate pair stands alone. -/
  | unpaired
  | array (items : List Document) (closed : Bool)
  /-- A key that is no string ends the entries. -/
  | object (entries : List (Document × Document)) (closed : Bool)
  | broken
  deriving Repr

namespace Document

def entry (key : String) (value : Document) : Document × Document := (string key, value)

def record (fields : List (String × Document)) : Document :=
  object (fields.map fun (key, value) => entry key value) true

def list (items : List Document) : Document := array items true

def text? : Option String → Document
  | none => null
  | some s => string s

mutual

def ofJson : Json → Document
  | .null => null
  | .bool b => bool b
  | .number n => number n
  | .string s => string s
  | .array items => array (ofItems items) true
  | .object fields => object (ofFields fields) true

def ofItems : List Json → List Document
  | [] => []
  | item :: items => ofJson item :: ofItems items

def ofFields : Json.Fields → List (Document × Document)
  | [] => []
  | (key, value) :: fields => (string key, ofJson value) :: ofFields fields

end

mutual

/-- The compact text. What cannot be read has none. -/
def text : Document → String
  | null => "null"
  | bool b => if b then "true" else "false"
  | number n => n.text
  | string s => Quoted.quote s
  | array items closed => "[" ++ itemsText items ++ if closed then "]" else ""
  | object entries closed => "\x7b" ++ entriesText entries ++ if closed then "\x7d" else ""
  | overflow | unpaired | broken => ""

def itemsText : List Document → String
  | [] => ""
  | [item] => text item
  | item :: items => text item ++ "," ++ itemsText items

def entriesText : List (Document × Document) → String
  | [] => ""
  | [(key, value)] => text key ++ ":" ++ text value
  | (key, value) :: entries => text key ++ ":" ++ text value ++ "," ++ entriesText entries

end

mutual

/-- Whether the text is complete and well formed here, whatever it says and however deep. -/
def intact : Document → Bool
  | array items closed => itemsIntact items && closed
  | object entries closed => entriesIntact entries && closed
  | broken => false
  | _ => true

def itemsIntact : List Document → Bool
  | [] => true
  | item :: items => intact item && itemsIntact items

def entriesIntact : List (Document × Document) → Bool
  | [] => true
  | (key, value) :: entries =>
    (match key with
      | string _ | unpaired => true
      | _ => false) && intact value && entriesIntact entries

end

end Document

def Json.text (v : Json) : String := (Document.ofJson v).text

end ApiSamples
