import ApiSamples.Number.Basic

namespace ApiSamples

inductive Json where
  | null
  | bool (b : Bool)
  | number (n : Number)
  | string (s : String)
  | array (items : List Json)
  | object (fields : List (String × Json))
  deriving Repr

namespace Json

abbrev Fields := List (String × Json)

/-- The field's value is replaced if the key is there already. -/
def put (key : String) (value : Json) : Fields → Fields
  | [] => [(key, value)]
  | (k, v) :: fields =>
    if key < k then (key, value) :: (k, v) :: fields
    else if key = k then (key, value) :: fields
    else (k, v) :: put key value fields

def get? (fields : Fields) (key : String) : Option Json :=
  (fields.find? fun field => field.1 == key).map Prod.snd

theorem get?_cons (field : String × Json) (fields : Fields) (key : String) :
    get? (field :: fields) key = if field.1 = key then some field.2 else get? fields key := by
  by_cases h : field.1 = key <;> simp [get?, h]

def isNull : Json → Bool
  | null => true
  | _ => false

theorem isNull_iff {v : Json} : v.isNull = true ↔ v = .null := by
  cases v <;> simp [isNull]

def isObject : Json → Bool
  | object _ => true
  | _ => false

def item? : Json → Nat → Option Json
  | array items, i => items[i]?
  | _, _ => none

def field? : Json → String → Option Json
  | object fields, key => get? fields key
  | _, _ => none

mutual

def depth : Json → Nat
  | array items => itemsDepth items + 1
  | object fields => fieldsDepth fields + 1
  | _ => 0

def itemsDepth : List Json → Nat
  | [] => 0
  | item :: items => max (depth item) (itemsDepth items)

def fieldsDepth : Fields → Nat
  | [] => 0
  | (_, value) :: fields => max (depth value) (fieldsDepth fields)

end

theorem sizeOf_lt_of_item? {v w : Json} {i : Nat} (h : v.item? i = some w) :
    sizeOf w < sizeOf v := by
  cases v with
  | array items =>
    have := List.sizeOf_lt_of_mem (List.mem_of_getElem? h)
    simp only [array.sizeOf_spec]
    omega
  | _ => simp [item?] at h

theorem sizeOf_lt_of_field? {v w : Json} {key : String} (h : v.field? key = some w) :
    sizeOf w < sizeOf v := by
  cases v with
  | object fields =>
    obtain ⟨⟨k, u⟩, hf, rfl⟩ := Option.map_eq_some_iff.mp h
    have := List.sizeOf_lt_of_mem (List.mem_of_find?_eq_some hf)
    simp only [object.sizeOf_spec, Prod.mk.sizeOf_spec] at *
    omega
  | _ => simp [field?] at h

end Json

end ApiSamples
