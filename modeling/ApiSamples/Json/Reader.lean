import ApiSamples.Json.Scanner

namespace ApiSamples

inductive Fault where
  | malformed
  | mismatched
  deriving DecidableEq, Repr

abbrev Reader (α : Type) := Nat → Document → Except Fault α

namespace Reader

open Document

def nesting : Nat := 127

def unexpected : Document → Fault
  | overflow | unpaired | broken => .malformed
  | _ => .mismatched

def refuse {α : Type} (doc : Document) : Except Fault α := .error (unexpected doc)

def finish (closed : Bool) : Except Fault Unit :=
  if closed then .ok () else .error .malformed

def key : Document → Except Fault String
  | string s => .ok s
  | _ => .error .malformed

/-- The value behind a key that nobody asks for: it has to be JSON, and nothing else. -/
def skip (doc : Document) : Except Fault Unit := finish doc.intact

mutual

def json : Reader Json
  | _, .null => .ok .null
  | _, .bool b => .ok (.bool b)
  | _, .number n => .ok (.number n)
  | _, .string s => .ok (.string s)
  | 0, .array _ _ => .error .malformed
  | left + 1, .array items closed => do
    let items ← jsonItems left items
    finish closed
    return .array items
  | 0, .object _ _ => .error .malformed
  | left + 1, .object entries closed => do
    let fields ← jsonFields left [] entries
    finish closed
    return .object fields
  | _, doc => refuse doc

def jsonItems (left : Nat) : List Document → Except Fault (List Json)
  | [] => .ok []
  | item :: items => do return (← json left item) :: (← jsonItems left items)

def jsonFields (left : Nat) (fields : Json.Fields) :
    List (Document × Document) → Except Fault Json.Fields
  | [] => .ok fields
  | (k, value) :: entries => do
    let name ← key k
    jsonFields left (Json.put name (← json left value) fields) entries

end

def text : Reader String
  | _, .string s => .ok s
  | _, doc => refuse doc

def text? : Reader (Option String)
  | _, .null => .ok none
  | left, doc => some <$> text left doc

def flag : Reader Bool
  | _, .bool b => .ok b
  | _, doc => refuse doc

def fields : Reader Json.Fields
  | 0, .object _ _ => .error .malformed
  | left + 1, .object entries closed => do
    let fields ← jsonFields left [] entries
    finish closed
    return fields
  | _, doc => refuse doc

def items {α : Type} (read : Reader α) : Reader (List α)
  | 0, .array _ _ => .error .malformed
  | left + 1, .array items closed => do
    let items ← items.mapM (read left)
    finish closed
    return items
  | _, doc => refuse doc

/-- A name out of a list: a string, or an object whose only key is the name, with `null` behind
it. -/
def name {α : Type} (find? : String → Option α) : Reader α
  | _, .string s => named s
  | 0, .object _ _ => .error .malformed
  | _ + 1, .object [] _ => .error .malformed
  | _ + 1, .object ((k, value) :: others) closed => do
    let found ← named (← key k)
    match value with
      | .null => if others.isEmpty then finish closed else .error .malformed
      | value => refuse value
    return found
  | _, _ => .error .malformed
where
  named (s : String) : Except Fault α :=
    match find? s with
    | some a => .ok a
    | none => .error .mismatched

end Reader

/-- The columns of a record, with the types of their values. -/
inductive Columns : List Type → Type 1 where
  | nil : Columns []
  | cons {α : Type} {αs : List Type} (key : String) (read : Reader α) (rest : Columns αs) :
    Columns (α :: αs)

def Slots : List Type → Type
  | [] => Unit
  | α :: αs => Option α × Slots αs

namespace Columns

open Reader

def empty : (αs : List Type) → Slots αs
  | [] => ()
  | _ :: αs => (none, empty αs)

def readEntry (strict : Bool) (left : Nat) (key : String) (value : Document) :
    {αs : List Type} → Columns αs → Slots αs → Except Fault (Slots αs)
  | _, nil, slots => do
    if strict then .error .mismatched
    skip value
    return slots
  | _, cons k read rest, (slot, slots) =>
    if k = key then
      if slot.isSome then .error .mismatched
      else do return (some (← read left value), slots)
    else do return (slot, ← readEntry strict left key value rest slots)

def readEntries (strict : Bool) (left : Nat) {αs : List Type} (columns : Columns αs)
    (slots : Slots αs) : List (Document × Document) → Except Fault (Slots αs)
  | [] => .ok slots
  | (k, value) :: entries => do
    let slots ← columns.readEntry strict left (← key k) value slots
    columns.readEntries strict left slots entries

def readItems (left : Nat) (closed : Bool) :
    {αs : List Type} → Columns αs → List Document → Except Fault (Slots αs)
  | _, nil, items => do
    finish (closed && items.isEmpty)
    return ()
  | α :: αs, cons _ _ _, [] => do
    finish closed
    return empty (α :: αs)
  | _, cons _ read rest, item :: items => do
    let value ← read left item
    return (some value, ← readItems left closed rest items)

end Columns

/-- A record whose value is made from its columns, unless one is missing that has to be there. -/
def Reader.record {α : Type} {αs : List Type} (strict : Bool) (columns : Columns αs)
    (make : Slots αs → Option α) : Reader α
  | 0, .object _ _ | 0, .array _ _ => .error .malformed
  | left + 1, .object entries closed => do
    let slots ← columns.readEntries strict left (Columns.empty αs) entries
    finish closed
    made slots
  | left + 1, .array items closed => do made (← columns.readItems left closed items)
  | _, doc => refuse doc
where
  made (slots : Slots αs) : Except Fault α :=
    match make slots with
    | some a => .ok a
    | none => .error .mismatched

def Reader.parse {α : Type} (read : Reader α) (text : String) : Except Fault α := do
  let (doc, ended) := Document.ofText text
  let a ← read Reader.nesting doc
  finish ended
  return a

def Reader.ofJson? {α : Type} (read : Reader α) (v : Json) : Option α :=
  (read (v.depth + 1) (Document.ofJson v)).toOption

end ApiSamples
