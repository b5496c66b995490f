import ApiSamples.Json.Basic

namespace ApiSamples

namespace Address

inductive Step where
  | key (name : String)
  | index (n : Nat)
  deriving DecidableEq, Repr

/-- The steps of a key that has been read so far; an empty key is no step. -/
def flush (key : List Char) : List Step :=
  if key.isEmpty then [] else [.key (String.ofList key)]

def digitsValue (cs : List Char) : Nat := cs.foldl (fun n c => n * 10 + (c.toNat - 48)) 0

def index? (cs : List Char) : Option Nat :=
  let digits := match cs with
    | '+' :: cs => cs
    | cs => cs
  if !digits.isEmpty && digits.all Char.isDigit && digitsValue digits < twoPow 64 then
    some (digitsValue digits)
  else none

mutual

/-- The steps of a path outside brackets, `key` being the key before it. -/
def steps (key : List Char) : List Char → List Step
  | [] => flush key
  | '\\' :: '.' :: cs => steps (key ++ ['.']) cs
  | '.' :: cs => flush key ++ steps [] cs
  | '[' :: cs => bracketSteps key [] cs
  | c :: cs => steps (key ++ [c]) cs

/-- The same inside brackets, `inner` being what they hold so far. A bracket that is never closed
is closed by the end of the path. -/
def bracketSteps (key inner : List Char) : List Char → List Step
  | [] =>
    match index? inner with
    | some n => flush key ++ [.index n]
    | none => flush (key ++ '[' :: inner ++ [']'])
  | ']' :: cs =>
    match index? inner with
    | some n => flush key ++ .index n :: steps [] cs
    | none => steps (key ++ '[' :: inner ++ [']']) cs
  | c :: cs => bracketSteps key (inner ++ [c]) cs

end

def parse (path : String) : List Step := steps [] path.toList

end Address

namespace Json

def step? (v : Json) : Address.Step → Option Json
  | .key name => v.field? name
  | .index n => v.item? n

def at? (v : Json) : List Address.Step → Option Json
  | [] => some v
  | step :: steps => (v.step? step).bind fun w => at? w steps

/-- A field whose key is the whole path goes before what the path says. A path without steps leads
nowhere. -/
def select? (v : Json) (path : String) : Option Json :=
  match v.field? path with
  | some w => some w
  | none => match Address.parse path with
    | [] => none
    | step :: steps => (v.step? step).bind fun w => w.at? steps

theorem sizeOf_lt_of_step? {v w : Json} {s : Address.Step} (h : v.step? s = some w) :
    sizeOf w < sizeOf v := by
  cases s with
  | key name => exact sizeOf_lt_of_field? h
  | index n => exact sizeOf_lt_of_item? h

theorem sizeOf_le_of_at? {v w : Json} {steps : List Address.Step} (h : v.at? steps = some w) :
    sizeOf w ≤ sizeOf v := by
  induction steps generalizing v with
  | nil =>
    rw [at?, Option.some.injEq] at h
    exact h ▸ Nat.le_refl _
  | cons s steps ih =>
    obtain ⟨u, hu, hw⟩ := Option.bind_eq_some_iff.mp h
    exact Nat.le_trans (ih hw) (Nat.le_of_lt (sizeOf_lt_of_step? hu))

theorem sizeOf_lt_of_select? {v w : Json} {path : String} (h : v.select? path = some w) :
    sizeOf w < sizeOf v := by
  unfold select? at h
  split at h
  · next u hu =>
    rw [Option.some.injEq] at h
    exact h ▸ sizeOf_lt_of_field? hu
  · split at h
    · cases h
    · obtain ⟨u, hu, hw⟩ := Option.bind_eq_some_iff.mp h
      exact Nat.lt_of_le_of_lt (sizeOf_le_of_at? hw) (sizeOf_lt_of_step? hu)

end Json

end ApiSamples
