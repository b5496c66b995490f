import ApiSamples.Json.Quoted
import ApiSamples.Json.Reader
import ApiSamples.Settings.Basic

namespace ApiSamples.Settings.Text

abbrev Scan (α : Type) := List Char → Option (α × List Char)

def isSpace (c : Char) : Bool := c == ' ' || c == '\t'

def skipSpace (cs : List Char) : List Char := cs.dropWhile isSpace

def newline? : List Char → Option (List Char)
  | '\n' :: cs => some cs
  | '\r' :: '\n' :: cs => some cs
  | _ => none

/-- The characters that stand for themselves in strings and comments, a tab among them. -/
def isPlain (c : Char) : Bool := c == '\t' || (32 ≤ c.toNat && c.toNat != 127)

def isBareKeyChar (c : Char) : Bool := c.isAlphanum || c == '_' || c == '-'

def scalarValue? (n : Nat) : Option Char :=
  if n < 0xD800 ∨ (0xDFFF < n ∧ n < 0x110000) then some (Char.ofNat n) else none

def letter? (c : Char) : Option Char :=
  match c with
  | 'b' => some '\x08'
  | 't' => some '\t'
  | 'n' => some '\n'
  | 'f' => some '\x0c'
  | 'r' => some '\r'
  | '"' => some '"'
  | '\\' => some '\\'
  | _ => none

def escape? : Scan Char
  | 'u' :: a :: b :: c :: d :: cs => do
    return (← scalarValue? (← Quoted.unit? a b c d), cs)
  | 'U' :: a :: b :: c :: d :: e :: f :: g :: h :: cs => do
    let high ← Quoted.unit? a b c d
    let low ← Quoted.unit? e f g h
    return (← scalarValue? (high * 65536 + low), cs)
  | c :: cs => (letter? c).map fun c => (c, cs)
  | [] => none

theorem length_escape? {cs rest : List Char} {c : Char} (h : escape? cs = some (c, rest)) :
    rest.length < cs.length := by
  unfold escape? at h
  split at h
  · simp only [Option.bind_eq_bind, Option.bind_eq_some_iff, Option.pure_def, Option.some.injEq,
      Prod.mk.injEq] at h
    obtain ⟨_, _, _, _, _, rfl⟩ := h
    simp only [List.length_cons]
    omega
  · simp only [Option.bind_eq_bind, Option.bind_eq_some_iff, Option.pure_def, Option.some.injEq,
      Prod.mk.injEq] at h
    obtain ⟨_, _, _, _, _, _, _, rfl⟩ := h
    simp only [List.length_cons]
    omega
  · simp only [Option.map_eq_some_iff, Prod.mk.injEq] at h
    obtain ⟨_, _, _, rfl⟩ := h
    simp
  · cases h

def basic : Scan (List Char)
  | [] => none
  | '"' :: cs => some ([], cs)
  | '\\' :: cs =>
    match _step : escape? cs with
    | some (c, rest) => (basic rest).map fun (s, rest) => (c :: s, rest)
    | none => none
  | c :: cs => if isPlain c then (basic cs).map fun (s, rest) => (c :: s, rest) else none
termination_by cs => cs.length
decreasing_by
  · have := length_escape? _step
    simp only [List.length_cons]
    omega
  · simp

def literal : Scan (List Char)
  | [] => none
  | '\x27' :: cs => some ([], cs)
  | c :: cs => if isPlain c then (literal cs).map fun (s, rest) => (c :: s, rest) else none

/-- What three or more quotes in a row mean: at most two of them, before the last three, belong to
the string. -/
def closing (quote : Char) : Scan (List Char)
  | a :: b :: c :: cs =>
    if a = quote ∧ b = quote ∧ c = quote then
      match cs with
      | d :: e :: rest =>
        if d = quote then
          if e = quote then some ([quote, quote], rest) else some ([quote], e :: rest)
        else some ([], cs)
      | [d] => if d = quote then some ([quote], []) else some ([], [d])
      | [] => some ([], [])
    else none
  | _ => none

def endsLine (cs : List Char) : Bool := (newline? (skipSpace cs)).isSome

/-- A string with escapes over several lines. While `skipping`, white space is left out, as it is
behind a backslash at the end of a line. -/
def multiBasic (skipping : Bool) : Scan (List Char)
  | [] => none
  | '\r' :: '\n' :: cs =>
    if skipping then multiBasic true cs
    else (multiBasic false cs).map fun (s, rest) => ('\n' :: s, rest)
  | '\\' :: cs =>
    if endsLine cs then multiBasic true cs
    else match _step : escape? cs with
      | some (c, rest) => (multiBasic false rest).map fun (s, rest) => (c :: s, rest)
      | none => none
  | c :: cs =>
    if skipping && (isSpace c || c == '\n') then multiBasic true cs
    else match closing '"' (c :: cs) with
      | some found => some found
      | none =>
        if isPlain c || c == '\n' then
          (multiBasic false cs).map fun (s, rest) => (c :: s, rest)
        else none
termination_by cs => cs.length
decreasing_by
  all_goals simp only [List.length_cons]
  all_goals first
    | exact Nat.lt_succ_of_lt (length_escape? _step)
    | omega

def multiLiteral : Scan (List Char)
  | [] => none
  | '\r' :: '\n' :: cs => (multiLiteral cs).map fun (s, rest) => ('\n' :: s, rest)
  | c :: cs =>
    match closing '\x27' (c :: cs) with
    | some found => some found
    | none =>
      if isPlain c || c == '\n' then
        (multiLiteral cs).map fun (s, rest) => (c :: s, rest)
      else none

def dropFirstNewline (cs : List Char) : List Char := (newline? cs).getD cs

def key? : Scan String
  | '"' :: cs => (basic cs).map fun (s, rest) => (String.ofList s, rest)
  | '\x27' :: cs => (literal cs).map fun (s, rest) => (String.ofList s, rest)
  | cs =>
    match cs.takeWhile isBareKeyChar with
    | [] => none
    | s => some (String.ofList s, cs.dropWhile isBareKeyChar)

inductive Value where
  | text (s : String)
  | flag (b : Bool)
  deriving DecidableEq, Repr

def textValue (found : Option (List Char × List Char)) : Option (Value × List Char) :=
  found.map fun (s, rest) => (.text (String.ofList s), rest)

def value? : Scan Value
  | '"' :: '"' :: '"' :: cs => textValue (multiBasic false (dropFirstNewline cs))
  | '"' :: cs => textValue (basic cs)
  | '\x27' :: '\x27' :: '\x27' :: cs => textValue (multiLiteral (dropFirstNewline cs))
  | '\x27' :: cs => textValue (literal cs)
  | 't' :: 'r' :: 'u' :: 'e' :: cs => some (.flag true, cs)
  | 'f' :: 'a' :: 'l' :: 's' :: 'e' :: cs => some (.flag false, cs)
  | _ => none

def lineEnd? (cs : List Char) : Option (List Char) :=
  let rest := match skipSpace cs with
    | '#' :: comment => comment.dropWhile isPlain
    | rest => rest
  if rest.isEmpty then some [] else newline? rest

def entry? : Scan (String × Value) := fun cs => do
  let (key, cs) ← key? cs
  match skipSpace cs with
  | '=' :: cs =>
    let (value, cs) ← value? (skipSpace cs)
    return ((key, value), ← lineEnd? cs)
  | _ => none

/-- The entries of a text, line by line; an entry takes at least one character. -/
def entriesFrom : Nat → List Char → Option (List (String × Value))
  | 0, _ => none
  | fuel + 1, cs =>
    let cs := skipSpace cs
    if cs.isEmpty then some []
    else match lineEnd? cs with
      | some rest => entriesFrom fuel rest
      | none => do
        let (entry, rest) ← entry? cs
        return entry :: (← entriesFrom fuel rest)

/-- A byte order mark in front is no part of the text. -/
def entries (text : String) : Option (List (String × Value)) :=
  let cs := match text.toList with
    | c :: cs => if c.toNat = 0xFEFF then cs else c :: cs
    | [] => []
  entriesFrom (cs.length + 1) cs

def set (s : Settings) (key : String) (value : Value) : Option Settings :=
  match key, value with
  | "package_name", .text t => some { s with packageName := t }
  | "package_version", .text t => some { s with packageVersion := t }
  | "client_name", .text t => some { s with clientName := some t }
  | "client_prefix", .text t => some { s with clientPrefix := some t }
  | "subscription_id", .text t => some { s with subscriptionId := t }
  | "inline_sub_resource_ids", .flag b => some { s with inlineIds := b }
  | _, _ => none

def ofEntries (s : Settings) : List (String × Value) → Option Settings
  | [] => some s
  | (key, value) :: rest => do
    if rest.any fun entry => entry.1 == key then none
    ofEntries (← set s key value) rest

end ApiSamples.Settings.Text

namespace ApiSamples.Settings

def parse? (text : String) : Option Settings := do
  Text.ofEntries {} (← Text.entries text)

def columns : Columns [String, String, Option String, Option String, String, Bool] :=
  .cons "package_name" Reader.text <| .cons "package_version" Reader.text <|
  .cons "client_name" Reader.text? <| .cons "client_prefix" Reader.text? <|
  .cons "subscription_id" Reader.text <| .cons "inline_sub_resource_ids" Reader.flag .nil

def make : Slots [String, String, Option String, Option String, String, Bool] → Option Settings
  | (packageName, packageVersion, clientName, clientPrefix, subscriptionId, inlineIds, ()) =>
    let initial : Settings := {}
    some
      { packageName := packageName.getD initial.packageName
        packageVersion := packageVersion.getD initial.packageVersion
        clientName := clientName.getD initial.clientName
        clientPrefix := clientPrefix.getD initial.clientPrefix
        subscriptionId := subscriptionId.getD initial.subscriptionId
        inlineIds := inlineIds.getD initial.inlineIds }

def read : Reader Settings := Reader.record true columns make

end ApiSamples.Settings
