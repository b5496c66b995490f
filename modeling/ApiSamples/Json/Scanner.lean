import ApiSamples.Json.Document

namespace ApiSamples.Document

def isSpace (c : Char) : Bool := c = ' ' || c = '\t' || c = '\n' || c = '\r'

def skipSpace (cs : List Char) : List Char := cs.dropWhile isSpace

def scanString (cs : List Char) : Document × List Char :=
  match Quoted.scan cs with
  | none => (broken, [])
  | some (parts, rest) =>
    match Quoted.join? parts with
    | some s => (string (String.ofList s), rest)
    | none => (unpaired, rest)

def scanNumber (cs : List Char) : Document × List Char :=
  match Numeral.scan cs with
  | none => (broken, [])
  | some (n, rest) => (((Number.ofNumeral? n).map number).getD overflow, rest)

/-- An array or object, and what follows it: nothing, if the text has gone wrong inside. -/
abbrev Scanned (α : Type) := List α × Option (List Char)

mutual

def scanValue : Nat → List Char → Document × List Char
  | 0, _ => (broken, [])
  | fuel + 1, cs =>
    match skipSpace cs with
    | 'n' :: 'u' :: 'l' :: 'l' :: rest => (null, rest)
    | 't' :: 'r' :: 'u' :: 'e' :: rest => (bool true, rest)
    | 'f' :: 'a' :: 'l' :: 's' :: 'e' :: rest => (bool false, rest)
    | '"' :: rest => scanString rest
    | '[' :: rest =>
      let (items, after) := match skipSpace rest with
        | ']' :: rest => ([], some rest)
        | rest => scanItems fuel rest
      (array items after.isSome, after.getD [])
    | '{' :: rest =>
      let (entries, after) := match skipSpace rest with
        | '}' :: rest => ([], some rest)
        | rest => scanEntries fuel rest
      (object entries after.isSome, after.getD [])
    | rest => scanNumber rest

def scanItems : Nat → List Char → Scanned Document
  | 0, _ => ([], none)
  | fuel + 1, cs =>
    match scanValue fuel cs with
    | (broken, _) => ([broken], none)
    | (item, rest) =>
      match skipSpace rest with
      | ']' :: rest => ([item], some rest)
      | ',' :: rest =>
        let (items, after) := scanItems fuel rest
        (item :: items, after)
      | _ => ([item], none)

def scanEntries : Nat → List Char → Scanned (Document × Document)
  | 0, _ => ([], none)
  | fuel + 1, cs =>
    let (key, rest) := scanValue fuel cs
    match key, skipSpace rest with
    | string _, ':' :: rest | unpaired, ':' :: rest =>
      let (value, rest) := scanValue fuel rest
      match skipSpace rest with
      | '}' :: rest => ([(key, value)], some rest)
      | ',' :: rest =>
        let (entries, after) := scanEntries fuel rest
        ((key, value) :: entries, after)
      | _ => ([(key, value)], none)
    | _, _ => ([(key, broken)], none)

end

def ofText (text : String) : Document × Bool :=
  let cs := text.toList
  let (doc, rest) := scanValue (2 * cs.length + 2) cs
  (doc, (skipSpace rest).isEmpty)

end ApiSamples.Document
