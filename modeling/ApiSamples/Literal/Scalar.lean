import ApiSamples.Json.Document
import ApiSamples.Model.Kind
import ApiSamples.Number.Numeral
import ApiSamples.Text.Basic

namespace ApiSamples.Scalar

def plain : Json → String
  | .string s => s
  | v => v.text

/-- The text without white space around it, if that can stand as a number. -/
def number? (s : String) : Option String :=
  let cs := Text.trimChars s.toList
  let begins := match cs with
    | c :: _ => c.isDigit || c == '-' || c == '.'
    | [] => false
  let finite := ((Numeral.ofText? cs).bind Numeral.nearest?).isSome
  if begins && finite then some (String.ofList cs) else none

def bare? : Json → Option String
  | .number n => some n.text
  | .string s => number? s
  | _ => none

def numeric (v : Json) : String := (bare? v).getD (Quoted.quote (plain v))

def equalsIgnoringCase (s t : String) : Bool :=
  s.toList.map Char.toLower == t.toList.map Char.toLower

def boolean (v : Json) : String :=
  match v with
  | .bool b => if b then "true" else "false"
  | .string s =>
    if equalsIgnoringCase s "true" then "true"
    else if equalsIgnoringCase s "false" then "false"
    else Quoted.quote s
  | v => Quoted.quote (plain v)

def date (argument : String) : String := "new Date(" ++ argument ++ ")"

/-- Seconds are turned into milliseconds by the program itself. -/
def unixTime (v : Json) : String :=
  date (((bare? v).map fun seconds => seconds ++ " * 1000").getD (Quoted.quote (plain v)))

def literal (kind : Kind) (v : Json) : String :=
  match kind with
  | .int | .long | .double | .decimal => numeric v
  | .boolean => boolean v
  | .unixTime => unixTime v
  | .date | .dateTime | .dateTimeRfc1123 => date (Quoted.quote (plain v))
  | .byteArray => "Buffer.from(" ++ Quoted.quote (plain v) ++ ", \"base64\")"
  | .object => v.text
  | .string | .uuid | .timeSpan | .base64Url | .stream => Quoted.quote (plain v)

end ApiSamples.Scalar
