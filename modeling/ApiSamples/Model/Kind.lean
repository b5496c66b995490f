namespace ApiSamples

inductive Kind where
  | string | uuid | int | long | double | decimal | boolean | date | dateTime | dateTimeRfc1123
  | unixTime | timeSpan | byteArray | base64Url | stream | object
  deriving DecidableEq, Repr

namespace Kind

def all : List Kind :=
  [string, uuid, int, long, double, decimal, boolean, date, dateTime, dateTimeRfc1123, unixTime,
    timeSpan, byteArray, base64Url, stream, object]

def name : Kind → String
  | string => "string"
  | uuid => "uuid"
  | int => "int"
  | long => "long"
  | double => "double"
  | decimal => "decimal"
  | boolean => "boolean"
  | date => "date"
  | dateTime => "dateTime"
  | dateTimeRfc1123 => "dateTimeRfc1123"
  | unixTime => "unixTime"
  | timeSpan => "timeSpan"
  | byteArray => "byteArray"
  | base64Url => "base64Url"
  | stream => "stream"
  | object => "object"

def ofName? (s : String) : Option Kind := all.find? fun kind => kind.name == s

def isNumeric : Kind → Bool
  | int | long | double | decimal => true
  | _ => false

@[simp] theorem ofName?_name (kind : Kind) : ofName? kind.name = some kind := by
  cases kind <;> rfl

end Kind

inductive Family where
  | typeScript | python | cSharp | go | java
  deriving DecidableEq, Repr

namespace Family

def all : List Family := [typeScript, python, cSharp, go, java]

def name : Family → String
  | typeScript => "typeScript"
  | python => "python"
  | cSharp => "cSharp"
  | go => "go"
  | java => "java"

def ofName? (s : String) : Option Family := all.find? fun family => family.name == s

@[simp] theorem ofName?_name (family : Family) : ofName? family.name = some family := by
  cases family <;> rfl

end Family

end ApiSamples
