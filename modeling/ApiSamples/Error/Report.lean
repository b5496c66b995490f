import ApiSamples.Error
import ApiSamples.Text.Shown

namespace ApiSamples

def Family.reportName : Family → String
  | .typeScript => "TypeScript"
  | .python => "Python"
  | .cSharp => "CSharp"
  | .go => "Go"
  | .java => "Java"

namespace Fault

def reportName : Fault → String
  | malformed => "Malformed"
  | mismatched => "Mismatched"

end Fault

namespace RunError

def parts (name : String) (fields : List (String × String)) : String :=
  name ++ " \x7b " ++ ", ".intercalate (fields.map fun (key, value) => key ++ ": " ++ value) ++
    " \x7d"

def inside (name argument : String) : String := name ++ "(" ++ argument ++ ")"

def report : RunError → String
  | unreadableModel path =>
    inside "ModelError" (parts "Read" [("path", Text.shown path.text), ("source", "Unreadable")])
  | badModel fault => inside "ModelError" (inside "Parse" fault.reportName)
  | unreadableSettings path =>
    parts "ReadError" [("path", Text.shown path.text), ("source", "Unreadable")]
  | badSettings => inside "ParseError" Fault.malformed.reportName
  | flawedSettings flaw => inside "ConfigError" (Text.shown flaw.message)
  | wrongFamily expected found =>
    parts "WrongModelKind" [("expected", expected.reportName), ("found", found.reportName)]
  | unresolvedType owner name =>
    parts "UnresolvedType" [("owner", Text.shown owner), ("name", Text.shown name)]
  | duplicateProperty className property =>
    parts "DuplicateProperty"
      [("class_name", Text.shown className), ("property", Text.shown property)]
  | duplicatePath path first second =>
    parts "DuplicateSamplePath"
      [("path", Text.shown path.text), ("first", Text.shown first), ("second", Text.shown second)]
  | unwritable path =>
    parts "WriteError" [("path", Text.shown path.text), ("source", "Unwritable")]

end RunError

end ApiSamples
