import ApiSamples.Files.Path
import ApiSamples.Json.Reader
import ApiSamples.Model.Kind
import ApiSamples.Settings.Basic

namespace ApiSamples

inductive RunError where
  | unreadableModel (path : FilePath)
  | badModel (fault : Fault)
  | unreadableSettings (path : FilePath)
  | badSettings
  | flawedSettings (flaw : Settings.Flaw)
  | wrongFamily (expected found : Family)
  | unresolvedType (owner name : String)
  | duplicateProperty (className property : String)
  | duplicatePath (path : FilePath) (first second : String)
  | unwritable (path : FilePath)
  deriving DecidableEq, Repr

namespace RunError

/-- The text of an error about settings or about a model. The texts of the others depend on the
system that the program runs on. -/
def message? : RunError → Option String
  | flawedSettings flaw => some ("Invalid configuration: " ++ flaw.message)
  | wrongFamily expected found =>
    some ("Code model is not a " ++ expected.name ++ " code model (found " ++ found.name ++ ")")
  | unresolvedType owner name =>
    some ("'" ++ owner ++ "' references undefined type '" ++ name ++ "'")
  | duplicateProperty className property =>
    some ("Type '" ++ className ++ "' declares property '" ++ property ++ "' more than once")
  | duplicatePath path first second =>
    some ("Operations '" ++ first ++ "' and '" ++ second ++ "' would both be written to '" ++
      path.text ++ "'")
  | _ => none

end RunError

def Settings.check (s : Settings) : Except RunError Unit :=
  match s.flaw? with
  | some flaw => .error (.flawedSettings flaw)
  | none => .ok ()

end ApiSamples
