import ApiSamples.Error
import ApiSamples.Model.Schema
import ApiSamples.Settings.Schema

namespace ApiSamples

abbrev Source := FilePath → Option String

namespace Settings

def load (text : String) : Except RunError Settings :=
  match parse? text with
  | none => .error .badSettings
  | some s => do
    s.check
    return s

def loadFile (read : Source) (p : FilePath) : Except RunError Settings :=
  match read p with
  | none => .error (.unreadableSettings p)
  | some text => load text

end Settings

namespace CodeModel

def loadFile (read : Source) (p : FilePath) : Except RunError CodeModel :=
  match read p with
  | none => .error (.unreadableModel p)
  | some text =>
    match parse text with
    | .error fault => .error (.badModel fault)
    | .ok m => .ok m

end CodeModel

end ApiSamples
