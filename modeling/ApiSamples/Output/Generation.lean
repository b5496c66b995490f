import ApiSamples.Files.System
import ApiSamples.Output.Rendering

namespace ApiSamples

structure World where
  files : FileSystem
  printed : List (FilePath × String) := []

structure Destination where
  directory : FilePath
  dryRun : Bool

namespace World

def emit (w : World) (d : Destination) (p : FilePath) (content : String) :
    World × Except RunError Unit :=
  if d.dryRun then ({ w with printed := w.printed ++ [(p, content)] }, .ok ())
  else match w.files.replace (d.directory.join p) content with
    | (files, none) => ({ w with files := files }, .ok ())
    | (files, some failed) => ({ w with files := files }, .error (.unwritable failed))

def printedText (w : World) : String :=
  String.join <| w.printed.map fun (p, content) =>
    "=== " ++ p.text ++ " ===\n" ++ content ++ "\n\n"

end World

structure Summary where
  files : List FilePath
  samples : Nat
  suppressed : Nat
  deriving DecidableEq, Repr

namespace Summary

def add (s : Summary) (file : SampleFile) : Summary :=
  { s with files := s.files ++ [file.path], samples := s.samples + file.samples }

end Summary

def World.emitFiles (w : World) (d : Destination) (summary : Summary) :
    List SampleFile → World × Except RunError Summary
  | [] => (w, .ok summary)
  | file :: files =>
    match w.emit d file.path file.content with
    | (w, .ok ()) => w.emitFiles d (summary.add file) files
    | (w, .error e) => (w, .error e)

def fragmentsPath : FilePath := ⟨"fragments.ts"⟩

namespace CodeModel

def generateSamples (m : CodeModel) (s : Settings) (d : Destination) (w : World) :
    Noted (World × Except RunError Summary) := do
  match ← m.renderSamples s with
  | .error e => return (w, .error e)
  | .ok rendered => return w.emitFiles d ⟨[], 0, rendered.suppressed⟩ rendered.files

/-- The answer is the path of the fragments, if there are any. -/
def generateFragments (m : CodeModel) (s : Settings) (d : Destination) (w : World) :
    Noted (World × Except RunError (Option FilePath)) := do
  match ← m.renderFragments s with
  | .error e => return (w, .error e)
  | .ok none => return (w, .ok none)
  | .ok (some content) =>
    let (w, result) := w.emit d fragmentsPath content
    return (w, result.map fun () => some fragmentsPath)

end CodeModel

end ApiSamples
