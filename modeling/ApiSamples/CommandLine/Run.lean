import ApiSamples.CommandLine.Options
import ApiSamples.Diagnostic.Sink
import ApiSamples.Input
import ApiSamples.Output.Generation

namespace ApiSamples

namespace Settings

def override (s : Settings) (o : Options) : Settings :=
  { s with
    packageName := o.packageName.getD s.packageName
    packageVersion := o.packageVersion.getD s.packageVersion }

/-- The settings of a run. A file of settings has to be valid also without the command line. -/
def ofOptions (read : Source) (o : Options) : Except RunError Settings := do
  let s ← match o.settings with
    | some p => loadFile read p
    | none => .ok {}
  let s := s.override o
  s.check
  return s

end Settings

namespace Options

def defaultOutput : FilePath := ⟨"samples"⟩

def destination (o : Options) : Destination := ⟨o.output.getD defaultOutput, o.dryRun⟩

structure Done where
  summary : Summary
  fragments : Option FilePath
  diagnostics : List Diagnostic

/-- Puts out the samples, and the fragments if they are asked for. Only the diagnostics of the
samples count, as the fragments meet the same ones again. -/
def generate (o : Options) (s : Settings) (m : CodeModel) (w : World) :
    Noted (World × Except RunError Done) := do
  let samples := m.generateSamples s o.destination w
  match ← samples with
  | (w, .error e) => return (w, .error e)
  | (w, .ok summary) =>
    let done (fragments : Option FilePath) : Done := ⟨summary, fragments, samples.diagnostics⟩
    if o.fragments then
      let (w, fragments) ← m.generateFragments s o.destination w
      return (w, fragments.map done)
    else return (w, .ok (done none))

def run (o : Options) (model : FilePath) (read : Source) (w : World) :
    Noted (World × Except RunError Done) :=
  match Settings.ofOptions read o with
  | .error e => pure (w, .error e)
  | .ok s =>
    match CodeModel.loadFile read model with
    | .error e => pure (w, .error e)
    | .ok m => o.generate s m w

def log (o : Options) (notes : List Note) : List String :=
  (eventsOf true notes).map (·.logged o.jsonLog)

def summaryLines (o : Options) (d : Done) : List String :=
  let verb := if o.dryRun then "Rendered" else "Wrote"
  let files := d.summary.files.length + if d.fragments.isSome then 1 else 0
  let first := verb ++ " " ++ toString d.summary.samples ++ " samples in " ++ toString files ++
    " files to " ++ o.destination.directory.text
  if d.summary.suppressed == 0 && d.diagnostics.isEmpty then [first]
  else [first, "Warning: " ++ toString d.summary.suppressed ++ " suppressed samples, " ++
    toString d.diagnostics.length ++ " diagnostics (" ++ toString (errorCount d.diagnostics) ++
    " errors)"]

end Options

end ApiSamples
