import ApiSamples.CommandLine.Exit

namespace ApiSamples.Main

def attempt (action : IO Unit) : IO Bool := do
  try
    action
    return true
  catch _ => return false

def perform : FileSystem.Step → IO Bool
  | .makeFolders p => attempt (IO.FS.createDirAll p.text)
  | .write p content => attempt (IO.FS.writeFile p.text content)
  | .rename source target => attempt (IO.FS.rename source.text target.text)

def replaceAll (directory : FilePath) (files : List (FilePath × String)) :
    IO (Option FilePath) := do
  for (p, content) in files do
    for step in FileSystem.replaceSteps (directory.join p) content do
      unless ← perform step do return some step.path
  return none

def readText? (p : FilePath) : IO (Option String) := do
  try return some (← IO.FS.readFile p.text)
  catch _ => return none

def readSource (paths : List FilePath) : IO Source := do
  let texts ← paths.mapM fun p => do return (p, ← readText? p)
  return fun p => (texts.lookup p).getD none

def fail (e : RunError) : IO UInt32 := do
  IO.eprintln ("Error: " ++ e.report)
  return 1

def run (model : FilePath) (o : Options) : IO UInt32 := do
  let read ← readSource (model :: o.settings.toList)
  let preview := { o with dryRun := true }.run model read { files := .empty [] }
  for entry in o.log preview.notes do IO.eprintln entry
  match preview.value with
  | (w, .error e) =>
    if o.dryRun then IO.print w.printedText
    fail e
  | (w, .ok done) =>
    if o.dryRun then IO.print w.printedText
    else if let some failed ← replaceAll o.destination.directory w.printed then
      return ← fail (.unwritable failed)
    for line in o.summaryLines done do IO.eprintln line
    return 0

def start (args : List String) : IO UInt32 := do
  match Options.request args with
  | .misuse =>
    IO.eprintln Exit.usage
    return 2
  | .help =>
    IO.print Exit.help
    return 0
  | .version =>
    IO.print Exit.version
    return 0
  | .run model o => run model o

end ApiSamples.Main

def main (args : List String) : IO UInt32 := ApiSamples.Main.start args
