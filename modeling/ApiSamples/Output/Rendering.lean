import ApiSamples.Model.Validation
import ApiSamples.Sample.Assembly

namespace ApiSamples

structure SampleFile where
  path : FilePath
  content : String
  samples : Nat
  deriving DecidableEq, Repr

structure Rendered where
  files : List SampleFile
  /-- The number of examples that gave no sample. -/
  suppressed : Nat
  deriving DecidableEq, Repr

namespace Assembler

def renderOperation (a : Assembler) (g : Group) (op : Operation) :
    Noted (Option SampleFile × Nat) := do
  let (p, suppressed) ← ({} : Program).pushAll a op g op.examples
  return (p.finish.map fun content => ⟨samplePath g op, content, p.blocks⟩, suppressed)

def renderOperations (a : Assembler) : List (Group × Operation) → Noted Rendered
  | [] => return ⟨[], 0⟩
  | (g, op) :: rest => do
    let (file, suppressed) ← a.renderOperation g op
    let rendered ← a.renderOperations rest
    return ⟨file.toList ++ rendered.files, suppressed + rendered.suppressed⟩

end Assembler

namespace CodeModel

def validated {α : Type} (m : CodeModel) (next : Noted α) : Noted (Except RunError α) := do
  match ← m.validate with
  | .error e => return .error e
  | .ok () => return .ok (← next)

def renderSamples (m : CodeModel) (s : Settings) : Noted (Except RunError Rendered) :=
  match s.check with
  | .error e => pure (.error e)
  | .ok () => m.validated ((Assembler.ofModel m s).renderOperations m.operations)

/-- The fragments of all operations. The settings are not checked for them. -/
def renderFragments (m : CodeModel) (s : Settings) : Noted (Except RunError (Option String)) :=
  m.validated do
    let a := Assembler.ofModel m s
    let fragments ← m.operations.mapM fun (g, op) => a.fragments op g
    return Assembler.joined fragments.reduceOption

end CodeModel

end ApiSamples
