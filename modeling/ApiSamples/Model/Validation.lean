import ApiSamples.Diagnostic
import ApiSamples.Error
import ApiSamples.Model.Basic
import ApiSamples.Sample.Names

namespace ApiSamples

namespace CodeModel

def expectedFamily : Family := .typeScript

def checkFamily (m : CodeModel) : Except RunError Unit :=
  if m.family = expectedFamily then .ok () else .error (.wrongFamily expectedFamily m.family)

def undefined? (m : CodeModel) (type : TypeExpr) : Option Reference :=
  type.references.find? fun reference => !m.defines reference

def checkType (m : CodeModel) (owner : String) (type : TypeExpr) : Except RunError Unit :=
  match m.undefined? type with
  | some reference => .error (.unresolvedType owner reference.name)
  | none => .ok ()

/-- The properties of a composite, `seen` being the names of those before them. -/
def checkProperties (m : CodeModel) (className : String) (seen : List String) :
    List Field → Except RunError Unit
  | [] => .ok ()
  | p :: ps => do
    if seen.contains p.name then .error (.duplicateProperty className p.name)
    m.checkType className p.type
    m.checkProperties className (p.name :: seen) ps

def checkComposites (m : CodeModel) : Except RunError Unit :=
  m.composites.forM fun c => m.checkProperties c.className [] c.properties

def clash? (seen : List (Group × Operation)) (path : FilePath) : Option (Group × Operation) :=
  seen.find? fun (g, op) => (samplePath g op).same path

def checkOperation (m : CodeModel) (seen : List (Group × Operation)) (g : Group) (op : Operation) :
    Except RunError Unit := do
  match clash? seen (samplePath g op) with
  | some (h, first) =>
    .error (.duplicatePath (samplePath g op) (qualifiedName h first) (qualifiedName g op))
  | none => op.parameters.forM fun p => m.checkType op.name p.type

def looseFlattenings (op : Operation) : List Note :=
  (op.flattenings.filter fun f => (op.parameter? f.flattened).isNone).map fun f =>
    .warning (.looseFlattening op.name f.flattened f.holder)

def checkOperations (m : CodeModel) (seen : List (Group × Operation)) :
    List (Group × Operation) → Noted (Except RunError Unit)
  | [] => pure (.ok ())
  | (g, op) :: rest =>
    match m.checkOperation seen g op with
    | .error e => pure (.error e)
    | .ok () =>
      let checked := m.checkOperations (seen ++ [(g, op)]) rest
      ⟨checked.value, looseFlattenings op ++ checked.notes⟩

def validate (m : CodeModel) : Noted (Except RunError Unit) :=
  match m.checkFamily *> m.checkComposites with
  | .error e => pure (.error e)
  | .ok () => m.checkOperations [] m.operations

end CodeModel

end ApiSamples
