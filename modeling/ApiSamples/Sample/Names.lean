import ApiSamples.Files.Path
import ApiSamples.Model.Operation
import ApiSamples.Text.Casing

namespace ApiSamples

/-- The path below the output directory. Operations of the client itself share a directory. -/
def samplePath (g : Group) (op : Operation) : FilePath :=
  FilePath.join ⟨if g.isTopLevel then "client" else g.name⟩ ⟨op.name ++ ".ts"⟩

def qualifiedName (g : Group) (op : Operation) : String :=
  if g.isTopLevel then op.name else g.name ++ "." ++ op.name

namespace Sample

def clientInstance : String := "client"

/-- The variables that every program declares before its samples. -/
def reservedNames : List String := [clientInstance, "credentials", "subscriptionId"]

def argumentVariable (name : String) : String :=
  if reservedNames.contains name then name ++ "Arg" else name

def reservedFor (op : Operation) (g : Group) : String :=
  Text.pascal g.name ++ Text.pascal op.name ++ "Sample"

def isTaken (arguments : List String) (name : String) : Bool :=
  reservedNames.contains name || arguments.contains name

/-- The first free one of `name`, `nameResult`, `nameResultResult` and so on. -/
def freeName (arguments : List String) : Nat → String → String
  | 0, name => name
  | tries + 1, name =>
    if isTaken arguments name then freeName arguments tries (name ++ "Result") else name

/-- The type that the operation returns, or the operation, in camel case. -/
def bindingBase (op : Operation) : String :=
  match op.returns.body.or op.returns.headers with
  | some name => Text.camel name
  | none => op.name ++ "Result"

/-- One try more than there are names that can be in the way. -/
def resultBinding (op : Operation) (arguments : List String) : String :=
  freeName arguments (arguments.length + reservedNames.length + 1) (bindingBase op)

end Sample

end ApiSamples
