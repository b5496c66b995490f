import ApiSamples.Model.Operation

namespace ApiSamples

structure CodeModel where
  name : String
  family : Family
  clientPrefix : Option String := none
  composites : List Composite := []
  enumerations : List Enumeration := []
  groups : List Group := []
  deriving Repr

namespace CodeModel

def composite? (m : CodeModel) (className : String) : Option Composite :=
  m.composites.find? fun c => c.className == className

def enumeration? (m : CodeModel) (className : String) : Option Enumeration :=
  m.enumerations.find? fun e => e.className == className

def defines (m : CodeModel) : Reference → Bool
  | .enum name => (m.enumeration? name).isSome
  | .composite name => (m.composite? name).isSome

/-- The name without `Client` at its end. -/
def nameStem (name : String) : String :=
  let cs := name.toList
  let suffix := "Client".toList
  if suffix.isSuffixOf cs then String.ofList (cs.take (cs.length - suffix.length)) else name

def namespacePrefix (m : CodeModel) : String := m.clientPrefix.getD (nameStem m.name)

def operations (m : CodeModel) : List (Group × Operation) :=
  m.groups.flatMap fun g => g.operations.map fun op => (g, op)

end CodeModel

end ApiSamples
