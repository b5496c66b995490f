import ApiSamples.Json.Basic
import ApiSamples.Model.Types

namespace ApiSamples

/-- A parameter that the caller passes on its own, though on the wire it is part of its holder. -/
structure Flattening where
  flattened : String
  holder : String
  deriving DecidableEq, Repr

structure Returns where
  body : Option String := none
  headers : Option String := none
  deriving DecidableEq, Repr

structure Example where
  name : String
  title : Option String := none
  description : Option String := none
  parameters : Json.Fields := []
  deriving Repr

structure Operation where
  name : String
  description : String := ""
  /-- In the order of the call. -/
  parameters : List Field := []
  flattenings : List Flattening := []
  returns : Returns := {}
  examples : List Example := []
  deriving Repr

/-- The group without a name holds the operations of the client itself. -/
structure Group where
  name : String := ""
  operations : List Operation := []
  deriving Repr

namespace Example

/-- A call recorded as a value; only an object holds parameters. -/
def ofJson (name : String) : Json → Example
  | .object fields => { name, parameters := fields }
  | _ => { name }

def parameter? (e : Example) (wireName : String) : Option Json := Json.get? e.parameters wireName

end Example

namespace Operation

def parameter? (op : Operation) (wireName : String) : Option Field :=
  op.parameters.find? fun parameter => parameter.wireName == wireName

end Operation

namespace Group

def isTopLevel (g : Group) : Bool := g.name.isEmpty

end Group

end ApiSamples
