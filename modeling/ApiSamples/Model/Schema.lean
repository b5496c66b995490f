import ApiSamples.Json.Reader
import ApiSamples.Model.Basic

namespace ApiSamples

open Document

def Kind.document (kind : Kind) : Document := Document.string kind.name

def Kind.read : Reader Kind := Reader.name Kind.ofName?

def Family.document (family : Family) : Document := string family.name

def Family.read : Reader Family := Reader.name Family.ofName?

namespace TypeExpr

inductive Tag where
  | primitive | enum | composite | sequence | dictionary
  deriving DecidableEq, Repr

namespace Tag

def all : List Tag := [primitive, enum, composite, sequence, dictionary]

def name : Tag → String
  | primitive => "primitive"
  | enum => "enum"
  | composite => "composite"
  | sequence => "sequence"
  | dictionary => "dictionary"

def key : Tag → String
  | primitive => "kind"
  | enum | composite => "name"
  | sequence => "element"
  | dictionary => "value"

def ofName? (s : String) : Option Tag := all.find? fun tag => tag.name == s

/-- Inside another type a tag may also be given by its position. -/
def ofDocument? : Document → Option Tag
  | .string s => ofName? s
  | .number (.integer n _) => if n < 0 then none else all[n.toNat]?
  | _ => none

end Tag

def tagKey : String := "type"

def document : TypeExpr → Document
  | primitive kind => record [(tagKey, string "primitive"), ("kind", kind.document)]
  | enum name => record [(tagKey, string "enum"), ("name", string name)]
  | composite name => record [(tagKey, string "composite"), ("name", string name)]
  | sequence element => record [(tagKey, string "sequence"), ("element", document element)]
  | dictionary value => record [(tagKey, string "dictionary"), ("value", document value)]

def kind? : Document → Option Kind
  | .string s => Kind.ofName? s
  | .object [(.string s, .null)] _ | .object [(.string s, .object [] _)] _ => Kind.ofName? s
  | _ => none

abbrev Held := Document × Option TypeExpr

def ofHeld? : Tag → Held → Option TypeExpr
  | .primitive, (doc, _) => (kind? doc).map primitive
  | .enum, (.string s, _) => some (enum s)
  | .composite, (.string s, _) => some (composite s)
  | .sequence, (_, type) => type.map sequence
  | .dictionary, (_, type) => type.map dictionary
  | _, _ => none

def named (key : String) (entries : List (String × Held)) : List Held :=
  (entries.filter fun entry => entry.1 == key).map Prod.snd

/-- The tag and what its variant holds have to be there once each. -/
def ofEntries? (entries : List (String × Held)) : Option TypeExpr :=
  match named tagKey entries with
  | [(tag, _)] => do
    let tag ← Tag.ofDocument? tag
    match named tag.key entries with
    | [held] => ofHeld? tag held
    | _ => none
  | _ => none

mutual

/-- The type that a complete text writes, as an object or as an array of the tag and what the
variant holds. -/
def ofDocument? : Document → Option TypeExpr
  | .object entries _ => ofEntries? (heldEntries entries)
  | .array items _ =>
    match heldItems items with
    | [(tag, _), held] => do ofHeld? (← Tag.ofDocument? tag) held
    | _ => none
  | _ => none

def heldEntries : List (Document × Document) → List (String × Held)
  | [] => []
  | (.string key, value) :: entries => (key, value, ofDocument? value) :: heldEntries entries
  | _ :: entries => heldEntries entries

def heldItems : List Document → List Held
  | [] => []
  | item :: items => (item, ofDocument? item) :: heldItems items

end

open Reader

def readTag : Document → Except Fault Unit
  | .string s => if (Tag.ofName? s).isSome then .ok () else .error .mismatched
  | doc => refuse doc

/-- Walks through the entries: a tag is looked at when it is met, all else only has to be JSON.
The answer says whether there was a tag. -/
def checkEntries (left : Nat) (tagged : Bool) : List (Document × Document) → Except Fault Bool
  | [] => .ok tagged
  | (k, value) :: entries => do
    let name ← key k
    if name = tagKey then
      if tagged then .error .mismatched
      readTag value
      checkEntries left true entries
    else
      let _ ← json left value
      checkEntries left tagged entries

def check : Reader Unit
  | 0, .object _ _ | 0, .array _ _ => .error .malformed
  | left + 1, .object entries closed => do
    let tagged ← checkEntries left false entries
    finish closed
    if tagged then .ok () else .error .mismatched
  | _ + 1, .array [] closed => do
    finish closed
    .error .mismatched
  | left + 1, .array (tag :: items) closed => do
    readTag tag
    let _ ← jsonItems left items
    finish closed
  | _, doc => refuse doc

/-- The text of a type is read to its end before its parts are looked at, its tag apart. -/
def read : Reader TypeExpr := fun left doc => do
  check left doc
  match ofDocument? doc with
  | some type => .ok type
  | none => .error .mismatched

end TypeExpr

namespace Field

def document (f : Field) : Document :=
  record [("name", string f.name), ("serializedName", string f.wireName),
    ("modelType", f.type.document), ("required", bool f.required)]

def columns : Columns [String, String, TypeExpr, Bool] :=
  .cons "name" Reader.text <| .cons "serializedName" Reader.text <|
  .cons "modelType" TypeExpr.read <| .cons "required" Reader.flag .nil

def make : Slots [String, String, TypeExpr, Bool] → Option Field
  | (some name, some wireName, some type, required, ()) =>
    some ⟨name, wireName, type, required.getD false⟩
  | _ => none

def read : Reader Field := Reader.record false columns make

end Field

namespace Composite

def document (c : Composite) : Document :=
  record [("className", string c.className), ("properties", list (c.properties.map Field.document))]

def columns : Columns [String, List Field] :=
  .cons "className" Reader.text <| .cons "properties" (Reader.items Field.read) .nil

def make : Slots [String, List Field] → Option Composite
  | (some className, properties, ()) => some ⟨className, properties.getD []⟩
  | _ => none

def read : Reader Composite := Reader.record false columns make

end Composite

namespace Enumeration

def document (e : Enumeration) : Document :=
  record [("className", string e.className), ("values", list (e.values.map string)),
    ("modelAsString", bool e.extensible)]

def columns : Columns [String, List String, Bool] :=
  .cons "className" Reader.text <| .cons "values" (Reader.items Reader.text) <|
  .cons "modelAsString" Reader.flag .nil

def make : Slots [String, List String, Bool] → Option Enumeration
  | (some className, values, extensible, ()) =>
    some ⟨className, values.getD [], extensible.getD false⟩
  | _ => none

def read : Reader Enumeration := Reader.record false columns make

end Enumeration

namespace Flattening

def document (f : Flattening) : Document :=
  record [("flattenedName", string f.flattened), ("originalName", string f.holder)]

def columns : Columns [String, String] :=
  .cons "flattenedName" Reader.text <| .cons "originalName" Reader.text .nil

def make : Slots [String, String] → Option Flattening
  | (some flattened, some holder, ()) => some ⟨flattened, holder⟩
  | _ => none

def read : Reader Flattening := Reader.record false columns make

end Flattening

namespace Returns

def document (r : Returns) : Document :=
  record [("body", text? r.body), ("headers", text? r.headers)]

def columns : Columns [Option String, Option String] :=
  .cons "body" Reader.text? <| .cons "headers" Reader.text? .nil

def make : Slots [Option String, Option String] → Option Returns
  | (body, headers, ()) => some ⟨body.getD none, headers.getD none⟩

def read : Reader Returns := Reader.record false columns make

end Returns

namespace Example

def document (e : Example) : Document :=
  record [("name", string e.name), ("title", text? e.title), ("description", text? e.description),
    ("parameters", Document.ofJson (.object e.parameters))]

def columns : Columns [String, Option String, Option String, Json.Fields] :=
  .cons "name" Reader.text <| .cons "title" Reader.text? <|
  .cons "description" Reader.text? <| .cons "parameters" Reader.fields .nil

def make : Slots [String, Option String, Option String, Json.Fields] → Option Example
  | (some name, title, description, parameters, ()) =>
    some ⟨name, title.getD none, description.getD none, parameters.getD []⟩
  | _ => none

def read : Reader Example := Reader.record false columns make

end Example

namespace Operation

def document (op : Operation) : Document :=
  record [("name", string op.name), ("description", string op.description),
    ("parameters", list (op.parameters.map Field.document)),
    ("transformations", list (op.flattenings.map Flattening.document)),
    ("returnType", op.returns.document), ("examples", list (op.examples.map Example.document))]

def columns : Columns [String, String, List Field, List Flattening, Returns, List Example] :=
  .cons "name" Reader.text <| .cons "description" Reader.text <|
  .cons "parameters" (Reader.items Field.read) <|
  .cons "transformations" (Reader.items Flattening.read) <|
  .cons "returnType" Returns.read <| .cons "examples" (Reader.items Example.read) .nil

def make :
    Slots [String, String, List Field, List Flattening, Returns, List Example] → Option Operation
  | (some name, description, parameters, flattenings, returns, examples, ()) =>
    some ⟨name, description.getD "", parameters.getD [], flattenings.getD [],
      returns.getD ⟨none, none⟩, examples.getD []⟩
  | _ => none

def read : Reader Operation := Reader.record false columns make

end Operation

namespace Group

def document (g : Group) : Document :=
  record [("name", string g.name), ("operations", list (g.operations.map Operation.document))]

def columns : Columns [String, List Operation] :=
  .cons "name" Reader.text <| .cons "operations" (Reader.items Operation.read) .nil

def make : Slots [String, List Operation] → Option Group
  | (name, operations, ()) => some ⟨name.getD "", operations.getD []⟩

def read : Reader Group := Reader.record false columns make

end Group

namespace CodeModel

def document (m : CodeModel) : Document :=
  record [("name", string m.name), ("family", m.family.document),
    ("clientPrefix", text? m.clientPrefix),
    ("modelTypes", list (m.composites.map Composite.document)),
    ("enumTypes", list (m.enumerations.map Enumeration.document)),
    ("operationGroups", list (m.groups.map Group.document))]

def columns :
    Columns [String, Family, Option String, List Composite, List Enumeration, List Group] :=
  .cons "name" Reader.text <| .cons "family" Family.read <|
  .cons "clientPrefix" Reader.text? <| .cons "modelTypes" (Reader.items Composite.read) <|
  .cons "enumTypes" (Reader.items Enumeration.read) <|
  .cons "operationGroups" (Reader.items Group.read) .nil

def make : Slots [String, Family, Option String, List Composite, List Enumeration, List Group] →
    Option CodeModel
  | (some name, some family, clientPrefix, composites, enumerations, groups, ()) =>
    some ⟨name, family, clientPrefix.getD none, composites.getD [], enumerations.getD [],
      groups.getD []⟩
  | _ => none

def read : Reader CodeModel := Reader.record false columns make

def parse (text : String) : Except Fault CodeModel := read.parse text

end CodeModel

end ApiSamples
