import ApiSamples.Literal.Synthesis
import ApiSamples.Sample.Names
import ApiSamples.Sample.Resolution
import ApiSamples.Settings.Basic
import ApiSamples.Text.Indented

namespace ApiSamples

inductive Mode where
  /-- A documentation comment, and a variable that reserves the name of the sample. -/
  | inline
  /-- A program of its own. -/
  | standalone
  /-- A block of a program, which may be its first and its last. -/
  | block (first last : Bool)
  deriving DecidableEq, Repr

structure Assembler where
  settings : Settings
  clientName : String
  scope : Scope

namespace Assembler

def ofModel (m : CodeModel) (s : Settings) : Assembler :=
  { settings := s
    clientName := s.clientName.getD m.name
    scope := ⟨m, s.clientPrefix.getD m.namespacePrefix ++ "Models", s.inlineIds⟩ }

/-- The options that every request takes come from the runtime and not from the models. -/
def typeNamespace (a : Assembler) (className : String) : String :=
  if Scalar.equalsIgnoringCase className "RequestOptionsBase" then "msRest"
  else a.scope.modelsNamespace

def annotation (a : Assembler) : TypeExpr → String
  | .composite name => ": " ++ a.typeNamespace name ++ "." ++ name
  | _ => ""

def declaration (a : Assembler) (arg : Argument) : Noted String := do
  let literal ← a.scope.synthesize arg.parameter.type arg.resolved.value
  return "const " ++ Sample.argumentVariable arg.parameter.name ++
    a.annotation arg.parameter.type ++ " = " ++ literal.text 0 ++ ";"

def receiver (g : Group) : String :=
  if g.isTopLevel then Sample.clientInstance
  else Sample.clientInstance ++ "." ++ Text.camel g.name

def argumentNames (args : List Argument) : List String :=
  args.map fun arg => Sample.argumentVariable arg.parameter.name

def binding (op : Operation) (args : List Argument) : String :=
  Sample.resultBinding op (argumentNames args)

def callStatement (op : Operation) (g : Group) (args : List Argument) : String :=
  "const " ++ binding op args ++ " = await " ++ receiver g ++ "." ++ op.name ++ "(" ++
    ", ".intercalate (argumentNames args) ++ ");"

def logStatement (op : Operation) (args : List Argument) : String :=
  "console.log(" ++ binding op args ++ ");"

def statements (op : Operation) (g : Group) (args : List Argument) (declarations : List String) :
    String :=
  let declared := ({} : Text.Writer).lines declarations
  let separated := if args.isEmpty then declared else declared.blank
  (separated.lines [callStatement op g args, logStatement op args]).text

/-- Nothing, and a report, if the example lacks a required parameter. -/
def core (a : Assembler) (op : Operation) (g : Group) (e : Example) : Noted (Option String) :=
  match op.arguments e with
  | .error missing => do
    Noted.report (.missingParameter op.name missing)
    Noted.warn (.suppressed op.name e.name)
    return none
  | .ok args => do
    return some (statements op g args (← args.mapM a.declaration))

/-- Imports, credentials and the client. The function that it opens is left open. -/
def prelude (a : Assembler) : String :=
  let quote := Quoted.quote
  let top : List String :=
    ["// npm install " ++ a.settings.packageName ++ "@" ++ a.settings.packageVersion ++
        " ms-rest-js ms-rest-nodeauth",
      "import * as msRest from \"ms-rest-js\";",
      "import * as msRestNodeAuth from \"ms-rest-nodeauth\";",
      "import \x7b " ++ a.clientName ++ ", " ++ a.scope.modelsNamespace ++ " \x7d from " ++
        quote a.settings.packageName ++ ";"]
  let entry : List String :=
    ["const subscriptionId = " ++ quote a.settings.subscriptionId ++ ";",
      "// Calling the async executeContext method",
      "executeContext().catch((err) => \x7b console.log(err); \x7d);",
      "// Function Definition",
      "async function executeContext(): Promise<void> \x7b"]
  let setup : List String :=
    ["// Authenticate.",
      "const credentials = await msRestNodeAuth.interactiveLogin();",
      "// Create client.",
      "const client = new " ++ a.clientName ++ "(credentials, subscriptionId);"]
  (((({} : Text.Writer).lines top).blank.lines entry).indent.lines setup).text

def block (a : Assembler) (core : String) (first last : Bool) : String :=
  let opened := if first then ({} : Text.Writer).raw a.prelude else {}
  let inside := (opened.indent.line "\x7b").indent.line (Text.trimEnd core)
  let closed := inside.outdent.line "\x7d"
  (if last then closed.outdent.line "\x7d" else closed).text

/-- The end of a comment, taken apart so that it ends none. -/
def guardComment : List Char → List Char
  | '*' :: '/' :: cs => '*' :: '\\' :: '/' :: guardComment cs
  | c :: cs => c :: guardComment cs
  | [] => []

def commentLine (line : String) : String :=
  if line.isEmpty then " *\n"
  else " * " ++ String.ofList (guardComment line.toList) ++ "\n"

def nonempty (s : Option String) : Option String := s.filter fun s => !s.isEmpty

def titleLines (e : Example) : List String :=
  match nonempty e.title with
  | some title => ["#### Title: " ++ title, ""]
  | none => []

def descriptionLines (e : Example) : List String :=
  match nonempty e.description with
  | some description => "#### Description:" :: Text.lines description ++ [""]
  | none => []

def fragmentLines (core : String) (e : Example) : List String :=
  titleLines e ++ descriptionLines e ++
    "@example" :: "```typescript" :: Text.lines (Text.trimEnd core) ++ ["```"]

def fragment (core : String) (op : Operation) (g : Group) (e : Example) : String :=
  "/**\n" ++ String.join ((fragmentLines core e).map commentLine) ++ " */\n" ++
    "var " ++ Sample.reservedFor op g ++ ";\n"

/-- The statements with what the mode puts around them. -/
def surround (a : Assembler) (op : Operation) (g : Group) (e : Example) (core : String) :
    Mode → String
  | .inline => fragment core op g e
  | .standalone => a.block core true true
  | .block first last => a.block core first last

def assemble (a : Assembler) (mode : Mode) (op : Operation) (g : Group) (e : Example) :
    Noted (Option String) := do
  return (← a.core op g e).map fun core => a.surround op g e core mode

end Assembler

structure Program where
  text : String := ""
  blocks : Nat := 0
  deriving DecidableEq, Repr

namespace Program

def push (p : Program) (a : Assembler) (op : Operation) (g : Group) (e : Example) :
    Noted (Program × Bool) := do
  match ← a.assemble (.block (p.blocks == 0) false) op g e with
  | some block => return ({ text := p.text ++ block, blocks := p.blocks + 1 }, true)
  | none => return (p, false)

def finish (p : Program) : Option String :=
  if p.blocks == 0 then none else some (p.text ++ "\x7d\n")

def pushAll (p : Program) (a : Assembler) (op : Operation) (g : Group) :
    List Example → Noted (Program × Nat)
  | [] => return (p, 0)
  | e :: es => do
    let (p, pushed) ← p.push a op g e
    let (p, suppressed) ← p.pushAll a op g es
    return (p, if pushed then suppressed else suppressed + 1)

end Program

namespace Assembler

def program (a : Assembler) (op : Operation) (g : Group) : Noted (Option String) := do
  let (p, _) ← ({} : Program).pushAll a op g op.examples
  return p.finish

def joined (texts : List String) : Option String :=
  if texts.isEmpty then none else some ("\n".intercalate texts)

def fragments (a : Assembler) (op : Operation) (g : Group) : Noted (Option String) := do
  return joined (← op.examples.mapM (a.assemble .inline op g)).reduceOption

end Assembler

end ApiSamples
