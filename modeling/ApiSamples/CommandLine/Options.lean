import ApiSamples.Files.Path

namespace ApiSamples

structure Options where
  model : Option FilePath := none
  output : Option FilePath := none
  settings : Option FilePath := none
  packageName : Option String := none
  packageVersion : Option String := none
  fragments : Bool := false
  dryRun : Bool := false
  verbosity : Nat := 0
  jsonLog : Bool := false
  deriving DecidableEq, Repr

namespace Options

inductive Request where
  | run (model : FilePath) (o : Options)
  | help
  | version
  | misuse
  deriving DecidableEq, Repr

inductive Valued where
  | model | output | settings | packageName | packageVersion
  deriving DecidableEq, Repr

inductive Switch where
  | fragments | dryRun | verbose | json | help | version
  deriving DecidableEq, Repr

def ofLong? : String → Option (Valued ⊕ Switch)
  | "model" => some (.inl .model)
  | "output" => some (.inl .output)
  | "settings" => some (.inl .settings)
  | "package-name" => some (.inl .packageName)
  | "package-version" => some (.inl .packageVersion)
  | "fragments" => some (.inr .fragments)
  | "dry-run" => some (.inr .dryRun)
  | "verbose" => some (.inr .verbose)
  | "json" => some (.inr .json)
  | "help" => some (.inr .help)
  | "version" => some (.inr .version)
  | _ => none

def ofShort? : Char → Option (Valued ⊕ Switch)
  | 'm' => some (.inl .model)
  | 'o' => some (.inl .output)
  | 's' => some (.inl .settings)
  | 'v' => some (.inr .verbose)
  | 'h' => some (.inr .help)
  | 'V' => some (.inr .version)
  | _ => none

def fresh {α : Type} (old : Option α) (new : α) : Option (Option α) :=
  match old with
  | some _ => none
  | none => some (some new)

def freshPath (old : Option FilePath) (text : String) : Option (Option FilePath) :=
  if text.isEmpty then none else fresh old ⟨text⟩

def set (o : Options) (v : Valued) (value : String) : Option Options :=
  match v with
  | .model => (freshPath o.model value).map fun p => { o with model := p }
  | .output => (freshPath o.output value).map fun p => { o with output := p }
  | .settings => (freshPath o.settings value).map fun p => { o with settings := p }
  | .packageName => (fresh o.packageName value).map fun s => { o with packageName := s }
  | .packageVersion => (fresh o.packageVersion value).map fun s => { o with packageVersion := s }

def turn (o : Options) : Switch → Except Request Options
  | .fragments => if o.fragments then .error .misuse else .ok { o with fragments := true }
  | .dryRun => if o.dryRun then .error .misuse else .ok { o with dryRun := true }
  | .json => if o.jsonLog then .error .misuse else .ok { o with jsonLog := true }
  | .verbose => .ok { o with verbosity := o.verbosity + 1 }
  | .help => .error .help
  | .version => .error .version

def given (o : Options) (v : Valued) (value : String) : Except Request Options :=
  match o.set v value with
  | some o => .ok o
  | none => .error .misuse

/-- Short options written together. An option with a value takes the rest, and if there is none the
next argument, which the answer then asks for. -/
def readShort (o : Options) : List Char → Except Request (Options × Option Valued)
  | [] => .ok (o, none)
  | c :: cs =>
    match ofShort? c with
    | none => .error .misuse
    | some (.inr s) => do readShort (← o.turn s) cs
    | some (.inl v) =>
      match cs with
      | [] => .ok (o, some v)
      | '=' :: value => do return (← o.given v (String.ofList value), none)
      | value => do return (← o.given v (String.ofList value), none)

def readLong (o : Options) (cs : List Char) : Except Request (Options × Option Valued) :=
  let name := String.ofList (cs.takeWhile (· != '='))
  match ofLong? name, cs.dropWhile (· != '=') with
  | some (.inl v), [] => .ok (o, some v)
  | some (.inl v), _ :: value => do return (← o.given v (String.ofList value), none)
  | some (.inr s), [] => do return (← o.turn s, none)
  | _, _ => .error .misuse

/-- An argument that begins with a dash and is more than that is no value. -/
def isOptionLike (arg : String) : Bool :=
  match arg.toList with
  | '-' :: _ :: _ => true
  | _ => false

/-- Reads arguments, the first of them being the value of a pending option if there is one. -/
def read (o : Options) (pending : Option Valued) : List String → Except Request Options
  | [] => if pending.isSome then .error .misuse else .ok o
  | arg :: args =>
    match pending with
    | some v => if isOptionLike arg then .error .misuse else do (← o.given v arg).read none args
    | none =>
      match arg.toList with
      | ['-', '-'] => if args.isEmpty then .ok o else .error .misuse
      | '-' :: '-' :: cs => do
        let (o, pending) ← o.readLong cs
        o.read pending args
      | '-' :: c :: cs => do
        let (o, pending) ← o.readShort (c :: cs)
        o.read pending args
      | _ => .error .misuse

def request (args : List String) : Request :=
  match ({} : Options).read none args with
  | .ok o =>
    match o.model with
    | some model => .run model o
    | none => .misuse
  | .error r => r

end Options

end ApiSamples
