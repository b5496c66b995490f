import ApiSamples.Text.Basic

namespace ApiSamples

structure FilePath where
  text : String
  deriving DecidableEq, Repr

namespace FilePath

inductive Component where
  | root
  | here
  | up
  | name (s : String)
  deriving DecidableEq, Repr

def parts (p : FilePath) : List String := (Text.pieces (· == '/') p.text.toList).map String.ofList

def isAbsolute (p : FilePath) : Bool := p.text.toList.head? == some '/'

/-- A part that is no component unless it stands first. -/
def isVoid (part : String) : Bool := part == "" || part == "."

def Component.ofPart (part : String) : Component := if part == ".." then up else name part

def componentsOf : List String → List Component
  | [] => []
  | first :: parts =>
    let rest := (parts.filter fun part => !isVoid part).map Component.ofPart
    if first == "" then rest
    else if first == "." then .here :: rest
    else .ofPart first :: rest

def components (p : FilePath) : List Component :=
  if p.isAbsolute then .root :: componentsOf p.parts else componentsOf p.parts

def same (p q : FilePath) : Bool := p.components == q.components

theorem same_iff {p q : FilePath} : p.same q = true ↔ p.components = q.components := beq_iff_eq

/-- The second path below the first one. An absolute path stands below nothing. -/
def join (base p : FilePath) : FilePath :=
  if p.isAbsolute then p
  else if base.text.isEmpty || base.text.toList.getLast? == some '/' then ⟨base.text ++ p.text⟩
  else ⟨base.text ++ "/" ++ p.text⟩

/-- The parts behind the first one, in reverse, from the last component on. -/
def trimVoid (reversed : List String) : List String := reversed.dropWhile isVoid

def ofParts (parts : List String) : FilePath :=
  if parts = [""] then ⟨"/"⟩ else ⟨"/".intercalate parts⟩

def parent? (p : FilePath) : Option FilePath :=
  match p.parts with
  | [] => none
  | first :: parts =>
    match trimVoid parts.reverse with
    | [] => if first == "" then none else some ⟨""⟩
    | _ :: before => some (ofParts (first :: (trimVoid before).reverse))

/-- A file name up to its last point. A point at the front begins no extension. -/
def stem (name : String) : String :=
  let cs := name.toList.reverse
  match cs.dropWhile (· != '.') with
  | [] | [_] => name
  | _ :: before => String.ofList before.reverse

/-- A file name with another extension. The old one goes first: where nothing stands behind the
name, two points and an extension become two points, which name no file, and there it ends. -/
def renamed (extension name : String) (atEnd : Bool) : String :=
  if atEnd && stem name == "." then ".." else stem name ++ "." ++ extension

def withExtension (p : FilePath) (extension : String) : FilePath :=
  match p.parts with
  | [] => p
  | first :: parts =>
    match trimVoid parts.reverse with
    | [] =>
      if isVoid first || first == ".." then p else ⟨renamed extension first parts.isEmpty⟩
    | last :: before =>
      if last == ".." then p
      else
        let name := renamed extension last (parts.getLast? == some last)
        ofParts (first :: (name :: before).reverse)

/-- Whether the path ends in a single point, slashes behind it apart. -/
def endsInPoint (p : FilePath) : Bool :=
  match p.parts.reverse.dropWhile (· == "") with
  | part :: _ => part == "."
  | [] => false

def endsInFolder (p : FilePath) : Bool :=
  match p.parts.getLast? with
  | some part => isVoid part || part == ".."
  | none => true

/-- The longest names and paths that are allowed, in bytes. -/
structure Limits where
  name : Nat
  path : Nat
  deriving DecidableEq, Repr

namespace Limits

def usual : Limits := ⟨255, 4095⟩

def admitsName (l : Limits) (name : String) : Bool := name.utf8ByteSize ≤ l.name

def admits (l : Limits) (p : FilePath) : Bool :=
  p.text.utf8ByteSize ≤ l.path && !p.text.toList.contains '\x00'

end Limits

end FilePath

end ApiSamples
