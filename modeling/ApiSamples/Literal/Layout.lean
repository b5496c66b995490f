import ApiSamples.Json.Quoted
import ApiSamples.Text.Indented

namespace ApiSamples

inductive Literal where
  | absent
  /-- An expression on one line. -/
  | scalar (text : String)
  | object (entries : List (String × Literal))
  | list (items : List Literal)
  deriving Repr

namespace Literal

def isKeyStart (c : Char) : Bool := c.isAlpha || c == '_' || c == '$'

def isKeyChar (c : Char) : Bool := c.isAlphanum || c == '_' || c == '$'

/-- A key stands bare where it is an identifier of ASCII characters. -/
def key (name : String) : String :=
  match name.toList with
  | c :: cs => if isKeyStart c && cs.all isKeyChar then name else Quoted.quote name
  | [] => Quoted.quote name

def bracketed (opening closing : String) (depth : Nat) (entries : List String) : String :=
  if entries.isEmpty then opening ++ closing
  else opening ++ "\n" ++ ",\n".intercalate entries ++ "\n" ++ Text.margin depth ++ closing

mutual

def text (depth : Nat) : Literal → String
  | absent => "undefined"
  | scalar s => s
  | object entries => bracketed "\x7b" "\x7d" depth (entryTexts (depth + 1) entries)
  | list items => bracketed "[" "]" depth (itemTexts (depth + 1) items)

def entryTexts (depth : Nat) : List (String × Literal) → List String
  | [] => []
  | (name, value) :: entries =>
    (Text.margin depth ++ key name ++ ": " ++ text depth value) :: entryTexts depth entries

def itemTexts (depth : Nat) : List Literal → List String
  | [] => []
  | item :: items => (Text.margin depth ++ text depth item) :: itemTexts depth items

end

end Literal

end ApiSamples
