import ApiSamples.Text.Basic

namespace ApiSamples.Text

def repeated (unit : String) : Nat → String
  | 0 => ""
  | n + 1 => unit ++ repeated unit n

def margin (depth : Nat) : String := repeated "  " depth

def indentLine (lead line : String) : String := if line.isEmpty then "" else lead ++ line

/-- Every line of the text behind `lead`, each with a line feed after it. -/
def indentLines (lead text : String) : String :=
  String.join ((splitLines text).map fun line => indentLine lead line ++ "\n")

structure Writer where
  unit : String := "  "
  level : Nat := 0
  text : String := ""

namespace Writer

def indent (w : Writer) : Writer := { w with level := w.level + 1 }

/-- At level zero nothing changes. -/
def outdent (w : Writer) : Writer := { w with level := w.level - 1 }

def raw (w : Writer) (text : String) : Writer := { w with text := w.text ++ text }

def blank (w : Writer) : Writer := w.raw "\n"

def line (w : Writer) (text : String) : Writer :=
  w.raw (indentLines (repeated w.unit w.level) text)

def lines (w : Writer) (texts : List String) : Writer := texts.foldl line w

def isEmpty (w : Writer) : Bool := w.text.isEmpty

end Writer

end ApiSamples.Text
