import ApiSamples.Text.Basic
import ApiSamples.Text.LetterCase

namespace ApiSamples.Text

def isIdentifierLike (cs : List Char) : Bool := cs.all fun c => c.isAlphanum || c == '$'

inductive Case where
  | none | lower | upper
  deriving DecidableEq

namespace Case

def next (case : Case) (c : Char) : Case :=
  if isLowercase c then lower else if isUppercase c then upper else case

end Case

/-- A word ends where upper case follows lower case, and before the last of several upper case
characters that lower case follows. -/
def wordsFrom (case : Case) (word : List Char) : List Char → List (List Char)
  | [] => [word]
  | [c] => [word ++ [c]]
  | c :: d :: cs =>
    if case.next c = .lower ∧ isUppercase d then
      (word ++ [c]) :: wordsFrom .none [] (d :: cs)
    else if case = .upper ∧ isUppercase c ∧ isLowercase d then
      word :: wordsFrom .none [c] (d :: cs)
    else wordsFrom (case.next c) (word ++ [c]) (d :: cs)

def words (cs : List Char) : List (List Char) :=
  ((pieces (!isAlphanumeric ·) cs).filter fun piece => !piece.isEmpty).flatMap
    (wordsFrom .none [])

/-- A sigma at the end takes its final form. -/
def lowerWord : List Char → List Char
  | [] => []
  | [c] => if c = 'Σ' then ['ς'] else lower c
  | c :: cs => lower c ++ lowerWord cs

def capitalize : List Char → List Char
  | [] => []
  | c :: cs => upper c ++ lowerWord cs

def camelWords : List (List Char) → List Char
  | [] => []
  | word :: words => lowerWord word ++ words.flatMap capitalize

def camelChars (cs : List Char) : List Char :=
  if isIdentifierLike cs then
    match cs with
    | [] => []
    | c :: cs => c.toLower :: cs
  else camelWords (words cs)

def pascalChars (cs : List Char) : List Char :=
  if isIdentifierLike cs then
    match cs with
    | [] => []
    | c :: cs => c.toUpper :: cs
  else (words cs).flatMap capitalize

def camel (s : String) : String := String.ofList (camelChars s.toList)

def pascal (s : String) : String := String.ofList (pascalChars s.toList)

@[simp] theorem toList_camel (s : String) : (camel s).toList = camelChars s.toList := by
  simp [camel]

@[simp] theorem toList_pascal (s : String) : (pascal s).toList = pascalChars s.toList := by
  simp [pascal]

end ApiSamples.Text
