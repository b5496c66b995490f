import ApiSamples.Text.Basic

namespace ApiSamples

structure Settings where
  packageName : String := "client"
  packageVersion : String := "0.1.0"
  clientName : Option String := none
  clientPrefix : Option String := none
  subscriptionId : String := "012-334-555-656"
  inlineIds : Bool := false
  deriving DecidableEq, Repr

namespace Settings

/-- Why settings cannot give samples that can be imported. -/
inductive Flaw where
  | emptyPackageName
  | blankInPackageName (packageName : String)
  | emptyClientName
  | emptyClientPrefix
  deriving DecidableEq, Repr

def Flaw.message : Flaw → String
  | emptyPackageName => "package_name cannot be empty"
  | blankInPackageName name => "package_name '" ++ name ++ "' cannot contain whitespace"
  | emptyClientName => "client_name cannot be empty"
  | emptyClientPrefix => "client_prefix cannot be empty"

def isBlankName (name : Option String) : Bool := name.any Text.allBlank

def flaw? (s : Settings) : Option Flaw :=
  if Text.allBlank s.packageName then some .emptyPackageName
  else if s.packageName.toList.any Text.isBlank then some (.blankInPackageName s.packageName)
  else if isBlankName s.clientName then some .emptyClientName
  else if isBlankName s.clientPrefix then some .emptyClientPrefix
  else none

def isValid (s : Settings) : Bool := s.flaw?.isNone

end Settings

end ApiSamples
