namespace FrontEnd.Msvc

inductive Generation where
  | vs2012
  | vs2013
  | vs2015
  | vs2017
  | latest
deriving DecidableEq, Repr

namespace Generation

def all : List Generation :=
  [vs2012, vs2013, vs2015, vs2017, latest]

def token : Generation → String
  | vs2012 => "vs2012"
  | vs2013 => "vs2013"
  | vs2015 => "vs2015"
  | vs2017 => "vs2017"
  | latest => "latest"

/-- The generation that a token chooses. A missing or unknown token chooses the latest. -/
def ofToken : Option String → Generation
  | some "vs2012" => vs2012
  | some "vs2013" => vs2013
  | some "vs2015" => vs2015
  | some "vs2017" => vs2017
  | _ => latest

def documentName : Generation → String
  | vs2012 => "vs2012"
  | vs2013 => "vs2013"
  | vs2015 => "vs2015"
  | vs2017 => "vs2017"
  | latest => "latest"

def configured? (given : String) : Option Generation :=
  all.find? fun generation => given == generation.documentName

def productMajor : Generation → Option Nat
  | vs2012 => some 11
  | vs2013 => some 12
  | vs2015 => some 14
  | vs2017 => some 15
  | latest => none

end Generation

end FrontEnd.Msvc
