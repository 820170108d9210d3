namespace FrontEnd

inductive Language where
  | c
  | gnuC
  | cpp98
  | gnuCpp98
  | cpp11
  | gnuCpp11
deriving DecidableEq, Repr

namespace Language

def all : List Language :=
  [c, gnuC, cpp98, gnuCpp98, cpp11, gnuCpp11]

def name : Language → String
  | c => "c"
  | gnuC => "gnu-c"
  | cpp98 => "c++98"
  | gnuCpp98 => "gnu++98"
  | cpp11 => "c++11"
  | gnuCpp11 => "gnu++11"

structure Unknown where
  given : String
deriving DecidableEq, Repr

def Unknown.message (unknown : Unknown) : String :=
  s!"invalid language version '{unknown.given}', valid values: c, gnu-c, c++98, gnu++98, c++11, gnu++11"

def parse (given : String) : Except Unknown Language :=
  match given with
  | "c" | "c99" => .ok c
  | "gnu-c" | "gnuc" | "gnu99" => .ok gnuC
  | "c++98" | "cpp98" => .ok cpp98
  | "gnu++98" => .ok gnuCpp98
  | "c++11" | "cpp11" => .ok cpp11
  | "gnu++11" => .ok gnuCpp11
  | _ => .error ⟨given⟩

def documentName : Language → String
  | c => "c"
  | gnuC => "gnu-c"
  | cpp98 => "c++98"
  | gnuCpp98 => "gnu++98"
  | cpp11 => "c++11"
  | gnuCpp11 => "gnu++11"

def aliases : Language → List String
  | c => ["c99"]
  | gnuC => ["gnu99", "gnuc"]
  | cpp98 => ["cpp98"]
  | gnuCpp98 => []
  | cpp11 => ["cpp11"]
  | gnuCpp11 => []

def configured? (given : String) : Option Language :=
  all.find? fun language => given == language.documentName || language.aliases.contains given

def isC : Language → Bool
  | c | gnuC => true
  | _ => false

def languageFlag (language : Language) : String :=
  if language.isC then "-xc" else "-xc++"

/-- The flag that selects the standard. Headers made for Microsoft's compiler need C++14 where
C++11 was asked for. -/
def standardFlag (language : Language) (microsoftMode : Bool) : String :=
  match language, microsoftMode with
  | c, _ => "-std=c99"
  | gnuC, _ => "-std=gnu99"
  | cpp98, _ => "-std=c++98"
  | gnuCpp98, _ => "-std=gnu++98"
  | cpp11, true => "-std=c++14"
  | cpp11, false => "-std=c++11"
  | gnuCpp11, true => "-std=gnu++14"
  | gnuCpp11, false => "-std=gnu++11"

end Language

end FrontEnd
