namespace FrontEnd

inductive Abi where
  | itanium
  | microsoft
deriving DecidableEq, Repr

namespace Abi

def all : List Abi :=
  [itanium, microsoft]

def name : Abi → String
  | itanium => "itanium"
  | microsoft => "microsoft"

structure Unknown where
  given : String
deriving DecidableEq, Repr

def Unknown.message (unknown : Unknown) : String :=
  s!"invalid C++ ABI '{unknown.given}', valid values: itanium, microsoft"

def parse (given : String) : Except Unknown Abi :=
  match given with
  | "itanium" => .ok itanium
  | "microsoft" | "msvc" => .ok microsoft
  | _ => .error ⟨given⟩

def documentName : Abi → String
  | itanium => "itanium"
  | microsoft => "microsoft"

def aliases : Abi → List String
  | itanium => []
  | microsoft => ["msvc"]

def configured? (given : String) : Option Abi :=
  all.find? fun abi => given == abi.documentName || abi.aliases.contains given

end Abi

end FrontEnd
