import FrontEnd.Msvc.Generation
import FrontEnd.Text.Digits

namespace FrontEnd.Msvc

def checkedMul (a b : UInt32) : Option UInt32 :=
  if a.toNat * b.toNat < UInt32.size then some (a * b) else none

def checkedAdd (a b : UInt32) : Option UInt32 :=
  if a.toNat + b.toNat < UInt32.size then some (a + b) else none

structure Compiler where
  major : UInt32
  minor : UInt32
deriving DecidableEq, Repr

namespace Compiler

def render (compiler : Compiler) : String :=
  Decimal.render compiler.major.toNat ++ "." ++ Decimal.render compiler.minor.toNat

def toolSet? (compiler : Compiler) : Option UInt32 :=
  if compiler.minor ≥ 100 then none
  else (checkedMul compiler.major 10000000).bind (checkedAdd · (compiler.minor * 100000))

/-- The version that a tool-set identifier stands for; zero stands for none. -/
def ofToolSet? (identifier : UInt32) : Option Compiler :=
  if identifier = 0 then none
  else some ⟨identifier / 10000000, identifier % 10000000 / 100000⟩

end Compiler

def Generation.compiler : Generation → Compiler
  | vs2012 => ⟨17, 0⟩
  | vs2013 => ⟨18, 0⟩
  | vs2015 => ⟨19, 0⟩
  | vs2017 => ⟨19, 10⟩
  | latest => ⟨19, 10⟩

end FrontEnd.Msvc
