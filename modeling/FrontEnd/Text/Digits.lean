namespace FrontEnd.Decimal

def value (digits : List Char) : Nat :=
  digits.foldl (fun n c => 10 * n + (c.toNat - '0'.toNat)) 0

def digits? (bound : Nat) (text : List Char) : Option Nat :=
  if text ≠ [] ∧ text.all Char.isDigit ∧ value text < bound then some (value text) else none

/-- The value below the bound that a numeral with an optional plus sign denotes. -/
def read? (bound : Nat) : List Char → Option Nat
  | '+' :: digits => digits? bound digits
  | digits => digits? bound digits

def digit (n : Nat) : Char :=
  Char.ofNat ('0'.toNat + n % 10)

def digits (n : Nat) : List Char :=
  if n < 10 then [digit n] else digits (n / 10) ++ [digit n]
termination_by n

def render (n : Nat) : String :=
  String.ofList (digits n)

end FrontEnd.Decimal

namespace FrontEnd.Hexadecimal

def digit? (c : Char) : Option Nat :=
  if c.isDigit then some (c.toNat - '0'.toNat)
  else if 'a' ≤ c ∧ c ≤ 'f' then some (c.toNat - 'a'.toNat + 10)
  else if 'A' ≤ c ∧ c ≤ 'F' then some (c.toNat - 'A'.toNat + 10)
  else none

def number? (digits : List Char) : Option Nat :=
  digits.foldlM (fun n c => (digit? c).map fun d => 16 * n + d) 0

def digit (ten : Char) (n : Nat) : Char :=
  if n < 10 then Char.ofNat ('0'.toNat + n) else Char.ofNat (ten.toNat + (n - 10))

def lower : Nat → Char := digit 'a'

def upper : Nat → Char := digit 'A'

theorem digit?_digit {ten : Char} (letter : ten = 'a' ∨ ten = 'A') {n : Nat} (small : n < 16) :
    digit? (digit ten n) = some n := by
  revert n
  rcases letter with rfl | rfl
  · decide
  · decide

theorem number?_digits {ten : Char} (letter : ten = 'a' ∨ ten = 'A') {n : Nat} (small : n < 256) :
    number? ['0', '0', digit ten (n / 16), digit ten (n % 16)] = some n := by
  have zero : digit? '0' = some 0 := by decide
  have high := digit?_digit letter (n := n / 16) (by omega)
  have low := digit?_digit letter (n := n % 16) (by omega)
  simp only [number?, List.foldlM_cons, List.foldlM_nil, zero, high, low, Option.map_some,
    Option.bind_eq_bind, Option.bind_some, Option.pure_def]
  congr 1
  omega

end FrontEnd.Hexadecimal
