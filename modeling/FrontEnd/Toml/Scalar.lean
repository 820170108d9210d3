import FrontEnd.Text.Digits
import FrontEnd.Toml.Text
import FrontEnd.Toml.Value

namespace FrontEnd.Toml

open Text (Reader)

def moreDigits (isDigit : Char → Bool) : List Char → List Char × List Char
  | [] => ([], [])
  | c :: rest =>
    if isDigit c then
      let (digits, left) := moreDigits isDigit rest
      (c :: digits, left)
    else if c = '_' then
      match rest with
      | [] => ([], [c])
      | d :: after =>
        if isDigit d then
          let (digits, left) := moreDigits isDigit after
          (d :: digits, left)
        else ([], c :: d :: after)
    else ([], c :: rest)

def digitRun? (isDigit : Char → Bool) : Reader (List Char)
  | [] => none
  | c :: rest =>
    if isDigit c then
      let (digits, left) := moreDigits isDigit rest
      some (c :: digits, left)
    else none

def signed : List Char → Bool × List Char
  | '-' :: rest => (true, rest)
  | '+' :: rest => (false, rest)
  | rest => (false, rest)

def wholeDigits? : Reader (List Char)
  | '0' :: rest => some (['0'], rest)
  | rest => digitRun? Char.isDigit rest

def word? (negative : Bool) (magnitude : Nat) : Option Value :=
  let value : Int := if negative then -magnitude else magnitude
  if Int64.minValue.toInt ≤ value ∧ value ≤ Int64.maxValue.toInt then some (.integer value) else none

def decimalInteger? (text : List Char) : Option (Value × List Char) := do
  let (negative, rest) := signed text
  let (digits, left) ← wholeDigits? rest
  let value ← word? negative (Decimal.value digits)
  return (value, left)

def radixInteger? (base : Nat) (text : List Char) : Option (Value × List Char) := do
  let isDigit c := match Hexadecimal.digit? c with
    | some d => decide (d < base)
    | none => false
  let (digits, left) ← digitRun? isDigit text
  let magnitude := digits.foldl (fun n c => base * n + (Hexadecimal.digit? c).getD 0) 0
  let value ← word? false magnitude
  return (value, left)

def integer? : Reader Value
  | '0' :: 'x' :: rest => radixInteger? 16 rest
  | '0' :: 'o' :: rest => radixInteger? 8 rest
  | '0' :: 'b' :: rest => radixInteger? 2 rest
  | text => decimalInteger? text

def fraction? : Reader (List Char)
  | '.' :: rest => digitRun? Char.isDigit rest
  | _ => none

def exponent? : Reader Int
  | c :: rest =>
    if c = 'e' ∨ c = 'E' then do
      let (negative, rest) := signed rest
      let (digits, left) ← digitRun? Char.isDigit rest
      let magnitude : Int := Decimal.value digits
      return (if negative then -magnitude else magnitude, left)
    else none
  | [] => none

/-- Whether the digits times a power of ten are too much for a double: at least halfway from the
greatest double to the next power of two. The number of digits settles all but close cases. -/
def overflows (digits : List Char) (scale : Int) : Bool :=
  let number := Decimal.value digits
  let magnitude : Int := (digits.dropWhile (· == '0')).length + scale
  let limit := Nat.pow 2 1024 - Nat.pow 2 970
  if number = 0 ∨ magnitude < 309 then false
  else if 310 < magnitude then true
  else if 0 ≤ scale then limit ≤ number * Nat.pow 10 scale.toNat
  else limit * Nat.pow 10 (-scale).toNat ≤ number

def spelling (text left : List Char) : String :=
  String.ofList (text.take (text.length - left.length))

/-- A number with a fraction or an exponent. One above all doubles is no value; one below all of
them is. -/
def float? (text : List Char) : Option (Value × List Char) := do
  let (negative, rest) := signed text
  let (whole, rest) ← wholeDigits? rest
  let (part, scale, left) ←
    match fraction? rest with
    | some (part, rest) =>
      match exponent? rest with
      | some (scale, left) => some (part, scale, left)
      | none => some (part, 0, rest)
    | none => (exponent? rest).map fun (scale, left) => ([], scale, left)
  if !negative && overflows (whole ++ part) (scale - part.length) then none
  else return (.float (spelling text left), left)

def special? (text : List Char) : Option (Value × List Char) :=
  match (signed text).2 with
  | 'i' :: 'n' :: 'f' :: left => some (.float (spelling text left), left)
  | 'n' :: 'a' :: 'n' :: left => some (.float (spelling text left), left)
  | _ => none

def twoDigits? (low high : Nat) : Reader Nat
  | c :: d :: rest =>
    let number := Decimal.value [c, d]
    if c.isDigit ∧ d.isDigit ∧ low ≤ number ∧ number ≤ high then some (number, rest) else none
  | _ => none

def exactly? (c : Char) : List Char → Option (List Char)
  | d :: rest => if d = c then some rest else none
  | [] => none

def daysInMonth (year month : Nat) : Nat :=
  if month = 2 then
    if year % 4 = 0 ∧ (year % 100 ≠ 0 ∨ year % 400 = 0) then 29 else 28
  else if month = 4 ∨ month = 6 ∨ month = 9 ∨ month = 11 then 30
  else 31

def afterDate? : List Char → Option (List Char)
  | y₁ :: y₂ :: y₃ :: y₄ :: rest =>
    if [y₁, y₂, y₃, y₄].all Char.isDigit then do
      let rest ← exactly? '-' rest
      let (month, rest) ← twoDigits? 1 12 rest
      let rest ← exactly? '-' rest
      let (_, left) ← twoDigits? 1 (daysInMonth (Decimal.value [y₁, y₂, y₃, y₄]) month) rest
      return left
    else none
  | _ => none

def afterTime? (text : List Char) : Option (List Char) := do
  let (_, rest) ← twoDigits? 0 23 text
  let rest ← exactly? ':' rest
  let (_, rest) ← twoDigits? 0 59 rest
  let rest ← exactly? ':' rest
  let (_, rest) ← twoDigits? 0 60 rest
  match rest with
  | '.' :: d :: left => if d.isDigit then return left.dropWhile Char.isDigit else return rest
  | _ => return rest

def afterOffset? : List Char → Option (List Char)
  | c :: rest =>
    if c = 'Z' ∨ c = 'z' then some rest
    else if c = '+' ∨ c = '-' then do
      let (_, rest) ← twoDigits? 0 23 rest
      let rest ← exactly? ':' rest
      let (_, left) ← twoDigits? 0 59 rest
      return left
    else none
  | [] => none

def afterDateTime? : List Char → Option (List Char)
  | c :: rest =>
    if c = 'T' ∨ c = 't' ∨ c = ' ' then
      (afterTime? rest).map fun left => (afterOffset? left).getD left
    else none
  | [] => none

def moment? (text : List Char) : Option (Value × List Char) :=
  match afterDate? text with
  | some rest =>
    let left := (afterDateTime? rest).getD rest
    some (.moment (spelling text left), left)
  | none => (afterTime? text).map fun left => (.moment (spelling text left), left)

def boolean? : Reader Value
  | 't' :: 'r' :: 'u' :: 'e' :: rest => some (.boolean true, rest)
  | 'f' :: 'a' :: 'l' :: 's' :: 'e' :: rest => some (.boolean false, rest)
  | _ => none

def scalar? (text : List Char) : Option (Value × List Char) :=
  match quoted? text with
  | some (value, left) => some (.text value, left)
  | none =>
    boolean? text <|> moment? text <|> float? text <|> special? text <|> integer? text

end FrontEnd.Toml
