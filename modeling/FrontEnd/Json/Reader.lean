import FrontEnd.Json.Printer
import FrontEnd.Text.Digits
import FrontEnd.Text.Reader

namespace FrontEnd.Json

open Text (Reader prepend)

def dropSpace (input : List Char) : List Char :=
  input.dropWhile fun c => c == ' ' || c == '\t' || c == '\n' || c == '\r'

/-- The character that one escaped unit stands for, if it is no half of a pair. -/
def single? (unit : Nat) : Option Char :=
  if unit.isValidChar then some (Char.ofNat unit) else none

def pair? (high low : Nat) : Option Char :=
  if 0xD800 ≤ high ∧ high < 0xDC00 ∧ 0xDC00 ≤ low ∧ low < 0xE000 then
    some (Char.ofNat (0x10000 + (high - 0xD800) * 0x400 + (low - 0xDC00)))
  else none

def escaped? : Char → Option Char
  | '"' => some '"'
  | '\\' => some '\\'
  | '/' => some '/'
  | 'b' => some '\x08'
  | 'f' => some '\x0c'
  | 'n' => some '\n'
  | 'r' => some '\r'
  | 't' => some '\t'
  | _ => none

def text? : Reader (List Char)
  | [] => none
  | c :: rest =>
    if c = '"' then some ([], rest)
    else if c = '\\' then
      match rest with
      | [] => none
      | 'u' :: d₁ :: d₂ :: d₃ :: d₄ :: after =>
        match Hexadecimal.number? [d₁, d₂, d₃, d₄] with
        | none => none
        | some unit =>
          match single? unit with
          | some c => prepend (some c) (text? after)
          | none =>
            match after with
            | '\\' :: 'u' :: e₁ :: e₂ :: e₃ :: e₄ :: rest =>
              prepend ((Hexadecimal.number? [e₁, e₂, e₃, e₄]).bind (pair? unit)) (text? rest)
            | _ => none
      | letter :: rest => prepend (escaped? letter) (text? rest)
    else if c < ' ' then none
    else prepend (some c) (text? rest)

def digits? (input : List Char) : Option (List Char × List Char) :=
  match input.takeWhile Char.isDigit with
  | [] => none
  | digits => some (digits, input.dropWhile Char.isDigit)

def wholeDigits? : Reader (List Char)
  | '0' :: rest => some (['0'], rest)
  | input => digits? input

def fraction? : Reader (List Char)
  | '.' :: rest => (digits? rest).map fun (digits, left) => ('.' :: digits, left)
  | input => some ([], input)

def exponent? : Reader (List Char)
  | c :: rest =>
    if c = 'e' ∨ c = 'E' then
      match rest with
      | '+' :: rest => (digits? rest).map fun (digits, left) => (c :: '+' :: digits, left)
      | '-' :: rest => (digits? rest).map fun (digits, left) => (c :: '-' :: digits, left)
      | rest => (digits? rest).map fun (digits, left) => (c :: digits, left)
    else some ([], c :: rest)
  | [] => some ([], [])

def magnitude? (negative : Bool) (input : List Char) : Option (Json × List Char) := do
  let (whole, rest) ← wholeDigits? input
  let (fraction, rest) ← fraction? rest
  let (exponent, left) ← exponent? rest
  if fraction = [] ∧ exponent = [] then
    let value : Int := Decimal.value whole
    return (.integer (if negative then -value else value), left)
  else
    let spelled := whole ++ fraction ++ exponent
    return (.decimal (String.ofList (if negative then '-' :: spelled else spelled)), left)

def setField (fields : List (String × Json)) (name : String) (value : Json) : List (String × Json) :=
  if (fields.map (·.1)).contains name then
    fields.map fun old => if old.1 = name then (name, value) else old
  else fields ++ [(name, value)]

def items? (value? : Reader Json) : Nat → Reader (List Json)
  | 0, _ => none
  | count + 1, input => do
    let (item, rest) ← value? input
    match dropSpace rest with
    | ']' :: left => return ([item], left)
    | ',' :: rest =>
      let (others, left) ← items? value? count rest
      return (item :: others, left)
    | _ => none

def fields? (value? : Reader Json) :
    Nat → List Char → List (String × Json) → Option (List (String × Json) × List Char)
  | 0, _, _ => none
  | count + 1, input, before =>
    match dropSpace input with
    | '"' :: rest => do
      let (name, rest) ← text? rest
      match dropSpace rest with
      | ':' :: rest =>
        let (value, rest) ← value? rest
        let fields := setField before (String.ofList name) value
        match dropSpace rest with
        | '\x7d' :: left => return (fields, left)
        | ',' :: rest => fields? value? count rest fields
        | _ => none
      | _ => none
    | _ => none

def value? : Nat → Reader Json
  | 0, _ => none
  | depth + 1, input =>
    match dropSpace input with
    | 'n' :: 'u' :: 'l' :: 'l' :: left => some (.null, left)
    | 't' :: 'r' :: 'u' :: 'e' :: left => some (.boolean true, left)
    | 'f' :: 'a' :: 'l' :: 's' :: 'e' :: left => some (.boolean false, left)
    | '"' :: rest => (text? rest).map fun (content, left) => (.text (String.ofList content), left)
    | '-' :: rest => magnitude? true rest
    | '[' :: rest =>
      match dropSpace rest with
      | ']' :: left => some (.array [], left)
      | _ => (items? (value? depth) (rest.length + 1) rest).map fun (items, left) => (.array items, left)
    | '\x7b' :: rest =>
      match dropSpace rest with
      | '\x7d' :: left => some (.object [], left)
      | _ =>
        (fields? (value? depth) (rest.length + 1) rest []).map fun (fields, left) =>
          (.object fields, left)
    | rest => magnitude? false rest

def parse? (input : String) : Option Json :=
  match value? (input.toList.length + 1) input.toList with
  | some (json, left) => if dropSpace left = [] then some json else none
  | none => none

end FrontEnd.Json
