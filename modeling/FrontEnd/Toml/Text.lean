import FrontEnd.Text.Digits
import FrontEnd.Text.Reader

namespace FrontEnd.Toml

open Text (Reader prepend)

def isPlain (c : Char) : Bool :=
  c == '\t' || (' ' ≤ c && c != '\x7f')

def escaped? : Char → Option Char
  | 'b' => some '\x08'
  | 't' => some '\t'
  | 'n' => some '\n'
  | 'f' => some '\x0c'
  | 'r' => some '\r'
  | '"' => some '"'
  | '\\' => some '\\'
  | _ => none

def codePoint? (digits : List Char) : Option Char :=
  (Hexadecimal.number? digits).bind fun n => if n.isValidChar then some (Char.ofNat n) else none

def basicText? : Reader (List Char)
  | [] => none
  | c :: rest =>
    if c = '"' then some ([], rest)
    else if c = '\\' then
      match rest with
      | [] => none
      | 'u' :: d₁ :: d₂ :: d₃ :: d₄ :: rest =>
        prepend (codePoint? [d₁, d₂, d₃, d₄]) (basicText? rest)
      | 'U' :: d₁ :: d₂ :: d₃ :: d₄ :: d₅ :: d₆ :: d₇ :: d₈ :: rest =>
        prepend (codePoint? [d₁, d₂, d₃, d₄, d₅, d₆, d₇, d₈]) (basicText? rest)
      | letter :: rest => prepend (escaped? letter) (basicText? rest)
    else if isPlain c then prepend (some c) (basicText? rest)
    else none

def literalText? : Reader (List Char)
  | [] => none
  | c :: rest =>
    if c = '\'' then some ([], rest)
    else if isPlain c then prepend (some c) (literalText? rest)
    else none

/-- What follows three quotes: up to two more of them still belong to the text. -/
def closing (quote : Char) : Reader (List Char)
  | c :: d :: rest =>
    if c = quote then if d = quote then some ([quote, quote], rest) else some ([quote], d :: rest)
    else some ([], c :: d :: rest)
  | [c] => if c = quote then some ([quote], []) else some ([], [c])
  | [] => some ([], [])

inductive Seam where
  | none
  | open
  | skipping
deriving DecidableEq, Repr

def basicLines? : Seam → Reader (List Char)
  | _, [] => none
  | seam, c :: rest =>
    if seam = .open then
      if c = '\n' then basicLines? .skipping rest
      else if c = ' ' ∨ c = '\t' then basicLines? .open rest
      else none
    else if seam = .skipping ∧ (c = ' ' ∨ c = '\t' ∨ c = '\n') then basicLines? .skipping rest
    else if c = '"' then
      match rest with
      | '"' :: '"' :: rest => closing '"' rest
      | rest => prepend (some '"') (basicLines? .none rest)
    else if c = '\\' then
      match rest with
      | [] => none
      | 'u' :: d₁ :: d₂ :: d₃ :: d₄ :: rest =>
        prepend (codePoint? [d₁, d₂, d₃, d₄]) (basicLines? .none rest)
      | 'U' :: d₁ :: d₂ :: d₃ :: d₄ :: d₅ :: d₆ :: d₇ :: d₈ :: rest =>
        prepend (codePoint? [d₁, d₂, d₃, d₄, d₅, d₆, d₇, d₈]) (basicLines? .none rest)
      | ' ' :: rest => basicLines? .open rest
      | '\t' :: rest => basicLines? .open rest
      | '\n' :: rest => basicLines? .skipping rest
      | letter :: rest => prepend (escaped? letter) (basicLines? .none rest)
    else if c = '\n' ∨ isPlain c then prepend (some c) (basicLines? .none rest)
    else none

def literalLines? : Reader (List Char)
  | [] => none
  | c :: rest =>
    if c = '\'' then
      match rest with
      | '\'' :: '\'' :: rest => closing '\'' rest
      | rest => prepend (some '\'') (literalLines? rest)
    else if c = '\n' ∨ isPlain c then prepend (some c) (literalLines? rest)
    else none

/-- What follows triple quotes: a line end right after them does not belong to the text. -/
def afterOpening : List Char → List Char
  | '\n' :: rest => rest
  | rest => rest

def quoted? : Reader String
  | '"' :: '"' :: '"' :: rest => (basicLines? .none (afterOpening rest)).map (Prod.map String.ofList id)
  | '"' :: rest => (basicText? rest).map (Prod.map String.ofList id)
  | '\'' :: '\'' :: '\'' :: rest => (literalLines? (afterOpening rest)).map (Prod.map String.ofList id)
  | '\'' :: rest => (literalText? rest).map (Prod.map String.ofList id)
  | _ => none

end FrontEnd.Toml
