import FrontEnd.Toml.Scalar
import FrontEnd.Toml.Table

namespace FrontEnd.Toml

open Text (Reader)

/-- How many levels of arrays and braces, and how many parts of a key, a document may have. -/
def maxDepth : Nat := 79

def dropBlanks (text : List Char) : List Char :=
  text.dropWhile fun c => c == ' ' || c == '\t'

def dropFiller : Bool → List Char → List Char
  | _, [] => []
  | true, c :: rest =>
    if c = '\n' then dropFiller false rest
    else if isPlain c then dropFiller true rest
    else c :: rest
  | false, c :: rest =>
    if c = ' ' ∨ c = '\t' ∨ c = '\n' then dropFiller false rest
    else if c = '#' then dropFiller true rest
    else c :: rest

def isBare (c : Char) : Bool :=
  c.isAlphanum || c == '-' || c == '_'

def keyPart? : Reader String
  | '"' :: rest => (basicText? rest).map (Prod.map String.ofList id)
  | '\'' :: rest => (literalText? rest).map (Prod.map String.ofList id)
  | text =>
    match text.takeWhile isBare with
    | [] => none
    | part => some (String.ofList part, text.dropWhile isBare)

def key? : Nat → Reader (List String)
  | 0, _ => none
  | parts + 1, text => do
    let (part, rest) ← keyPart? (dropBlanks text)
    match dropBlanks rest with
    | '.' :: rest =>
      let (others, left) ← key? parts rest
      return (part :: others, left)
    | left => return ([part], left)

def pair? (value? : Reader Value) : Reader (List String × Value) := fun text => do
  let (key, rest) ← key? maxDepth text
  let rest ← exactly? '=' rest
  let (value, left) ← value? (dropBlanks rest)
  return ((key, value), left)

def items? (value? : Reader Value) : Nat → Reader (List Value)
  | 0, _ => none
  | count + 1, text =>
    match dropFiller false text with
    | ']' :: left => some ([], left)
    | text => do
      let (item, rest) ← value? text
      match dropFiller false rest with
      | ']' :: left => return ([item], left)
      | ',' :: rest =>
        let (others, left) ← items? value? count rest
        return (item :: others, left)
      | _ => none

def pairs? (value? : Reader Value) : Nat → Reader (List (List String × Value))
  | 0, _ => none
  | count + 1, text => do
    let (pair, rest) ← pair? value? text
    match dropBlanks rest with
    | '\x7d' :: left => return ([pair], left)
    | ',' :: rest =>
      let (others, left) ← pairs? value? count rest
      return (pair :: others, left)
    | _ => none

def inlineTable? (value? : Reader Value) : Reader Value := fun text =>
  match dropBlanks text with
  | '\x7d' :: left => some (.table .inline [], left)
  | _ => do
    let (pairs, left) ← pairs? value? (text.length + 1) text
    let entries ← Entries.insertAll? pairs []
    return (.table .inline entries, left)

def value? : Nat → Reader Value
  | depth + 1, '[' :: rest =>
    (items? (value? depth) (rest.length + 1) rest).map fun (items, left) => (.array items, left)
  | depth + 1, '\x7b' :: rest => inlineTable? (value? depth) rest
  | _, text => scalar? text

def lineEnd? (text : List Char) : Option (List Char) :=
  let rest :=
    match dropBlanks text with
    | '#' :: comment => comment.dropWhile isPlain
    | rest => rest
  match rest with
  | [] => some []
  | '\n' :: left => some left
  | _ => none

inductive Statement where
  | pair (key : List String) (value : Value)
  | table (key : List String)
  | item (key : List String)
deriving Repr

def statement? : Reader Statement
  | '[' :: '[' :: rest => do
    let (key, rest) ← key? maxDepth rest
    let rest ← exactly? ']' rest
    let rest ← exactly? ']' rest
    let left ← lineEnd? rest
    return (.item key, left)
  | '[' :: rest => do
    let (key, rest) ← key? maxDepth rest
    let rest ← exactly? ']' rest
    let left ← lineEnd? rest
    return (.table key, left)
  | text => do
    let ((key, value), rest) ← pair? (value? maxDepth) text
    let left ← lineEnd? rest
    return (.pair key value, left)

def statements? : Nat → List Char → Option (List Statement)
  | 0, _ => none
  | lines + 1, text =>
    match dropBlanks text with
    | [] => some []
    | '\n' :: rest => statements? lines rest
    | '#' :: rest => do
      let left ← lineEnd? ('#' :: rest)
      statements? lines left
    | text => do
      let (statement, left) ← statement? text
      let others ← statements? lines left
      return statement :: others

def leadingPairs : List Statement → List (List String × Value) × List Statement
  | .pair key value :: rest =>
    let (pairs, left) := leadingPairs rest
    ((key, value) :: pairs, left)
  | rest => ([], rest)

/-- Carries out the statements from a header on. Pairs belong to the header before them. -/
def assemble? : List Statement → Entries → Option Entries
  | [], entries => some entries
  | .table key :: rest, entries =>
    (entries.openTable? (leadingPairs rest).1 key).bind (assemble? rest)
  | .item key :: rest, entries =>
    (entries.appendTable? (leadingPairs rest).1 key).bind (assemble? rest)
  | .pair _ _ :: rest, entries => assemble? rest entries

def Entries.ofStatements? (statements : List Statement) : Option Entries :=
  (Entries.insertAll? (leadingPairs statements).1 []).bind (assemble? statements)

def unifyLineEnds : List Char → List Char
  | '\r' :: '\n' :: rest => '\n' :: unifyLineEnds rest
  | c :: rest => c :: unifyLineEnds rest
  | [] => []

def dropMark : List Char → List Char
  | '\ufeff' :: rest => rest
  | text => text

def parse? (text : String) : Option Entries :=
  let text := unifyLineEnds (dropMark text.toList)
  (statements? (text.length + 1) text).bind Entries.ofStatements?

end FrontEnd.Toml
