import FrontEnd.Text.Digits
import FrontEnd.Toml.Value

namespace FrontEnd.Toml

def needsEscape (c : Char) : Bool :=
  (c < ' ' && c != '\t' && c != '\n') || c == '\x7f'

def longestRun (mark : Char) : Nat → List Char → Nat
  | run, [] => run
  | run, c :: rest => if c = mark then longestRun mark (run + 1) rest else max run (longestRun mark 0 rest)

inductive Quoting where
  | basic
  | literal
  | basicLines
  | literalLines
deriving DecidableEq, Repr

namespace Quoting

def choose (text : List Char) : Quoting :=
  let escapes := text.any needsEscape
  let backslash := text.contains '\\'
  let newline := text.contains '\n'
  if !escapes && !backslash && !newline && longestRun '"' 0 text == 0 then basic
  else if !escapes && !newline && longestRun '\'' 0 text == 0 then literal
  else if !escapes && !backslash && longestRun '"' 0 text ≤ 2 then basicLines
  else if !escapes && longestRun '\'' 0 text ≤ 2 then literalLines
  else if newline then basicLines
  else basic

def delimiter : Quoting → List Char
  | basic => ['"']
  | literal => ['\'']
  | basicLines => ['"', '"', '"']
  | literalLines => ['\'', '\'', '\'']

end Quoting

def escapeChar (severalLines : Bool) (c : Char) : List Char :=
  if c = '\x08' then ['\\', 'b']
  else if c = '\t' then ['\\', 't']
  else if c = '\n' then if severalLines then ['\n'] else ['\\', 'n']
  else if c = '\x0c' then ['\\', 'f']
  else if c = '\r' then ['\\', 'r']
  else if c = '\\' then ['\\', '\\']
  else if needsEscape c then
    ['\\', 'u', '0', '0', Hexadecimal.upper (c.toNat / 16), Hexadecimal.upper (c.toNat % 16)]
  else [c]

/-- Basic text after so many double quotes in a row. Over several lines two in a row stand for
themselves, on one line none. -/
def escape (severalLines : Bool) : Nat → List Char → List Char
  | _, [] => []
  | run, c :: rest =>
    if c = '"' then
      if run < (if severalLines then 2 else 0) then '"' :: escape severalLines (run + 1) rest
      else '\\' :: '"' :: escape severalLines 0 rest
    else escapeChar severalLines c ++ escape severalLines 0 rest

/-- Text in quotes of a kind. A text with line ends starts on a line of its own. -/
def quoteAs (quoting : Quoting) (text : List Char) : List Char :=
  let body :=
    match quoting with
    | .basic => escape false 0 text
    | .basicLines => (if text.contains '\n' then ['\n'] else []) ++ escape true 0 text
    | .literal => text
    | .literalLines => (if text.contains '\n' then ['\n'] else []) ++ text
  quoting.delimiter ++ body ++ quoting.delimiter

def quote (text : String) : List Char :=
  quoteAs (.choose text.toList) text.toList

inductive Setting where
  | text (value : String)
  | boolean (value : Bool)
  | texts (items : List String)
deriving DecidableEq, Repr

namespace Setting

def value : Setting → Value
  | text value => .text value
  | boolean value => .boolean value
  | texts items => .array (items.map .text)

def render : Setting → List Char
  | text value => quote value
  | boolean value => if value then "true".toList else "false".toList
  | texts [] => ['[', ']']
  | texts [item] => '[' :: (quote item ++ [']'])
  | texts items => '[' :: (items.flatMap fun item => "\n    ".toList ++ quote item ++ [',']) ++ ['\n', ']']

end Setting

def renderPair (pair : String × Setting) : List Char :=
  pair.1.toList ++ " = ".toList ++ pair.2.render ++ ['\n']

def renderSection (contents : String × List (String × Setting)) : List Char :=
  '[' :: contents.1.toList ++ [']', '\n'] ++ contents.2.flatMap renderPair

def renderSections (sections : List (String × List (String × Setting))) : String :=
  String.ofList (['\n'].intercalate (sections.map renderSection))

end FrontEnd.Toml
