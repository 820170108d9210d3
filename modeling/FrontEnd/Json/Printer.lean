import FrontEnd.Text.Digits

namespace FrontEnd

/-- A JSON value. Numbers that are not written as integers keep their spelling; the names in an
object are distinct and keep the order in which they were written. -/
inductive Json where
  | null
  | boolean (value : Bool)
  | integer (value : Int)
  | decimal (spelling : String)
  | text (value : String)
  | array (items : List Json)
  | object (fields : List (String × Json))
deriving Repr, Inhabited

namespace Json

def escapeChar (c : Char) : List Char :=
  if c = '"' then ['\\', '"']
  else if c = '\\' then ['\\', '\\']
  else if c = '\x08' then ['\\', 'b']
  else if c = '\x0c' then ['\\', 'f']
  else if c = '\n' then ['\\', 'n']
  else if c = '\r' then ['\\', 'r']
  else if c = '\t' then ['\\', 't']
  else if c < ' ' then
    ['\\', 'u', '0', '0', Hexadecimal.lower (c.toNat / 16), Hexadecimal.lower (c.toNat % 16)]
  else [c]

def quote (text : String) : List Char :=
  '"' :: text.toList.flatMap escapeChar ++ ['"']

def renderInt (value : Int) : List Char :=
  if value < 0 then '-' :: Decimal.digits value.natAbs else Decimal.digits value.natAbs

def indentation (level : Nat) : List Char :=
  List.replicate (2 * level) ' '

mutual

def prettyAt (level : Nat) : Json → List Char
  | null => "null".toList
  | boolean value => if value then "true".toList else "false".toList
  | integer value => renderInt value
  | decimal spelling => spelling.toList
  | text value => quote value
  | array [] => "[]".toList
  | array (item :: items) =>
    '[' :: '\n' :: indentation (level + 1) ++ prettyAt (level + 1) item ++ prettyItems (level + 1) items ++
      '\n' :: indentation level ++ [']']
  | object [] => ['\x7b', '\x7d']
  | object ((name, value) :: fields) =>
    '\x7b' :: '\n' :: indentation (level + 1) ++ quote name ++ [':', ' '] ++ prettyAt (level + 1) value ++
      prettyFields (level + 1) fields ++ '\n' :: indentation level ++ ['\x7d']

def prettyItems (level : Nat) : List Json → List Char
  | [] => []
  | item :: items => ',' :: '\n' :: indentation level ++ prettyAt level item ++ prettyItems level items

def prettyFields (level : Nat) : List (String × Json) → List Char
  | [] => []
  | (name, value) :: fields =>
    ',' :: '\n' :: indentation level ++ quote name ++ [':', ' '] ++ prettyAt level value ++
      prettyFields level fields

end

def pretty (json : Json) : String :=
  String.ofList (prettyAt 0 json)

mutual

def line : Json → List Char
  | null => "null".toList
  | boolean value => if value then "true".toList else "false".toList
  | integer value => renderInt value
  | decimal spelling => spelling.toList
  | text value => quote value
  | array [] => "[]".toList
  | array (item :: items) => '[' :: line item ++ lineItems items ++ [']']
  | object [] => ['\x7b', '\x7d']
  | object ((name, value) :: fields) =>
    '\x7b' :: quote name ++ ':' :: line value ++ lineFields fields ++ ['\x7d']

def lineItems : List Json → List Char
  | [] => []
  | item :: items => ',' :: line item ++ lineItems items

def lineFields : List (String × Json) → List Char
  | [] => []
  | (name, value) :: fields => ',' :: quote name ++ ':' :: line value ++ lineFields fields

end

def compact (json : Json) : String :=
  String.ofList (line json)

end Json

end FrontEnd
