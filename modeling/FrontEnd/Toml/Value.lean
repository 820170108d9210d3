namespace FrontEnd.Toml

/-- How a table came into a document, which decides whether later statements may add to it. -/
inductive Origin where
  | inline
  /-- Opened by a header of its own; the whole document counts as such. -/
  | header
  | implied
  | dotted
deriving DecidableEq, Repr

/-- A value of a TOML document. Numbers with a fraction and points in time keep their spelling. -/
inductive Value where
  | text (value : String)
  | integer (value : Int)
  | float (spelling : String)
  | boolean (value : Bool)
  | moment (spelling : String)
  | array (items : List Value)
  | table (origin : Origin) (entries : List (String × Value))
  /-- Tables that headers in double brackets add one by one. -/
  | tables (items : List (List (String × Value)))
deriving Repr

abbrev Entries := List (String × Value)

namespace Entries

def find? (entries : Entries) (key : String) : Option Value :=
  entries.lookup key

def set (entries : Entries) (key : String) (value : Value) : Entries :=
  if (entries.map (·.1)).contains key then
    entries.map fun old => if old.1 = key then (key, value) else old
  else entries ++ [(key, value)]

end Entries

end FrontEnd.Toml
