import FrontEnd.Json.Printer
import FrontEnd.Toml.Value

namespace FrontEnd.Config

class Document (α : Type) where
  isAbsent : α → Bool
  boolean? : α → Option Bool
  text? : α → Option String
  items? : α → Option (List α)
  fields? : α → Option (List (String × α))
  /-- Whether a choice that carries no data may carry it. -/
  isNoData : α → Bool
  /-- Whether a record given as a list may have more items than fields. -/
  surplus : Bool

instance : Document Json where
  isAbsent
    | .null => true
    | _ => false
  boolean?
    | .boolean value => some value
    | _ => none
  text?
    | .text value => some value
    | _ => none
  items?
    | .array items => some items
    | _ => none
  fields?
    | .object fields => some fields
    | _ => none
  isNoData
    | .null => true
    | _ => false
  surplus := false

instance : Document Toml.Value where
  isAbsent _ := false
  boolean?
    | .boolean value => some value
    | _ => none
  text?
    | .text value => some value
    | _ => none
  items?
    | .array items => some items
    | .tables items => some (items.map (.table .header))
    | _ => none
  -- A point in time shows as a record with one field that nothing asks for.
  fields?
    | .table _ entries => some entries
    | .moment spelling => some [("moment", .text spelling)]
    | _ => none
  isNoData
    | .array items => items.isEmpty
    | .table _ entries => entries.isEmpty
    | .tables items => items.isEmpty
    | _ => false
  surplus := true

variable {α : Type} [Document α]

open Document

def optional? {β : Type} (read : α → Option β) (value : α) : Option (Option β) :=
  if isAbsent value then some none else (read value).map some

def list? {β : Type} (read : α → Option β) (value : α) : Option (List β) :=
  (items? value).bind (List.mapM read)

/-- One of several named things: its name, or a record of one field with that name and no data. -/
def choice? {β : Type} (named : String → Option β) (value : α) : Option β :=
  match text? value with
  | some name => named name
  | none =>
    match fields? value with
    | some [(name, data)] => if isNoData data then named name else none
    | _ => none

inductive Fields (α : Type) where
  | named (fields : List (String × α))
  | positional (items : List α)

def record? (count : Nat) (value : α) : Option (Fields α) :=
  match fields? value, items? value with
  | some fields, _ => some (.named fields)
  | none, some items =>
    if surplus α ∨ items.length ≤ count then some (.positional items) else none
  | none, none => none

def Fields.get? {β : Type} (fields : Fields α) (position : Nat) (name : String) (missing : β)
    (read : α → Option β) : Option β :=
  let found :=
    match fields with
    | .named fields => fields.lookup name
    | .positional items => items[position]?
  match found with
  | some value => read value
  | none => some missing

end FrontEnd.Config
