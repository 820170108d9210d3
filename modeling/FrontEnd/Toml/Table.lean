import FrontEnd.Toml.Value

namespace FrontEnd.Toml.Entries

/-- Gives a dotted key a value. The tables on the way are made as they are needed. Those that are
there already must have been made by dotted keys too, the last of them without exception; a table
that a lower header needed may be passed through, and of an array of tables the last. -/
def insert? : List String → Value → Entries → Option Entries
  | [], _, _ => none
  | [key], value, entries =>
    match entries.find? key with
    | none => some (entries.set key value)
    | some _ => none
  | key :: next :: rest, value, entries =>
    match entries.find? key with
    | none => (insert? (next :: rest) value []).map fun inner => entries.set key (.table .dotted inner)
    | some (.table .dotted inner) =>
      (insert? (next :: rest) value inner).map fun inner => entries.set key (.table .dotted inner)
    | some (.table .implied inner) =>
      if rest = [] then none
      else (insert? (next :: rest) value inner).map fun inner => entries.set key (.table .implied inner)
    | some (.tables items) =>
      match rest, items.getLast? with
      | _ :: _, some last =>
        (insert? (next :: rest) value last).map fun last =>
          entries.set key (.tables (items.dropLast ++ [last]))
      | _, _ => none
    | some _ => none

def insertAll? (pairs : List (List String × Value)) (entries : Entries) : Option Entries :=
  pairs.foldlM (fun entries pair => insert? pair.1 pair.2 entries) entries

/-- Changes the table that a path of keys leads to, starting in a table. The tables on the way are
made as they are needed; of an array of tables the last is meant. -/
def under? (change : String → Entries → Option Entries) : List String → Entries → Option Entries
  | [], _ => none
  | [key], entries => change key entries
  | key :: next :: rest, entries =>
    match entries.find? key with
    | none => (under? change (next :: rest) []).map fun inner => entries.set key (.table .implied inner)
    | some (.table .inline _) => none
    | some (.table origin inner) =>
      (under? change (next :: rest) inner).map fun inner => entries.set key (.table origin inner)
    | some (.tables items) =>
      items.getLast?.bind fun last =>
        (under? change (next :: rest) last).map fun last =>
          entries.set key (.tables (items.dropLast ++ [last]))
    | some _ => none

def openTable? (pairs : List (List String × Value)) : List String → Entries → Option Entries :=
  under? fun key entries =>
    match entries.find? key with
    | none => (insertAll? pairs []).map fun inner => entries.set key (.table .header inner)
    | some (.table .implied inner) =>
      (insertAll? pairs inner).map fun inner => entries.set key (.table .header inner)
    | some _ => none

def appendTable? (pairs : List (List String × Value)) : List String → Entries → Option Entries :=
  under? fun key entries =>
    match entries.find? key with
    | none => (insertAll? pairs []).map fun inner => entries.set key (.tables [inner])
    | some (.tables items) =>
      (insertAll? pairs []).map fun inner => entries.set key (.tables (items ++ [inner]))
    | some _ => none

end FrontEnd.Toml.Entries
