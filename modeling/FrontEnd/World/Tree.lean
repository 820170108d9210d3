import FrontEnd.Path

namespace FrontEnd

abbrev Name := Bytes

/-- A place in the tree: the names on the way to it, innermost first. The root is `[]`. -/
abbrev Location := List Name

inductive Ending where
  | exited (code : Nat)
  | killed
deriving DecidableEq, Repr

structure Program where
  output : Bytes
  errors : Bytes
  ending : Ending
deriving DecidableEq, Repr

inductive Execution where
  | forbidden
  /-- The file is in no format that the system can start. -/
  | unrecognized
  | program (behaviour : Program)
deriving DecidableEq, Repr

inductive Entry where
  | directory
  | file (content : Bytes) (execution : Execution)
  | link (target : Path)
deriving DecidableEq, Repr

/-- The entries of a file system, in the order in which a directory lists them. The root is always
a directory and has no entry of its own. -/
structure Tree where
  entries : List (Location × Entry)
  nodup : (entries.map (·.1)).Nodup := by simp

namespace Tree

def empty : Tree := { entries := [] }

instance : Inhabited Tree := ⟨empty⟩

def find? (tree : Tree) : Location → Option Entry
  | [] => some .directory
  | location => tree.entries.lookup location

def names (tree : Tree) (directory : Location) : List Name :=
  tree.entries.filterMap fun (location, _) =>
    match location with
    | [] => none
    | name :: parent => if parent = directory then some name else none

def replace (location : Location) (entry : Entry) (entries : List (Location × Entry)) :
    List (Location × Entry) :=
  entries.map fun old => if old.1 = location then (location, entry) else old

theorem map_fst_replace (location : Location) (entry : Entry) (entries : List (Location × Entry)) :
    (replace location entry entries).map (·.1) = entries.map (·.1) := by
  simp only [replace, List.map_map]
  apply List.map_congr_left
  intro old _
  by_cases same : old.1 = location <;> simp [same]

def insert (tree : Tree) (location : Location) (entry : Entry) : Tree :=
  if taken : location ∈ tree.entries.map (·.1) then
    { entries := replace location entry tree.entries
      nodup := by rw [map_fst_replace]; exact tree.nodup }
  else
    { entries := tree.entries ++ [(location, entry)]
      nodup := by
        rw [List.map_append, List.nodup_append]
        refine ⟨tree.nodup, by simp, ?_⟩
        rintro old known new fresh rfl
        simp only [List.map_cons, List.map_nil, List.mem_singleton] at fresh
        exact taken (fresh ▸ known) }

def erase (tree : Tree) (location : Location) : Tree :=
  { entries := tree.entries.filter fun old => !location.isSuffixOf old.1
    nodup := List.Nodup.sublist (List.filter_sublist.map _) tree.nodup }

theorem lookup_replace_self {location : Location} (entry : Entry) {entries : List (Location × Entry)}
    (taken : location ∈ entries.map (·.1)) :
    (replace location entry entries).lookup location = some entry := by
  induction entries with
  | nil => simp at taken
  | cons old entries ih =>
    obtain ⟨key, value⟩ := old
    by_cases same : key = location
    · simp [replace, same]
    · have later : location ∈ entries.map (·.1) := by
        simp only [List.map_cons, List.mem_cons] at taken
        exact taken.resolve_left fun equal => same equal.symm
      have found := ih later
      simp only [replace, List.map_cons, same, if_false, List.lookup_cons,
        beq_eq_false_iff_ne.2 (Ne.symm same)] at found ⊢
      exact found

theorem lookup_replace_of_ne {location other : Location} (entry : Entry)
    (entries : List (Location × Entry)) (different : other ≠ location) :
    (replace location entry entries).lookup other = entries.lookup other := by
  induction entries with
  | nil => rfl
  | cons old entries ih =>
    obtain ⟨key, value⟩ := old
    simp only [replace, List.map_cons] at ih ⊢
    by_cases same : key = location
    · simp only [same, if_true, List.lookup_cons, beq_eq_false_iff_ne.2 different]
      exact ih
    · simp only [same, if_false, List.lookup_cons]
      rw [ih]

theorem lookup_append_single (entries : List (Location × Entry)) (location other : Location)
    (entry : Entry) (fresh : location ∉ entries.map (·.1)) :
    (entries ++ [(location, entry)]).lookup other =
      if other = location then some entry else entries.lookup other := by
  induction entries with
  | nil =>
    by_cases same : other = location
    · simp [same]
    · simp [List.lookup_cons, same, beq_eq_false_iff_ne.2 same]
  | cons old entries ih =>
    obtain ⟨key, value⟩ := old
    simp only [List.map_cons, List.mem_cons, not_or] at fresh
    simp only [List.cons_append, List.lookup_cons]
    by_cases first : other = key
    · have different : other ≠ location := fun equal => fresh.1 (equal ▸ first)
      simp [first, first ▸ different]
    · simp only [beq_eq_false_iff_ne.2 first]
      exact ih fresh.2

theorem find?_insert (tree : Tree) {location : Location} (entry : Entry) (other : Location)
    (inside : location ≠ []) :
    (tree.insert location entry).find? other =
      if other = location then some entry else tree.find? other := by
  cases other with
  | nil => simp [find?, Ne.symm inside]
  | cons name parent =>
    unfold insert
    split
    · rename_i taken
      by_cases same : name :: parent = location
      · simp only [find?, same, if_true]
        exact lookup_replace_self entry taken
      · simp only [find?, same, if_false]
        exact lookup_replace_of_ne entry tree.entries same
    · rename_i fresh
      simp only [find?]
      exact lookup_append_single tree.entries location (name :: parent) entry fresh

end Tree

end FrontEnd
