import FrontEnd.Text.Utf8

namespace FrontEnd

structure Path where
  bytes : Bytes
deriving DecidableEq, Repr, Inhabited

namespace Path

def separator : UInt8 := 0x2F

def here : Bytes := [0x2E]

def above : Bytes := [0x2E, 0x2E]

/-- The component that stands for the home directory at the start of a search directory. -/
def home : Bytes := [0x7E]

def ofText (text : String) : Path := ⟨Bytes.ofText text⟩

def text? (path : Path) : Option String := path.bytes.text?

def display (path : Path) : String := path.bytes.lossy

@[simp] theorem text?_ofText (text : String) : (ofText text).text? = some text :=
  Bytes.text?_ofText text

theorem ofText_of_text? {path : Path} {text : String} (read : path.text? = some text) :
    ofText text = path := by
  cases path
  simp [ofText, Bytes.ofText_of_text? read]

def isAbsolute (path : Path) : Bool :=
  path.bytes.head? == some separator

def join (base other : Path) : Path :=
  if other.isAbsolute then other
  else if base.bytes = [] ∨ base.bytes.getLast? = some separator then ⟨base.bytes ++ other.bytes⟩
  else ⟨base.bytes ++ separator :: other.bytes⟩

def child (base : Path) (name : String) : Path :=
  base.join (ofText name)

def stretches (path : Path) : List Bytes :=
  path.bytes.splitOn separator

/-- The components that a walk along the path takes. An empty one at the end stands for a separator
there, which asks for a directory. -/
def steps (path : Path) : List Bytes :=
  let names := path.stretches.filter (· ≠ [])
  if path.bytes.getLast? = some separator then names ++ [[]] else names

def withoutTrailing (path : Path) : Path :=
  ⟨(path.bytes.reverse.dropWhile (· == separator)).reverse⟩

/-- The components that count for comparison: a `.` counts only at the very start. -/
def components (path : Path) : List Bytes :=
  match path.stretches with
  | [] => []
  | first :: rest =>
    (if first = [] then [] else [first]) ++ rest.filter (fun name => name ≠ [] ∧ name ≠ here)

/-- Whether a path has more than one component, the root counting as one. -/
def isCompound (path : Path) : Bool :=
  1 < path.components.length + (if path.isAbsolute then 1 else 0)

def absoluteFrom (base path : Path) : Path :=
  if path.isAbsolute then path
  else (path.components.dropWhile (· == here)).foldl (fun base name => base.join ⟨name⟩) base

def isIdle (name : Bytes) : Bool :=
  name == [] || name == here

def dropIdle (names : List Bytes) : List Bytes :=
  (names.reverse.dropWhile isIdle).reverse

theorem dropIdle_append (names : List Bytes) : ∃ idle, names = dropIdle names ++ idle :=
  ⟨(names.reverse.takeWhile isIdle).reverse, by
    rw [dropIdle, ← List.reverse_append, List.takeWhile_append_dropWhile, List.reverse_reverse]⟩

def ofStretches (names : List Bytes) : Bytes :=
  [separator].intercalate names

@[simp] theorem ofStretches_stretches (path : Path) : ofStretches path.stretches = path.bytes :=
  List.intercalate_splitOn separator

theorem ofStretches_cons_cons (first second : Bytes) (names : List Bytes) :
    ofStretches (first :: second :: names) = first ++ separator :: ofStretches (second :: names) := by
  have more : second :: names ≠ [] := by simp
  simp [ofStretches, List.intercalate_cons_of_ne_nil more]

theorem length_ofStretches_le (first : Bytes) (names more : List Bytes) :
    (ofStretches (first :: names)).length + more.length ≤
      (ofStretches (first :: (names ++ more))).length := by
  induction names generalizing first with
  | nil =>
    induction more generalizing first with
    | nil => simp
    | cons second more ih =>
      have longer := ih second
      simp only [List.nil_append] at longer ⊢
      rw [ofStretches_cons_cons]
      simp only [List.length_append, List.length_cons, ofStretches,
        List.intercalate_singleton] at longer ⊢
      omega
  | cons second names ih =>
    have longer := ih second
    rw [List.cons_append, ofStretches_cons_cons, ofStretches_cons_cons]
    simp only [List.length_append, List.length_cons]
    omega

/-- The path without its last component; none for the root and the empty path. -/
def parent? (path : Path) : Option Path :=
  match path.isAbsolute, path.stretches with
  | true, _ :: names =>
    let kept := dropIdle names
    if kept = [] then none else some ⟨separator :: ofStretches (dropIdle kept.dropLast)⟩
  | false, first :: names =>
    let kept := dropIdle names
    if kept ≠ [] then some ⟨ofStretches (first :: dropIdle kept.dropLast)⟩
    else if first ≠ [] then some ⟨[]⟩
    else none
  | _, [] => none

theorem dropIdle_dropLast_append {names : List Bytes} (kept : dropIdle names ≠ []) :
    ∃ more, more ≠ [] ∧ names = dropIdle (dropIdle names).dropLast ++ more := by
  obtain ⟨idle, split⟩ := dropIdle_append names
  obtain ⟨before, inner⟩ := dropIdle_append (dropIdle names).dropLast
  refine ⟨before ++ [(dropIdle names).getLast kept] ++ idle, by simp, ?_⟩
  rw [← List.append_assoc, ← List.append_assoc, ← inner, List.dropLast_concat_getLast]
  exact split

theorem length_ofStretches_tail (first : Bytes) {names : List Bytes} (nonempty : names ≠ []) :
    (ofStretches (first :: names)).length = first.length + 1 + (ofStretches names).length := by
  cases names with
  | nil => exact absurd rfl nonempty
  | cons second names =>
    rw [ofStretches_cons_cons]
    simp only [List.length_append, List.length_cons]
    omega

theorem dropIdle_of_ofStretches_nil {names : List Bytes} (empty : ofStretches names = []) :
    dropIdle names = [] := by
  match names with
  | [] => rfl
  | [first] =>
    have blank : first = [] := by simpa [ofStretches] using empty
    subst blank
    rfl
  | first :: second :: names =>
    rw [ofStretches_cons_cons] at empty
    simp at empty

theorem length_parent_lt {path parent : Path} (found : path.parent? = some parent) :
    parent.bytes.length < path.bytes.length := by
  have whole := ofStretches_stretches path
  unfold parent? at found
  split at found
  · rename_i first names absolute cut
    simp only at found
    split at found
    · simp at found
    · rename_i kept
      obtain ⟨more, nonempty, split⟩ := dropIdle_dropLast_append kept
      simp only [Option.some.injEq] at found
      subst found
      rw [← whole, cut]
      generalize rest : dropIdle (dropIdle names).dropLast = before at split
      have some_left : names ≠ [] := by simp [split, nonempty]
      rw [length_ofStretches_tail first some_left]
      cases before with
      | nil =>
        have filled : ofStretches names ≠ [] := fun empty => kept (dropIdle_of_ofStretches_nil empty)
        have positive := List.length_pos_iff.2 filled
        show (separator :: ofStretches []).length < _
        simp only [List.length_cons, ofStretches, List.intercalate_nil, List.length_nil]
        simp only [ofStretches] at positive
        omega
      | cons head before =>
        have shorter := length_ofStretches_le head before more
        have some_more := List.length_pos_iff.2 nonempty
        rw [← List.cons_append, ← split] at shorter
        show (separator :: ofStretches _).length < _
        simp only [List.length_cons]
        omega
  · rename_i first names relative cut
    simp only at found
    split at found
    · rename_i kept
      obtain ⟨more, nonempty, split⟩ := dropIdle_dropLast_append kept
      simp only [Option.some.injEq] at found
      subst found
      rw [← whole, cut]
      have shorter := length_ofStretches_le first (dropIdle (dropIdle names).dropLast) more
      have some_more := List.length_pos_iff.2 nonempty
      rw [← split] at shorter
      show (ofStretches _).length < _
      omega
    · split at found
      · rename_i named
        simp only [Option.some.injEq] at found
        subst found
        rw [← whole, cut]
        cases names with
        | nil => simpa [ofStretches, List.length_pos_iff] using named
        | cons second names =>
          rw [ofStretches_cons_cons]
          simp only [List.length_nil, List.length_append, List.length_cons]
          omega
      · simp at found
  · simp at found

end Path

end FrontEnd
