namespace FrontEnd.Text

/-- The characters with the `White_Space` property. -/
def isBlank (c : Char) : Bool :=
  ('\t' ≤ c && c ≤ '\r') || c == ' ' || c == '\u0085' || c == '\u00a0' || c == '\u1680' ||
    ('\u2000' ≤ c && c ≤ '\u200a') || c == '\u2028' || c == '\u2029' || c == '\u202f' ||
    c == '\u205f' || c == '\u3000'

def trimStart (text : List Char) : List Char :=
  text.dropWhile isBlank

def trimEnd (text : List Char) : List Char :=
  (text.reverse.dropWhile isBlank).reverse

def trim (text : List Char) : List Char :=
  trimEnd (trimStart text)

abbrev Reader (α : Type) := List Char → Option (α × List Char)

def prepend (c : Option Char) (rest : Option (List Char × List Char)) : Option (List Char × List Char) :=
  match c, rest with
  | some c, some (more, left) => some (c :: more, left)
  | _, _ => none

@[simp] theorem prepend_some (c : Char) (more left : List Char) :
    prepend (some c) (some (more, left)) = some (c :: more, left) := rfl

section Runs

variable {α : Type} {belongs : α → Bool} {run rest : List α}

theorem takeWhile_run (inside : ∀ a ∈ run, belongs a = true) (boundary : ∀ a ∈ rest.head?, belongs a = false) :
    (run ++ rest).takeWhile belongs = run := by
  have stopped : rest.takeWhile belongs = [] := by
    cases rest with
    | nil => rfl
    | cons a rest => simp [boundary a rfl]
  rw [List.takeWhile_append_of_pos inside, stopped, List.append_nil]

theorem dropWhile_run (inside : ∀ a ∈ run, belongs a = true) (boundary : ∀ a ∈ rest.head?, belongs a = false) :
    (run ++ rest).dropWhile belongs = rest := by
  rw [List.dropWhile_append_of_pos inside]
  cases rest with
  | nil => rfl
  | cons a rest => simp [boundary a rfl]

end Runs

end FrontEnd.Text
