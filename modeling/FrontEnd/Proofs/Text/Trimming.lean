import FrontEnd.Text.Reader
import Mathlib.Data.List.DropRight

namespace FrontEnd.Text

def Blank (text : List Char) : Prop :=
  ∀ c ∈ text, isBlank c = true

instance (text : List Char) : Decidable (Blank text) :=
  decidable_of_iff (text.all isBlank = true) List.all_eq_true

structure Trimmed (text : List Char) : Prop where
  front : ∀ c ∈ text.head?, isBlank c = false
  back : ∀ c ∈ text.getLast?, isBlank c = false

theorem front_trimStart {text : List Char} {c : Char} (first : c ∈ (trimStart text).head?) :
    isBlank c = false := by
  have stopped := List.head?_dropWhile_not isBlank text
  have leads : (text.dropWhile isBlank).head? = some c := first
  rwa [leads] at stopped

theorem trimEnd_isPrefix (text : List Char) : trimEnd text <+: text :=
  List.rdropWhile_prefix isBlank text

theorem trimmed_trim (text : List Char) : Trimmed (trim text) := by
  constructor
  · intro c first
    obtain ⟨rest, cut⟩ := trimEnd_isPrefix (trimStart text)
    apply front_trimStart
    rw [← cut, List.head?_append, show (trimEnd (trimStart text)).head? = some c from first]
    rfl
  · intro c last
    rw [trim, trimEnd, List.getLast?_reverse] at last
    exact front_trimStart last

theorem mem_of_mem_trim {text : List Char} {c : Char} (member : c ∈ trim text) : c ∈ text :=
  (List.dropWhile_sublist isBlank).mem ((trimEnd_isPrefix (trimStart text)).mem member)

theorem trimStart_eq_self {text : List Char} (front : ∀ c ∈ text.head?, isBlank c = false) :
    trimStart text = text := by
  cases text with
  | nil => rfl
  | cons c rest => simp [trimStart, front c rfl]

theorem trimEnd_eq_self {text : List Char} (back : ∀ c ∈ text.getLast?, isBlank c = false) :
    trimEnd text = text := by
  rw [← List.head?_reverse] at back
  have kept : text.reverse.dropWhile isBlank = text.reverse := trimStart_eq_self back
  rw [trimEnd, kept, List.reverse_reverse]

theorem trim_eq_self_iff {text : List Char} : trim text = text ↔ Trimmed text := by
  constructor
  · intro same
    rw [← same]
    exact trimmed_trim text
  · intro trimmed
    rw [trim, trimStart_eq_self trimmed.front, trimEnd_eq_self trimmed.back]

instance (text : List Char) : Decidable (Trimmed text) :=
  decidable_of_iff (trim text = text) trim_eq_self_iff

theorem trim_blank_append {space : List Char} (blank : Blank space) (text : List Char) :
    trim (space ++ text) = trim text := by
  rw [trim, trimStart, List.dropWhile_append_of_pos blank]
  rfl

theorem trimEnd_append_blank {space : List Char} (blank : Blank space) (text : List Char) :
    trimEnd (text ++ space) = trimEnd text := by
  have reversed : Blank space.reverse := fun c member => blank c (List.mem_reverse.mp member)
  rw [trimEnd, List.reverse_append, List.dropWhile_append_of_pos reversed, trimEnd]

theorem trim_append_blank {space : List Char} (blank : Blank space) (text : List Char) :
    trim (text ++ space) = trim text := by
  simp only [trim, trimStart]
  rw [List.dropWhile_append]
  split
  -- A blank text is used up from the front, and the space behind it goes with it.
  · rename_i empty
    rw [List.isEmpty_iff.mp empty, List.dropWhile_eq_nil_iff.mpr blank]
  · exact trimEnd_append_blank blank _

theorem trimEnd_append (text : List Char) : ∃ space, Blank space ∧ text = trimEnd text ++ space := by
  refine ⟨text.rtakeWhile isBlank, ?_, List.rdropWhile_append_rtakeWhile.symm⟩
  intro c member
  exact List.mem_rtakeWhile_imp member

theorem trim_trimStart (text : List Char) : trim (trimStart text) = trim text := by
  rw [trim, trimStart_eq_self fun c first => front_trimStart first, trim]

theorem trim_eq_nil {text : List Char} (blank : Blank text) : trim text = [] := by
  have whole := trim_blank_append blank []
  rwa [List.append_nil] at whole

theorem trim_eq_nil_iff {text : List Char} : trim text = [] ↔ Blank text := by
  constructor
  · intro empty
    have left : ∀ c ∈ trimStart text, isBlank c = true := List.rdropWhile_eq_nil_iff.mp empty
    have nothing : trimStart text = [] := by
      cases kept : trimStart text with
      | nil => rfl
      | cons c rest =>
        have front : isBlank c = false := front_trimStart (by rw [kept]; rfl)
        rw [left c (by rw [kept]; exact List.mem_cons_self)] at front
        cases front
    exact List.dropWhile_eq_nil_iff.mp nothing
  · exact trim_eq_nil

end FrontEnd.Text
