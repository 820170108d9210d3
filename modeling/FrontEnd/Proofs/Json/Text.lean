import FrontEnd.Json.Printer
import FrontEnd.Json.Reader
import FrontEnd.Proofs.Text.Decimal

namespace FrontEnd.Json

open Text (prepend prepend_some)

theorem text?_letter {letter c : Char} (known : escaped? letter = some c) (rest : List Char) :
    text? ('\\' :: letter :: rest) = prepend (some c) (text? rest) := by
  rw [text?.eq_def]
  unfold escaped? at known
  split at known <;> cases known <;> rfl

theorem text?_unit {c : Char} (small : c.toNat < 256) (rest : List Char) :
    text? ('\\' :: 'u' :: '0' :: '0' :: Hexadecimal.lower (c.toNat / 16) ::
      Hexadecimal.lower (c.toNat % 16) :: rest) = prepend (some c) (text? rest) := by
  have number := Hexadecimal.number?_digits (.inl rfl) small
  have single : single? c.toNat = some c := by
    have valid : c.toNat.isValidChar := c.valid
    rw [single?, if_pos valid, Char.ofNat_toNat]
  rw [text?.eq_def]
  simp only [Hexadecimal.lower, number, single]
  rfl

theorem text?_plain {c : Char} (mark : c ≠ '"') (backslash : c ≠ '\\') (shown : ¬ c < ' ')
    (rest : List Char) : text? (c :: rest) = prepend (some c) (text? rest) := by
  rw [text?.eq_def]
  simp only [mark, backslash, shown, if_false]

theorem text?_escapeChar (c : Char) (rest : List Char) :
    text? (escapeChar c ++ rest) = prepend (some c) (text? rest) := by
  unfold escapeChar
  -- Seven characters have an escape of one letter.
  iterate 7
    split
    · subst c
      exact text?_letter rfl rest
  split
  · rename_i control
    have bound : c.toNat < ' '.toNat := control
    exact text?_unit (Nat.lt_trans bound (by decide)) rest
  · rename_i mark backslash _ _ _ _ _ shown
    exact text?_plain mark backslash shown rest

theorem text?_escape (text rest : List Char) :
    text? (text.flatMap escapeChar ++ '"' :: rest) = some (text, rest) := by
  induction text with
  | nil =>
    rw [List.flatMap_nil, List.nil_append, text?.eq_def]
    rfl
  | cons c text ih =>
    rw [List.flatMap_cons, List.append_assoc, text?_escapeChar, ih, prepend_some]

/-- What may stand behind a value that is written over lines. -/
def AtBreak (rest : List Char) : Prop :=
  ∀ c ∈ rest.head?, c = ',' ∨ c = '\n'

theorem AtBreak.nil : AtBreak [] := nofun

theorem AtBreak.comma (rest : List Char) : AtBreak (',' :: rest) := by
  simp [AtBreak]

theorem AtBreak.newline (rest : List Char) : AtBreak ('\n' :: rest) := by
  simp [AtBreak]

theorem AtBreak.head_ne {rest : List Char} (atBreak : AtBreak rest) {c d : Char} (first : c ∈ rest.head?)
    (comma : d ≠ ',') (newline : d ≠ '\n') : c ≠ d := by
  rcases atBreak c first with rfl | rfl
  · exact comma.symm
  · exact newline.symm

theorem digits?_digits (n : Nat) {rest : List Char} (atBreak : AtBreak rest) :
    digits? (Decimal.digits n ++ rest) = some (Decimal.digits n, rest) := by
  have inside : ∀ c ∈ Decimal.digits n, c.isDigit = true := fun c => Decimal.isDigit_of_mem_digits
  have boundary : ∀ c ∈ rest.head?, c.isDigit = false := by
    intro c first
    rcases atBreak c first with rfl | rfl <;> rfl
  rw [digits?, Text.takeWhile_run inside boundary, Text.dropWhile_run inside boundary]
  obtain ⟨first, more, written⟩ := List.exists_cons_of_ne_nil (Decimal.digits_ne_nil n)
  rw [written]

theorem wholeDigits?_digits (n : Nat) {rest : List Char} (atBreak : AtBreak rest) :
    wholeDigits? (Decimal.digits n ++ rest) = some (Decimal.digits n, rest) := by
  by_cases zero : n = 0
  · subst n
    have written : Decimal.digits 0 = ['0'] := by
      rw [Decimal.digits]
      rfl
    rw [written]
    rfl
  · have other := Decimal.head?_digits_ne zero
    obtain ⟨first, more, written⟩ := List.exists_cons_of_ne_nil (Decimal.digits_ne_nil n)
    unfold wholeDigits?
    split
    · rename_i leads
      rw [written] at leads other
      exact absurd (congrArg List.head? leads) other
    · exact digits?_digits n atBreak

theorem fraction?_none {rest : List Char} (atBreak : AtBreak rest) : fraction? rest = some ([], rest) := by
  unfold fraction?
  split
  · exact absurd rfl (atBreak.head_ne rfl (by decide) (by decide))
  · rfl

theorem exponent?_none {rest : List Char} (atBreak : AtBreak rest) : exponent? rest = some ([], rest) := by
  unfold exponent?
  split
  · rename_i c rest
    have lower : c ≠ 'e' := atBreak.head_ne rfl (by decide) (by decide)
    have upper : c ≠ 'E' := atBreak.head_ne rfl (by decide) (by decide)
    rw [if_neg (not_or.mpr ⟨lower, upper⟩)]
  · rfl

theorem magnitude?_digits (negative : Bool) (n : Nat) {rest : List Char} (atBreak : AtBreak rest) :
    magnitude? negative (Decimal.digits n ++ rest) =
      some (.integer (if negative then -(n : Int) else n), rest) := by
  rw [magnitude?, wholeDigits?_digits n atBreak]
  simp only [Option.bind_eq_bind, Option.bind_some, fraction?_none atBreak, exponent?_none atBreak,
    and_self, if_true, Decimal.value_digits]
  rfl

end FrontEnd.Json
