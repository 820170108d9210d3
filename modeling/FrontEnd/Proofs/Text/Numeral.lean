import FrontEnd.Proofs.Text.Decimal
import Mathlib.Data.List.Induction
import Mathlib.Data.Nat.Digits.Defs

namespace FrontEnd.Decimal

def places (text : List Char) : List Nat :=
  (text.map fun c => c.toNat - '0'.toNat).reverse

structure DigitRun (text : List Char) (n : Nat) : Prop where
  filled : text ≠ []
  decimal : ∀ c ∈ text, c.isDigit = true
  value : Nat.ofDigits 10 (places text) = n

inductive Numeral : List Char → Nat → Prop
  | unsigned {text : List Char} {n : Nat} (run : DigitRun text n) : Numeral text n
  | signed {text : List Char} {n : Nat} (run : DigitRun text n) : Numeral ('+' :: text) n

theorem value_eq_ofDigits (text : List Char) : value text = Nat.ofDigits 10 (places text) := by
  induction text using List.reverseRecOn with
  | nil => rfl
  | append_singleton text c ih =>
    have last : places (text ++ [c]) = (c.toNat - '0'.toNat) :: places text := by simp [places]
    rw [last, Nat.ofDigits_cons, ← ih]
    simp only [value, List.foldl_append, List.foldl_cons, List.foldl_nil]
    omega

theorem digits?_eq_some_iff {bound : Nat} {text : List Char} {n : Nat} :
    digits? bound text = some n ↔ DigitRun text n ∧ n < bound := by
  unfold digits?
  constructor
  · intro read
    split at read
    · rename_i fits
      obtain ⟨filled, decimal, small⟩ := fits
      rw [Option.some.injEq] at read
      subst read
      exact ⟨⟨filled, List.all_eq_true.mp decimal, (value_eq_ofDigits text).symm⟩, small⟩
    · cases read
  · intro fits
    obtain ⟨⟨filled, decimal, sum⟩, small⟩ := fits
    have same : value text = n := (value_eq_ofDigits text).trans sum
    rw [if_pos ⟨filled, List.all_eq_true.mpr decimal, same ▸ small⟩, same]

theorem DigitRun.not_mem {text : List Char} {n : Nat} (run : DigitRun text n) {c : Char}
    (other : c.isDigit = false) : c ∉ text := by
  intro member
  simp [run.decimal c member] at other

theorem read?_eq_some_iff {bound : Nat} {text : List Char} {n : Nat} :
    read? bound text = some n ↔ Numeral text n ∧ n < bound := by
  unfold read?
  split
  · rename_i digits
    rw [digits?_eq_some_iff]
    constructor
    · intro fits
      exact ⟨.signed fits.1, fits.2⟩
    · intro fits
      obtain ⟨numeral, small⟩ := fits
      -- A plus sign is no digit, so the text is no run of digits itself.
      cases numeral with
      | unsigned run => exact absurd List.mem_cons_self (run.not_mem rfl)
      | signed run => exact ⟨run, small⟩
  · rename_i plain
    rw [digits?_eq_some_iff]
    constructor
    · intro fits
      exact ⟨.unsigned fits.1, fits.2⟩
    · intro fits
      obtain ⟨numeral, small⟩ := fits
      cases numeral with
      | unsigned run => exact ⟨run, small⟩
      | signed run => exact absurd rfl (plain _)

theorem Numeral.unique {text : List Char} {m n : Nat} (one : Numeral text m) (other : Numeral text n) :
    m = n := by
  have first : read? (m + n + 1) text = some m := read?_eq_some_iff.mpr ⟨one, by omega⟩
  have second : read? (m + n + 1) text = some n := read?_eq_some_iff.mpr ⟨other, by omega⟩
  rw [first, Option.some.injEq] at second
  exact second

theorem numeral_digits (n : Nat) : Numeral (digits n) n := by
  apply Numeral.unsigned
  refine ⟨digits_ne_nil n, fun c => isDigit_of_mem_digits, ?_⟩
  · rw [← value_eq_ofDigits, value_digits]

theorem Numeral.point_not_mem {text : List Char} {n : Nat} (numeral : Numeral text n) :
    '.' ∉ text := by
  cases numeral with
  | unsigned run => exact run.not_mem rfl
  | signed run =>
    rw [List.mem_cons, not_or]
    exact ⟨by decide, run.not_mem rfl⟩

end FrontEnd.Decimal
