import FrontEnd.Text.Digits

namespace FrontEnd.Decimal

theorem digit_isDigit (n : Nat) : (digit n).isDigit = true := by
  have small : ∀ k < 10, (Char.ofNat ('0'.toNat + k)).isDigit = true := by decide
  exact small (n % 10) (Nat.mod_lt n (by decide))

theorem toNat_digit (n : Nat) : (digit n).toNat - '0'.toNat = n % 10 := by
  have small : ∀ k < 10, (Char.ofNat ('0'.toNat + k)).toNat - '0'.toNat = k := by decide
  exact small (n % 10) (Nat.mod_lt n (by decide))

theorem value_append_digit (text : List Char) (n : Nat) :
    value (text ++ [digit n]) = 10 * value text + n % 10 := by
  simp only [value, List.foldl_append, List.foldl_cons, List.foldl_nil]
  rw [toNat_digit]

theorem isDigit_of_mem_digits {n : Nat} {c : Char} (member : c ∈ digits n) : c.isDigit = true := by
  fun_induction digits n with
  | case1 n small =>
    rw [List.mem_singleton.mp member]
    exact digit_isDigit n
  | case2 n large ih =>
    rcases List.mem_append.mp member with earlier | last
    · exact ih earlier
    · rw [List.mem_singleton.mp last]
      exact digit_isDigit n

theorem digits_ne_nil (n : Nat) : digits n ≠ [] := by
  unfold digits
  split <;> simp

theorem head?_digits_ne {n : Nat} (positive : n ≠ 0) : (digits n).head? ≠ some '0' := by
  fun_induction digits n with
  | case1 n small =>
    have other : ∀ k < 10, k ≠ 0 → Char.ofNat ('0'.toNat + k % 10) ≠ '0' := by decide
    simpa [digit] using other n small positive
  | case2 n large ih =>
    obtain ⟨first, more, written⟩ := List.exists_cons_of_ne_nil (digits_ne_nil (n / 10))
    have other := ih (by omega)
    rw [written] at other ⊢
    exact other

theorem value_digits (n : Nat) : value (digits n) = n := by
  fun_induction digits n with
  | case1 n small =>
    rw [← List.nil_append [digit n], value_append_digit]
    simp only [value, List.foldl_nil]
    omega
  | case2 n large ih =>
    rw [value_append_digit, ih]
    omega

theorem digits_injective {first second : Nat} (same : digits first = digits second) :
    first = second := by
  have values := congrArg value same
  rwa [value_digits, value_digits] at values

theorem render_two_digits {n : Nat} (large : 10 ≤ n) (small : n < 100) :
    render n = String.ofList [digit (n / 10), digit n] := by
  rw [render, digits, if_neg (by omega), digits, if_pos (by omega)]
  rfl

end FrontEnd.Decimal
