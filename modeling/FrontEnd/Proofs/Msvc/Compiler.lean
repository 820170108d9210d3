import FrontEnd.Msvc.Compiler
import FrontEnd.Proofs.Text.Decimal

namespace FrontEnd.Msvc

theorem checkedMul_eq_some_iff (a b product : UInt32) :
    checkedMul a b = some product ↔ product.toNat = a.toNat * b.toNat := by
  have bound := product.toNat_lt_size
  unfold checkedMul
  split
  · rename_i fits
    rw [Option.some.injEq, ← UInt32.toNat_inj, UInt32.toNat_mul, Nat.mod_eq_of_lt fits]
    exact eq_comm
  · rename_i wide
    simp only [reduceCtorEq, false_iff]
    omega

theorem checkedAdd_eq_some_iff (a b sum : UInt32) :
    checkedAdd a b = some sum ↔ sum.toNat = a.toNat + b.toNat := by
  have bound := sum.toNat_lt_size
  unfold checkedAdd
  split
  · rename_i fits
    rw [Option.some.injEq, ← UInt32.toNat_inj, UInt32.toNat_add, Nat.mod_eq_of_lt fits]
    exact eq_comm
  · rename_i wide
    simp only [reduceCtorEq, false_iff]
    omega

namespace Compiler

theorem point_not_mem_digits (n : Nat) : '.' ∉ Decimal.digits n := by
  intro member
  have isDigit := Decimal.isDigit_of_mem_digits member
  revert isDigit
  decide

theorem takeWhile_point (major minor : Nat) :
    (Decimal.digits major ++ '.' :: Decimal.digits minor).takeWhile (· ≠ '.') = Decimal.digits major := by
  have before : ∀ c ∈ Decimal.digits major, decide (c ≠ '.') = true := by
    rintro c member
    have other : c ≠ '.' := fun point => point_not_mem_digits major (point ▸ member)
    simpa using other
  rw [List.takeWhile_append_of_pos before]
  simp

theorem render_toList (compiler : Compiler) :
    compiler.render.toList =
      Decimal.digits compiler.major.toNat ++ '.' :: Decimal.digits compiler.minor.toNat := by
  simp [render, Decimal.render]

theorem render_injective {first second : Compiler} (same : first.render = second.render) :
    first = second := by
  have written := congrArg String.toList same
  rw [render_toList, render_toList] at written
  have majors : Decimal.digits first.major.toNat = Decimal.digits second.major.toNat := by
    rw [← takeWhile_point first.major.toNat first.minor.toNat, written, takeWhile_point]
  rw [majors, List.append_cancel_left_eq, List.cons.injEq] at written
  have major := UInt32.toNat_inj.mp (Decimal.digits_injective majors)
  have minor := UInt32.toNat_inj.mp (Decimal.digits_injective written.2)
  cases first
  cases second
  simp only at major minor
  rw [major, minor]

theorem toolSet?_eq_some_iff (compiler : Compiler) (identifier : UInt32) :
    compiler.toolSet? = some identifier ↔ compiler.minor.toNat ≤ 99 ∧
      identifier.toNat = compiler.major.toNat * 10000000 + compiler.minor.toNat * 100000 := by
  by_cases wide : compiler.minor ≥ 100
  · have large : 100 ≤ compiler.minor.toNat := by simpa [UInt32.le_iff_toNat_le] using wide
    simp only [toolSet?, wide, if_true, reduceCtorEq, false_iff]
    omega
  have small : compiler.minor.toNat < 100 := by simpa [UInt32.le_iff_toNat_le] using wide
  have minor : (compiler.minor * 100000).toNat = compiler.minor.toNat * 100000 := by
    simp only [UInt32.toNat_mul, UInt32.reduceToNat]
    omega
  rw [toolSet?, if_neg wide, Option.bind_eq_some_iff]
  simp only [checkedMul_eq_some_iff, checkedAdd_eq_some_iff, minor, UInt32.reduceToNat]
  constructor
  · rintro ⟨product, major, sum⟩
    omega
  · rintro ⟨-, sum⟩
    have bound := identifier.toNat_lt
    have fits : compiler.major.toNat * 10000000 < UInt32.size := by
      rw [UInt32.size]
      omega
    have product := UInt32.toNat_ofNat_of_lt' fits
    refine ⟨UInt32.ofNat (compiler.major.toNat * 10000000), product, ?_⟩
    rw [product]
    exact sum

theorem ofToolSet?_of_toolSet? {compiler : Compiler} {identifier : UInt32}
    (made : compiler.toolSet? = some identifier) (told : identifier ≠ 0) :
    ofToolSet? identifier = some compiler := by
  obtain ⟨small, sum⟩ := (toolSet?_eq_some_iff compiler identifier).mp made
  have major : identifier / 10000000 = compiler.major := by
    rw [← UInt32.toNat_inj, UInt32.toNat_div, sum]
    simp only [UInt32.reduceToNat]
    omega
  have minor : identifier % 10000000 / 100000 = compiler.minor := by
    rw [← UInt32.toNat_inj, UInt32.toNat_div, UInt32.toNat_mod, sum]
    simp only [UInt32.reduceToNat]
    omega
  simp only [ofToolSet?, told, if_false, major, minor]

theorem toolSet?_eq_zero_iff (compiler : Compiler) :
    compiler.toolSet? = some 0 ↔ compiler = ⟨0, 0⟩ := by
  obtain ⟨major, minor⟩ := compiler
  rw [toolSet?_eq_some_iff]
  simp only [UInt32.reduceToNat, mk.injEq, ← UInt32.toNat_inj]
  omega

end Compiler

end FrontEnd.Msvc
