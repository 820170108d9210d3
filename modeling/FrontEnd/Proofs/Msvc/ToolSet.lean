import FrontEnd.Proofs.Msvc.Compiler

namespace FrontEnd.Msvc.Compiler

def weight (compiler : Compiler) : Nat :=
  compiler.major.toNat * 10000000 + compiler.minor.toNat * 100000

/-- The order of versions: by the major part, and by the minor part where that is the same. -/
def Before (first second : Compiler) : Prop :=
  Prod.Lex (· < ·) (· < ·) (first.major, first.minor) (second.major, second.minor)

theorem before_iff (first second : Compiler) :
    Before first second ↔ first.major.toNat < second.major.toNat ∨
      first.major.toNat = second.major.toNat ∧ first.minor.toNat < second.minor.toNat := by
  rw [Before, Prod.lex_def, UInt32.lt_iff_toNat_lt, UInt32.lt_iff_toNat_lt, UInt32.toNat_inj]

theorem toolSet?_weight {compiler : Compiler} {identifier : UInt32}
    (made : compiler.toolSet? = some identifier) :
    compiler.minor.toNat ≤ 99 ∧ identifier.toNat = compiler.weight :=
  (toolSet?_eq_some_iff compiler identifier).mp made

theorem exists_toolSet?_iff (compiler : Compiler) :
    (∃ identifier, compiler.toolSet? = some identifier) ↔
      compiler.minor.toNat ≤ 99 ∧ compiler.weight < UInt32.size := by
  constructor
  · rintro ⟨identifier, made⟩
    obtain ⟨small, sum⟩ := toolSet?_weight made
    exact ⟨small, sum ▸ identifier.toNat_lt_size⟩
  · rintro ⟨small, fits⟩
    have sum := UInt32.toNat_ofNat_of_lt' fits
    exact ⟨UInt32.ofNat compiler.weight, (toolSet?_eq_some_iff compiler _).mpr ⟨small, sum⟩⟩

theorem toNat_minor_product {compiler : Compiler} (small : compiler.minor.toNat ≤ 99) :
    (compiler.minor * 100000).toNat = compiler.minor.toNat * 100000 := by
  simp only [UInt32.toNat_mul, UInt32.reduceToNat]
  omega

theorem toNat_major_product {compiler : Compiler} {identifier : UInt32}
    (made : compiler.toolSet? = some identifier) :
    (compiler.major * 10000000).toNat = compiler.major.toNat * 10000000 := by
  obtain ⟨-, sum⟩ := toolSet?_weight made
  have bound := identifier.toNat_lt
  rw [weight] at sum
  simp only [UInt32.toNat_mul, UInt32.reduceToNat]
  omega

theorem ofToolSet?_eq_none_iff {compiler : Compiler} {identifier : UInt32}
    (made : compiler.toolSet? = some identifier) :
    ofToolSet? identifier = none ↔ compiler = ⟨0, 0⟩ := by
  constructor
  · intro none
    by_cases told : identifier = 0
    · rw [told] at made
      exact (toolSet?_eq_zero_iff compiler).mp made
    · rw [ofToolSet?_of_toolSet? made told] at none
      cases none
  · rintro rfl
    have zero := (toolSet?_eq_zero_iff ⟨0, 0⟩).mpr rfl
    rw [zero, Option.some.injEq] at made
    rw [← made]
    rfl

theorem weight_lt_iff {first second : Compiler} (firstSmall : first.minor.toNat ≤ 99)
    (secondSmall : second.minor.toNat ≤ 99) :
    first.weight < second.weight ↔ Before first second := by
  rw [before_iff, weight, weight]
  omega

theorem weight_inj {first second : Compiler} (firstSmall : first.minor.toNat ≤ 99)
    (secondSmall : second.minor.toNat ≤ 99) : first.weight = second.weight ↔ first = second := by
  obtain ⟨firstMajor, firstMinor⟩ := first
  obtain ⟨secondMajor, secondMinor⟩ := second
  simp only [weight, mk.injEq, ← UInt32.toNat_inj] at firstSmall secondSmall ⊢
  omega

theorem toolSet?_of_ofToolSet? {compiler : Compiler} {identifier : UInt32}
    (told : ofToolSet? identifier = some compiler) :
    compiler.toolSet? = some (identifier - identifier % 100000) := by
  unfold ofToolSet? at told
  split at told
  · cases told
  · cases told
    have cut : identifier % 100000 ≤ identifier := by
      rw [UInt32.le_iff_toNat_le, UInt32.toNat_mod]
      exact Nat.mod_le _ _
    rw [toolSet?_eq_some_iff, UInt32.toNat_sub_of_le _ _ cut]
    simp only [UInt32.toNat_div, UInt32.toNat_mod, UInt32.reduceToNat]
    omega

/-- Which versions have an identifier and which, what an identifier stands for, and that identifiers
are in the order of their versions. -/
theorem toolSet?_exact :
    (∀ compiler : Compiler,
      ((∃ identifier, compiler.toolSet? = some identifier) ↔
        compiler.minor.toNat ≤ 99 ∧ compiler.weight < UInt32.size) ∧
      (compiler.minor.toNat ≤ 99 →
        (compiler.minor * 100000).toNat = compiler.minor.toNat * 100000) ∧
      ∀ identifier, compiler.toolSet? = some identifier →
        identifier.toNat = compiler.weight ∧
          (compiler.major * 10000000).toNat = compiler.major.toNat * 10000000 ∧
          (compiler ≠ ⟨0, 0⟩ → ofToolSet? identifier = some compiler) ∧
          (ofToolSet? identifier = none ↔ compiler = ⟨0, 0⟩)) ∧
    (∀ first second firstIdentifier secondIdentifier,
      first.toolSet? = some firstIdentifier → second.toolSet? = some secondIdentifier →
        (firstIdentifier = secondIdentifier ↔ first = second) ∧
          (firstIdentifier < secondIdentifier ↔ Before first second)) ∧
    ∀ identifier ≠ 0, ∃ compiler, ofToolSet? identifier = some compiler ∧
      compiler.toolSet? = some (identifier - identifier % 100000) := by
  refine ⟨fun compiler => ⟨exists_toolSet?_iff compiler, toNat_minor_product, ?_⟩, ?_, ?_⟩
  · intro identifier made
    refine ⟨(toolSet?_weight made).2, toNat_major_product made, ?_, ofToolSet?_eq_none_iff made⟩
    intro version
    have told : identifier ≠ 0 := by
      rintro rfl
      exact version ((toolSet?_eq_zero_iff compiler).mp made)
    exact ofToolSet?_of_toolSet? made told
  · intro first second firstIdentifier secondIdentifier firstMade secondMade
    obtain ⟨firstSmall, firstSum⟩ := toolSet?_weight firstMade
    obtain ⟨secondSmall, secondSum⟩ := toolSet?_weight secondMade
    rw [← UInt32.toNat_inj, UInt32.lt_iff_toNat_lt, firstSum, secondSum]
    exact ⟨weight_inj firstSmall secondSmall, weight_lt_iff firstSmall secondSmall⟩
  · intro identifier told
    have stands : ofToolSet? identifier =
        some ⟨identifier / 10000000, identifier % 10000000 / 100000⟩ := if_neg told
    exact ⟨_, stands, toolSet?_of_ofToolSet? stands⟩

/-- The last version that has an identifier, beside the one after it, and the largest word. -/
theorem toolSet?_exact_at_top :
    (⟨429, 49⟩ : Compiler).toolSet? = some 4294900000 ∧
      (¬ ∃ identifier, (⟨429, 50⟩ : Compiler).toolSet? = some identifier) ∧
      ofToolSet? 4294900000 = some ⟨429, 49⟩ ∧
      ((4290000000 : UInt32) < 4294900000 ↔ Before ⟨429, 0⟩ ⟨429, 49⟩) ∧
      ∃ compiler, ofToolSet? 4294967295 = some compiler ∧ compiler.toolSet? = some 4294900000 := by
  have last : (⟨429, 49⟩ : Compiler).toolSet? = some 4294900000 := by decide
  have first : (⟨429, 0⟩ : Compiler).toolSet? = some 4290000000 := by decide
  obtain ⟨versions, orders, words⟩ := toolSet?_exact
  refine ⟨last, ?_, ((versions ⟨429, 49⟩).2.2 _ last).2.2.1 (by decide), (orders _ _ _ _ first last).2,
    words 4294967295 (by decide)⟩
  rw [(versions ⟨429, 50⟩).1]
  decide

end FrontEnd.Msvc.Compiler
