import FrontEnd.Proofs.Text.Numeral
import FrontEnd.World.Files
import Mathlib.Data.List.Forall2

namespace FrontEnd.Version

/-- A version as it is spelled, part by part. -/
def Dotted (text : List Char) (numbers : List Nat) : Prop :=
  ∃ parts, parts ≠ [] ∧ text = ['.'].intercalate parts ∧
    List.Forall₂ (fun part n => Decimal.Numeral part n ∧ n < 2 ^ 64) parts numbers

theorem mapM_eq_some_iff {α β : Type} {read : α → Option β} {items : List α} {values : List β} :
    items.mapM read = some values ↔
      List.Forall₂ (fun item value => read item = some value) items values := by
  induction items generalizing values with
  | nil => cases values <;> simp
  | cons item items ih =>
    rw [List.mapM_cons, List.forall₂_cons_left_iff]
    simp only [Option.bind_eq_bind, Option.bind_eq_some_iff, Option.pure_def, Option.some.injEq, ih]
    constructor
    · intro whole
      obtain ⟨first, read, rest, others, same⟩ := whole
      exact ⟨first, rest, read, others, same.symm⟩
    · intro whole
      obtain ⟨first, rest, read, others, same⟩ := whole
      exact ⟨first, read, rest, others, same.symm⟩

theorem parts?_eq_some_iff {text : List Char} {numbers : List Nat} :
    parts? text = some numbers ↔ Dotted text numbers := by
  have numerals (parts : List (List Char)) : parts.mapM (Decimal.read? UInt64.size) = some numbers ↔
      List.Forall₂ (fun part n => Decimal.Numeral part n ∧ n < 2 ^ 64) parts numbers := by
    simp only [mapM_eq_some_iff, Decimal.read?_eq_some_iff, UInt64.size, Nat.reducePow]
  rw [parts?, numerals]
  constructor
  · intro spelled
    exact ⟨text.splitOn '.', List.splitOn_ne_nil _ _, (List.intercalate_splitOn '.').symm, spelled⟩
  · intro dotted
    obtain ⟨parts, filled, rfl, spelled⟩ := dotted
    -- No numeral has a point in it, so the text is cut where the parts were joined.
    have whole : ∀ part ∈ parts, '.' ∉ part := by
      have marked := spelled.imp fun part n fits => And.intro fits.1.point_not_mem fits
      exact ((List.forall₂_and_left _ _).mp marked).1
    rwa [List.splitOn_intercalate '.' whole filled]

theorem dotted_render (first : UInt64) (rest : List UInt64) :
    Dotted (".".intercalate ((first :: rest).map fun n => Decimal.render n.toNat)).toList
      ((first :: rest).map UInt64.toNat) := by
  refine ⟨(first :: rest).map fun n => Decimal.digits n.toNat, by simp, ?_, ?_⟩
  · simp [String.toList_intercalate, Decimal.render, Function.comp_def]
  · rw [List.forall₂_map_left_iff, List.forall₂_map_right_iff, List.forall₂_same]
    intro n _
    exact ⟨Decimal.numeral_digits n.toNat, n.toNat_lt⟩

theorem parse?_append (first second : String) :
    parse? (first ++ "." ++ second) = do return (← parse? first) ++ (← parse? second) := by
  have text : (first ++ "." ++ second).toList = first.toList ++ '.' :: second.toList := by simp
  rw [parse?, text, parts?, List.splitOn_append_cons_self, List.mapM_append]
  rfl

/-- Reading a version accepts exactly the dotted ones, reads back what is written with points in
between, and takes a version apart at any of its points. -/
theorem parse?_exact :
    (∀ text numbers, parse? text = some numbers ↔ Dotted text.toList numbers) ∧
    (∀ (first : UInt64) (rest : List UInt64),
      parse? (".".intercalate ((first :: rest).map fun n => Decimal.render n.toNat)) =
        some ((first :: rest).map UInt64.toNat)) ∧
    ∀ first second,
      parse? (first ++ "." ++ second) = do return (← parse? first) ++ (← parse? second) := by
  refine ⟨fun text numbers => parts?_eq_some_iff, ?_, parse?_append⟩
  intro first rest
  exact parts?_eq_some_iff.mpr (dotted_render first rest)

end FrontEnd.Version
