import FrontEnd.Proofs.Toml.Quoting
import FrontEnd.Toml.Document

namespace FrontEnd.Toml

theorem value?_of_ne {c : Char} (bracket : c ≠ '[') (brace : c ≠ '\x7b') (depth : Nat) (rest : List Char) :
    value? depth (c :: rest) = scalar? (c :: rest) := by
  rw [value?.eq_def]
  split
  · rename_i same
    cases same
    exact absurd rfl bracket
  · rename_i same
    cases same
    exact absurd rfl brace
  · rfl

theorem value?_quote (depth : Nat) (text : String) (rest : List Char)
    (boundary : ∀ c ∈ rest.head?, c ≠ '"' ∧ c ≠ '\'') :
    value? depth (quote text ++ rest) = some (.text text, rest) := by
  have read := quoted?_quote text boundary
  obtain ⟨mark, more, written, quotes⟩ := quote_eq_cons text
  rw [written, List.cons_append] at read ⊢
  have scalar : value? depth (mark :: (more ++ rest)) = scalar? (mark :: (more ++ rest)) := by
    rcases quotes with rfl | rfl
    · exact value?_of_ne (by decide) (by decide) depth _
    · exact value?_of_ne (by decide) (by decide) depth _
  rw [scalar, scalar?, read]

theorem dropFiller_quote (text : String) (rest : List Char) :
    dropFiller false (quote text ++ rest) = quote text ++ rest := by
  obtain ⟨mark, more, written, rfl | rfl⟩ := quote_eq_cons text
  · rw [written, List.cons_append, dropFiller.eq_def]
    rfl
  · rw [written, List.cons_append, dropFiller.eq_def]
    rfl

theorem quote_append_ne_bracket (text : String) (rest left : List Char) :
    quote text ++ rest ≠ ']' :: left := by
  obtain ⟨mark, more, written, rfl | rfl⟩ := quote_eq_cons text
  · rw [written]
    rintro ⟨⟩
  · rw [written]
    rintro ⟨⟩

theorem items?_last (depth count : Nat) (item : String) (rest : List Char) :
    items? (value? depth) (count + 1) (quote item ++ ']' :: rest) = some ([.text item], rest) := by
  have read := value?_quote depth item (']' :: rest) (by simp)
  rw [items?, dropFiller_quote]
  split
  · rename_i bracket
    exact absurd bracket (quote_append_ne_bracket item _ _)
  · rw [read]
    rfl

theorem items?_next (depth count : Nat) (item : String) (rest : List Char) :
    items? (value? depth) (count + 1) (quote item ++ ',' :: rest) =
      (items? (value? depth) count rest).map fun (others, left) => (.text item :: others, left) := by
  have read := value?_quote depth item (',' :: rest) (by simp)
  rw [items?, dropFiller_quote]
  split
  · rename_i bracket
    exact absurd bracket (quote_append_ne_bracket item _ _)
  · have comma : dropFiller false (',' :: rest) = ',' :: rest := rfl
    simp only [read, Option.bind_eq_bind, Option.bind_some, comma]
    cases items? (value? depth) count rest <;> rfl

theorem items?_indent (depth count : Nat) (text : List Char) :
    items? (value? depth) count ("\n    ".toList ++ text) = items? (value? depth) count text := by
  cases count with
  | zero => rfl
  | succ count => rfl

def itemLines (items : List String) : List Char :=
  items.flatMap fun item => "\n    ".toList ++ quote item ++ [',']

theorem itemLines_cons (item : String) (items : List String) (rest : List Char) :
    itemLines (item :: items) ++ rest = "\n    ".toList ++ (quote item ++ ',' :: (itemLines items ++ rest)) := by
  simp [itemLines]

theorem length_le_length_itemLines (items : List String) : items.length ≤ (itemLines items).length := by
  induction items with
  | nil => exact Nat.zero_le _
  | cons item items ih =>
    have longer := congrArg List.length (itemLines_cons item items [])
    simp only [List.append_nil, List.length_append, List.length_cons] at longer ⊢
    omega

theorem items?_lines (depth : Nat) (items : List String) (rest : List Char) {count : Nat}
    (enough : items.length < count) :
    items? (value? depth) count (itemLines items ++ '\n' :: ']' :: rest) = some (items.map .text, rest) := by
  induction items generalizing count with
  | nil =>
    obtain ⟨count, rfl⟩ := Nat.exists_eq_succ_of_ne_zero (Nat.ne_zero_of_lt enough)
    rfl
  | cons item items ih =>
    obtain ⟨count, rfl⟩ := Nat.exists_eq_succ_of_ne_zero (Nat.ne_zero_of_lt enough)
    have others := ih (Nat.lt_of_succ_lt_succ enough)
    rw [itemLines_cons, items?_indent, items?_next, others]
    rfl

theorem value?_bracket {depth : Nat} {text left : List Char} {items : List Value}
    (read : items? (value? depth) (text.length + 1) text = some (items, left)) :
    value? (depth + 1) ('[' :: text) = some (.array items, left) := by
  rw [value?, read]
  rfl

theorem value?_render (depth : Nat) (setting : Setting) (rest : List Char)
    (boundary : ∀ c ∈ rest.head?, c ≠ '"' ∧ c ≠ '\'') :
    value? (depth + 1) (setting.render ++ rest) = some (setting.value, rest) := by
  match setting with
  | .text text => exact value?_quote (depth + 1) text rest boundary
  | .boolean true => rfl
  | .boolean false => rfl
  | .texts [] => exact value?_bracket rfl
  | .texts [item] =>
    have read := items?_last depth (quote item ++ ']' :: rest).length item rest
    have written : Setting.render (.texts [item]) ++ rest = '[' :: (quote item ++ ']' :: rest) := by
      simp [Setting.render]
    rw [written]
    exact value?_bracket read
  | .texts (first :: second :: items) =>
    generalize many : first :: second :: items = all
    have written : Setting.render (.texts all) ++ rest =
        '[' :: (itemLines all ++ '\n' :: ']' :: rest) := by
      simp [← many, Setting.render, itemLines]
    have few := length_le_length_itemLines all
    rw [written]
    -- The bound on the items is the length of the text, and every item takes some of it.
    refine value?_bracket (items?_lines depth all rest ?_)
    rw [List.length_append]
    omega

theorem dropBlanks_render (setting : Setting) (rest : List Char) :
    dropBlanks (setting.render ++ rest) = setting.render ++ rest := by
  match setting with
  | .text text =>
    obtain ⟨mark, more, written, rfl | rfl⟩ := quote_eq_cons text
    · rw [Setting.render, written]
      rfl
    · rw [Setting.render, written]
      rfl
  | .boolean true | .boolean false => rfl
  | .texts [] | .texts [_] | .texts (_ :: _ :: _) => rfl

theorem return_not_mem_quote (text : String) : '\r' ∉ quote text :=
  return_not_mem_quoteAs (Quoting.choose_holds text.toList)

theorem return_not_mem_render (setting : Setting) : '\r' ∉ setting.render := by
  match setting with
  | .text text => exact return_not_mem_quote text
  | .boolean true | .boolean false => decide
  | .texts [] => decide
  | .texts [item] => simp [Setting.render, return_not_mem_quote]
  | .texts (first :: second :: items) => simp [Setting.render, return_not_mem_quote]

end FrontEnd.Toml
