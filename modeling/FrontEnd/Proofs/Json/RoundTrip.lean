import FrontEnd.Proofs.Json.Text

namespace FrontEnd.Json

open Text (Reader)

/-- Values with integers for all their numbers, and no name twice in an object. -/
inductive Plain : Json → Prop
  | null : Plain .null
  | boolean (value : Bool) : Plain (.boolean value)
  | integer (value : Int) : Plain (.integer value)
  | text (value : String) : Plain (.text value)
  | array {items : List Json} (each : ∀ item ∈ items, Plain item) : Plain (.array items)
  | object {fields : List (String × Json)} (each : ∀ field ∈ fields, Plain field.2)
      (distinct : (fields.map (·.1)).Nodup) : Plain (.object fields)

def Reads (json : Json) : Prop :=
  ∀ level depth rest, (prettyAt level json).length ≤ depth → AtBreak rest →
    value? (depth + 1) (prettyAt level json ++ rest) = some (json, rest)

section Layout

theorem dropSpace_cons {c : Char} (shown : (c == ' ' || c == '\t' || c == '\n' || c == '\r') = false)
    (rest : List Char) : dropSpace (c :: rest) = c :: rest := by
  rw [dropSpace, List.dropWhile_cons, if_neg (Bool.not_eq_true _ ▸ shown)]

theorem dropSpace_layout (level : Nat) (rest : List Char) :
    dropSpace ('\n' :: indentation level ++ rest) = dropSpace rest := by
  apply List.dropWhile_append_of_pos
  intro c member
  rcases List.mem_cons.mp member with rfl | blank
  · rfl
  · rw [List.eq_of_mem_replicate blank]
    rfl

theorem value?_congr {input other : List Char} (same : dropSpace input = dropSpace other) (depth : Nat) :
    value? depth input = value? depth other := by
  cases depth with
  | zero => rfl
  | succ depth => rw [value?, value?, same]

theorem value?_blank (depth : Nat) (rest : List Char) : value? depth (' ' :: rest) = value? depth rest :=
  value?_congr (show dropSpace (' ' :: rest) = dropSpace rest from rfl) depth

theorem items?_layout (depth count level : Nat) (rest : List Char) :
    items? (value? depth) count ('\n' :: indentation level ++ rest) = items? (value? depth) count rest := by
  cases count with
  | zero => rfl
  | succ count => rw [items?, items?, value?_congr (dropSpace_layout level rest)]

theorem fields?_layout (depth count level : Nat) (rest : List Char) (before : List (String × Json)) :
    fields? (value? depth) count ('\n' :: indentation level ++ rest) before =
      fields? (value? depth) count rest before := by
  cases count with
  | zero => rfl
  | succ count => rw [fields?, fields?, dropSpace_layout]

end Layout

section Arrays

theorem value?_of_bracket {input left : List Char} (closed : dropSpace input = ']' :: left) (depth : Nat) :
    value? depth input = none := by
  cases depth with
  | zero => rfl
  | succ depth =>
    rw [value?, closed]
    rfl

theorem value?_array {depth : Nat} {input left : List Char} {items : List Json}
    (read : items? (value? depth) (input.length + 1) input = some (items, left)) :
    value? (depth + 1) ('[' :: input) = some (.array items, left) := by
  rw [value?, dropSpace_cons rfl]
  simp only
  split
  · rename_i closed
    rw [items?, value?_of_bracket closed depth] at read
    cases read
  · rw [read]
    rfl

theorem length_le_length_prettyItems (level : Nat) (items : List Json) :
    items.length ≤ (prettyItems level items).length := by
  induction items with
  | nil => exact Nat.zero_le _
  | cons item items ih =>
    simp only [prettyItems, List.length_append, List.length_cons]
    omega

theorem items?_last {read : Reader Json} {input rest left : List Char} {item : Json}
    (first : read input = some (item, rest)) (closed : dropSpace rest = ']' :: left) (count : Nat) :
    items? read (count + 1) input = some ([item], left) := by
  rw [items?, first]
  simp only [Option.bind_eq_bind, Option.bind_some, closed]
  rfl

theorem items?_next {read : Reader Json} {input rest left : List Char} {item : Json} {others : List Json}
    {count : Nat} (first : read input = some (item, ',' :: rest))
    (later : items? read count rest = some (others, left)) :
    items? read (count + 1) input = some (item :: others, left) := by
  have comma := dropSpace_cons (c := ',') rfl rest
  rw [items?, first]
  simp only [Option.bind_eq_bind, Option.bind_some, comma, later]
  rfl

theorem items?_pretty {level depth : Nat} {rest left : List Char} (atBreak : AtBreak rest)
    (closed : dropSpace rest = ']' :: left) {item : Json} {items : List Json}
    (reads : ∀ each ∈ item :: items, Reads each)
    (deep : (prettyAt level item).length + (prettyItems level items).length ≤ depth) {count : Nat}
    (many : items.length ≤ count) :
    items? (value? (depth + 1)) (count + 1) (prettyAt level item ++ (prettyItems level items ++ rest)) =
      some (item :: items, left) := by
  have first := reads item List.mem_cons_self
  induction items generalizing item count with
  | nil => exact items?_last (first level depth rest (Nat.le_of_add_right_le deep) atBreak) closed count
  | cons next items ih =>
    have written : prettyItems level (next :: items) ++ rest =
        ',' :: ('\n' :: indentation level ++ (prettyAt level next ++ (prettyItems level items ++ rest))) := by
      simp [prettyItems]
    simp only [prettyItems, List.length_append, List.length_cons] at deep many
    obtain ⟨count, rfl⟩ := Nat.exists_eq_succ_of_ne_zero (show count ≠ 0 by omega)
    have later : ∀ each ∈ next :: items, Reads each := fun each member =>
      reads each (List.mem_cons_of_mem _ member)
    have others := ih later (by omega) (Nat.le_of_succ_le_succ many) (later next List.mem_cons_self)
    rw [← items?_layout _ _ level] at others
    rw [written]
    exact items?_next (first level depth _ (by omega) (.comma _)) others

theorem reads_array {items : List Json} (each : ∀ item ∈ items, Reads item) : Reads (.array items) := by
  intro level depth rest deep atBreak
  cases items with
  | nil => rfl
  | cons item items =>
    let tail := '\n' :: indentation level ++ ']' :: rest
    have written : prettyAt level (.array (item :: items)) ++ rest = '[' :: ('\n' :: indentation (level + 1) ++
        (prettyAt (level + 1) item ++ (prettyItems (level + 1) items ++ tail))) := by
      simp [prettyAt, tail]
    have few := length_le_length_prettyItems (level + 1) items
    rw [prettyAt] at deep
    simp only [List.length_append, List.length_cons] at deep
    obtain ⟨depth, rfl⟩ := Nat.exists_eq_succ_of_ne_zero (show depth ≠ 0 by omega)
    rw [written]
    apply value?_array
    rw [items?_layout]
    refine items?_pretty (.newline _) (dropSpace_layout level (']' :: rest)) each ?_ ?_
    · omega
    · simp only [List.length_append]
      omega

end Arrays

section Objects

theorem setField_fresh {fields : List (String × Json)} {name : String} (fresh : name ∉ fields.map (·.1))
    (value : Json) : setField fields name value = fields ++ [(name, value)] := by
  rw [setField, if_neg]
  rwa [List.contains_iff_mem]

theorem quote_append (text : String) (rest : List Char) :
    quote text ++ rest = '"' :: (text.toList.flatMap escapeChar ++ '"' :: rest) := by
  simp [quote]

theorem value?_object {depth : Nat} {input left : List Char} {fields : List (String × Json)}
    (read : fields? (value? depth) (input.length + 1) input [] = some (fields, left)) :
    value? (depth + 1) ('\x7b' :: input) = some (.object fields, left) := by
  rw [value?, dropSpace_cons rfl]
  simp only
  split
  · rename_i closed
    rw [fields?, closed] at read
    cases read
  · rw [read]
    rfl

theorem length_le_length_prettyFields (level : Nat) (fields : List (String × Json)) :
    fields.length ≤ (prettyFields level fields).length := by
  induction fields with
  | nil => exact Nat.zero_le _
  | cons field fields ih =>
    simp only [prettyFields, List.length_append, List.length_cons]
    omega

theorem fields?_last {read : Reader Json} {name : String} {value : Json} {input rest left : List Char}
    (first : read (' ' :: input) = some (value, rest)) (closed : dropSpace rest = '\x7d' :: left)
    {before : List (String × Json)} (fresh : name ∉ before.map (·.1)) (count : Nat) :
    fields? read (count + 1) (quote name ++ ':' :: ' ' :: input) before =
      some (before ++ [(name, value)], left) := by
  have colon := dropSpace_cons (c := ':') rfl
  rw [fields?, quote_append, dropSpace_cons rfl]
  simp only [text?_escape, Option.bind_eq_bind, Option.bind_some, colon, first, closed,
    String.ofList_toList, setField_fresh fresh]
  rfl

theorem fields?_next {read : Reader Json} {name : String} {value : Json} {input rest : List Char}
    (first : read (' ' :: input) = some (value, ',' :: rest)) {before : List (String × Json)}
    (fresh : name ∉ before.map (·.1)) (count : Nat) :
    fields? read (count + 1) (quote name ++ ':' :: ' ' :: input) before =
      fields? read count rest (before ++ [(name, value)]) := by
  have colon := dropSpace_cons (c := ':') rfl
  have comma := dropSpace_cons (c := ',') rfl rest
  rw [fields?, quote_append, dropSpace_cons rfl]
  simp only [text?_escape, Option.bind_eq_bind, Option.bind_some, colon, first, comma,
    String.ofList_toList, setField_fresh fresh]

theorem fresh_of_nodup {before fields : List (String × Json)} {name : String} {value : Json}
    (distinct : ((before ++ (name, value) :: fields).map (·.1)).Nodup) : name ∉ before.map (·.1) := by
  rw [List.map_append, List.map_cons] at distinct
  exact fun earlier => (List.nodup_append.mp distinct).2.2 name earlier name List.mem_cons_self rfl

theorem fields?_pretty {level depth : Nat} {rest left : List Char} (atBreak : AtBreak rest)
    (closed : dropSpace rest = '\x7d' :: left) {name : String} {value : Json} {fields : List (String × Json)}
    (reads : ∀ field ∈ (name, value) :: fields, Reads field.2) {before : List (String × Json)}
    (distinct : ((before ++ (name, value) :: fields).map (·.1)).Nodup)
    (deep : (prettyAt level value).length + (prettyFields level fields).length ≤ depth) {count : Nat}
    (many : fields.length ≤ count) :
    fields? (value? (depth + 1)) (count + 1)
        (quote name ++ ':' :: ' ' :: (prettyAt level value ++ (prettyFields level fields ++ rest))) before =
      some (before ++ (name, value) :: fields, left) := by
  have first : Reads value := reads (name, value) List.mem_cons_self
  have fresh := fresh_of_nodup distinct
  induction fields generalizing name value before count with
  | nil =>
    have read := first level depth rest (Nat.le_of_add_right_le deep) atBreak
    rw [← value?_blank] at read
    exact fields?_last read closed fresh count
  | cons next fields ih =>
    obtain ⟨nextName, nextValue⟩ := next
    have written : prettyFields level ((nextName, nextValue) :: fields) ++ rest =
        ',' :: ('\n' :: indentation level ++ (quote nextName ++ ':' :: ' ' ::
          (prettyAt level nextValue ++ (prettyFields level fields ++ rest)))) := by
      simp [prettyFields]
    simp only [prettyFields, List.length_append, List.length_cons] at deep many
    obtain ⟨count, rfl⟩ := Nat.exists_eq_succ_of_ne_zero (show count ≠ 0 by omega)
    have read := first level depth _ (by omega) (.comma ('\n' :: indentation level ++ (quote nextName ++
      ':' :: ' ' :: (prettyAt level nextValue ++ (prettyFields level fields ++ rest)))))
    rw [← value?_blank] at read
    have moved : before ++ (name, value) :: (nextName, nextValue) :: fields =
        (before ++ [(name, value)]) ++ (nextName, nextValue) :: fields := by simp
    have later : ∀ field ∈ (nextName, nextValue) :: fields, Reads field.2 := fun field member =>
      reads field (List.mem_cons_of_mem _ member)
    rw [moved] at distinct ⊢
    rw [written, fields?_next read fresh, fields?_layout]
    exact ih later distinct (by omega) (Nat.le_of_succ_le_succ many) (later _ List.mem_cons_self)
      (fresh_of_nodup distinct)

theorem reads_object {fields : List (String × Json)} (each : ∀ field ∈ fields, Reads field.2)
    (distinct : (fields.map (·.1)).Nodup) : Reads (.object fields) := by
  intro level depth rest deep atBreak
  match fields with
  | [] => rfl
  | (name, value) :: fields =>
    let tail := '\n' :: indentation level ++ '\x7d' :: rest
    have written : prettyAt level (.object ((name, value) :: fields)) ++ rest =
        '\x7b' :: ('\n' :: indentation (level + 1) ++ (quote name ++ ':' :: ' ' ::
          (prettyAt (level + 1) value ++ (prettyFields (level + 1) fields ++ tail)))) := by
      simp [prettyAt, tail]
    have few := length_le_length_prettyFields (level + 1) fields
    rw [prettyAt] at deep
    simp only [List.length_append, List.length_cons] at deep
    obtain ⟨depth, rfl⟩ := Nat.exists_eq_succ_of_ne_zero (show depth ≠ 0 by omega)
    rw [written]
    apply value?_object
    rw [fields?_layout]
    refine fields?_pretty (.newline _) (dropSpace_layout level ('\x7d' :: rest)) each distinct ?_ ?_
    · omega
    · simp only [List.length_append, List.length_cons]
      omega

end Objects

section Scalars

theorem value?_of_isDigit {c : Char} (isDigit : c.isDigit = true) (depth : Nat) (rest : List Char) :
    value? (depth + 1) (c :: rest) = magnitude? false (c :: rest) := by
  have other {d : Char} (letter : d.isDigit = false) : c ≠ d := by
    rintro rfl
    rw [isDigit] at letter
    cases letter
  have shown : (c == ' ' || c == '\t' || c == '\n' || c == '\r') = false := by
    have blank : c ≠ ' ' := other rfl
    have tab : c ≠ '\t' := other rfl
    have newline : c ≠ '\n' := other rfl
    have back : c ≠ '\r' := other rfl
    simp [blank, tab, newline, back]
  rw [value?, dropSpace_cons shown]
  split
  -- Every other kind of value starts with something that is no digit.
  iterate 7
    · rename_i same
      cases same
      cases isDigit
  · rfl

theorem reads_integer (value : Int) : Reads (.integer value) := by
  intro level depth rest deep atBreak
  rw [prettyAt, renderInt]
  by_cases negative : value < 0
  · have same : -(value.natAbs : Int) = value := by omega
    have read := magnitude?_digits true value.natAbs atBreak
    rw [if_pos rfl, same] at read
    rw [if_pos negative]
    exact read
  · have same : (value.natAbs : Int) = value := by omega
    have read := magnitude?_digits false value.natAbs atBreak
    rw [if_neg Bool.false_ne_true, same] at read
    obtain ⟨first, more, written⟩ := List.exists_cons_of_ne_nil (Decimal.digits_ne_nil value.natAbs)
    have isDigit : first.isDigit = true := by
      apply Decimal.isDigit_of_mem_digits
      rw [written]
      exact List.mem_cons_self
    rw [written, List.cons_append] at read
    rw [if_neg negative, written, List.cons_append, value?_of_isDigit isDigit, read]

theorem reads_text (value : String) : Reads (.text value) := by
  intro level depth rest deep atBreak
  rw [prettyAt, quote_append, value?, dropSpace_cons rfl]
  simp only [text?_escape, Option.map_some, String.ofList_toList]

end Scalars

theorem Plain.reads {json : Json} (plain : Plain json) : Reads json := by
  induction plain with
  | null =>
    intro level depth rest deep atBreak
    rfl
  | boolean value =>
    intro level depth rest deep atBreak
    cases value with
    | false => rfl
    | true => rfl
  | integer value => exact reads_integer value
  | text value => exact reads_text value
  | array each ih => exact reads_array ih
  | object each distinct ih => exact reads_object ih distinct

theorem Plain.parse?_pretty_append {json : Json} (plain : Plain json) (blanks : String)
    (atBreak : AtBreak blanks.toList) (blank : dropSpace blanks.toList = []) :
    parse? (json.pretty ++ blanks) = some json := by
  have written : (json.pretty ++ blanks).toList = prettyAt 0 json ++ blanks.toList := by
    simp [pretty]
  have deep : (prettyAt 0 json).length ≤ (prettyAt 0 json ++ blanks.toList).length := by
    rw [List.length_append]
    omega
  have read := plain.reads 0 _ blanks.toList deep atBreak
  rw [parse?, written, read]
  simp only [blank, if_true]

theorem Plain.parse?_pretty {json : Json} (plain : Plain json) : parse? json.pretty = some json := by
  have read := plain.parse?_pretty_append "" .nil rfl
  rwa [String.append_empty] at read

theorem Plain.parse?_pretty_newline {json : Json} (plain : Plain json) :
    parse? (json.pretty ++ "\n") = some json :=
  plain.parse?_pretty_append "\n" (.newline []) rfl

end FrontEnd.Json
