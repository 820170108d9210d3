namespace FrontEnd

abbrev Bytes := List UInt8

namespace Bytes

def ofText (text : String) : Bytes :=
  text.toByteArray.data.toList

def text? (bytes : Bytes) : Option String :=
  String.fromUTF8? ⟨bytes.toArray⟩

@[simp] theorem text?_ofText (text : String) : text? (ofText text) = some text := by
  simp [text?, ofText, String.fromUTF8?, text.isValidUTF8, String.fromUTF8]

theorem ofText_of_text? {bytes : Bytes} {text : String} (read : text? bytes = some text) :
    ofText text = bytes := by
  unfold text? String.fromUTF8? at read
  split at read
  · simp only [Option.some.injEq] at read
    subst read
    simp [ofText, String.fromUTF8]
  · simp at read

theorem ofText_injective {first second : String} (same : ofText first = ofText second) :
    first = second := by
  have read := congrArg text? same
  simpa using read

structure Unfinished where
  owed : Nat
  low : UInt8
  high : UInt8
  bits : Nat

inductive Lead where
  | character (c : Char)
  | unfinished (state : Unfinished)
  | illFormed

/-- The shape of a character is fixed by its first byte. Overlong forms, surrogates and values
above U+10FFFF are shut out by the range of the second byte. -/
def lead (byte : UInt8) : Lead :=
  if byte < 0x80 then .character (Char.ofNat byte.toNat)
  else if byte < 0xC2 then .illFormed
  else if byte < 0xE0 then .unfinished ⟨1, 0x80, 0xBF, byte.toNat - 0xC0⟩
  else if byte = 0xE0 then .unfinished ⟨2, 0xA0, 0xBF, 0⟩
  else if byte = 0xED then .unfinished ⟨2, 0x80, 0x9F, 0xD⟩
  else if byte < 0xF0 then .unfinished ⟨2, 0x80, 0xBF, byte.toNat - 0xE0⟩
  else if byte = 0xF0 then .unfinished ⟨3, 0x90, 0xBF, 0⟩
  else if byte < 0xF4 then .unfinished ⟨3, 0x80, 0xBF, byte.toNat - 0xF0⟩
  else if byte = 0xF4 then .unfinished ⟨3, 0x80, 0x8F, 4⟩
  else .illFormed

def replacement : Char := '\ufffd'

/-- The characters of a byte sequence from a state on. A character that breaks off shows as one
replacement character, and the byte that broke it is read afresh. -/
def lossyFrom : Option Unfinished → Bytes → List Char
  | none, [] => []
  | some _, [] => [replacement]
  | none, byte :: rest =>
    match lead byte with
    | .character c => c :: lossyFrom none rest
    | .unfinished state => lossyFrom (some state) rest
    | .illFormed => replacement :: lossyFrom none rest
  | some state, byte :: rest =>
    if state.low ≤ byte ∧ byte ≤ state.high then
      let bits := state.bits * 64 + (byte.toNat - 0x80)
      if state.owed ≤ 1 then Char.ofNat bits :: lossyFrom none rest
      else lossyFrom (some ⟨state.owed - 1, 0x80, 0xBF, bits⟩) rest
    else
      match lead byte with
      | .character c => replacement :: c :: lossyFrom none rest
      | .unfinished next => replacement :: lossyFrom (some next) rest
      | .illFormed => replacement :: replacement :: lossyFrom none rest

def lossy (bytes : Bytes) : String :=
  String.ofList (lossyFrom none bytes)

end Bytes

end FrontEnd
