namespace FrontEnd

inductive Style where
  | failure
  | invalid
  | literal
deriving DecidableEq, Repr

def Style.opening : Style → String
  | failure => "\x1b[1m\x1b[31m"
  | invalid => "\x1b[33m"
  | literal => "\x1b[1m"

def Style.apply (style : Style) (text : String) : String :=
  style.opening ++ text ++ "\x1b[0m"

namespace Control

inductive State where
  | ground
  | escape
  /-- In an escape sequence that is past its first character. -/
  | intermediate
  | sequence
  | device
  | string
  /-- In an operating system command, which a bell ends too. -/
  | command
deriving DecidableEq, Repr

def isBreak (c : Char) : Bool :=
  c == '\t' || c == '\n' || c == '\x0c' || c == '\r'

def isPrintable (c : Char) : Bool :=
  ' ' ≤ c && c ≠ '\x7f'

/-- Whether the encoding of a character has the byte that terminates a string. -/
def hasTerminator (c : Char) : Bool :=
  '\x80' ≤ c && (String.utf8EncodeChar c).contains 0x9C

/-- Whether a character that comes in a state is part of the text. White space is, even in the
middle of a sequence, but not in a string. -/
def State.shows (state : State) (c : Char) : Bool :=
  match state with
  | ground => isPrintable c || isBreak c
  | escape | intermediate | sequence => isBreak c
  | device | string | command => false

def State.next (state : State) (c : Char) : State :=
  if c == '\x18' || c == '\x1a' then ground
  else if c == '\x1b' then escape
  else
    match state with
    | ground => ground
    | escape =>
      if c == '[' then sequence
      else if c == ']' then command
      else if c == 'P' then device
      else if c == 'X' || c == '^' || c == '_' then string
      else if ' ' ≤ c && c ≤ '/' then intermediate
      else if '0' ≤ c && c ≤ '~' then ground
      else escape
    | intermediate => if '0' ≤ c && c ≤ '~' then ground else intermediate
    | sequence => if '@' ≤ c && c ≤ '~' then ground else sequence
    | device => if '@' ≤ c && c ≤ '~' then string else device
    | string => if hasTerminator c then ground else string
    | command => if c == '\x07' then ground else command

/-- What is left of a text from a state on. Once a character has been shown, so is what follows it
up to the next control character, as if no sequence were open; then an open one goes on. -/
def stripFrom (state : State) (shown : Bool) : List Char → List Char
  | [] => []
  | c :: rest =>
    if (if shown then State.ground else state).shows c then
      c :: stripFrom (if c < '\x80' then state else .ground) true rest
    else stripFrom (state.next c) false rest

def strip (text : String) : String :=
  String.ofList (stripFrom .ground false text.toList)

theorem shows_ground {state : State} {c : Char} (shown : state.shows c) : State.ground.shows c := by
  cases state <;> simp_all [State.shows]

theorem shows_of_mem_stripFrom {text : List Char} {state : State} {shown : Bool} {c : Char}
    (left : c ∈ stripFrom state shown text) : State.ground.shows c := by
  induction text generalizing state shown with
  | nil => simp [stripFrom] at left
  | cons first rest ih =>
    by_cases kept : (if shown then State.ground else state).shows first
    · rw [stripFrom, if_pos kept] at left
      rcases List.mem_cons.1 left with rfl | later
      · exact shows_ground kept
      · exact ih later
    · rw [stripFrom, if_neg kept] at left
      exact ih left

theorem shows_of_mem_strip {text : String} {c : Char} (left : c ∈ (strip text).toList) :
    isPrintable c ∨ isBreak c := by
  have shown := shows_of_mem_stripFrom (by simpa [strip] using left)
  simpa [State.shows] using shown

theorem stripFrom_eq_self {text : List Char} (plain : ∀ c ∈ text, State.ground.shows c) (shown : Bool) :
    stripFrom .ground shown text = text := by
  induction text generalizing shown with
  | nil => rfl
  | cons first rest ih =>
    have kept := plain first List.mem_cons_self
    have later := ih fun c member => plain c (List.mem_cons_of_mem _ member)
    simp [stripFrom, kept, later]

theorem strip_eq_self {text : String} (plain : ∀ c ∈ text.toList, State.ground.shows c) :
    strip text = text := by
  simp [strip, stripFrom_eq_self plain]

end Control

end FrontEnd
