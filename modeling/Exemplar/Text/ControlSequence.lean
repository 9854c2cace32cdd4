/-
Exemplar.Text.ControlSequence — texts without what only steers a terminal.

A control sequence starts with the escape character and ends where its grammar says, whatever it
asks the terminal to do. Outside sequences all characters are shown but the control characters that
are no white space. White space also shows inside a sequence, unless the sequence holds a string.

  §1 where a reader can be
  §2 leaving sequences out
-/

namespace Exemplar.ControlSequence

/-! ## §1 Where a reader can be -/

/-- Where in a control sequence a reader is. -/
inductive State where
  /-- In none. -/
  | ground
  /-- After the escape character. -/
  | escape
  | escapeIntermediate
  /-- After the escape character and `[`: parameters, then intermediates, then a final one. -/
  | control
  | controlParameter
  | controlIntermediate
  /-- A malformed control sequence, up to its final character. -/
  | controlMalformed
  /-- After the escape character and `P`: as in a control sequence, then a string. -/
  | device
  | deviceParameter
  | deviceIntermediate
  /-- A string that ends at the byte `9C`. -/
  | string
  /-- A string that ends at the bell. -/
  | command
  deriving DecidableEq, Repr

/-- Whether a character has the byte `9C` in its UTF-8 form. -/
def holdsTerminator (c : Char) : Bool :=
  (String.utf8EncodeChar c).contains 0x9C

/-- Where a reader is after one more character. -/
def State.next (state : State) (c : Char) : State :=
  let code := c.toNat
  if code = 0x18 || code = 0x1A then .ground
  else if code = 0x1B then .escape
  else if code < 0x20 then
    if state = .command && code = 0x07 then .ground else state
  else match state with
    | .ground => .ground
    | .escape =>
      if 0x7F ≤ code then .escape
      else if code < 0x30 then .escapeIntermediate
      else if c = '[' then .control
      else if c = ']' then .command
      else if c = 'P' then .device
      else if c = 'X' || c = '^' || c = '_' then .string
      else .ground
    | .escapeIntermediate => if code < 0x30 || 0x7F ≤ code then .escapeIntermediate else .ground
    | .control =>
      if 0x7F ≤ code then .control
      else if code < 0x30 then .controlIntermediate
      else if code < 0x40 then .controlParameter
      else .ground
    | .controlParameter =>
      if 0x7F ≤ code then .controlParameter
      else if code < 0x30 then .controlIntermediate
      else if code < 0x3C then .controlParameter
      else if code < 0x40 then .controlMalformed
      else .ground
    | .controlIntermediate =>
      if code < 0x30 || 0x7F ≤ code then .controlIntermediate
      else if code < 0x40 then .controlMalformed
      else .ground
    | .controlMalformed => if code < 0x40 || 0x7F ≤ code then .controlMalformed else .ground
    | .device =>
      if 0x7F ≤ code then .device
      else if code < 0x30 then .deviceIntermediate
      else if code < 0x40 then .deviceParameter
      else .string
    | .deviceParameter =>
      if 0x7F ≤ code then .deviceParameter
      else if code < 0x30 then .deviceIntermediate
      else if code < 0x3C then .deviceParameter
      else .string
    | .deviceIntermediate => if code < 0x30 || 0x7F ≤ code then .deviceIntermediate else .string
    | .string => if holdsTerminator c then .ground else .string
    | .command => .command

/-- Whether white space shows where a reader is. -/
def State.showsSpace : State → Bool
  | .device | .deviceParameter | .deviceIntermediate | .string | .command => false
  | _ => true

/-- Whether a character shows where a reader is. -/
def State.shows (state : State) (c : Char) : Bool :=
  if c = '\t' || c = '\n' || c = '\x0c' || c = '\r' then state.showsSpace
  else state = .ground && 0x20 ≤ c.toNat && c ≠ '\x7f'

/-! ## §2 Leaving sequences out -/

/-- The characters of a text that show, for a reader in `state`. White space inside a sequence ends
it. -/
def shownFrom (state : State) : List Char → List Char
  | [] => []
  | c :: cs =>
    if state.shows c then c :: shownFrom .ground cs
    else shownFrom (state.next c) cs

/-- A text as it shows by itself. -/
def shown (text : String) : String :=
  String.ofList (shownFrom .ground text.toList)

/-- The characters that show on a stream, for a reader in `state`. White space inside a sequence
interrupts it: from there on all shows that would outside sequences, up to the next character that
would not. The sequence goes on there, unless a character beyond ASCII has come in between. -/
def streamedFrom (state : State) (interrupted : Bool) : List Char → List Char
  | [] => []
  | c :: cs =>
    if (if interrupted then State.ground else state).shows c then
      c :: streamedFrom (if c.toNat < 0x80 then state else .ground) true cs
    else streamedFrom (state.next c) false cs

/-- A text as it shows when written to a stream. -/
def streamed (text : String) : String :=
  String.ofList (streamedFrom .ground false text.toList)

end Exemplar.ControlSequence
