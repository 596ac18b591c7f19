import TwoVenues.Json.Number
import TwoVenues.Json.Text

/-!
# Reading JSON text

A machine reads the text one character at a time (`Reader.step`), so reading is a fold over the
characters and nesting may be of any depth. The machine holds the lexeme that it is in the middle
of, what the grammar expects next, and a stack of the arrays and objects that are still open.
`Json.ofText?` is the value of a complete text, with nothing but blanks around it.
-/

namespace TwoVenues.Json.Reader

/-- The part of a string, word or number that has been read, last character first. -/
inductive Lexeme where
  /-- Between lexemes. -/
  | none
  /-- A number or one of the words `null`, `true` and `false`. -/
  | word (cs : List Char)
  /-- Inside a string. -/
  | text (pieces : List Piece)
  /-- Behind a backslash in a string. -/
  | escape (pieces : List Piece)
  /-- In the hexadecimal digits of a unit: those read so far and their value. -/
  | hex (pieces : List Piece) (digits value : Nat)

/-- An array or object that is still open; its contents are listed last first. A key is missing if
it is unreadable. -/
inductive Frame where
  | array (items : List Json)
  | object (members : List (Option String × Json))
  | member (members : List (Option String × Json)) (key : Option String)

/-- What the grammar expects next. -/
inductive Expect where
  | value
  | valueOrEnd
  | key
  | keyOrEnd
  | colon
  | commaOrEnd
  | finished (j : Json)

/-- The state of the machine. -/
structure State where
  lexeme : Lexeme
  expect : Expect
  stack : List Frame

def start : State := ⟨.none, .value, []⟩

/-- A value has been read: it is finished or belongs to the innermost open array or object. -/
def State.complete (s : State) (j : Json) : State :=
  match s.stack with
  | .array items :: rest => ⟨.none, .commaOrEnd, .array (j :: items) :: rest⟩
  | .member members key :: rest => ⟨.none, .commaOrEnd, .object ((key, j) :: members) :: rest⟩
  | stack => ⟨.none, .finished j, stack⟩

/-- A value that is not nested has been read. -/
def State.scalar? (s : State) (j : Json) : Option State :=
  match s.expect with
  | .value | .valueOrEnd => some (s.complete j)
  | _ => none

/-- A string has been read: a value or the key of a member. -/
def State.string? (s : State) (text : Option String) : Option State :=
  match s.expect, s.stack with
  | .key, .object members :: rest | .keyOrEnd, .object members :: rest =>
    some ⟨.none, .colon, .member members text :: rest⟩
  | _, _ => s.scalar? ((text.map Json.string).getD .unreadable)

/-- The object with the given members, last first; unreadable if one of its keys is. -/
def closeObject (members : List (Option String × Json)) : Json :=
  match members.reverse.mapM fun (key, j) => key.map (·, j) with
  | some fields => .object fields
  | none => .unreadable

def wordValue? (cs : List Char) : Option Json :=
  match String.ofList cs with
  | "null" => some .null
  | "true" => some (.bool true)
  | "false" => some (.bool false)
  | _ => Number.ofWord? cs

/-- A character between lexemes. -/
def State.between? (s : State) (c : Char) : Option State :=
  match c, s.expect, s.stack with
  | ' ', _, _ | '\t', _, _ | '\n', _, _ | '\r', _, _ => some s
  | '[', .value, stack | '[', .valueOrEnd, stack => some ⟨.none, .valueOrEnd, .array [] :: stack⟩
  | '\x7b', .value, stack | '\x7b', .valueOrEnd, stack =>
    some ⟨.none, .keyOrEnd, .object [] :: stack⟩
  | ']', .valueOrEnd, .array items :: stack | ']', .commaOrEnd, .array items :: stack =>
    some (State.complete ⟨.none, .value, stack⟩ (.array items.reverse))
  | '\x7d', .keyOrEnd, .object members :: stack | '\x7d', .commaOrEnd, .object members :: stack =>
    some (State.complete ⟨.none, .value, stack⟩ (closeObject members))
  | ',', .commaOrEnd, .array items :: stack => some ⟨.none, .value, .array items :: stack⟩
  | ',', .commaOrEnd, .object members :: stack => some ⟨.none, .key, .object members :: stack⟩
  | ':', .colon, stack => some ⟨.none, .value, stack⟩
  | '"', _, _ => some { s with lexeme := .text [] }
  | '[', _, _ | ']', _, _ | '\x7b', _, _ | '\x7d', _, _ | ',', _, _ | ':', _, _ => none
  | c, _, _ => some { s with lexeme := .word [c] }

def endsWord (c : Char) : Bool :=
  " \t\n\r[]\x7b\x7d,:\"".toList.contains c

/-- One character. -/
def step (s : State) (c : Char) : Option State :=
  match s.lexeme with
  | .none => s.between? c
  | .word cs =>
    if endsWord c then do
      let s ← s.scalar? (← wordValue? cs.reverse)
      s.between? c
    else some { s with lexeme := .word (c :: cs) }
  | .text pieces =>
    if c = '"' then s.string? ((Piece.assemble? pieces.reverse).map String.ofList)
    else if c = '\\' then some { s with lexeme := .escape pieces }
    else if c < ' ' then none
    else some { s with lexeme := .text (.char c :: pieces) }
  | .escape pieces =>
    if c = 'u' then some { s with lexeme := .hex pieces 0 0 }
    else (Piece.escape? c).map fun e => { s with lexeme := .text (.char e :: pieces) }
  | .hex pieces digits value =>
    (Piece.hexDigit? c).map fun d =>
      let value := 16 * value + d
      if digits = 3 then { s with lexeme := .text (.unit value :: pieces) }
      else { s with lexeme := .hex pieces (digits + 1) value }

/-- The value read, if the text may end here. -/
def State.result? (s : State) : Option Json :=
  match s.expect, s.lexeme with
  | .finished j, .none => some j
  | _, _ => none

end TwoVenues.Json.Reader

/-- The value of a JSON text. A blank at its end closes a word or number that stands there. -/
def TwoVenues.Json.ofText? (text : String) : Option TwoVenues.Json := do
  let s ← text.toList.foldlM Reader.step Reader.start
  let s ← Reader.step s ' '
  s.result?
