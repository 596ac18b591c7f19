/-!
# The contents of a JSON string

Between its quotes a JSON string is a row of pieces: characters that stand for themselves or
behind a backslash, and 16-bit units written in hexadecimal. `assemble?` joins surrogate pairs;
half a pair stands for no character, and such a string has no value.
-/

namespace TwoVenues.Json

/-- A piece of the contents of a string. -/
inductive Piece where
  | char (c : Char)
  | unit (u : Nat)

namespace Piece

/-- The character that a backslash and `c` stand for. -/
def escape? : Char → Option Char
  | '"' => some '"'
  | '\\' => some '\\'
  | '/' => some '/'
  | 'b' => some '\x08'
  | 'f' => some '\x0c'
  | 'n' => some '\n'
  | 'r' => some '\r'
  | 't' => some '\t'
  | _ => none

def hexDigit? (c : Char) : Option Nat :=
  if '0' ≤ c ∧ c ≤ '9' then some (c.toNat - '0'.toNat)
  else if 'a' ≤ c ∧ c ≤ 'f' then some (c.toNat - 'a'.toNat + 10)
  else if 'A' ≤ c ∧ c ≤ 'F' then some (c.toNat - 'A'.toNat + 10)
  else none

/-- Whether a unit is the first half of a surrogate pair. -/
def isHigh (u : Nat) : Bool := 0xD800 ≤ u && u < 0xDC00

/-- Whether a unit is the second half of a surrogate pair. -/
def isLow (u : Nat) : Bool := 0xDC00 ≤ u && u < 0xE000

/-- The characters that the pieces denote, if no half of a surrogate pair stands alone. -/
def assemble? : List Piece → Option (List Char)
  | [] => some []
  | .char c :: rest => (assemble? rest).map (c :: ·)
  | .unit u :: .unit v :: rest =>
    if isHigh u && isLow v then
      let c := Char.ofNat (0x10000 + (u - 0xD800) * 0x400 + (v - 0xDC00))
      (assemble? rest).map (c :: ·)
    else if isHigh u || isLow u then none
    else (assemble? (.unit v :: rest)).map (Char.ofNat u :: ·)
  | .unit u :: rest =>
    if isHigh u || isLow u then none else (assemble? rest).map (Char.ofNat u :: ·)

end Piece

end TwoVenues.Json
