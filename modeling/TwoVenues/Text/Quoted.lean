import TwoVenues.Text.Printable

/-!
# Quoted text

How messages show a text that may hold anything: in double quotes, with quotes, backslashes and the
common controls behind a backslash and every other character that does not show by itself as its
number in hexadecimal.
-/

namespace TwoVenues.Text

def quoteChar : Char → List Char
  | '"' => ['\\', '"']
  | '\\' => ['\\', '\\']
  | '\n' => ['\\', 'n']
  | '\r' => ['\\', 'r']
  | '\t' => ['\\', 't']
  | '\x00' => ['\\', '0']
  | c =>
    if isPrintable c then [c]
    else ['\\', 'u', '\x7b'] ++ Nat.toDigits 16 c.toNat ++ ['\x7d']

/-- The text in quotes. -/
def quoted (s : String) : String :=
  String.ofList ('"' :: s.toList.flatMap quoteChar ++ ['"'])

end TwoVenues.Text
