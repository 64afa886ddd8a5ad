import SetupBatch.Text.Unprintable
/-!
This module contains the quoted form of a text: double quotes around it, a backslash before the
characters that would end it or break the line, and the code point of those that cannot be seen.
-/

namespace SetupBatch.Text

def escapeChar (c : Char) : String :=
  match c with
  | '\x00' => "\\0"
  | '\t' => "\\t"
  | '\r' => "\\r"
  | '\n' => "\\n"
  | '\x22' => "\\\""
  | '\x5c' => "\\\\"
  | c =>
    if isUnprintable c then
      "\\u\x7b" ++ String.ofList (Nat.toDigits 16 c.toNat) ++ "\x7d"
    else
      c.toString

def quoted (s : String) : String := "\"" ++ String.join (s.toList.map escapeChar) ++ "\""

end SetupBatch.Text
