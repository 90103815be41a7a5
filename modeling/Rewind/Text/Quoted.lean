/-
# Rewind.Text.Quoted -- a text between double quotes

A warning that repeats what it was given shows the text in quotes.  Tab, carriage
return, line feed, NUL, the quote and the backslash have two-character forms; every
other character that would not show by itself is `\u` and its code point in braces.
-/
import Rewind.Text.Numeral
import Rewind.Text.Printable

namespace Rewind.Text

set_option autoImplicit false

/-- One character as it stands between quotes. -/
def quotedChar (c : Char) : String :=
  match c with
  | '\t' => "\\t"
  | '\r' => "\\r"
  | '\n' => "\\n"
  | '\x00' => "\\0"
  | '"' => "\\\""
  | '\\' => "\\\\"
  | c =>
      if isPrintable c && !isExtending c then String.singleton c
      else "\\u\x7b" ++ hexDigits c.toNat ++ "\x7d"

def quoted (text : String) : String :=
  "\"" ++ String.join (text.toList.map quotedChar) ++ "\""

end Rewind.Text
