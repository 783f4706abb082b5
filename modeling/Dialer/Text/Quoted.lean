import Dialer.Text.Numeral
import Dialer.Text.Unprintable

/-!
# Quoted text

Messages quote text that may hold anything. Between the quotation marks stand printable characters
as they are, and everything else, quotation marks and backslashes included, as an escape.
-/

namespace Dialer.Text

/-- How a character stands in a quotation. -/
def quotedChar (c : Char) : String :=
  if c = '"' then "\\\""
  else if c = '\\' then "\\\\"
  else if c = '\t' then "\\t"
  else if c = '\n' then "\\n"
  else if c = '\r' then "\\r"
  else if c = '\x00' then "\\0"
  else if unprintable c then "\\u\x7b" ++ Numeral.write 16 c.toNat ++ "\x7d"
  else c.toString

/-- **A text in quotation marks.** -/
def quoted (text : String) : String :=
  "\"" ++ String.join (text.toList.map quotedChar) ++ "\""

end Dialer.Text
