import LanWatch.Text.Digits
import LanWatch.Text.Unprintable

namespace LanWatch.Text

/-!
# Quoted text

File names in messages stand between double quotes, with everything escaped that could be taken
for something else: double quotes, backslashes, and characters without a visible form.

* `quotedChar` — how one character is spelled;
* `quoted` — a text between double quotes.
-/

/-- How one character is spelled inside a quoted text. -/
def quotedChar (c : Char) : String :=
  if c.toNat = 0 then "\\0"
  else if c = '\t' then "\\t"
  else if c = '\n' then "\\n"
  else if c = '\r' then "\\r"
  else if c = '"' then "\\\""
  else if c = '\\' then "\\\\"
  else if isUnprintable c then "\\u\x7b" ++ hexPlain c.toNat ++ "\x7d"
  else String.singleton c

/-- A text between double quotes. -/
def quoted (text : String) : String :=
  "\"" ++ String.join (text.toList.map quotedChar) ++ "\""

end LanWatch.Text
