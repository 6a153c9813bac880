import TrapDispatch.Text.Combining
import TrapDispatch.Text.Hexadecimal
import TrapDispatch.Text.Nonprinting

/-!
# Quoted text

A text between double quotes, with the usual escapes. What would not show is written
by its code point: characters that print nothing, and marks that would attach to the
character before them.
-/

namespace TrapDispatch

def quoteChar (c : Char) : String :=
  if c = '"' then "\\\""
  else if c = '\\' then "\\\\"
  else if c = '\n' then "\\n"
  else if c = '\r' then "\\r"
  else if c = '\t' then "\\t"
  else if c.val = 0 then "\\0"
  else if nonprinting.contains c || combiningMarks.contains c then
    "\\u\x7b" ++ hexDigits c.toNat ++ "\x7d"
  else c.toString

def quoted (text : String) : String :=
  "\"" ++ String.join (text.toList.map quoteChar) ++ "\""

end TrapDispatch
