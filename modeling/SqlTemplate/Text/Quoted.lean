import SqlTemplate.Unicode.Class
import SqlTemplate.Unicode.InvisibleTable

/-!
Texts in messages: between double quotes, with escapes for quotes, backslashes and everything that
would not be seen.
-/
namespace SqlTemplate.Text

def isInvisible (c : Char) : Bool :=
  if c.toNat < 127 then c.toNat < 32 else Unicode.inRanges Unicode.invisibleRanges c.toNat

def escapeQuoted (c : Char) : String :=
  if c = '\x22' then "\\\""
  else if c = '\x5c' then "\\\\"
  else if c = '\n' then "\\n"
  else if c = '\r' then "\\r"
  else if c = '\t' then "\\t"
  else if c.toNat = 0 then "\\0"
  else if isInvisible c then
    "\\u\x7b" ++ String.ofList (Nat.toDigits 16 c.toNat) ++ "\x7d"
  else c.toString

def quoted (t : Text) : String := "\"" ++ String.join (t.map escapeQuoted) ++ "\""

end SqlTemplate.Text
