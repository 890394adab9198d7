import TypeGrading.Unicode.Property

/-!
# Quoted text

Texts shown between double quotes. What cannot be seen is escaped, and so is what would join the
character in front of it.

* `isShown`: the characters that stand for themselves;
* `quote`: a text between quotes.
-/

namespace TypeGrading.Text

open Unicode (isIn isGraphemeExtend)

/-- The character has a shape of its own. The space has one; other separators have none. -/
def isShown (c : Char) : Bool :=
  c == ' ' || !(isGraphemeExtend c ||
    isIn [.control, .format, .privateUse, .unassigned, .spaceSeparator, .lineSeparator,
      .paragraphSeparator] c)

/-- A character between quotes. -/
def quoteChar (c : Char) : List Char :=
  if c = '"' then ['\\', '"']
  else if c = '\\' then ['\\', '\\']
  else if c = '\n' then ['\\', 'n']
  else if c = '\r' then ['\\', 'r']
  else if c = '\t' then ['\\', 't']
  else if c = '\x00' then ['\\', '0']
  else if isShown c then [c]
  else ['\\', 'u', '\x7b'] ++ hex c.toNat ++ ['\x7d']

/-- A text between quotes. -/
def quote (s : String) : String :=
  "\"" ++ String.ofList (s.toList.flatMap quoteChar) ++ "\""

end TypeGrading.Text
