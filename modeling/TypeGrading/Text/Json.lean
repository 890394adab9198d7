import TypeGrading.Text.Hex

/-!
# JSON text

Documents as they are written out, on one line or indented.

* `Json`: the documents that are written;
* `escape`: a text between quotes;
* `Json.compact`: no blanks at all;
* `Json.pretty`: one item a line, two spaces a level, nothing between the brackets of an empty list.
-/

namespace TypeGrading.Text

/-- A character inside a JSON string: quote, backslash and the controls are escaped. -/
def escapeChar (c : Char) : List Char :=
  if c = '"' then ['\\', '"']
  else if c = '\\' then ['\\', '\\']
  else if c = '\n' then ['\\', 'n']
  else if c = '\r' then ['\\', 'r']
  else if c = '\t' then ['\\', 't']
  else if c.toNat = 0x08 then ['\\', 'b']
  else if c.toNat = 0x0C then ['\\', 'f']
  else if c.toNat < 0x10 then ['\\', 'u', '0', '0', '0'] ++ hex c.toNat
  else if c.toNat < 0x20 then ['\\', 'u', '0', '0'] ++ hex c.toNat
  else [c]

/-- A text as a JSON string. -/
def escape (s : String) : String :=
  "\"" ++ String.ofList (s.toList.flatMap escapeChar) ++ "\""

/-- A document to be written; the fields of an object keep their order. -/
inductive Json where
  | text (s : String)
  | number (n : Int)
  | list (items : List Json)
  | object (fields : List (String × Json))

namespace Json

theorem sizeOf_field_lt {f : String × Json} {fields : List (String × Json)} (h : f ∈ fields) :
    sizeOf f.2 < sizeOf (Json.object fields) := by
  have hf : sizeOf f < sizeOf fields := List.sizeOf_lt_of_mem h
  have h2 : sizeOf f.2 < sizeOf f := by
    cases f with
    | mk name value =>
      show sizeOf value < sizeOf (name, value)
      rw [Prod.mk.sizeOf_spec]
      omega
  have ho : sizeOf (Json.object fields) = 1 + sizeOf fields := by simp
  omega

/-- The document on one line. -/
def compact : Json → String
  | .text s => escape s
  | .number n => toString n
  | .list items => "[" ++ ",".intercalate (items.map compact) ++ "]"
  | .object fields =>
    "\x7b" ++ ",".intercalate (fields.map fun f => escape f.1 ++ ":" ++ compact f.2) ++ "\x7d"
decreasing_by
  · exact Nat.lt_trans (List.sizeOf_lt_of_mem ‹_›) (by simp)
  · exact sizeOf_field_lt ‹_›

/-- A new line at an indentation level. -/
def margin (level : Nat) : String := "\n" ++ String.ofList (List.replicate (2 * level) ' ')

/-- Lines between two brackets, indented one level more than the brackets. -/
def block (opening closing : String) (level : Nat) (items : List String) : String :=
  if items = [] then opening ++ closing
  else
    opening ++ ",".intercalate (items.map (margin (level + 1) ++ ·)) ++ margin level ++ closing

/-- The document with one item a line, at an indentation level. -/
def prettyAt (level : Nat) : Json → String
  | .text s => escape s
  | .number n => toString n
  | .list items => block "[" "]" level (items.map (prettyAt (level + 1)))
  | .object fields =>
    block "\x7b" "\x7d" level
      (fields.map fun f => escape f.1 ++ ": " ++ prettyAt (level + 1) f.2)
termination_by j => sizeOf j
decreasing_by
  · exact Nat.lt_trans (List.sizeOf_lt_of_mem ‹_›) (by simp)
  · exact sizeOf_field_lt ‹_›

/-- The document with one item a line. -/
def pretty (j : Json) : String := j.prettyAt 0

end Json

end TypeGrading.Text
