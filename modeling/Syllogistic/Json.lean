/-!
# JSON text

A tree of texts, truth values, lists and records, and its layout over lines: two
spaces for each level, and an empty list or record on one line.
-/

namespace Syllogistic

/-- A JSON value without numbers and nulls. -/
inductive Json
  | text (value : String)
  | truth (value : Bool)
  | list (items : List Json)
  | record (fields : List (String × Json))

namespace Json

/-- The digits of a code point below 256 in base sixteen, four of them. -/
private def fourDigits (n : Nat) : List Char :=
  ['0', '0', Nat.digitChar (n / 16), Nat.digitChar (n % 16)]

/-- A character inside a JSON string; what lies beyond ASCII stands as it is. -/
def escaped (c : Char) : List Char :=
  if c = '"' then ['\\', '"']
  else if c = '\\' then ['\\', '\\']
  else if c = '\x08' then ['\\', 'b']
  else if c = '\x0c' then ['\\', 'f']
  else if c = '\n' then ['\\', 'n']
  else if c = '\r' then ['\\', 'r']
  else if c = '\t' then ['\\', 't']
  else if c.toNat < 0x20 then '\\' :: 'u' :: fourDigits c.toNat
  else [c]

/-- A JSON string. -/
def quoted (value : String) : String :=
  String.ofList ('"' :: value.toList.flatMap escaped ++ ['"'])

/-- A line end and the blanks before the next item of a level. -/
private def newLine (depth : Nat) : String :=
  "\n" ++ String.ofList (List.replicate (2 * depth) ' ')

mutual

/-- The text of a value that stands at a depth. -/
def pretty (depth : Nat) : Json → String
  | .text value => quoted value
  | .truth value => if value then "true" else "false"
  | .list items =>
      if items.isEmpty then "[]"
      else "[" ++ prettyItems (depth + 1) items ++ newLine depth ++ "]"
  | .record fields =>
      if fields.isEmpty then "\x7b\x7d"
      else "\x7b" ++ prettyFields (depth + 1) fields ++ newLine depth ++ "\x7d"

/-- The texts of items, each on a line of its own. -/
def prettyItems (depth : Nat) : List Json → String
  | [] => ""
  | [last] => newLine depth ++ pretty depth last
  | item :: rest => newLine depth ++ pretty depth item ++ "," ++ prettyItems depth rest

/-- The texts of fields, each on a line of its own. -/
def prettyFields (depth : Nat) : List (String × Json) → String
  | [] => ""
  | [(name, last)] => newLine depth ++ quoted name ++ ": " ++ pretty depth last
  | (name, item) :: rest =>
      newLine depth ++ quoted name ++ ": " ++ pretty depth item ++ "," ++
        prettyFields depth rest

end

/-- The text of a value. -/
def render (value : Json) : String :=
  value.pretty 0

end Json
end Syllogistic
