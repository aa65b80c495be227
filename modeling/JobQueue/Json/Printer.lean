import JobQueue.Json.Quoted

/-! JSON text without blanks. -/

namespace JobQueue.Json

/-- Parts with commas between them. -/
def commaSeparated : List (List Char) → List Char
  | [] => []
  | [p] => p
  | p :: ps => p ++ ',' :: commaSeparated ps

/-- A member of an object: its name, a colon, and the text of its value. -/
def memberText (name : String) (value : List Char) : List Char :=
  quoted name ++ ':' :: value

/-- An object with the given members. -/
def objectText (members : List (List Char)) : List Char :=
  '{' :: commaSeparated members ++ ['}']

/-- An array of the given items. -/
def arrayText (items : List (List Char)) : List Char :=
  '[' :: commaSeparated items ++ [']']

mutual

/-- The text of a value. -/
def chars : Json → List Char
  | .null => ['n', 'u', 'l', 'l']
  | .bool true => ['t', 'r', 'u', 'e']
  | .bool false => ['f', 'a', 'l', 's', 'e']
  | .number n => n.text
  | .string s => quoted s
  | .array items => arrayText (itemChars items)
  | .object members => objectText (memberChars members)

def itemChars : List Json → List (List Char)
  | [] => []
  | item :: items => chars item :: itemChars items

def memberChars : List (String × Json) → List (List Char)
  | [] => []
  | (name, value) :: members => memberText name (chars value) :: memberChars members

end

/-- The text of a value. -/
def text (j : Json) : String :=
  String.ofList j.chars

end JobQueue.Json
