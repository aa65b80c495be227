import JobQueue.Url.Percent

/-! Forms as they stand in the query of an address: pairs of names and values between ampersands, with
bytes in hexadecimal after percent signs. -/

namespace JobQueue.Form

/-- The text that an encoded part stands for. A plus sign is a space. -/
def decode (cs : List Char) : String :=
  Percent.lenientText (Percent.decodeBytes (cs.map fun c => if c = '+' then ' ' else c))

/-- The pair in one part of a form. A part without an equals sign has an empty value. -/
def pair (part : List Char) : String × String :=
  (decode (part.takeWhile (· ≠ '=')), decode ((part.dropWhile (· ≠ '=')).drop 1))

/-- The pairs of a form. Empty parts are passed over. -/
def pairs (query : String) : List (String × String) :=
  ((query.toList.splitOn '&').filter fun part => !part.isEmpty).map pair

end JobQueue.Form
