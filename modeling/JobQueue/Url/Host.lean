import JobQueue.Url.Basic
import JobQueue.Url.HostName
import JobQueue.Url.Percent

/-! Hosts of addresses: names, numbers in four parts, and pieces of 16 bits in brackets. -/

namespace JobQueue.UrlHost

/-! ### Numbers in four parts -/

/-- The digits after the sign of their base, and the base. -/
def numberBase : List Char → List Char × Nat
  | '0' :: 'x' :: ds => (ds, 16)
  | '0' :: 'X' :: ds => (ds, 16)
  | '0' :: d :: ds => (d :: ds, 8)
  | ds => (ds, 10)

/-- A number in decimal digits, or in octal or hexadecimal ones after a sign of that. -/
def readNumber? : List Char → Option Nat
  | [] => none
  | cs =>
    let (ds, base) := numberBase cs
    (ds.mapM fun d => (Text.hexValue? d).filter (· < base)).map
      fun values => values.foldl (fun n v => base * n + v) 0

/-- The parts of a name between dots, without an empty one at its end. -/
def parts (name : List Char) : List (List Char) :=
  let parts := name.splitOn '.'
  if parts.length ≠ 1 && parts.getLast? = some [] then parts.dropLast else parts

/-- Whether a name is to be read as a number. -/
def endsInNumber (name : List Char) : Bool :=
  match (parts name).getLast? with
  | none => false
  | some part => (!part.isEmpty && part.all Text.isDigit) || (readNumber? part).isSome

/-- The number that up to four parts stand for: all but the last are bytes, and the last one fills the
rest. -/
def readIpv4 (name : List Char) : Except UrlFault UrlHost :=
  match (parts name).mapM readNumber? with
  | none => .error .badIpv4
  | some numbers =>
    let bytes := numbers.dropLast
    let last := numbers.getLast?.getD 0
    if numbers.length ≤ 4 && bytes.all (· < 256) && last < Nat.pow 256 (4 - bytes.length) then
      .ok (.ipv4 (bytes.foldl (fun n b => 256 * n + b) 0 * Nat.pow 256 (4 - bytes.length) + last))
    else .error .badIpv4

/-! ### Pieces of 16 bits -/

/-- A byte in decimal digits without zeros in front. -/
def readByte? (cs : List Char) : Option Nat :=
  match cs with
  | ['0'] => some 0
  | '0' :: _ => none
  | _ => ((Text.readUnsigned 255 (String.ofList cs)).toOption).filter fun _ => cs.all Text.isDigit

/-- The two pieces that four bytes stand for. -/
def readBytes? (cs : List Char) : Option (List Nat) :=
  match (cs.splitOn '.').mapM readByte? with
  | some [a, b, c, d] => some [256 * a + b, 256 * c + d]
  | _ => none

/-- A piece of one to four hexadecimal digits. -/
def readPiece? (cs : List Char) : Option Nat :=
  if cs.isEmpty || 4 < cs.length then none
  else (cs.mapM Text.hexValue?).map fun values => values.foldl (fun n v => 16 * n + v) 0

/-- Pieces between colons. Four bytes may stand in place of the last two if `final` is set. -/
def readPieces? (final : Bool) : List (List Char) → Option (List Nat)
  | [] => some []
  | [part] => if final && part.contains '.' then readBytes? part else (readPiece? part).map ([·])
  | part :: parts => do
    let piece ← readPiece? part
    let pieces ← readPieces? final parts
    some (piece :: pieces)

/-- The texts around the first two colons in a row. -/
def splitDoubleColon : List Char → Option (List Char × List Char)
  | ':' :: ':' :: rest => some ([], rest)
  | c :: rest => (splitDoubleColon rest).map fun (before, after) => (c :: before, after)
  | [] => none

/-- The pieces of a text between colons; no text has none. -/
def readSide? (final : Bool) (cs : List Char) : Option (List Nat) :=
  if cs.isEmpty then some [] else readPieces? final (cs.splitOn ':')

/-- Eight pieces, of which two colons in a row leave out at least one. -/
def readIpv6 (cs : List Char) : Except UrlFault UrlHost :=
  let pieces := match splitDoubleColon cs with
    | none => (readSide? true cs).filter (·.length = 8)
    | some (before, after) => do
      let before ← readSide? false before
      let after ← readSide? true after
      if before.length + after.length < 8 then
        some (before ++ List.replicate (8 - before.length - after.length) 0 ++ after)
      else none
  match pieces with
  | some pieces => .ok (.ipv6 pieces)
  | none => .error .badIpv6

/-! ### Hosts -/

/-- Whether a character may not stand in a host. -/
def isForbidden (c : Char) : Bool :=
  "\x00\t\n\r #/:<>?@[\\]^|".toList.contains c

/-- A name in its one form in ASCII, or the number that it stands for. -/
def readName (cs : List Char) : Except UrlFault UrlHost :=
  match (Percent.textOf? (Percent.decodeBytes cs)).bind fun s => Url.HostName.ascii? s.toList with
  | none => .error .badName
  | some name =>
    if name.any fun c => isForbidden c || Percent.isControl c || c == '%' then .error .badName
    else if name.isEmpty then .error .emptyHost
    else if endsInNumber name then readIpv4 name
    else .ok (.domain (String.ofList name))

/-- A host in brackets. -/
def readBracketed (cs : List Char) : Except UrlFault UrlHost :=
  if cs.getLast? = some ']' then readIpv6 cs.dropLast else .error .badIpv6

/-- The host of an address whose scheme is a special one. -/
def readSpecial : List Char → Except UrlFault UrlHost
  | '[' :: cs => readBracketed cs
  | cs => readName cs

/-- The host of an address whose scheme says nothing about hosts. -/
def readPlain : List Char → Except UrlFault UrlHost
  | '[' :: cs => readBracketed cs
  | cs =>
    if cs.any isForbidden then .error .badHostChar
    else .ok (.domain (String.ofList (Percent.encode [] cs)))

end JobQueue.UrlHost
