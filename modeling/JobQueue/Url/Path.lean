import JobQueue.Url.Percent
import JobQueue.Url.Scheme

/-! Paths of segments: dots are resolved, but never beyond a segment that names a drive. -/

namespace JobQueue.Url

/-- Whether a character is passed over wherever it stands. -/
def isIgnored (c : Char) : Bool :=
  c == '\t' || c == '\n' || c == '\r'

/-- The characters of a text that are not passed over. -/
def visible (cs : List Char) : List Char :=
  cs.filter fun c => !isIgnored c

namespace Path

/-! ### Dots -/

/-- A segment without regard to how its dots are written. -/
def plainDots : List Char → List Char
  | '%' :: '2' :: 'e' :: cs => '.' :: plainDots cs
  | '%' :: '2' :: 'E' :: cs => '.' :: plainDots cs
  | c :: cs => c :: plainDots cs
  | [] => []

def isHere (segment : List Char) : Bool :=
  plainDots segment == ['.']

def isAbove (segment : List Char) : Bool :=
  plainDots segment == ['.', '.']

/-! ### Drives -/

/-- Whether a letter and a mark name a drive. -/
def nameDrive (letter mark : Char) : Bool :=
  letter.isAlpha && (mark == ':' || mark == '|')

def isDrive : List Char → Bool
  | [a, b] => nameDrive a b
  | _ => false

/-- Whether two dots cannot take a segment back. -/
def isFixed : List Char → Bool
  | a :: b :: cs => nameDrive a b && (cs.isEmpty || cs.head? == some '\\')
  | _ => false

/-- The drive at the front of a segment if characters that are passed over set it apart, and what
follows them. -/
def setApart? (segment : List Char) : Option (List Char × List Char) :=
  match visible segment with
  | a :: ':' :: c :: cs =>
    if a.isAlpha && ((segment.dropWhile (· ≠ ':')).drop 1).head?.any isIgnored then
      some ([a, ':'], c :: cs)
    else none
  | _ => none

end Path

/-- The segments of a path, the last one first, and whether the first of them was put down as a
drive. -/
structure Path where
  segments : List (List Char)
  onDrive : Bool
  deriving DecidableEq, Repr

namespace Path

def root : Path :=
  ⟨[], false⟩

def push (path : Path) (segment : List Char) : Path :=
  { path with segments := segment :: path.segments }

/-- The path without its last segment, unless that is to stay. -/
def pop (path : Path) : Path :=
  match path.segments with
  | [] => path
  | segment :: above => if isFixed segment then path else { path with segments := above }

/-- The path with an ordinary segment after the others. The first one of a file can name a drive. -/
def add (kind : SchemeKind) (path : Path) (segment : List Char) : Path :=
  match segment with
  | [letter, mark] =>
    if kind == .file && path.segments.isEmpty && nameDrive letter mark then ⟨[[letter, ':']], true⟩
    else path.push segment
  | _ => path.push segment

/-- The path with more segments after the others. A path that ends in dots ends in a slash. -/
def addAll (kind : SchemeKind) (path : Path) : List (List Char) → Path
  | [] => path
  | raw :: rest =>
    let segment := Percent.encode Percent.pathReserved (visible raw)
    match if kind == .file && path.segments.isEmpty then setApart? raw else none with
    | some (drive, after) =>
      addAll kind ((path.push drive).push (Percent.encode Percent.pathReserved after)) rest
    | none =>
      if isAbove segment then addAll kind (if rest.isEmpty then path.pop.push [] else path.pop) rest
      else if isHere segment then addAll kind (if rest.isEmpty then path.push [] else path) rest
      else addAll kind (path.add kind segment) rest

/-- The path of the segments in a text. -/
def ofText (kind : SchemeKind) (cs : List Char) : Path :=
  root.addAll kind (cs.splitOnP kind.isSlash)

/-- The text of a path. That of a file starts with no more than one slash. -/
def text (kind : SchemeKind) (path : Path) : String :=
  let cs := path.segments.reverse.flatMap fun segment => '/' :: segment
  match kind with
  | .file => String.ofList ('/' :: cs.dropWhile (· == '/'))
  | _ => String.ofList cs

end Path

end JobQueue.Url
