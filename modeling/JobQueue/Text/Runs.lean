import JobQueue.Text.Numeral

/-! Tables of code points in text form. An entry is about a run of them: `41-5A` is the run from the
first to the last, `100-12E/2` has only every second of them, and what follows is the label of the
run. All numbers are hexadecimal. -/

namespace JobQueue.Text

structure Run where
  first : Nat
  last : Nat
  /-- The distance between neighbours in the run. -/
  step : Nat
  label : List Char
  deriving DecidableEq, Repr

def isHexDigit (c : Char) : Bool :=
  (hexValue? c).isSome

/-- The number that hexadecimal digits stand for. -/
def hexNumber (cs : List Char) : Nat :=
  cs.foldl (fun n c => 16 * n + (hexValue? c).getD 0) 0

/-- The number at the front of a text, and what follows it. -/
def readHex (cs : List Char) : Nat × List Char :=
  (hexNumber (cs.takeWhile isHexDigit), cs.dropWhile isHexDigit)

namespace Run

/-- Reads an entry. -/
def ofText (cs : List Char) : Run :=
  let (first, rest) := readHex cs
  let (last, rest) := match rest with
    | '-' :: rest => readHex rest
    | _ => (first, rest)
  let (step, label) := match rest with
    | '/' :: rest => readHex rest
    | _ => (1, rest)
  ⟨first, last, step, label⟩

/-- The entries of a table, which stand between blanks. -/
def ofTable (lines : List String) : List Run :=
  lines.flatMap fun line => (line.toList.splitOn ' ').map ofText

def contains (run : Run) (c : Char) : Bool :=
  run.first ≤ c.toNat && c.toNat ≤ run.last && (c.toNat - run.first) % run.step == 0

/-- The run of a character. -/
def find? (runs : List Run) (c : Char) : Option Run :=
  runs.find? (·.contains c)

end Run

end JobQueue.Text
