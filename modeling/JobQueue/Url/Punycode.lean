import JobQueue.Text.Split

/-! Labels of host names in ASCII: characters beyond it are written after the others, as the distances
between their code points in order, in a number system of base 36 whose thresholds adapt. -/

namespace JobQueue.Punycode

/-! ### Digits -/

def digit (d : Nat) : Char :=
  if d < 26 then Char.ofNat ('a'.toNat + d) else Char.ofNat ('0'.toNat + (d - 26))

/-- The value of a digit in lower case. -/
def digitValue? (c : Char) : Option Nat :=
  if 'a' ≤ c && c ≤ 'z' then some (c.toNat - 'a'.toNat)
  else if '0' ≤ c && c ≤ '9' then some (c.toNat - '0'.toNat + 26)
  else none

/-- The threshold of the digit at a position. -/
def threshold (position bias : Nat) : Nat :=
  if position ≤ bias then 1 else min (position - bias) 26

theorem threshold_pos (position bias : Nat) : 1 ≤ threshold position bias := by
  unfold threshold; split <;> omega

/-- A distance in digits, the least significant one first. -/
def digits (bias position : Nat) (distance : Nat) : List Char :=
  let t := threshold position bias
  if distance < t then [digit distance]
  else
    digit (t + (distance - t) % (36 - t)) ::
      digits bias (position + 36) ((distance - t) / (36 - t))
termination_by distance
decreasing_by
  have := threshold_pos position bias
  have := Nat.div_le_self (distance - threshold position bias) (36 - threshold position bias)
  omega

/-- The part of a bias that depends on the size of a distance. -/
def scale (distance bias : Nat) : Nat :=
  if 455 < distance then scale (distance / 35) (bias + 36)
  else bias + 36 * distance / (distance + 38)
termination_by distance

/-- The bias after a distance, with as many characters written as `written`. -/
def adapt (distance written : Nat) (first : Bool) : Nat :=
  let distance := if first then distance / 700 else distance / 2
  scale (distance + distance / written) 0

/-! ### Writing -/

structure State where
  output : List Char
  distance : Nat
  bias : Nat
  written : Nat

/-- Passes over a character of the label while characters of code point `point` are written. -/
def visit (basic point : Nat) (s : State) (c : Char) : State :=
  if c.toNat < point then { s with distance := s.distance + 1 }
  else if c.toNat = point then
    { output := s.output ++ digits s.bias 36 s.distance
      distance := 0
      bias := adapt s.distance (s.written + 1) (s.written == basic)
      written := s.written + 1 }
  else s

/-- Writes the characters of the code points in a list, which increases and starts at or after
`next`. -/
def writePoints (label : List Char) (basic next : Nat) (s : State) : List Nat → State
  | [] => s
  | point :: points =>
    let s := { s with distance := s.distance + (point - next) * (s.written + 1) }
    let s := label.foldl (visit basic point) s
    writePoints label basic (point + 1) { s with distance := s.distance + 1 } points

/-- Adds a number to increasing ones. -/
def insertPoint (n : Nat) : List Nat → List Nat
  | [] => [n]
  | m :: ms => if n < m then n :: m :: ms else if n = m then m :: ms else m :: insertPoint n ms

def encode (label : List Char) : List Char :=
  let basic := label.filter fun c => c.toNat < 128
  let points := ((label.filter fun c => 128 ≤ c.toNat).map Char.toNat).foldr insertPoint []
  let head := if basic.isEmpty then [] else basic ++ ['-']
  (writePoints label basic.length 128 ⟨head, 0, 72, basic.length⟩ points).output

/-! ### Reading -/

/-- A distance at the front of a text, its digits counted with a weight, and what follows it. -/
def readDistance (bias position weight : Nat) : List Char → Option (Nat × List Char)
  | [] => none
  | c :: cs =>
    match digitValue? c with
    | none => none
    | some d =>
      let t := threshold position bias
      if d < t then some (weight * d, cs)
      else (readDistance bias (position + 36) (weight * (36 - t)) cs).map fun (n, rest) =>
        (weight * d + n, rest)

theorem length_of_readDistance {bias position weight : Nat} {cs : List Char} {n : Nat}
    {rest : List Char} (h : readDistance bias position weight cs = some (n, rest)) :
    rest.length < cs.length := by
  induction cs generalizing position weight n rest with
  | nil => simp [readDistance] at h
  | cons c cs ih =>
    unfold readDistance at h
    split at h
    · simp at h
    · simp only at h
      split at h
      · obtain ⟨-, rfl⟩ := Prod.mk.inj (Option.some.inj h)
        simp
      · obtain ⟨⟨m, tail⟩, hm, hp⟩ := Option.map_eq_some_iff.1 h
        obtain ⟨-, rfl⟩ := Prod.mk.inj hp
        have := ih hm
        simp only [List.length_cons]
        omega

/-- Adds the characters whose distances stand in a text. The last one was of code point `point`, and the
next distance counts from `place`. -/
def readPoints (point place bias : Nat) (label : List Char) : List Char → Option (List Char)
  | [] => some label
  | c :: cs =>
    match h : readDistance bias 36 1 (c :: cs) with
    | none => none
    | some (distance, rest) =>
      have : rest.length < (c :: cs).length := length_of_readDistance h
      let count := label.length + 1
      let next := point + (place + distance) / count
      let spot := (place + distance) % count
      if next.isValidChar then
        readPoints next (spot + 1) (adapt distance count (place == 0))
          (label.take spot ++ Char.ofNat next :: label.drop spot) rest
      else none
termination_by cs => cs.length
decreasing_by simp only [List.length_cons] at this ⊢; omega

/-- The label that was written in ASCII. There must be something beyond ASCII in it. -/
def decode? (cs : List Char) : Option (List Char) :=
  let (basic, digits) := (Text.splitLast '-' cs).getD ([], cs)
  if digits.isEmpty || (basic.isEmpty && cs.contains '-') || basic.any fun c => 128 ≤ c.toNat then none
  else readPoints 128 0 72 basic digits

end JobQueue.Punycode
