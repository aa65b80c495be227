import JobQueue.Text.CombiningClass
import JobQueue.Text.Composite

/-! The composed form of a text, which is the same for all texts that look alike: composites are taken
apart, marks are put into the order of their classes, and pairs are put together again. -/

namespace JobQueue.Text

/-- A character without composites, taken apart at most `depth` times. -/
def takeApart : (depth : Nat) → Char → List Char
  | 0, c => [c]
  | depth + 1, c =>
    match Composite.split? c with
    | some (a, b) => takeApart depth a ++ [b]
    | none => [c]

/-- How often a character can be taken apart. -/
def greatestDepth : Nat := 4

/-- Puts a character in front of a text in which the marks are in order, behind the marks at its
front that are of lower classes. -/
def placeMark (c : Char) : List Char → List Char
  | [] => [c]
  | d :: ds =>
    if 0 < combiningClass d && combiningClass d < combiningClass c then d :: placeMark c ds
    else c :: d :: ds

/-- Puts marks in a row into the order of their classes. -/
def sortMarks (cs : List Char) : List Char :=
  cs.foldr placeMark []

/-- Puts pairs together. The marks in `marks`, the last one first, stand between `base` and the text
and do not combine with it; of them, `last` is the class of the last. -/
def putTogether (base : Char) (marks : List Char) (last : Nat) : List Char → List Char
  | [] => base :: marks.reverse
  | c :: cs =>
    let own := combiningClass c
    match if marks.isEmpty || last < own then Composite.join? base c else none with
    | some whole => putTogether whole marks last cs
    | none =>
      if own = 0 then base :: marks.reverse ++ putTogether c [] 0 cs
      else putTogether base (c :: marks) own cs

/-- The composed form of a text. -/
def composed (cs : List Char) : List Char :=
  match sortMarks (cs.flatMap (takeApart greatestDepth)) with
  | [] => []
  | c :: cs => putTogether c [] 0 cs

end JobQueue.Text
