import JobQueue.Text.Composed
import JobQueue.Text.Direction
import JobQueue.Text.Joining
import JobQueue.Text.Mark
import JobQueue.Url.HostName.Table
import JobQueue.Url.Punycode

/-! Names of hosts in all scripts. A name is brought into one form and cut into labels at its dots;
labels beyond ASCII obey rules about their characters and are written in ASCII. -/

namespace JobQueue.Url.HostName

/-! ### One form for all names -/

def replacedRuns : List Text.Run :=
  Text.Run.ofTable replacedTable

def ignoredRuns : List Text.Run :=
  Text.Run.ofTable ignoredTable

def refusedRuns : List Text.Run :=
  Text.Run.ofTable refusedTable

/-- What the label of a run makes of a character in it. -/
def image (run : Text.Run) (c : Char) : List Char :=
  match run.label with
  | '+' :: cs => [.ofNat (Text.hexNumber cs + (c.toNat - run.first))]
  | label => ((label.drop 1).splitOn ',').map fun cs => .ofNat (Text.hexNumber cs)

/-- What a character is replaced by, if a name can have it. -/
def replacement? (c : Char) : Option (List Char) :=
  if (Text.Run.find? refusedRuns c).isSome then none
  else if (Text.Run.find? ignoredRuns c).isSome then some []
  else some (((Text.Run.find? replacedRuns c).map (image · c)).getD [c])

/-- A name with all its characters replaced, in composed form. -/
def uniform? (cs : List Char) : Option (List Char) :=
  (cs.mapM replacement?).map fun images => Text.composed images.flatten

/-! ### Rules for labels beyond ASCII -/

def nonJoiner : Char := '\u200c'

def joiner : Char := '\u200d'

/-- The class of the marks that take the vowel from a letter. -/
def viramaClass : Nat := 9

/-- How the first character joins that does not let its neighbours join each other. -/
def nextJoining (cs : List Char) : Text.Joining :=
  match (cs.map Text.joining).dropWhile (· == .transparent) with
  | [] => .none
  | joining :: _ => joining

/-- Whether a sign that governs joining has the right neighbours. Those before it come in reverse
order. -/
def joinerFits (before : List Char) (sign : Char) (after : List Char) : Bool :=
  match before with
  | [] => false
  | c :: _ =>
    Text.combiningClass c == viramaClass
      || (sign == nonJoiner && [Text.Joining.left, .both].contains (nextJoining before)
        && [Text.Joining.right, .both].contains (nextJoining after))

/-- Whether all such signs in a text fit, which follows some characters in reverse order. -/
def joinersFit (before : List Char) : List Char → Bool
  | [] => true
  | c :: cs =>
    ((c != joiner && c != nonJoiner) || joinerFits before c cs) && joinersFit (c :: before) cs

def isAscii (cs : List Char) : Bool :=
  cs.all fun c => c.toNat < 128

/-- The length of the longest label beyond ASCII. -/
def longestLabel : Nat := 1000

/-- The length of the longest label in ASCII that stands for one beyond it. -/
def longestCode : Nat := 2000

/-- Whether the characters of a label may stand in this order. -/
def isProper (label : List Char) : Bool :=
  isAscii label || (label.length ≤ longestLabel && !label.head?.any Text.isMark && joinersFit [] label)

/-! ### Labels -/

def codeMark : List Char := ['x', 'n', '-', '-']

/-- The label that a part of a uniform name stands for. -/
def readLabel? (cs : List Char) : Option (List Char) :=
  if codeMark.isPrefixOf cs then
    let code := cs.drop codeMark.length
    if code.length ≤ longestCode then
      (Punycode.decode? code).filter fun label => uniform? label == some label && isProper label
    else none
  else if isProper cs then some cs
  else none

/-- A label in ASCII. -/
def labelText (label : List Char) : List Char :=
  if isAscii label then label else codeMark ++ Punycode.encode label

/-! ### Directions of writing -/

/-- Whether a character makes the rules of direction apply to the whole name. -/
def turnsName (c : Char) : Bool :=
  [Text.Direction.rightToLeft, .arabicLetter, .arabicNumber].contains (Text.direction c)

/-- The directions that can go with each other in all labels. -/
def neutral : List Text.Direction :=
  [.europeanNumber, .europeanSeparator, .commonSeparator, .europeanTerminator, .otherNeutral,
    .boundaryNeutral, .nonspacingMark]

/-- Whether characters can follow in a label that starts with a direction, and end it. -/
def followsFrom (start : Text.Direction) (rest : List Text.Direction) : Bool :=
  let rest := (rest.reverse.dropWhile (· == .nonspacingMark)).reverse
  match start with
  | .leftToRight =>
    rest.all (.leftToRight :: neutral).contains
      && rest.getLast?.all [Text.Direction.leftToRight, .europeanNumber].contains
  | .rightToLeft | .arabicLetter =>
    rest.all (.rightToLeft :: .arabicLetter :: .arabicNumber :: neutral).contains
      && rest.getLast?.all
        [Text.Direction.rightToLeft, .arabicLetter, .europeanNumber, .arabicNumber].contains
      && !(rest.contains .europeanNumber && rest.contains .arabicNumber)
  | _ => false

/-- Whether a label can be read in one direction. -/
def hasOneDirection : List Char → Bool
  | [] => true
  | c :: cs => followsFrom (Text.direction c) (cs.map Text.direction)

/-! ### Names -/

/-- The labels of a name. -/
def labels? (cs : List Char) : Option (List (List Char)) := do
  let labels ← ((← uniform? cs).splitOn '.').mapM readLabel?
  if (labels.any fun label => label.any turnsName) && !labels.all hasOneDirection then none
  else some labels

/-- A name in ASCII. -/
def ascii? (cs : List Char) : Option (List Char) :=
  (labels? cs).map fun labels => ['.'].intercalate (labels.map labelText)

end JobQueue.Url.HostName
