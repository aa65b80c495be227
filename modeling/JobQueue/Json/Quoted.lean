import JobQueue.Json.Fault

/-! JSON strings: how a text is written between quotes, and how it is read back. -/

namespace JobQueue.Json

/-! ### Writing -/

/-- A digit of an escape in lower case. -/
def hexDigit (n : Nat) : Char :=
  if n < 10 then Char.ofNat ('0'.toNat + n) else Char.ofNat ('a'.toNat + n - 10)

/-- One character inside the quotes. Quote, backslash and controls are escaped. -/
def quoteChar (c : Char) : List Char :=
  match c with
  | '"' => ['\\', '"']
  | '\\' => ['\\', '\\']
  | '\x08' => ['\\', 'b']
  | '\x0c' => ['\\', 'f']
  | '\n' => ['\\', 'n']
  | '\r' => ['\\', 'r']
  | '\t' => ['\\', 't']
  | c =>
    if c.toNat < 0x20 then
      ['\\', 'u', '0', '0', hexDigit (c.toNat / 16), hexDigit (c.toNat % 16)]
    else [c]

/-- The characters between the quotes. -/
def quoteChars (cs : List Char) : List Char :=
  cs.flatMap quoteChar

/-- A text in its quotes. -/
def quoted (s : String) : List Char :=
  '"' :: quoteChars s.toList ++ ['"']

/-! ### Reading -/

/-- The length of a text in bytes of UTF-8. -/
def byteLength (cs : List Char) : Nat :=
  cs.foldl (fun n c => n + c.utf8Size) 0

/-- Reads the four digits of an escape. A text with fewer than four bytes left has ended early. -/
def readHex : Reader Nat := fun cs =>
  match cs with
  | a :: b :: c :: d :: rest =>
    match Text.hexValue? a, Text.hexValue? b, Text.hexValue? c, Text.hexValue? d with
    | some a, some b, some c, some d => .ok (((a * 16 + b) * 16 + c) * 16 + d, rest)
    | _, _, _, _ => .error .malformed
  | cs => if byteLength cs < 4 then .error .truncated else .error .malformed

def isHighSurrogate (n : Nat) : Bool :=
  0xD800 ≤ n && n < 0xDC00

def isLowSurrogate (n : Nat) : Bool :=
  0xDC00 ≤ n && n < 0xE000

/-- Reads what follows the letter of a `\u` escape. Surrogates have to come in pairs. -/
def readUnicode : Reader Char := fun cs => do
  let (high, rest) ← readHex cs
  if isLowSurrogate high then .error .malformed
  else if isHighSurrogate high then
    match rest with
    | [] => .error .truncated
    | '\\' :: [] => .error .truncated
    | '\\' :: 'u' :: rest =>
      let (low, rest) ← readHex rest
      if isLowSurrogate low
      then .ok (Char.ofNat (0x10000 + (high - 0xD800) * 0x400 + (low - 0xDC00)), rest)
      else .error .malformed
    | _ => .error .malformed
  else .ok (Char.ofNat high, rest)

/-- The character that a one-letter escape stands for. -/
def escapeValue : Char → Option Char
  | '"' => some '"'
  | '\\' => some '\\'
  | '/' => some '/'
  | 'b' => some '\x08'
  | 'f' => some '\x0c'
  | 'n' => some '\n'
  | 'r' => some '\r'
  | 't' => some '\t'
  | _ => none

/-- Reads what follows a backslash. -/
def readEscape : Reader Char
  | [] => .error .truncated
  | 'u' :: rest => readUnicode rest
  | c :: rest =>
    match escapeValue c with
    | some c => .ok (c, rest)
    | none => .error .malformed

theorem readHex_length {cs rest : List Char} {n : Nat} (h : readHex cs = .ok (n, rest)) :
    rest.length < cs.length := by
  unfold readHex at h
  split at h
  · split at h
    · cases h; simp; omega
    · cases h
  · split at h <;> cases h

theorem readUnicode_length {cs rest : List Char} {c : Char} (h : readUnicode cs = .ok (c, rest)) :
    rest.length < cs.length := by
  unfold readUnicode at h
  cases hhex : readHex cs with
  | error e => simp [hhex, bind, Except.bind] at h
  | ok p =>
    obtain ⟨high, mid⟩ := p
    have hmid := readHex_length hhex
    simp only [hhex, bind, Except.bind] at h
    split at h
    · cases h
    · split at h
      · split at h
        · cases h
        · cases h
        · rename_i tail
          cases hlow : readHex tail with
          | error e => simp [hlow] at h
          | ok q =>
            obtain ⟨low, last⟩ := q
            have hlast := readHex_length hlow
            simp only [hlow] at h
            split at h
            · simp only [Except.ok.injEq, Prod.mk.injEq] at h
              obtain ⟨_, rfl⟩ := h
              simp at hmid; omega
            · cases h
        · cases h
      · simp only [Except.ok.injEq, Prod.mk.injEq] at h
        obtain ⟨_, rfl⟩ := h
        exact hmid

theorem readEscape_length {cs rest : List Char} {c : Char} (h : readEscape cs = .ok (c, rest)) :
    rest.length < cs.length := by
  unfold readEscape at h
  split at h
  · cases h
  · have := readUnicode_length h; simp; omega
  · split at h
    · cases h; simp
    · cases h

/-- Reads up to the closing quote. Raw controls are refused. -/
def readQuoted (cs : List Char) : Except Fault (List Char × List Char) :=
  match cs with
  | [] => .error .truncated
  | '"' :: rest => .ok ([], rest)
  | '\\' :: rest =>
    match h : readEscape rest with
    | .error e => .error e
    | .ok (c, rest) => do
      have := readEscape_length h
      let (s, rest) ← readQuoted rest
      .ok (c :: s, rest)
  | c :: rest =>
    if c.toNat < 0x20 then .error .malformed
    else do
      let (s, rest) ← readQuoted rest
      .ok (c :: s, rest)
termination_by cs.length
decreasing_by all_goals simp_all; try omega

/-- Reads a string whose opening quote is gone. -/
def readString : Reader String := fun cs => do
  let (s, rest) ← readQuoted cs
  .ok (String.ofList s, rest)

/-- Passes over what follows a backslash. Surrogates need no partner here. -/
def skipEscape : Scanner
  | [] => .error .truncated
  | 'u' :: rest => do
    let (_, rest) ← readHex rest
    .ok rest
  | c :: rest => if (escapeValue c).isSome then .ok rest else .error .malformed

theorem skipEscape_length {cs rest : List Char} (h : skipEscape cs = .ok rest) :
    rest.length < cs.length := by
  unfold skipEscape at h
  split at h
  · cases h
  · rename_i tail
    cases hhex : readHex tail with
    | error e => simp [hhex, bind, Except.bind] at h
    | ok p =>
      have := readHex_length hhex
      simp only [hhex, bind, Except.bind, Except.ok.injEq] at h
      subst h; simp; omega
  · split at h
    · cases h; simp
    · cases h

/-- Passes over a string whose opening quote is gone. -/
def skipString (cs : List Char) : Except Fault (List Char) :=
  match cs with
  | [] => .error .truncated
  | '"' :: rest => .ok rest
  | '\\' :: rest =>
    match h : skipEscape rest with
    | .error e => .error e
    | .ok rest =>
      have := skipEscape_length h
      skipString rest
  | c :: rest => if c.toNat < 0x20 then .error .malformed else skipString rest
termination_by cs.length
decreasing_by all_goals simp_all; try omega

end JobQueue.Json
