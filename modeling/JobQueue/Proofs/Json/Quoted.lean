import JobQueue.Json.Quoted

/-! What is written between quotes is read back as it was. -/

namespace JobQueue.Json

theorem hexValue?_hexDigit : ∀ n < 16, Text.hexValue? (hexDigit n) = some n := by
  decide

/-- The escape of a control is the control again. -/
theorem readEscape_control {c : Char} (h : c.toNat < 0x20) (rest : List Char) :
    readEscape ('u' :: '0' :: '0' :: hexDigit (c.toNat / 16) :: hexDigit (c.toNat % 16) :: rest) =
      .ok (c, rest) := by
  have hzero : Text.hexValue? '0' = some 0 := by decide
  have hhigh := hexValue?_hexDigit (c.toNat / 16) (by omega)
  have hlow := hexValue?_hexDigit (c.toNat % 16) (by omega)
  have hvalue : c.toNat / 16 * 16 + c.toNat % 16 = c.toNat := by omega
  have hsurrogate : isLowSurrogate c.toNat = false ∧ isHighSurrogate c.toNat = false := by
    simp [isLowSurrogate, isHighSurrogate]; omega
  simp [readEscape, readUnicode, readHex, hzero, hhigh, hlow, hvalue, hsurrogate, bind, Except.bind]

theorem readQuoted_escape {c : Char} {cs rest : List Char} (h : readEscape cs = .ok (c, rest)) :
    readQuoted ('\\' :: cs) = (readQuoted rest).map fun (s, rest) => (c :: s, rest) := by
  rw [readQuoted]
  split
  next hread => cases h.symm.trans hread
  next hread =>
    cases h.symm.trans hread
    cases readQuoted rest <;> rfl

theorem readQuoted_plain {c : Char} (hquote : c ≠ '"') (hslash : c ≠ '\\') (hcontrol : ¬ c.toNat < 0x20)
    (cs : List Char) :
    readQuoted (c :: cs) = (readQuoted cs).map fun (s, rest) => (c :: s, rest) := by
  rw [readQuoted]
  · rw [if_neg hcontrol]
    cases readQuoted cs <;> rfl
  · exact hquote
  · exact hslash

/-- Every character is read back from what is written for it. -/
theorem readQuoted_quoteChar (c : Char) (cs : List Char) :
    readQuoted (quoteChar c ++ cs) = (readQuoted cs).map fun (s, rest) => (c :: s, rest) := by
  unfold quoteChar
  split
  case h_8 hquote hslash _ _ _ _ _ =>
    split
    case isTrue hcontrol => exact readQuoted_escape (readEscape_control hcontrol cs)
    case isFalse hcontrol => exact readQuoted_plain hquote hslash hcontrol cs
  all_goals exact readQuoted_escape rfl

theorem readQuoted_quoteChars (cs rest : List Char) :
    readQuoted (quoteChars cs ++ '"' :: rest) = .ok (cs, rest) := by
  induction cs with
  | nil => rw [quoteChars, List.flatMap_nil, List.nil_append, readQuoted]
  | cons c cs ih =>
    rw [quoteChars, List.flatMap_cons, List.append_assoc, readQuoted_quoteChar, ← quoteChars, ih]
    rfl

/-- A text in quotes is read back once its opening quote is gone. -/
theorem readString_quoteChars (s : String) (rest : List Char) :
    readString (quoteChars s.toList ++ '"' :: rest) = .ok (s, rest) := by
  simp [readString, readQuoted_quoteChars, bind, Except.bind]

end JobQueue.Json
