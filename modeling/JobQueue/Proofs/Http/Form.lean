import JobQueue.Http.Endpoints
import JobQueue.Proofs.Text.Numeral

/-! What a form says for plain characters. A pair that is written with them, and an equals sign in between,
is read as it is written, and so is the index at which a page is asked to start. -/

namespace JobQueue

namespace Percent

/-- An ASCII character has one byte, which stands for it alone. -/
theorem bytesOf_ascii : ∀ n < 128, bytesOf (Char.ofNat n) = [UInt8.ofNat n] ∧
    (textOf? [UInt8.ofNat n]).map String.toList = some [Char.ofNat n] := by
  decide +kernel

variable {c : Char} {cs : List Char}

theorem bytesOf_eq (h : c.toNat < 128) : bytesOf c = [UInt8.ofNat c.toNat] := by
  have hbytes := (bytesOf_ascii c.toNat h).1
  rwa [Char.ofNat_toNat] at hbytes

/-- The first byte is enough for an ASCII character. -/
theorem firstChar?_ascii (h : c.toNat < 128) (rest : List UInt8) :
    firstChar? (UInt8.ofNat c.toNat :: rest) = some c := by
  have htext := (bytesOf_ascii c.toNat h).2
  rw [Char.ofNat_toNat] at htext
  have hfirst : (textOf? ((UInt8.ofNat c.toNat :: rest).take (0 + 1))).map String.toList = some [c] := htext
  have hrange : List.range 4 = [0, 1, 2, 3] := rfl
  rw [firstChar?, hrange, List.findSome?_cons, hfirst]

theorem lenientChars_ascii (h : ∀ c ∈ cs, c.toNat < 128) :
    lenientChars (cs.flatMap bytesOf).length (cs.flatMap bytesOf) = cs := by
  induction cs with
  | nil => rfl
  | cons c cs ih =>
    obtain ⟨hc, hcs⟩ := List.forall_mem_cons.1 h
    have hsize : c.utf8Size = 1 := Char.utf8Size_eq_one_iff.2 (Nat.le_of_lt_succ hc)
    rw [List.flatMap_cons, bytesOf_eq hc, List.singleton_append, List.length_cons, lenientChars,
      firstChar?_ascii hc]
    simp only [hsize, List.drop_one, List.tail_cons]
    rw [ih hcs]

theorem decodeBytes_cons (h : c ≠ '%') : decodeBytes (c :: cs) = bytesOf c ++ decodeBytes cs := by
  rw [decodeBytes]
  intro a b rest hc
  exact absurd hc h

theorem decodeBytes_eq (h : ∀ c ∈ cs, c ≠ '%') : decodeBytes cs = cs.flatMap bytesOf := by
  induction cs with
  | nil => rfl
  | cons c cs ih =>
    obtain ⟨hc, hcs⟩ := List.forall_mem_cons.1 h
    rw [decodeBytes_cons hc, ih hcs, List.flatMap_cons]

end Percent

namespace Form

/-- A character that stands for itself. -/
def IsPlain (c : Char) : Prop :=
  c.toNat < 128 ∧ c ≠ '%' ∧ c ≠ '+' ∧ c ≠ '&'

variable {cs name value : List Char}

theorem decode_plain (h : ∀ c ∈ cs, IsPlain c) : decode cs = String.ofList cs := by
  have hspaces : (cs.map fun c => if c = '+' then ' ' else c) = cs := by
    refine (List.map_congr_left fun c hc => ?_).trans (List.map_id cs)
    exact if_neg (h c hc).2.2.1
  rw [decode, hspaces, Percent.decodeBytes_eq fun c hc => (h c hc).2.1, Percent.lenientText,
    Percent.lenientChars_ascii fun c hc => (h c hc).1]

/-- A form of one pair is read as that pair. -/
theorem pairs_of_pair (hname : ∀ c ∈ name, IsPlain c ∧ c ≠ '=') (hvalue : ∀ c ∈ value, IsPlain c) :
    pairs (String.ofList (name ++ '=' :: value)) = [(String.ofList name, String.ofList value)] := by
  have hsplit : (name ++ '=' :: value).splitOn '&' = [name ++ '=' :: value] := by
    refine List.splitOnP_eq_singleton fun c hc => beq_false_of_ne ?_
    obtain hc | rfl | hc : c ∈ name ∨ c = '=' ∨ c ∈ value := by simpa using hc
    · exact (hname c hc).1.2.2.2
    · decide
    · exact (hvalue c hc).2.2.2
  have hbefore : ∀ c ∈ name, decide (c ≠ '=') = true := fun c hc => decide_eq_true (hname c hc).2
  have htake : (name ++ '=' :: value).takeWhile (· ≠ '=') = name := by
    rw [List.takeWhile_append_of_pos hbefore]
    simp
  have hdrop : (name ++ '=' :: value).dropWhile (· ≠ '=') = '=' :: value := by
    rw [List.dropWhile_append_of_pos hbefore]
    simp
  have hpair : pair (name ++ '=' :: value) = (String.ofList name, String.ofList value) := by
    rw [pair, htake, hdrop, decode_plain fun c hc => (hname c hc).1, List.drop_one, List.tail_cons,
      decode_plain hvalue]
  rw [pairs, String.toList_ofList, hsplit, ← hpair]
  simp

end Form

namespace Http.PageQuery

/-- The query that asks for a page from an index on. -/
def startText (start : Int) : String :=
  "start=" ++ String.ofList (Text.intDigits start)

theorem isPlain_of_mem_intDigits {i : Int} {c : Char} (h : c ∈ Text.intDigits i) : Form.IsPlain c := by
  obtain rfl | hdigit := Text.mem_intDigits h
  · exact ⟨by decide, by decide, by decide, by decide⟩
  · have hbounds : 48 ≤ c.toNat ∧ c.toNat ≤ 57 := by
      simpa [Text.isDigit, Char.le_def, UInt32.le_iff_toNat_le] using hdigit
    have hne : ∀ d : Char, d.toNat < 48 → c ≠ d := by
      rintro d hd rfl
      omega
    exact ⟨by omega, hne '%' (by decide), hne '+' (by decide), hne '&' (by decide)⟩

/-- A form that gives a start and nothing else. -/
theorem addPairs_start (text : String) :
    addPairs empty [("start", text)] =
      ((Text.readSigned text).mapError .numeral).map fun start => ⟨some start, none⟩ := by
  have hfield : readField "start" empty.start text =
      ((Text.readSigned text).mapError .numeral).map some := rfl
  rw [addPairs, if_pos rfl, hfield]
  cases Text.readSigned text <;> rfl

theorem pairs_startText (start : Int) :
    Form.pairs (startText start) = [("start", String.ofList (Text.intDigits start))] := by
  have hname : ∀ c ∈ "start".toList, Form.IsPlain c ∧ c ≠ '=' := by
    simp [Form.IsPlain]
  have hvalue : ∀ c ∈ Text.intDigits start, Form.IsPlain c := fun c => isPlain_of_mem_intDigits
  have hpairs := Form.pairs_of_pair hname hvalue
  have hform : startText start = String.ofList ("start".toList ++ '=' :: Text.intDigits start) := by
    apply String.toList_injective
    simp [startText]
  rwa [String.ofList_toList, ← hform] at hpairs

/-- An index of 64 bits is read as it is written. -/
theorem ofText_startText {start : Int} (hleast : Word.signedMin64 ≤ start) (hmost : start ≤ Word.signedMax64) :
    ofText (startText start) = .ok ⟨some start, none⟩ := by
  rw [ofText, pairs_startText, addPairs_start, Text.readSigned_intDigits hleast hmost]
  rfl

/-- No other index is read. -/
theorem exists_ofText_startText_error {start : Int} (h : start < Word.signedMin64 ∨ Word.signedMax64 < start) :
    ∃ fault, ofText (startText start) = .error fault := by
  obtain ⟨fault, hread⟩ := Text.exists_readSigned_intDigits_error h
  refine ⟨.numeral fault, ?_⟩
  rw [ofText, pairs_startText, addPairs_start, hread]
  rfl

end Http.PageQuery

end JobQueue
