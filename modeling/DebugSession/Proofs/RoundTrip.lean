import DebugSession.Proofs.Numerals
import DebugSession.Proofs.Streams
import DebugSession.Proofs.Utf8
/-!
Messages that are written one after another are read back as they were, whatever their texts hold:
the header gives the length, so the reader never looks for the end of a message in its text.
-/

namespace DebugSession

namespace Text

/-- White space around a text goes, if the text neither starts nor ends with any. -/
theorem trim_append {front cs back : List Char} (before : ∀ c ∈ front, isBlank c = true)
    (after : ∀ c ∈ back, isBlank c = true) (some : cs ≠ [])
    (first : isBlank (cs.head some) = false) (last : isBlank (cs.getLast some) = false) :
    trim (front ++ cs ++ back) = cs := by
  have start : trimStart (front ++ cs ++ back) = cs ++ back := by
    rw [trimStart, List.append_assoc, List.dropWhile_append_of_pos before]
    cases cs with
    | nil => exact absurd rfl some
    | cons c cs => rw [List.cons_append, List.dropWhile_cons_of_neg (by simpa using first)]
  have behind : ∀ c ∈ back.reverse, isBlank c = true := fun c mem => after c (List.mem_reverse.1 mem)
  rw [trim, start, trimEnd, dropEndWhile, List.reverse_append, List.dropWhile_append_of_pos behind]
  have split : cs = cs.dropLast ++ [cs.getLast some] := (List.dropLast_concat_getLast some).symm
  rw [split, List.reverse_append, List.reverse_singleton, List.singleton_append,
    List.dropWhile_cons_of_neg (by simpa using last), List.reverse_cons, List.reverse_reverse]

end Text

namespace Framing

variable {ended seen : Bool} {length : Option Nat} {bytes rest line : Bytes} {message : String}

/-! ## The header -/

private theorem lengthHeader_chars : lengthHeader =
    ['C', 'o', 'n', 't', 'e', 'n', 't', '-', 'L', 'e', 'n', 'g', 't', 'h', ':'] := by
  decide

/-- The line that gives the length, up to where it ends. -/
private def lengthLine (n : Nat) : List Char := lengthHeader ++ ' ' :: Nat.toDigits 10 n

private theorem frame_toList (message : String) :
    (frame message).toList = lengthLine (Text.Utf8.encode message.toList).length ++ ['\r', '\n'] ++
      (['\r', '\n'] ++ message.toList) := by
  have parts : frame message = "Content-Length: " ++
      Nat.repr (Text.Utf8.encode message.toList).length ++ "\r\n\r\n" ++ message := rfl
  have opening : "Content-Length: ".toList = lengthHeader ++ [' '] := by decide
  have ending : "\r\n\r\n".toList = ['\r', '\n', '\r', '\n'] := by decide
  rw [parts]
  simp only [String.toList_append, Nat.toList_repr, opening, ending, lengthLine]
  simp

private theorem digit_range {n : Nat} {c : Char} (mem : c ∈ Nat.toDigits 10 n) :
    48 ≤ c.toNat ∧ c.toNat ≤ 57 := by
  have digit : c.isDigit = true := Nat.isDigit_of_mem_toDigits (by decide) (by decide) mem
  simpa [Char.isDigit, UInt32.le_iff_toNat_le] using digit

private theorem lengthLine_range {n : Nat} {c : Char} (mem : c ∈ lengthLine n) :
    32 ≤ c.toNat ∧ c.toNat < 0x80 := by
  rcases List.mem_append.1 mem with header | mem
  · have all : lengthHeader.all (fun d => 32 ≤ d.toNat && d.toNat < 0x80) = true := by
      rw [lengthHeader_chars]
      decide
    simpa using List.all_eq_true.1 all c header
  rcases List.mem_cons.1 mem with rfl | digit
  · decide
  · have := digit_range digit
    omega

private theorem encode_lengthLine (n : Nat) :
    Text.Utf8.encode (lengthLine n) = (lengthLine n).map fun c => c.toNat.toUInt8 :=
  Text.Utf8.encode_ascii fun _ mem => (lengthLine_range mem).2

/-- No byte of it ends a line. -/
private theorem lengthLine_plain (n : Nat) : ∀ b ∈ Text.Utf8.encode (lengthLine n), b ≠ 10 := by
  intro b mem newline
  rw [encode_lengthLine] at mem
  obtain ⟨c, inLine, rfl⟩ := List.mem_map.1 mem
  have range := lengthLine_range inLine
  have same : c.toNat.toUInt8.toNat = 10 := by
    rw [newline]
    rfl
  simp only [Nat.toUInt8, UInt8.toNat_ofNat'] at same
  omega

private theorem readHeader_lengthLine {n : Nat} (within : n ≤ maxLength) :
    readHeader length (Text.Utf8.encode (lengthLine n ++ ['\r', '\n'])) = .ok (some n) := by
  have digits : ∀ c ∈ Nat.toDigits 10 n, Text.isBlank c = false := by
    intro c mem
    have := digit_range mem
    rw [← Bool.not_eq_true, Text.isBlank_iff_ascii (by omega)]
    omega
  have some : Nat.toDigits 10 n ≠ [] := Nat.toDigits_ne_nil
  have trimmed : Text.trim (lengthLine n ++ ['\r', '\n']) = lengthLine n := by
    have known : lengthLine n ≠ [] := by simp [lengthLine]
    have last : (lengthLine n).getLast known = (Nat.toDigits 10 n).getLast some := by
      simp [lengthLine, List.getLast_cons some]
    have first : Text.isBlank ((lengthLine n).head known) = false := by
      have head : (lengthLine n).head known = 'C' := by
        simp only [lengthLine, lengthHeader_chars, List.cons_append, List.head_cons]
      rw [head]
      decide
    have blank : ∀ c ∈ ['\r', '\n'], Text.isBlank c = true := List.all_eq_true.1 (by decide)
    have : Text.trim ([] ++ lengthLine n ++ ['\r', '\n']) = lengthLine n :=
      Text.trim_append nofun blank known first (last ▸ digits _ (List.getLast_mem some))
    rwa [List.nil_append] at this
  have value : Text.trim (' ' :: Nat.toDigits 10 n) = Nat.toDigits 10 n := by
    have : Text.trim ([' '] ++ Nat.toDigits 10 n ++ []) = Nat.toDigits 10 n :=
      Text.trim_append (List.all_eq_true.1 (by decide)) nofun some (digits _ (List.head_mem some))
        (digits _ (List.getLast_mem some))
    rwa [List.append_nil] at this
  have fits : n ≤ Number.maxUnsigned 64 := Nat.le_trans within (by
    simp [maxLength, Number.maxUnsigned, Number.twoPow])
  unfold readHeader
  rw [Text.Utf8.decode_encode]
  dsimp only
  rw [trimmed, lengthLine, Text.after?_append]
  dsimp only
  rw [value, Number.readNatUpTo_toDigits fits]

/-! ## A message -/

theorem readBody_encode (within : (Text.Utf8.encode message.toList).length ≤ maxLength) :
    readBody ended (some (Text.Utf8.encode message.toList).length)
      (Text.Utf8.encode message.toList ++ rest) = .message message rest := by
  unfold readBody
  dsimp only
  rw [if_neg (Nat.not_lt.2 within), List.take_left, List.drop_left, if_neg (Nat.lt_irrefl _),
    Text.Utf8.decode_encode]
  simp

/-- A message that is short enough is read where it was written, whatever follows it. -/
theorem read_encode (short : message.utf8ByteSize ≤ maxLength) :
    read ended (encode message ++ rest) = .message message rest := by
  have within : (Text.Utf8.encode message.toList).length ≤ maxLength := by
    rw [Text.Utf8.length_encode, String.ofList_toList]
    exact short
  generalize lengthIs : (Text.Utf8.encode message.toList).length = n at within
  have line : Text.Utf8.encode (lengthLine n ++ ['\r', '\n']) =
      (Text.Utf8.encode (lengthLine n) ++ [13]) ++ [10] := by
    rw [Text.Utf8.encode_append, List.append_assoc]
    rfl
  have bytes : encode message ++ rest = (Text.Utf8.encode (lengthLine n) ++ [13]) ++
      10 :: ([13] ++ 10 :: (Text.Utf8.encode message.toList ++ rest)) := by
    rw [encode, frame_toList, lengthIs, Text.Utf8.encode_append, line, Text.Utf8.encode_append]
    simp [Text.Utf8.encode, Text.Utf8.encodeChar]
  have plain : ∀ b ∈ Text.Utf8.encode (lengthLine n) ++ [13], b ≠ 10 := by
    intro b mem
    rcases List.mem_append.1 mem with mem | mem
    · exact lengthLine_plain n b mem
    · rw [List.mem_singleton.1 mem]
      decide
  have line₁ : splitLine (encode message ++ rest) =
      some (Text.Utf8.encode (lengthLine n ++ ['\r', '\n']),
        [13] ++ 10 :: (Text.Utf8.encode message.toList ++ rest)) := by
    rw [bytes, splitLine_newline plain, line]
  have line₂ : splitLine ([13] ++ 10 :: (Text.Utf8.encode message.toList ++ rest)) =
      some ([13, 10], Text.Utf8.encode message.toList ++ rest) :=
    splitLine_newline (List.forall_mem_singleton.2 (by decide))
  have header : ¬(Text.Utf8.encode (lengthLine n ++ ['\r', '\n']) = [10] ||
      Text.Utf8.encode (lengthLine n ++ ['\r', '\n']) = [13, 10]) = true := by
    have long : 2 < (Text.Utf8.encode (lengthLine n ++ ['\r', '\n'])).length := by
      rw [line, encode_lengthLine, lengthLine, lengthHeader_chars]
      simp
    intro blank
    simp only [Bool.or_eq_true, decide_eq_true_eq] at blank
    rcases blank with blank | blank <;> simp [blank] at long
  rw [read, readHeaders_line line₁, if_neg header, readHeader_lengthLine within]
  dsimp only
  rw [readHeaders_line line₂, if_pos (by decide), if_pos rfl, ← lengthIs]
  exact readBody_encode (lengthIs ▸ within)

/-! ## Any number of messages -/

/-- What is read of messages written one after another are those messages, and nothing else. -/
theorem passes_encode {messages : List String} (short : ∀ m ∈ messages, m.utf8ByteSize ≤ maxLength) :
    Passes (messages.flatMap encode ++ rest) messages rest := by
  induction messages with
  | nil => exact .nil rest
  | cons message messages ih =>
    have others := ih fun m mem => short m (List.mem_cons_of_mem _ mem)
    rw [List.flatMap_cons, List.append_assoc]
    exact .cons (read_encode (short message List.mem_cons_self)) others

/-- At the end of a stream of messages the reader finds that it has ended. -/
theorem read_nil : read true [] = .ended := by
  rw [read, readHeaders]
  rfl

/-- Whatever texts are written, each within the limit, reading on and on gives exactly those, in
order, and then the end of the stream. Nothing of it has to wait for what comes later. -/
theorem readAll_encode (messages : List String)
    (short : ∀ m ∈ messages, m.utf8ByteSize ≤ 104857600) :
    Passes (messages.flatMap encode) messages [] ∧ read true [] = .ended ∧
      readAll (messages.flatMap encode) = (messages, none) := by
  have passes : Passes (messages.flatMap encode) messages [] := by
    have : Passes (messages.flatMap encode ++ []) messages [] := passes_encode short
    rwa [List.append_nil] at this
  refine ⟨passes, read_nil, ?_⟩
  rw [passes.readAll, readAll_of_ended read_nil, List.append_nil]

/-- A message that looks like the header of another one, an empty one and one whose characters are
of every width. -/
theorem readAll_encode_lookalike :
    (∀ m ∈ ["Content-Length: 3\r\n\r\nabc\n", "", "aé→𝄞"], m.utf8ByteSize ≤ 104857600) ∧
      readAll (["Content-Length: 3\r\n\r\nabc\n", "", "aé→𝄞"].flatMap encode) =
        (["Content-Length: 3\r\n\r\nabc\n", "", "aé→𝄞"], none) := by
  have short : ∀ m ∈ ["Content-Length: 3\r\n\r\nabc\n", "", "aé→𝄞"],
      m.utf8ByteSize ≤ 104857600 := by
    decide
  exact ⟨short, (readAll_encode _ short).2.2⟩

end Framing

end DebugSession
