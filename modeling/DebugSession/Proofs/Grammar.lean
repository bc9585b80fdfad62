import DebugSession.Proofs.Numerals
import DebugSession.Proofs.Streams
import DebugSession.Proofs.Utf8
/-!
The grammar of a stream of messages. A message is read exactly where the grammar has one, and
nothing behind it is taken; so what is read of a stream and of what follows it can be put together
from what is read of either.
-/

namespace DebugSession.Framing

variable {ended seen : Bool} {length : Option Nat} {bytes more rest line : Bytes} {text : String}
  {headers : List (List Char)} {n : Nat}

/-! ## Lines -/

/-- A line ends with a line feed and has no other. -/
def IsLine (line : Bytes) : Prop := ∃ front, line = front ++ [10] ∧ ∀ b ∈ front, b ≠ 10

def IsBlank (line : Bytes) : Prop := line = [10] ∨ line = [13, 10]

theorem IsBlank.isLine (h : IsBlank line) : IsLine line := by
  rcases h with rfl | rfl
  · exact ⟨[], rfl, nofun⟩
  · exact ⟨[13], rfl, List.forall_mem_singleton.2 (by decide)⟩

theorem splitLine_eq_some_iff :
    splitLine bytes = some (line, rest) ↔ IsLine line ∧ bytes = line ++ rest := by
  constructor
  · intro found
    induction bytes generalizing line with
    | nil => cases found
    | cons b bytes ih =>
      rw [splitLine] at found
      split at found
      · rename_i newline
        obtain ⟨rfl, rfl⟩ := Prod.mk.inj (Option.some.inj found)
        exact ⟨⟨[], by rw [newline]; rfl, List.forall_mem_nil _⟩, rfl⟩
      · rename_i other
        obtain ⟨⟨line', rest'⟩, found', same⟩ := Option.map_eq_some_iff.1 found
        obtain ⟨rfl, rfl⟩ := Prod.mk.inj same
        obtain ⟨⟨front, rfl, plain⟩, rfl⟩ := ih found'
        exact ⟨⟨b :: front, rfl, List.forall_mem_cons.2 ⟨other, plain⟩⟩, rfl⟩
  · rintro ⟨⟨front, rfl, plain⟩, rfl⟩
    rw [List.append_assoc]
    exact splitLine_newline plain

/-! ## Headers -/

/-- A header is a line of text that is not blank. -/
structure IsHeader (header : List Char) : Prop where
  line : IsLine (Text.Utf8.encode header)
  filled : ¬ IsBlank (Text.Utf8.encode header)

/-- What a header has in the place of the length, if that is the header for it. -/
def Gives (header value : List Char) : Prop :=
  ∃ behind, Text.trim header = lengthHeader ++ behind ∧ value = Text.trim behind

/-- Whatever is given as a length is a number of 64 bits. -/
def Sized (headers : List (List Char)) : Prop :=
  ∀ h ∈ headers, ∀ v, Gives h v → ∃ m, Number.Numeral v m ∧ m ≤ Number.maxUnsigned 64

/-- No header gives a length. -/
def Silent (headers : List (List Char)) : Prop := ∀ h ∈ headers, ∀ v, ¬ Gives h v

/-- Of the headers that give a length, the last one gives this one. -/
def Last (headers : List (List Char)) (n : Nat) : Prop :=
  ∃ before h after v, headers = before ++ h :: after ∧ Gives h v ∧ Number.Numeral v n ∧
    Silent after

/-! ## Messages -/

/-- A message as it may stand in a stream. -/
structure Framed where
  blanks : List Bytes
  headers : List (List Char)
  stop : Bytes
  text : String
  blank : ∀ line ∈ blanks, IsBlank line
  header : ∀ h ∈ headers, IsHeader h
  stops : IsBlank stop
  sized : Sized headers
  last : Last headers (Text.Utf8.encode text.toList).length
  short : (Text.Utf8.encode text.toList).length ≤ 104857600

def Framed.written (m : Framed) : Bytes :=
  m.blanks.flatten ++ (m.headers.flatMap Text.Utf8.encode ++
    (m.stop ++ Text.Utf8.encode m.text.toList))

/-! ## What headers say -/

private theorem Gives.unique {header v w : List Char} (h : Gives header v) (h' : Gives header w) :
    v = w := by
  obtain ⟨behind, same, rfl⟩ := h
  obtain ⟨behind', same', rfl⟩ := h'
  rw [List.append_cancel_left (same.symm.trans same')]

private theorem readHeader_of_gives {header value : List Char} (gives : Gives header value) :
    readHeader length (Text.Utf8.encode header) =
      match Number.readNatUpTo (Number.maxUnsigned 64) value with
      | some n => .ok (some n)
      | none => .error (.protocol ("Invalid Content-Length: " ++ String.ofList value)) := by
  obtain ⟨behind, same, rfl⟩ := gives
  unfold readHeader
  rw [Text.Utf8.decode_encode]
  dsimp only
  split
  · rename_i missing
    exact nomatch missing.symm.trans (Text.after?_eq_some_iff.2 same)
  · rename_i found
    obtain rfl := Option.some.inj (found.symm.trans (Text.after?_eq_some_iff.2 same))
    rfl

private theorem readHeader_of_other {header : List Char} (other : ∀ v, ¬ Gives header v) :
    readHeader length (Text.Utf8.encode header) = .ok length := by
  have none : Text.after? lengthHeader (Text.trim header) = none := by
    refine Option.eq_none_iff_forall_ne_some.2 fun behind found => ?_
    exact other _ ⟨behind, Text.after?_eq_some_iff.1 found, rfl⟩
  unfold readHeader
  rw [Text.Utf8.decode_encode]
  dsimp only
  rw [none]

private theorem readHeader_encode_iff {header : List Char} {length' : Option Nat} :
    readHeader length (Text.Utf8.encode header) = .ok length' ↔
      (∀ v, ¬ Gives header v) ∧ length' = length ∨
        ∃ v n, Gives header v ∧ Number.Numeral v n ∧ n ≤ Number.maxUnsigned 64 ∧
          length' = some n := by
  by_cases given : ∃ v, Gives header v
  · obtain ⟨v, gives⟩ := given
    rw [readHeader_of_gives gives]
    constructor
    · intro same
      split at same
      · rename_i n number
        obtain ⟨numeral, within⟩ := Number.readNatUpTo_eq_some_iff.1 number
        exact .inr ⟨v, n, gives, numeral, within, (Except.ok.inj same).symm⟩
      · cases same
    · rintro (⟨other, -⟩ | ⟨w, n, gives', numeral, within, rfl⟩)
      · exact absurd gives (other v)
      · obtain rfl := gives.unique gives'
        rw [Number.readNatUpTo_eq_some_iff.2 ⟨numeral, within⟩]
  · have other := not_exists.1 given
    rw [readHeader_of_other other]
    constructor
    · exact fun same => .inl ⟨other, (Except.ok.inj same).symm⟩
    · rintro (⟨-, rfl⟩ | ⟨v, n, gives, -⟩)
      · rfl
      · exact absurd gives (other v)

/-- Only text is accepted as a header. -/
private theorem text_of_readHeader {length' : Option Nat}
    (known : readHeader length line = .ok length') : ∃ header, line = Text.Utf8.encode header := by
  unfold readHeader at known
  split at known
  · cases known
  · rename_i header read
    exact ⟨header, Text.Utf8.decode_eq_ok_iff.1 read⟩

/-- What headers say of the length in the end, when `length` was said before them. -/
private inductive Says : Option Nat → List (List Char) → Option Nat → Prop
  | nil (length : Option Nat) : Says length [] length
  | cons {length length' length'' : Option Nat} {header : List Char} {headers : List (List Char)}
    (first : readHeader length (Text.Utf8.encode header) = .ok length')
    (others : Says length' headers length'') : Says length (header :: headers) length''

private theorem last_cons_iff {header : List Char} : Last (header :: headers) n ↔
    Last headers n ∨ Silent headers ∧ ∃ v, Gives header v ∧ Number.Numeral v n := by
  constructor
  · rintro ⟨before, h, after, v, split, gives, numeral, silent⟩
    rcases List.cons_eq_append_iff.1 split with ⟨rfl, same⟩ | ⟨before', rfl, rfl⟩
    · obtain ⟨rfl, rfl⟩ := List.cons.inj same
      exact .inr ⟨silent, v, gives, numeral⟩
    · exact .inl ⟨before', h, after, v, rfl, gives, numeral, silent⟩
  · rintro (⟨before, h, after, v, rfl, gives, numeral, silent⟩ | ⟨silent, v, gives, numeral⟩)
    · exact ⟨header :: before, h, after, v, rfl, gives, numeral, silent⟩
    · exact ⟨[], header, headers, v, rfl, gives, numeral, silent⟩

private theorem says_iff {length' : Option Nat} : Says length headers length' ↔
    Sized headers ∧
      (Silent headers ∧ length' = length ∨ ∃ n, length' = some n ∧ Last headers n) := by
  induction headers generalizing length with
  | nil =>
    constructor
    · intro told
      cases told
      exact ⟨nofun, .inl ⟨nofun, rfl⟩⟩
    · rintro ⟨-, ⟨-, rfl⟩ | ⟨n, -, before, h, after, v, split, -⟩⟩
      · exact .nil _
      · simp at split
  | cons header headers ih =>
    constructor
    · intro told
      cases told with
      | cons first others =>
      obtain ⟨sized, rest⟩ := ih.1 others
      rcases readHeader_encode_iff.1 first with ⟨other, rfl⟩ | ⟨v, n, gives, numeral, within, rfl⟩
      · refine ⟨List.forall_mem_cons.2 ⟨fun v gives => absurd gives (other v), sized⟩, ?_⟩
        rcases rest with ⟨silent, rfl⟩ | ⟨n, rfl, last⟩
        · exact .inl ⟨List.forall_mem_cons.2 ⟨other, silent⟩, rfl⟩
        · exact .inr ⟨n, rfl, last_cons_iff.2 (.inl last)⟩
      · refine ⟨List.forall_mem_cons.2 ⟨fun w gives' => ?_, sized⟩, .inr ?_⟩
        · exact gives.unique gives' ▸ ⟨n, numeral, within⟩
        · rcases rest with ⟨silent, rfl⟩ | ⟨m, rfl, last⟩
          · exact ⟨n, rfl, last_cons_iff.2 (.inr ⟨silent, v, gives, numeral⟩)⟩
          · exact ⟨m, rfl, last_cons_iff.2 (.inl last)⟩
    · rintro ⟨sized, rest⟩
      obtain ⟨sizedFirst, sizedRest⟩ := List.forall_mem_cons.1 sized
      by_cases given : ∃ v, Gives header v
      · obtain ⟨v, gives⟩ := given
        obtain ⟨m, numeral, within⟩ := sizedFirst v gives
        refine .cons (readHeader_encode_iff.2 (.inr ⟨v, m, gives, numeral, within, rfl⟩))
          (ih.2 ⟨sizedRest, ?_⟩)
        rcases rest with ⟨silent, -⟩ | ⟨n, rfl, last⟩
        · exact absurd gives (silent header List.mem_cons_self v)
        · rcases last_cons_iff.1 last with last | ⟨silent, w, gives', numeral'⟩
          · exact .inr ⟨n, rfl, last⟩
          · obtain rfl := gives.unique gives'
            exact .inl ⟨silent, congrArg some (numeral'.unique numeral)⟩
      · have other := not_exists.1 given
        refine .cons (readHeader_encode_iff.2 (.inl ⟨other, rfl⟩)) (ih.2 ⟨sizedRest, ?_⟩)
        rcases rest with ⟨silent, rfl⟩ | ⟨n, rfl, last⟩
        · exact .inl ⟨(List.forall_mem_cons.1 silent).2, rfl⟩
        · rcases last_cons_iff.1 last with last | ⟨-, v, gives, -⟩
          · exact .inr ⟨n, rfl, last⟩
          · exact absurd gives (other v)

private theorem says_some_iff : Says none headers (some n) ↔ Sized headers ∧ Last headers n := by
  rw [says_iff]
  constructor
  · rintro ⟨sized, ⟨-, same⟩ | ⟨m, same, last⟩⟩
    · cases same
    · exact ⟨sized, Option.some.inj same ▸ last⟩
  · exact fun ⟨sized, last⟩ => ⟨sized, .inr ⟨n, rfl, last⟩⟩

/-! ## What is read -/

private theorem readBody_eq_message_iff : readBody ended length bytes = .message text rest ↔
    length = some (Text.Utf8.encode text.toList).length ∧
      (Text.Utf8.encode text.toList).length ≤ maxLength ∧
      bytes = Text.Utf8.encode text.toList ++ rest := by
  unfold readBody
  constructor
  · intro read
    split at read
    · cases read
    · rename_i n
      dsimp only at read
      split at read
      · cases read
      rename_i short
      split at read
      · split at read <;> cases read
      rename_i enough
      split at read
      · rename_i cs decoded
        obtain ⟨rfl, rfl⟩ := Reading.message.inj read
        have body : bytes.take n = Text.Utf8.encode cs := Text.Utf8.decode_eq_ok_iff.1 decoded
        have all : (Text.Utf8.encode cs).length = n := by
          rw [← body, List.length_take]
          rw [List.length_take] at enough
          omega
        rw [String.toList_ofList, all, ← body, List.take_append_drop]
        exact ⟨rfl, Nat.le_of_not_lt short, rfl⟩
      · cases read
  · rintro ⟨rfl, short, rfl⟩
    dsimp only
    rw [if_neg (Nat.not_lt.2 short), List.take_left, List.drop_left, if_neg (Nat.lt_irrefl _),
      Text.Utf8.decode_encode]
    simp

private theorem readHeaders_blank (blank : IsBlank line) :
    readHeaders ended seen length (line ++ rest) =
      if seen then readBody ended length rest else readHeaders ended false none rest := by
  rw [readHeaders_line (splitLine_eq_some_iff.2 ⟨blank.isLine, rfl⟩)]
  exact if_pos (by simpa [IsBlank] using blank)

private theorem readHeaders_filled (isLine : IsLine line) (filled : ¬ IsBlank line) :
    readHeaders ended seen length (line ++ rest) =
      match readHeader length line with
      | .ok length => readHeaders ended true length rest
      | .error e => .failed e := by
  rw [readHeaders_line (splitLine_eq_some_iff.2 ⟨isLine, rfl⟩)]
  exact if_neg (by simpa [IsBlank] using filled)

private theorem readHeaders_none (h : splitLine bytes = none) :
    readHeaders ended seen length bytes ≠ .message text rest := by
  rw [readHeaders]
  split
  · rename_i found
    cases h.symm.trans found
  · split
    · rintro ⟨⟩
    · split
      · split <;> rintro ⟨⟩
      · split <;> rintro ⟨⟩

/-- What is read behind a header: more headers, a blank line and the message. -/
private theorem readHeaders_seen_iff : readHeaders ended true length bytes = .message text rest ↔
    ∃ headers stop body length', (∀ h ∈ headers, IsHeader h) ∧ IsBlank stop ∧
      Says length headers length' ∧ bytes = headers.flatMap Text.Utf8.encode ++ (stop ++ body) ∧
      readBody ended length' body = .message text rest := by
  constructor
  · intro reading
    induction size : bytes.length using Nat.strongRecOn generalizing length bytes with
    | ind size ih =>
    subst size
    cases split : splitLine bytes with
    | none => exact absurd reading (readHeaders_none split)
    | some parts =>
      obtain ⟨line, after⟩ := parts
      obtain ⟨isLine, rfl⟩ := splitLine_eq_some_iff.1 split
      by_cases blank : IsBlank line
      · rw [readHeaders_blank blank] at reading
        exact ⟨[], line, after, length, nofun, blank, .nil length, rfl, reading⟩
      · rw [readHeaders_filled isLine blank] at reading
        cases known : readHeader length line with
        | error e =>
          rw [known] at reading
          cases reading
        | ok length₁ =>
          rw [known] at reading
          obtain ⟨header, rfl⟩ := text_of_readHeader known
          obtain ⟨headers, stop, body, length', all, stops, told, rfl, reading'⟩ :=
            ih _ (splitLine_length split) reading rfl
          refine ⟨header :: headers, stop, body, length',
            List.forall_mem_cons.2 ⟨⟨isLine, blank⟩, all⟩, stops, .cons known told, ?_, reading'⟩
          rw [List.flatMap_cons, List.append_assoc]
  · rintro ⟨headers, stop, body, length', all, stops, told, rfl, reading⟩
    induction told with
    | nil length =>
      rw [List.flatMap_nil, List.nil_append, readHeaders_blank stops]
      exact reading
    | cons first others ih =>
      obtain ⟨header, behind⟩ := List.forall_mem_cons.1 all
      rw [List.flatMap_cons, List.append_assoc, readHeaders_filled header.line header.filled,
        first]
      exact ih behind reading

/-- Blank lines before a message do not matter. -/
private theorem read_blanks {blanks : List Bytes} (all : ∀ line ∈ blanks, IsBlank line) :
    read ended (blanks.flatten ++ bytes) = read ended bytes := by
  induction blanks with
  | nil => rfl
  | cons line blanks ih =>
    obtain ⟨blank, others⟩ := List.forall_mem_cons.1 all
    rw [List.flatten_cons, List.append_assoc, read, readHeaders_blank blank,
      if_neg Bool.false_ne_true]
    exact ih others

/-- A stream begins with some blank lines, or none, and the line behind them is not blank. -/
private theorem exists_blanks (bytes : Bytes) : ∃ (blanks : List Bytes) (behind : Bytes),
    (∀ line ∈ blanks, IsBlank line) ∧ bytes = blanks.flatten ++ behind ∧
      ∀ line rest, splitLine behind = some (line, rest) → ¬ IsBlank line := by
  induction size : bytes.length using Nat.strongRecOn generalizing bytes with
  | ind size ih =>
  subst size
  by_cases begins : ∃ line rest, splitLine bytes = some (line, rest) ∧ IsBlank line
  · obtain ⟨line, rest, split, blank⟩ := begins
    obtain ⟨-, rfl⟩ := splitLine_eq_some_iff.1 split
    obtain ⟨blanks, behind, all, rfl, filled⟩ := ih _ (splitLine_length split) rest rfl
    refine ⟨line :: blanks, behind, List.forall_mem_cons.2 ⟨blank, all⟩, ?_, filled⟩
    rw [List.flatten_cons, List.append_assoc]
  · exact ⟨[], bytes, nofun, rfl, fun line rest split blank => begins ⟨line, rest, split, blank⟩⟩

/-- A message is read exactly where the stream has one that is framed like this, and the rest is
what comes behind it. -/
theorem read_eq_message_iff : read ended bytes = .message text rest ↔
    ∃ m : Framed, m.text = text ∧ bytes = m.written ++ rest := by
  constructor
  · intro reading
    obtain ⟨blanks, behind, blank, rfl, filled⟩ := exists_blanks bytes
    rw [read_blanks blank, read] at reading
    cases split : splitLine behind with
    | none => exact absurd reading (readHeaders_none split)
    | some parts =>
      obtain ⟨line, after⟩ := parts
      have begun := filled line after split
      obtain ⟨isLine, rfl⟩ := splitLine_eq_some_iff.1 split
      rw [readHeaders_filled isLine begun] at reading
      cases known : readHeader none line with
      | error e =>
        rw [known] at reading
        cases reading
      | ok length =>
        rw [known] at reading
        obtain ⟨header, rfl⟩ := text_of_readHeader known
        obtain ⟨headers, stop, body, length', all, stops, told, rfl, reading'⟩ :=
          readHeaders_seen_iff.1 reading
        obtain ⟨rfl, short, rfl⟩ := readBody_eq_message_iff.1 reading'
        obtain ⟨sized, last⟩ := says_some_iff.1 (.cons known told)
        refine ⟨{
          blanks, headers := header :: headers, stop, text, blank
          header := List.forall_mem_cons.2 ⟨⟨isLine, begun⟩, all⟩
          stops, sized, last, short }, rfl, ?_⟩
        simp only [Framed.written, List.flatMap_cons, List.append_assoc]
  · rintro ⟨⟨blanks, headers, stop, text, blank, header, stops, sized, last, short⟩, rfl, rfl⟩
    simp only [Framed.written, List.append_assoc]
    rw [read_blanks blank]
    cases says_some_iff.2 ⟨sized, last⟩ with
    | cons first others =>
      obtain ⟨isHeader, behind⟩ := List.forall_mem_cons.1 header
      rw [List.flatMap_cons, List.append_assoc, read,
        readHeaders_filled isHeader.line isHeader.filled, first]
      exact readHeaders_seen_iff.2 ⟨_, stop, _, _, behind, stops, others, rfl,
        readBody_eq_message_iff.2 ⟨rfl, short, rfl⟩⟩

private theorem readHeaders_seen_ne_ended (begun : seen = true) :
    readHeaders ended seen length bytes ≠ .ended := by
  fun_induction readHeaders ended seen length bytes with
  | case1 => exact readBody_ne_ended
  | case2 _ _ _ _ _ _ _ unseen => exact absurd begun unseen
  | case3 _ _ _ _ _ _ _ _ _ ih => exact ih rfl
  | case7 _ _ _ _ _ _ unseen => exact absurd begun unseen
  | _ => rintro ⟨⟩

/-- A stream ends between messages exactly if there are only blank lines left. -/
theorem read_eq_ended_iff : read true bytes = .ended ↔
    ∃ blanks : List Bytes, (∀ line ∈ blanks, IsBlank line) ∧ bytes = blanks.flatten := by
  constructor
  · intro reading
    obtain ⟨blanks, behind, all, rfl, filled⟩ := exists_blanks bytes
    rw [read_blanks all, read] at reading
    cases split : splitLine behind with
    | none =>
      rw [readHeaders] at reading
      split at reading
      · rename_i found
        cases split.symm.trans found
      · split at reading
        · cases reading
        · split at reading
          · rename_i empty
            exact ⟨blanks, all, by rw [List.isEmpty_iff.1 empty, List.append_nil]⟩
          · split at reading <;> cases reading
    | some parts =>
      obtain ⟨line, after⟩ := parts
      have begun := filled line after split
      obtain ⟨isLine, rfl⟩ := splitLine_eq_some_iff.1 split
      rw [readHeaders_filled isLine begun] at reading
      split at reading
      · exact absurd reading (readHeaders_seen_ne_ended rfl)
      · cases reading
  · rintro ⟨blanks, all, rfl⟩
    rw [← List.append_nil blanks.flatten, read_blanks all, read, readHeaders]
    rfl

/-! ## A whole stream -/

/-- The first message, or what there is instead, decides what is read in all. -/
private theorem readAll_congr {bytes bytes' : Bytes} (same : read true bytes = read true bytes') :
    readAll bytes = readAll bytes' := by
  cases next : read true bytes' with
  | message text rest => rw [readAll_message next, readAll_message (same.trans next)]
  | failed e => rw [readAll_of_failed next, readAll_of_failed (same.trans next)]
  | ended => rw [readAll_of_ended next, readAll_of_ended (same.trans next)]
  | incomplete => exact absurd next read_ended

/-- Blank lines before a stream do not matter. -/
theorem readAll_blanks {blanks : List Bytes} (all : ∀ line ∈ blanks, IsBlank line) :
    readAll (blanks.flatten ++ more) = readAll more := readAll_congr (read_blanks all)

/-- A stream holds some messages, and then it ends or there is something that is no message. -/
theorem passes_readAll (bytes : Bytes) : ∃ rest, Passes bytes (readAll bytes).1 rest ∧
    (readAll bytes).1.length ≤ bytes.length ∧
    (read true rest = .ended ∧ (readAll bytes).2 = none ∨
      ∃ e, read true rest = .failed e ∧ (readAll bytes).2 = some e) := by
  induction size : bytes.length using Nat.strongRecOn generalizing bytes with
  | ind size ih =>
  subst size
  cases next : read true bytes with
  | message text after =>
    have shorter : after.length < bytes.length := readHeaders_length next
    obtain ⟨rest, passes, few, last⟩ := ih _ shorter after rfl
    rw [readAll_message next]
    exact ⟨rest, .cons (read_message next) passes, Nat.lt_of_le_of_lt few shorter, last⟩
  | failed e =>
    rw [readAll_of_failed next]
    exact ⟨bytes, .nil bytes, Nat.zero_le _, .inr ⟨e, next, rfl⟩⟩
  | ended =>
    rw [readAll_of_ended next]
    exact ⟨bytes, .nil bytes, Nat.zero_le _, .inl ⟨next, rfl⟩⟩
  | incomplete => exact absurd next read_ended

/-- What is read of a stream that ends between messages is read of it whatever follows, and then
what is read of that alone. -/
theorem readAll_append {texts : List String} (whole : readAll bytes = (texts, none)) :
    readAll (bytes ++ more) = (texts ++ (readAll more).1, (readAll more).2) := by
  obtain ⟨rest, passes, -, ⟨ends, -⟩ | ⟨e, -, failed⟩⟩ := passes_readAll bytes
  · obtain ⟨blanks, all, rfl⟩ := read_eq_ended_iff.1 ends
    rw [passes.append.readAll, readAll_blanks all, whole]
  · rw [whole] at failed
    cases failed

/-- A reader takes from a stream the messages that the grammar has in it, one after the other, and
exactly their bytes; what follows a stream that has come to its end is read as if it were alone; and
any stream comes to its end, or to an error, after no more messages than it has bytes. -/
theorem readAll_grammar :
    (∀ s t texts, readAll s = (texts, none) →
      readAll (s ++ t) = (texts ++ (readAll t).1, (readAll t).2)) ∧
    (∀ ended bytes text rest, read ended bytes = .message text rest ↔
      ∃ m : Framed, m.text = text ∧ bytes = m.written ++ rest) ∧
    ∀ bytes, ∃ texts rest, Passes bytes texts rest ∧ texts.length ≤ bytes.length ∧
      ((∃ blanks : List Bytes, (∀ line ∈ blanks, IsBlank line) ∧ rest = blanks.flatten) ∧
          readAll bytes = (texts, none) ∨
        ∃ e, read true rest = .failed e ∧ readAll bytes = (texts, some e)) := by
  refine ⟨fun s t texts => readAll_append, fun _ _ _ _ => read_eq_message_iff, fun bytes => ?_⟩
  obtain ⟨rest, passes, few, last⟩ := passes_readAll bytes
  refine ⟨_, rest, passes, few, ?_⟩
  rcases last with ⟨ends, whole⟩ | ⟨e, failed, stopped⟩
  · exact .inl ⟨read_eq_ended_iff.1 ends, Prod.ext rfl whole⟩
  · exact .inr ⟨e, failed, Prod.ext rfl stopped⟩

/-- A blank line, a message with two headers for its length and one more blank line, and then half
a header. -/
theorem readAll_grammar_two_lengths :
    let stream := Text.Utf8.encode "\nContent-Length: 7\r\nContent-Length: +4\n\r\na→\r\n".toList
    let half := Text.Utf8.encode "Content-".toList
    readAll stream = (["a→"], none) ∧
      readAll (stream ++ half) = (["a→"], some (.protocol "Stream ended inside headers")) ∧
      ∃ m : Framed, m.text = "a→" ∧ stream = m.written ++ [13, 10] := by
  intro stream half
  have whole : readAll stream = (["a→"], none) := by decide +kernel
  have rest : readAll half = ([], some (.protocol "Stream ended inside headers")) := by
    decide +kernel
  have first : read true stream = .message "a→" [13, 10] := by decide +kernel
  have both : readAll (stream ++ half) = (["a→"] ++ (readAll half).1, (readAll half).2) :=
    readAll_grammar.1 stream half _ whole
  rw [rest] at both
  exact ⟨whole, both, (readAll_grammar.2.1 true stream _ _).1 first⟩

end DebugSession.Framing
