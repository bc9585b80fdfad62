import DebugSession.Proofs.Integers
/-!
Values as the variables view shows them, typed back into it. A number with a minus sign is read by
its magnitude, but in hexadecimal it is shown by its bits; a character is shown by its escape, but
read as it stands. So not every value that is shown can be typed back.
-/

namespace DebugSession

namespace Number

variable {radix : Nat} {cs : List Char}

private theorem not_digit_of_blank : ∀ k < 128, Text.isBlank (Char.ofNat k) = true →
    digit? 16 (Char.ofNat k) = none := by
  decide +kernel

theorem Written.not_blank {n : Nat} (h : Written radix cs n) (base : radix ≤ 16) {c : Char}
    (mem : c ∈ cs) : Text.isBlank c = false := by
  obtain ⟨d, digit⟩ := h.isDigit mem
  have read : digit? 16 c = some d :=
    (digit?_eq_some_iff (by decide)).2 ⟨by have := digit.1; omega, digit.2⟩
  rw [Bool.eq_false_iff]
  intro blank
  have none := not_digit_of_blank c.toNat (digit.ascii base)
  rw [Char.ofNat_toNat] at none
  exact nomatch read.symm.trans (none blank)

/-- Digits are read as the number they are the digits of, if it has 64 bits. -/
theorem readInt64_toDigits (above : 1 < radix) (base : radix ≤ 16) (n : Nat) :
    readInt64 radix (Nat.toDigits radix n) = (some (n : Int)).filter (fitsSigned 64) := by
  have written : Written radix (Nat.toDigits radix n) n := written_toDigits above base
  have read := (readDigits_eq_some_iff base).2 written
  unfold readInt64
  split
  · rename_i text
    exact absurd (written.digits base (text ▸ List.mem_cons_self)) (by decide)
  · rename_i text
    exact absurd (written.digits base (text ▸ List.mem_cons_self)) (by decide)
  · rw [read]
    rfl

end Number

namespace Value

open Number

variable {signature text : String} {bits : Nat} {n : Int} {value : Value} {o : FormatOptions}

/-! ## Whole numbers -/

theorem readMagnitude_decimal (n : Nat) :
    readMagnitude (Nat.toDigits 10 n) = (some (n : Int)).filter (fitsSigned 64) := by
  have read : readInt64 10 (Nat.toDigits 10 n) = (some (n : Int)).filter (fitsSigned 64) :=
    readInt64_toDigits (by decide) (by decide) n
  rw [← read]
  have written : Written 10 (Nat.toDigits 10 n) n := written_toDigits (by decide) (by decide)
  unfold readMagnitude
  split
  · rename_i text
    exact absurd (written.digits (c := 'x') (by decide) (by simp [text])) (by decide)
  · rename_i text
    exact absurd (written.digits (c := 'X') (by decide) (by simp [text])) (by decide)
  · rfl

theorem readMagnitude_hexadecimal (n : Nat) :
    readMagnitude ('0' :: 'x' :: Nat.toDigits 16 n) = (some (n : Int)).filter (fitsSigned 64) :=
  readInt64_toDigits (by decide) (by decide) n

/-- The characters in which a whole number is shown. -/
def spelled (o : FormatOptions) (bits : Nat) (n : Int) : List Char :=
  if o.hex then '0' :: 'x' :: Nat.toDigits 16 (n % twoPow bits).toNat
  else if n < 0 then '-' :: Nat.toDigits 10 n.natAbs
  else Nat.toDigits 10 n.natAbs

theorem formatWhole_toList : (formatWhole o bits n).toList = spelled o bits n := by
  rw [formatWhole, spelled]
  by_cases hex : o.hex = true
  · have base : "0x".toList = ['0', 'x'] := by decide
    simp [hex, base, Text.hexDigits]
  · rw [if_neg hex, if_neg hex]
    have sign : "-".toList = ['-'] := by decide
    cases n with
    | ofNat m => simp [renderInt]
    | negSucc m => simp [renderInt, sign, Int.negSucc_lt_zero]

/-- What is shown of a whole number starts with a digit or a minus sign and ends in a digit. -/
private theorem spelled_ends : (∀ c, (spelled o bits n).head? = some c → Text.isBlank c = false) ∧
    ∀ c, (spelled o bits n).getLast? = some c → Text.isBlank c = false ∧ c ≠ 'L' ∧ c ≠ 'l' := by
  have written : ∀ radix ∈ [10, 16], ∀ m, Written radix (Nat.toDigits radix m) m ∧ radix ≤ 16 := by
    intro radix mem m
    have base : 1 < radix ∧ radix ≤ 16 := by
      revert radix
      decide
    exact ⟨written_toDigits base.1 base.2, base.2⟩
  have ends : ∃ front ∈ [[], ['-'], ['0', 'x']], ∃ radix ∈ [10, 16], ∃ m,
      spelled o bits n = front ++ Nat.toDigits radix m := by
    rw [spelled]
    split
    · exact ⟨['0', 'x'], by simp, 16, by simp, _, rfl⟩
    · split
      · exact ⟨['-'], by simp, 10, by simp, _, rfl⟩
      · exact ⟨[], by simp, 10, by simp, _, rfl⟩
  obtain ⟨front, isFront, radix, isBase, m, parts⟩ := ends
  obtain ⟨digits, base⟩ := written radix isBase m
  rw [parts]
  constructor
  · intro c first
    rw [List.head?_append, Option.or_eq_some_iff] at first
    rcases first with first | ⟨-, first⟩
    · have front : ∀ front ∈ [[], ['-'], ['0', 'x']], ∀ c, List.head? front = some c →
          Text.isBlank c = false := by simp; decide
      exact front _ isFront c first
    · exact digits.not_blank base (List.mem_of_head? first)
  · intro c last
    rw [List.getLast?_append, Option.or_of_isSome (by simp [digits.ne_nil])] at last
    have mem := List.mem_of_getLast? last
    have other := digits.digits base mem
    refine ⟨digits.not_blank base mem, ?_, ?_⟩ <;> rintro rfl <;> exact absurd other (by decide)

private theorem trim_spelled : Text.trim (spelled o bits n) = spelled o bits n :=
  Text.trim_eq_self spelled_ends.1 fun c last => (spelled_ends.2 c last).1

private theorem unmarked_spelled : unmarked signature (spelled o bits n) = spelled o bits n := by
  rw [unmarked]
  split
  · refine Text.dropEndWhile_eq_self fun c last => ?_
    have other := (spelled_ends.2 c last).2
    simp [other]
  · rfl

/-- Without a minus sign, every number of the width is read. -/
private theorem readSigned_unsigned {cs : List Char} {m : Nat}
    (whole : wholeBits? signature = some bits) (other : ∀ rest, cs ≠ '-' :: rest)
    (read : readMagnitude cs = (some (m : Int)).filter (fitsSigned 64)) :
    readSigned bits cs = (some (m : Int)).filter (fitsSigned bits) := by
  have plain : readWhole cs = (readMagnitude cs).map Int64.ofInt := by
    unfold readWhole
    split
    · exact absurd rfl (other _)
    · rfl
  rw [readSigned, plain, read]
  by_cases fits : fitsSigned 64 m = true
  · simp [Option.filter, fits, toInt_ofInt_of_fits fits]
  · have narrow : ¬ fitsSigned bits m = true := fun h => fits (fits_sixtyFour whole h)
    simp [Option.filter, fits, narrow]

/-- Behind a minus sign, the numbers of the width are read whose magnitude has 64 bits. -/
private theorem readSigned_negative (bits m : Nat) :
    readSigned bits ('-' :: Nat.toDigits 10 m) =
      (some (-(m : Int))).filter fun n => fitsSigned 64 m && fitsSigned bits n := by
  have negated : readWhole ('-' :: Nat.toDigits 10 m) =
      (readMagnitude (Nat.toDigits 10 m)).map fun n => -(Int64.ofInt n) := rfl
  rw [readSigned, negated, readMagnitude_decimal]
  by_cases fits : fitsSigned 64 m = true
  · have least : (m : Int) ≠ minSigned 64 := by
      have below : minSigned 64 < 0 := by decide
      omega
    simp [Option.filter, fits, toInt_neg_ofInt fits least]
  · simp [Option.filter, fits]

/-- What is shown of a whole number is read as this number or refused: in hexadecimal where it is
negative, in decimal where it is the smallest of all. -/
theorem readSigned_spelled (whole : wholeBits? signature = some bits)
    (fits : fitsSigned bits n = true) : readSigned bits (spelled o bits n) =
      if (if o.hex then 0 ≤ n else minSigned 64 < n) then some n else none := by
  obtain ⟨double, most⟩ := twoPow_whole whole
  have least : minSigned 64 = -(twoPow (64 - 1) : Int) := rfl
  have range := fitsSigned_iff.1 fits
  have signless : ∀ m rest, Nat.toDigits 10 m ≠ '-' :: rest := by
    intro m rest same
    have written : Written 10 (Nat.toDigits 10 m) m := written_toDigits (by decide) (by decide)
    exact absurd (written.digits (by decide) (same ▸ List.mem_cons_self)) (by decide)
  by_cases hex : o.hex = true
  · simp only [spelled, hex, if_true]
    rw [readSigned_unsigned whole (by simp) (readMagnitude_hexadecimal _)]
    by_cases negative : n < 0
    · -- The bits of a negative number are those of a number that is too large.
      have bitsOf : ((n % twoPow bits).toNat : Int) = n + twoPow bits := by
        rw [← Int.add_emod_right, Int.emod_eq_of_lt (by omega) (by omega)]
        omega
      have wide : ¬ fitsSigned bits (n + twoPow bits) = true := by
        rw [fitsSigned_iff]
        omega
      simp [bitsOf, Option.filter, wide, show ¬ 0 ≤ n by omega]
    · have bitsOf : ((n % twoPow bits).toNat : Int) = n := by
        rw [Int.emod_eq_of_lt (by omega) (by omega)]
        omega
      simp [bitsOf, Option.filter, fits, show 0 ≤ n by omega]
  · simp only [spelled, hex]
    by_cases negative : n < 0
    · have magnitude : (n.natAbs : Int) = -n := by omega
      have narrow : fitsSigned 64 (-n) = true ↔ minSigned 64 < n := by
        rw [fitsSigned_iff, least]
        omega
      simp only [negative, if_true, Bool.false_eq_true, if_false]
      rw [readSigned_negative, magnitude, Int.neg_neg]
      by_cases least : minSigned 64 < n
      · simp [Option.filter, fits, narrow.2 least, least]
      · simp [Option.filter, fits, mt narrow.1 least, least]
    · have magnitude : (n.natAbs : Int) = n := by omega
      have above : minSigned 64 < n := by have := twoPow_pos (64 - 1); omega
      simp only [negative, Bool.false_eq_true, if_false]
      rw [readSigned_unsigned whole (signless _) (readMagnitude_decimal _), magnitude]
      simp [Option.filter, fits, above]

/-! ## Characters -/

/-- A character that is shown as it is. -/
def isPlain (c : Char) : Bool :=
  0x20 ≤ c.toNat && c.toNat < 0x7F && c ≠ '\'' && c ≠ '"' && c ≠ '\\'

theorem readChar_quoted (cs : List Char) :
    readChar ('\'' :: (cs ++ ['\''])) = match cs with
      | [c] => some c
      | _ => none := by
  have opened : Text.after? ['\''] ('\'' :: (cs ++ ['\''])) = some (cs ++ ['\'']) := by
    simp [Text.after?]
  have closed : Text.before? ['\''] (cs ++ ['\'']) = some cs := by
    simp [Text.before?]
  rw [readChar, opened, Option.bind_some, closed]
  rfl

theorem escapeChar_of_plain {c : Char} (plain : isPlain c = true) : Text.escapeChar c = [c] := by
  have other : ∀ d, isPlain d = false → c ≠ d := by
    rintro d special rfl
    exact nomatch plain.symm.trans special
  have ascii : 0x20 ≤ c.toNat ∧ c.toNat < 0x7F := by
    simp only [isPlain, Bool.and_eq_true, decide_eq_true_eq] at plain
    exact plain.1.1.1
  simp [Text.escapeChar, other '\t' (by decide), other '\r' (by decide), other '\n' (by decide),
    other '\'' (by decide), other '"' (by decide), other '\\' (by decide), ascii]

/-- An escape has more than one character. -/
theorem escapeChar_ne_singleton {c : Char} (special : isPlain c = false) (d : Char) :
    Text.escapeChar c ≠ [d] := by
  rw [Text.escapeChar]
  split_ifs with tab ret line mark ascii
  · simp
  · simp
  · simp
  · simp
  · simp_all [isPlain]
  · simp [Text.codePointEscape]

theorem readChar_escapeChar (c : Char) : readChar ('\'' :: (Text.escapeChar c ++ ['\''])) =
    if isPlain c then some c else none := by
  rw [readChar_quoted]
  by_cases plain : isPlain c = true
  · rw [escapeChar_of_plain plain, if_pos plain]
  · rw [if_neg plain]
    split
    · rename_i d same
      exact absurd same (escapeChar_ne_singleton (by simpa using plain) d)
    · rfl

/-! ## All values -/

/-- The signature of the type of a value that is no object, floating point numbers apart. -/
def signature? : Value → Option String
  | .boolean _ => some "Z"
  | .byte _ => some "B"
  | .short _ => some "S"
  | .int _ => some "I"
  | .long _ => some "J"
  | .char _ => some "C"
  | _ => none

/-- Whether what is shown of a value is read as this value. -/
def readsBack (o : FormatOptions) : Value → Bool
  | .char c => isPlain c
  | value =>
    match value.asInt? with
    | some n => if o.hex then 0 ≤ n else minSigned 64 < n
    | none => true

/-- How whole numbers are shown. -/
private structure ShownWhole (o : FormatOptions) (signature : String) (value : Value) (bits : Nat)
    (n : Int) : Prop where
  whole : wholeBits? signature = some bits
  fits : fitsSigned bits n = true
  same : value.asInt? = some n
  typed : value.fits signature = true
  shown : value.format? o = some (formatWhole o bits n)
  returns : value.readsBack o = true ↔ if o.hex then 0 ≤ n else minSigned 64 < n

/-- What is shown starts and ends without white space, so the type alone decides. -/
private theorem parse_shown (primitive : Signature.isPrimitive signature = true)
    (trimmed : Text.trim text.toList = text.toList)
    (read : readPrimitive signature text.toList = if value.readsBack o then some value else none) :
    parse text signature = if value.readsBack o then .ok value
      else .error (.setVariableFailed ("'" ++ text ++ "' is not a valid " ++
        Signature.typeName signature)) := by
  rw [parse_primitive primitive, Text.trimmed, trimmed, String.ofList_toList, read]
  by_cases returns : value.readsBack o = true
  · rw [if_pos returns, if_pos returns]
  · rw [if_neg returns, if_neg returns]

private theorem ShownWhole.read (h : ShownWhole o signature value bits n) :
    readPrimitive signature (spelled o bits n) =
      if value.readsBack o then some value else none := by
  have read := readSigned_spelled (o := o) h.whole h.fits
  by_cases returns : value.readsBack o = true
  · rw [if_pos (h.returns.1 returns)] at read
    rw [if_pos returns]
    refine (readPrimitive_whole h.whole).2 ⟨n, ?_, h.same, h.typed⟩
    rw [unmarked_spelled, read]
  · rw [if_neg (mt h.returns.2 returns)] at read
    rw [if_neg returns, Option.eq_none_iff_forall_ne_some]
    intro other found
    obtain ⟨m, held, -⟩ := (readPrimitive_whole h.whole).1 found
    rw [unmarked_spelled, read] at held
    cases held

private theorem ShownWhole.parse (h : ShownWhole o signature value bits n)
    (shown : value.format? o = some text) : Value.parse text signature =
      if value.readsBack o then .ok value
      else .error (.setVariableFailed ("'" ++ text ++ "' is not a valid " ++
        Signature.typeName signature)) := by
  obtain rfl := Option.some.inj (h.shown.symm.trans shown)
  refine parse_shown (isPrimitive_of_whole h.whole) ?_ ?_
  · rw [formatWhole_toList, trim_spelled]
  · rw [formatWhole_toList]
    exact h.read

private theorem returns_of_asInt? (same : value.asInt? = some n) (other : ∀ c, value ≠ .char c) :
    value.readsBack o = true ↔ if o.hex then 0 ≤ n else minSigned 64 < n := by
  cases value <;> simp_all [readsBack]

/-- What is shown of a truth value, a whole number or a character is read as this value, or refused
by the type: a negative number where it is shown in hexadecimal, the smallest number of 64 bits
where it is shown in decimal, and a character that is shown by an escape. -/
theorem parse_format (named : value.signature? = some signature)
    (shown : value.format? o = some text) : parse text signature =
      if value.readsBack o then .ok value
      else .error (.setVariableFailed ("'" ++ text ++ "' is not a valid " ++
        Signature.typeName signature)) := by
  cases value with
  | byte m =>
    cases named
    have fits : fitsSigned 8 m.toInt = true := fitsSigned_iff.2 ⟨m.le_toInt, m.toInt_lt⟩
    exact ShownWhole.parse ⟨rfl, fits, rfl, rfl, rfl, returns_of_asInt? rfl nofun⟩ shown
  | short m =>
    cases named
    have fits : fitsSigned 16 m.toInt = true := fitsSigned_iff.2 ⟨m.le_toInt, m.toInt_lt⟩
    exact ShownWhole.parse ⟨rfl, fits, rfl, rfl, rfl, returns_of_asInt? rfl nofun⟩ shown
  | int m =>
    cases named
    have fits : fitsSigned 32 m.toInt = true := fitsSigned_iff.2 ⟨m.le_toInt, m.toInt_lt⟩
    exact ShownWhole.parse ⟨rfl, fits, rfl, rfl, rfl, returns_of_asInt? rfl nofun⟩ shown
  | long m =>
    cases named
    exact ShownWhole.parse ⟨rfl, fits_long m, rfl, rfl, rfl, returns_of_asInt? rfl nofun⟩ shown
  | boolean b =>
    cases named
    cases shown
    cases b
    · have read : readPrimitive "Z" "false".toList = some (.boolean false) := by decide +kernel
      exact parse_shown rfl (by decide +kernel) (read.trans (if_pos rfl).symm)
    · have read : readPrimitive "Z" "true".toList = some (.boolean true) := by decide +kernel
      exact parse_shown rfl (by decide +kernel) (read.trans (if_pos rfl).symm)
  | char c =>
    cases named
    cases shown
    refine parse_shown rfl ?_ ?_ <;> rw [String.toList_ofList]
    · refine Text.trim_eq_self (fun d first => ?_) fun d last => ?_
      · obtain rfl := Option.some.inj first
        decide
      · rw [← List.cons_append, List.getLast?_concat] at last
        obtain rfl := Option.some.inj last
        decide
    · have read : readPrimitive "C" ('\'' :: (Text.escapeChar c ++ ['\''])) =
          (readChar ('\'' :: (Text.escapeChar c ++ ['\'']))).map .char := rfl
      rw [read, readChar_escapeChar, readsBack]
      by_cases plain : isPlain c = true
      · simp [plain]
      · simp [plain]
  | _ => cases named

theorem parse_format_smallest_byte : format? {} (.byte (-128)) = some "-128" ∧
    parse "-128" "B" = .ok (.byte (-128)) := by
  have named : (Value.byte (-128)).signature? = some "B" := rfl
  have shown : format? {} (.byte (-128)) = some "-128" := by decide +kernel
  exact ⟨shown, (parse_format named shown).trans (if_pos (by decide +kernel))⟩

/-- The smallest number, any negative number in hexadecimal and the end of a line are shown, but
what is shown is refused. -/
theorem smallest_long_refused :
    (format? {} (.long Int64.minValue) = some "-9223372036854775808" ∧
      parse "-9223372036854775808" "J" =
        .error (.setVariableFailed "'-9223372036854775808' is not a valid long")) ∧
    (format? { hex := true } (.int (-1)) = some "0xffffffff" ∧
      parse "0xffffffff" "I" = .error (.setVariableFailed "'0xffffffff' is not a valid int")) ∧
    (format? {} (.char '\n') = some "'\\n'" ∧
      parse "'\\n'" "C" = .error (.setVariableFailed "''\\n'' is not a valid char")) := by
  refine ⟨⟨?_, ?_⟩, ⟨?_, ?_⟩, ?_, ?_⟩ <;> decide +kernel

end Value
end DebugSession
