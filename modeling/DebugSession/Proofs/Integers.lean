import DebugSession.Variable.Format
import Mathlib.Data.List.Induction
import Mathlib.Data.List.TakeWhile
/-!
Whole numbers that a user types: which texts are read as one, and when the number that is read is
the one that the text denotes. The sign is looked for twice, in front of the base and behind it, so
a text may have two.
-/

namespace DebugSession

namespace Number

/-! ## Digits -/

/-- A digit of a base up to sixteen and its value. Letters may be in either case. -/
def IsDigit (radix : Nat) (c : Char) (d : Nat) : Prop := d < radix ∧ Nat.digitChar d = c.toLower

/-- One digit of a base or more, with their value. -/
inductive Written (radix : Nat) : List Char → Nat → Prop
  | one {c : Char} {d : Nat} (digit : IsDigit radix c d) : Written radix [c] d
  | more {cs : List Char} {n : Nat} {c : Char} {d : Nat} (front : Written radix cs n)
      (digit : IsDigit radix c d) : Written radix (cs ++ [c]) (n * radix + d)

/-- Digits of a base behind one sign or none. -/
inductive Signed (radix : Nat) : List Char → Int → Prop
  | unsigned {cs : List Char} {n : Nat} (digits : Written radix cs n) : Signed radix cs n
  | plus {cs : List Char} {n : Nat} (digits : Written radix cs n) : Signed radix ('+' :: cs) n
  | minus {cs : List Char} {n : Nat} (digits : Written radix cs n) : Signed radix ('-' :: cs) (-n)

def Signless (cs : List Char) : Prop := ∀ c ∈ cs, c ≠ '+' ∧ c ≠ '-'

variable {radix d n : Nat} {m : Int} {c : Char} {cs : List Char}

private theorem digit?_of_ascii : ∀ k < 128, ∀ d < 16,
    digit? 16 (Char.ofNat k) = some d ↔ Nat.digitChar d = (Char.ofNat k).toLower := by
  decide +kernel

private theorem ascii_of_digit? (h : digit? radix c = some d) : c.toNat < 128 := by
  obtain ⟨found, -⟩ := Option.filter_eq_some_iff.1 h
  have below : ∀ {high : Char}, c ≤ high → c.toNat ≤ high.toNat := fun h => h
  have nine : '9'.toNat = 57 := by decide
  have lower : 'z'.toNat = 122 := by decide
  have upper : 'Z'.toNat = 90 := by decide
  simp only [Bool.and_eq_true, decide_eq_true_eq] at found
  split at found
  · rename_i digit
    have := below digit.2
    omega
  · split at found
    · rename_i letter
      have := below letter.2
      omega
    · split at found
      · rename_i letter
        have := below letter.2
        omega
      · cases found

private theorem digitChar_ascii : ∀ d < 16, (Nat.digitChar d).toNat < 128 := by decide

theorem IsDigit.ascii (h : IsDigit radix c d) (base : radix ≤ 16) : c.toNat < 128 := by
  have ascii : (Nat.digitChar d).toNat < 128 := digitChar_ascii d (by have := h.1; omega)
  by_cases upper : c.val ≥ 'A'.val ∧ c.val ≤ 'Z'.val
  · have last : c.toNat ≤ 'Z'.toNat := upper.2
    have code : 'Z'.toNat = 90 := by decide
    omega
  · have lower : c.toLower = c := dif_neg upper
    rwa [h.2, lower] at ascii

theorem digit?_eq_some_iff (base : radix ≤ 16) : digit? radix c = some d ↔ IsDigit radix c d := by
  have narrow : digit? radix c = some d ↔ d < radix ∧ digit? 16 c = some d := by
    simp only [digit?, Option.filter_eq_some_iff, decide_eq_true_eq]
    constructor
    · exact fun ⟨found, below⟩ => ⟨below, found, by omega⟩
    · exact fun ⟨below, found, _⟩ => ⟨found, below⟩
  by_cases ascii : c.toNat < 128
  · rw [narrow, IsDigit]
    refine and_congr_right fun below => ?_
    have := digit?_of_ascii c.toNat ascii d (by omega)
    rwa [Char.ofNat_toNat] at this
  · constructor
    · exact fun h => absurd (ascii_of_digit? h) ascii
    · exact fun h => absurd (h.ascii base) ascii

theorem Written.ne_nil (h : Written radix cs n) : cs ≠ [] := by
  cases h <;> simp

theorem Written.isDigit (h : Written radix cs n) (mem : c ∈ cs) : ∃ d, IsDigit radix c d := by
  induction h with
  | one digit => exact ⟨_, List.mem_singleton.1 mem ▸ digit⟩
  | more _ digit ih =>
    rcases List.mem_append.1 mem with before | last
    · exact ih before
    · exact ⟨_, List.mem_singleton.1 last ▸ digit⟩

/-- Signs and the letters that mark a base or a type are no digits. -/
theorem Written.digits (h : Written radix cs n) (base : radix ≤ 16) (mem : c ∈ cs) :
    c ∉ ['x', 'X', '+', '-', 'L', 'l'] := by
  obtain ⟨d, digit⟩ := h.isDigit mem
  have read : digit? 16 c = some d :=
    (digit?_eq_some_iff (by decide)).2 ⟨by have := digit.1; omega, digit.2⟩
  have none : ['x', 'X', '+', '-', 'L', 'l'].all fun c => digit? 16 c = none := by decide
  intro other
  have unread := of_decide_eq_true (List.all_eq_true.1 none c other)
  cases read.symm.trans unread

private theorem readDigits_concat (c : Char) (some : cs ≠ []) : readDigits radix (cs ++ [c]) =
    (readDigits radix cs).bind fun n => (digit? radix c).map (n * radix + ·) := by
  have filled : (cs ++ [c]).isEmpty = false := by simp
  have filled' : cs.isEmpty = false := by simpa using some
  rw [readDigits, filled, readDigits, filled', if_neg (by decide), if_neg (by decide),
    readDigitsFrom_append]
  congr 1
  funext n
  simp only [readDigitsFrom]
  cases digit? radix c <;> rfl

private theorem readDigits_singleton : readDigits radix [c] = digit? radix c := by
  simp only [readDigits, readDigitsFrom]
  cases digit? radix c <;> simp

theorem readDigits_eq_some_iff (base : radix ≤ 16) :
    readDigits radix cs = some n ↔ Written radix cs n := by
  constructor
  · intro read
    induction cs using List.reverseRecOn generalizing n with
    | nil => cases read
    | append_singleton cs c ih =>
      by_cases empty : cs = []
      · subst empty
        rw [List.nil_append, readDigits_singleton] at read
        exact .one ((digit?_eq_some_iff base).1 read)
      · rw [readDigits_concat c empty, Option.bind_eq_some_iff] at read
        obtain ⟨m, front, last⟩ := read
        obtain ⟨d, digit, rfl⟩ := Option.map_eq_some_iff.1 last
        exact .more (ih front) ((digit?_eq_some_iff base).1 digit)
  · intro written
    induction written with
    | one digit => rw [readDigits_singleton, (digit?_eq_some_iff base).2 digit]
    | more front digit ih =>
      rw [readDigits_concat _ front.ne_nil, ih, (digit?_eq_some_iff base).2 digit]
      rfl

/-- A number is written in its digits. -/
theorem written_toDigits {n : Nat} (above : 1 < radix) (base : radix ≤ 16) :
    Written radix (Nat.toDigits radix n) n := by
  have lower : ∀ d < 16, Nat.digitChar d = (Nat.digitChar d).toLower := by decide
  have digit : ∀ {d}, d < radix → IsDigit radix (Nat.digitChar d) d :=
    fun below => ⟨below, lower _ (by omega)⟩
  induction n using Nat.strongRecOn with
  | ind n ih =>
    rw [Nat.toDigits_eq_if above]
    by_cases small : n < radix
    · rw [if_pos small]
      exact .one (digit small)
    · rw [if_neg small]
      have less : n / radix < n := Nat.div_lt_self (by omega) above
      have whole : n / radix * radix + n % radix = n := Nat.div_add_mod' n radix
      have := Written.more (ih _ less) (digit (Nat.mod_lt n (by omega)))
      rwa [whole] at this

/-! ## Signs -/

theorem readInt64_eq_some_iff (base : radix ≤ 16) :
    readInt64 radix cs = some m ↔ Signed radix cs m ∧ fitsSigned 64 m = true := by
  unfold readInt64
  dsimp only
  rw [Option.filter_eq_some_iff]
  refine and_congr_left fun _ => ?_
  constructor
  · intro read
    split at read <;> obtain ⟨n, digits, rfl⟩ := Option.map_eq_some_iff.1 read
    · exact .plus ((readDigits_eq_some_iff base).1 digits)
    · exact .minus ((readDigits_eq_some_iff base).1 digits)
    · exact .unsigned ((readDigits_eq_some_iff base).1 digits)
  · intro signed
    cases signed with
    | unsigned digits =>
      have read := (readDigits_eq_some_iff base).2 digits
      split
      · exact absurd (digits.digits base List.mem_cons_self) (by decide)
      · exact absurd (digits.digits base List.mem_cons_self) (by decide)
      · simp [read]
    | plus digits => simp [(readDigits_eq_some_iff base).2 digits]
    | minus digits => simp [(readDigits_eq_some_iff base).2 digits]

theorem Signed.written (h : Signed radix cs m) (signless : Signless cs) :
    ∃ n : Nat, m = n ∧ Written radix cs n := by
  cases h with
  | unsigned digits => exact ⟨_, rfl, digits⟩
  | plus => exact absurd rfl (signless '+' List.mem_cons_self).1
  | minus => exact absurd rfl (signless '-' List.mem_cons_self).2

theorem fitsSigned_iff {bits : Nat} {n : Int} :
    fitsSigned bits n = true ↔ -(twoPow (bits - 1) : Int) ≤ n ∧ n < twoPow (bits - 1) := by
  simp only [fitsSigned, Bool.and_eq_true, decide_eq_true_eq]
  rw [minSigned, maxSigned]
  omega

/-- A number of sixty-four bits is held as it is. -/
theorem toInt_ofInt_of_fits (fits : fitsSigned 64 m = true) : (Int64.ofInt m).toInt = m :=
  have range := fitsSigned_iff.1 fits
  Int64.toInt_ofInt_of_le range.1 range.2

/-- So is its negative, unless it is the smallest one. -/
theorem toInt_neg_ofInt (fits : fitsSigned 64 m = true) (other : m ≠ minSigned 64) :
    (-(Int64.ofInt m)).toInt = -m := by
  have range : -2 ^ 63 ≤ m ∧ m < 2 ^ 63 := fitsSigned_iff.1 fits
  have low : minSigned 64 = -2 ^ 63 := by decide
  rw [Int64.toInt_neg, toInt_ofInt_of_fits fits, Int.bmod_eq_of_le (by omega) (by omega)]

end Number

namespace Value

open Number

/-! ## What is read and what is denoted -/

/-- A number without a sign, in decimal or behind `0x` in hexadecimal. -/
inductive Magnitude : List Char → Nat → Prop
  | decimal {cs : List Char} {n : Nat} (digits : Written 10 cs n) : Magnitude cs n
  | hexadecimal {cs : List Char} {n : Nat} {x : Char} (mark : x = 'x' ∨ x = 'X')
      (digits : Written 16 cs n) : Magnitude ('0' :: x :: cs) n

/-- A whole number behind one sign or none. -/
inductive Literal : List Char → Int → Prop
  | unsigned {cs : List Char} {n : Nat} (magnitude : Magnitude cs n) : Literal cs n
  | plus {cs : List Char} {n : Nat} (magnitude : Magnitude cs n) : Literal ('+' :: cs) n
  | minus {cs : List Char} {n : Nat} (magnitude : Magnitude cs n) : Literal ('-' :: cs) (-n)

/-- What is read behind the first sign: here the digits may have a sign again. -/
inductive Remainder : List Char → Int → Prop
  | decimal {cs : List Char} {n : Int} (digits : Signed 10 cs n) : Remainder cs n
  | hexadecimal {cs : List Char} {n : Int} {x : Char} (mark : x = 'x' ∨ x = 'X')
      (digits : Signed 16 cs n) : Remainder ('0' :: x :: cs) n

/-- A text with signs in front of everything else only. -/
def SignFirst (cs : List Char) : Prop := Signless cs.tail

variable {cs : List Char} {n : Int} {v : Int64}

private theorem not_remainder_of_mark {x : Char} (mark : x = 'x' ∨ x = 'X') :
    ¬ Signed 10 ('0' :: x :: cs) n := by
  intro signed
  generalize text : '0' :: x :: cs = all at signed
  cases signed with
  | unsigned digits =>
    have other := digits.digits (c := x) (by decide) (by simp [← text])
    rcases mark with rfl | rfl <;> exact absurd other (by decide)
  | plus => cases text
  | minus => cases text

theorem readMagnitude_eq_some_iff :
    readMagnitude cs = some n ↔ Remainder cs n ∧ fitsSigned 64 n = true := by
  unfold readMagnitude
  constructor
  · intro read
    split at read <;> rw [readInt64_eq_some_iff (by decide)] at read
    · exact ⟨.hexadecimal (.inl rfl) read.1, read.2⟩
    · exact ⟨.hexadecimal (.inr rfl) read.1, read.2⟩
    · exact ⟨.decimal read.1, read.2⟩
  · intro ⟨remainder, fits⟩
    cases remainder with
    | decimal digits =>
      split
      · exact absurd digits (not_remainder_of_mark (.inl rfl))
      · exact absurd digits (not_remainder_of_mark (.inr rfl))
      · exact (readInt64_eq_some_iff (by decide)).2 ⟨digits, fits⟩
    | hexadecimal mark digits =>
      have read := (readInt64_eq_some_iff (by decide)).2 ⟨digits, fits⟩
      rcases mark with rfl | rfl <;> exact read

private theorem Magnitude.plain {m : Nat} (h : Magnitude cs m) {c : Char} (mem : c ∈ cs) :
    c ∉ ['+', '-', 'L', 'l'] := by
  have digit : ∀ {radix : Nat} {ds : List Char}, Written radix ds m → radix ≤ 16 → c ∈ ds →
      c ∉ ['+', '-', 'L', 'l'] := fun digits base mem other =>
    digits.digits base mem (List.mem_cons_of_mem _ (List.mem_cons_of_mem _ other))
  cases h with
  | decimal digits => exact digit digits (by decide) mem
  | hexadecimal mark digits =>
    rcases List.mem_cons.1 mem with rfl | mem
    · decide
    · rcases List.mem_cons.1 mem with rfl | mem
      · rcases mark with rfl | rfl <;> decide
      · exact digit digits (by decide) mem

private theorem Magnitude.signless {m : Nat} (h : Magnitude cs m) : Signless cs := by
  intro c mem
  have := h.plain mem
  simp_all

private theorem Remainder.magnitude (h : Remainder cs n) (signless : Signless cs) :
    ∃ m : Nat, n = m ∧ Magnitude cs m := by
  cases h with
  | decimal digits =>
    obtain ⟨m, rfl, written⟩ := digits.written signless
    exact ⟨m, rfl, .decimal written⟩
  | hexadecimal mark digits =>
    have behind := fun c mem => signless c (List.mem_cons_of_mem _ (List.mem_cons_of_mem _ mem))
    obtain ⟨m, rfl, written⟩ := digits.written behind
    exact ⟨m, rfl, .hexadecimal mark written⟩

private theorem Remainder.literal (h : Remainder cs n) (first : SignFirst cs)
    (other : ∀ rest, cs ≠ '-' :: rest) : Literal cs n := by
  cases h with
  | decimal digits =>
    cases digits with
    | unsigned digits => exact .unsigned (.decimal digits)
    | plus digits => exact .plus (.decimal digits)
    | minus => exact absurd rfl (other _)
  | hexadecimal mark digits =>
    have behind := fun c mem => first c (List.mem_cons_of_mem _ mem)
    obtain ⟨m, rfl, written⟩ := digits.written behind
    exact .unsigned (.hexadecimal mark written)

private theorem Literal.signFirst (h : Literal cs n) : SignFirst cs := by
  cases h with
  | unsigned magnitude => exact fun c mem => magnitude.signless c (List.mem_of_mem_tail mem)
  | plus magnitude => exact magnitude.signless
  | minus magnitude => exact magnitude.signless

/-- Negating overflows for the smallest number only, whose sign is not in front. -/
theorem magnitude_ne_min (read : readMagnitude cs = some n) (signless : Signless cs) :
    n ≠ minSigned 64 := by
  obtain ⟨m, rfl, -⟩ := (readMagnitude_eq_some_iff.1 read).1.magnitude signless
  have low : minSigned 64 = -2 ^ 63 := by decide
  omega

/-- A text that is read denotes what is read from it, unless it has a sign behind its first
character. -/
theorem readWhole_literal_iff (read : readWhole cs = some v) :
    Literal cs v.toInt ↔ SignFirst cs := by
  refine ⟨Literal.signFirst, fun first => ?_⟩
  unfold readWhole at read
  split at read
  · obtain ⟨n, behind, rfl⟩ := Option.map_eq_some_iff.1 read
    obtain ⟨remainder, fits⟩ := readMagnitude_eq_some_iff.1 behind
    rw [toInt_neg_ofInt fits (magnitude_ne_min behind first)]
    obtain ⟨m, rfl, magnitude⟩ := remainder.magnitude first
    exact .minus magnitude
  · rename_i other
    obtain ⟨n, whole, rfl⟩ := Option.map_eq_some_iff.1 read
    obtain ⟨remainder, fits⟩ := readMagnitude_eq_some_iff.1 whole
    rw [toInt_ofInt_of_fits fits]
    exact remainder.literal first other

/-- A plus sign in front of a base. A sign is looked for there only if it is a minus sign. -/
def PlusBase (cs : List Char) : Prop := ['+', '0', 'x'] <+: cs ∨ ['+', '0', 'X'] <+: cs

private theorem Magnitude.read {m : Nat} (h : Magnitude cs m) (fits : fitsSigned 64 m = true) :
    readMagnitude cs = some (m : Int) := by
  refine readMagnitude_eq_some_iff.2 ⟨?_, fits⟩
  cases h with
  | decimal digits => exact .decimal (.unsigned digits)
  | hexadecimal mark digits => exact .hexadecimal mark (.unsigned digits)

private theorem readWhole_of_magnitude (read : readMagnitude cs = some n)
    (fits : fitsSigned 64 n = true) (other : ∀ rest, cs ≠ '-' :: rest) :
    ∃ w, readWhole cs = some w ∧ w.toInt = n := by
  refine ⟨Int64.ofInt n, ?_, toInt_ofInt_of_fits fits⟩
  unfold readWhole
  split
  · exact absurd rfl (other _)
  · rw [read, Option.map_some]

/-- What denotes a number of 64 bits is read, the smallest of them apart. -/
theorem readWhole_of_literal (h : Literal cs n) (fits : fitsSigned 64 n = true)
    (least : n ≠ minSigned 64) (unmarked : ¬ PlusBase cs) :
    ∃ w, readWhole cs = some w ∧ w.toInt = n := by
  cases h with
  | unsigned magnitude =>
    refine readWhole_of_magnitude (magnitude.read fits) fits ?_
    rintro rest rfl
    exact absurd rfl (magnitude.signless '-' List.mem_cons_self).2
  | plus magnitude =>
    cases magnitude with
    | decimal digits =>
      have read := readMagnitude_eq_some_iff.2 ⟨.decimal (.plus digits), fits⟩
      exact readWhole_of_magnitude read fits (by simp)
    | hexadecimal mark digits =>
      refine absurd ?_ unmarked
      rcases mark with rfl | rfl
      · exact .inl ⟨_, rfl⟩
      · exact .inr ⟨_, rfl⟩
  | @minus rest m magnitude =>
    have range : -2 ^ 63 ≤ -(m : Int) ∧ -(m : Int) < 2 ^ 63 := fitsSigned_iff.1 fits
    have low : minSigned 64 = -2 ^ 63 := by decide
    have narrow : -2 ^ 63 ≤ (m : Int) ∧ (m : Int) < 2 ^ 63 := by omega
    have within : fitsSigned 64 m = true := fitsSigned_iff.2 narrow
    refine ⟨-(Int64.ofInt m), ?_, toInt_neg_ofInt within (by omega)⟩
    rw [readWhole, magnitude.read within, Option.map_some]

/-! ## The types -/

/-- The width of the whole numbers of a type. -/
def wholeBits? : String → Option Nat
  | "B" => some 8
  | "S" => some 16
  | "I" => some 32
  | "J" => some 64
  | _ => none

/-- What is left of a text to be read as a whole number of a type. -/
def unmarked (signature : String) (cs : List Char) : List Char :=
  if signature = "J" then dropMarks ['L', 'l'] cs else cs

variable {signature : String} {bits : Nat} {value : Value}

theorem twoPow_whole (whole : wholeBits? signature = some bits) :
    twoPow bits = 2 * twoPow (bits - 1) ∧ twoPow (bits - 1) ≤ twoPow (64 - 1) := by
  unfold wholeBits? at whole
  split at whole <;> cases whole <;> decide

theorem fits_sixtyFour (whole : wholeBits? signature = some bits)
    (fits : fitsSigned bits n = true) : fitsSigned 64 n = true := by
  have width := (twoPow_whole whole).2
  rw [fitsSigned_iff] at fits ⊢
  omega

theorem readSigned_eq_some_iff : readSigned bits cs = some n ↔
    ∃ w, readWhole cs = some w ∧ w.toInt = n ∧ fitsSigned bits n = true := by
  simp only [readSigned, Option.filter_eq_some_iff, Option.map_eq_some_iff]
  constructor
  · intro ⟨⟨w, read, same⟩, fits⟩
    exact ⟨w, read, same, fits⟩
  · intro ⟨w, read, same, fits⟩
    exact ⟨⟨w, read, same⟩, fits⟩

/-- `make` is how a type holds the whole numbers of its width. -/
private structure Holds (signature : String) (bits : Nat) (make : Int → Value) : Prop where
  held : ∀ n, fitsSigned bits n = true → (make n).asInt? = some n ∧ (make n).fits signature = true
  only : ∀ {value n}, Value.fits signature value = true → value.asInt? = some n → value = make n

private theorem holds_byte : Holds "B" 8 fun n => .byte (Int8.ofInt n) where
  held n fits := by
    have range := fitsSigned_iff.1 fits
    simp [asInt?, Value.fits, Int8.toInt_ofInt_of_le range.1 range.2]
  only {value n} fits same := by
    cases value <;> simp_all [Value.fits, asInt?, Signature.isPrimitive]
    exact (Int8.ofInt_toInt _).symm.trans (congrArg _ same)

private theorem holds_short : Holds "S" 16 fun n => .short (Int16.ofInt n) where
  held n fits := by
    have range := fitsSigned_iff.1 fits
    simp [asInt?, Value.fits, Int16.toInt_ofInt_of_le range.1 range.2]
  only {value n} fits same := by
    cases value <;> simp_all [Value.fits, asInt?, Signature.isPrimitive]
    exact (Int16.ofInt_toInt _).symm.trans (congrArg _ same)

private theorem holds_int : Holds "I" 32 fun n => .int (Int32.ofInt n) where
  held n fits := by
    have range := fitsSigned_iff.1 fits
    simp [asInt?, Value.fits, Int32.toInt_ofInt_of_le range.1 range.2]
  only {value n} fits same := by
    cases value <;> simp_all [Value.fits, asInt?, Signature.isPrimitive]
    exact (Int32.ofInt_toInt _).symm.trans (congrArg _ same)

theorem fits_long (w : Int64) : fitsSigned 64 w.toInt = true :=
  fitsSigned_iff.2 ⟨w.le_toInt, w.toInt_lt⟩

private theorem holds_long : Holds "J" 64 fun n => .long (Int64.ofInt n) where
  held n fits := by simp [asInt?, Value.fits, toInt_ofInt_of_fits fits]
  only {value n} fits same := by
    cases value <;> simp_all [Value.fits, asInt?, Signature.isPrimitive]
    exact (Int64.ofInt_toInt _).symm.trans (congrArg _ same)

private theorem readPrimitive_long : readPrimitive "J" cs =
    (readSigned 64 (unmarked "J" cs)).map fun n => .long (Int64.ofInt n) := by
  have plain : unmarked "J" cs = dropMarks ['L', 'l'] cs := if_pos rfl
  rw [plain, readPrimitive, readSigned]
  cases readWhole (dropMarks ['L', 'l'] cs) with
  | none => rfl
  | some w => simp [Option.filter, fits_long w]

private theorem Holds.readSigned {make : Int → Value} (h : Holds signature bits make) :
    (readSigned bits cs).map make = some value ↔ ∃ n, readSigned bits cs = some n ∧
      value.asInt? = some n ∧ value.fits signature = true := by
  rw [Option.map_eq_some_iff]
  constructor
  · rintro ⟨n, read, rfl⟩
    obtain ⟨_, -, -, fits⟩ := readSigned_eq_some_iff.1 read
    exact ⟨n, read, h.held n fits⟩
  · intro ⟨n, read, same, typed⟩
    exact ⟨n, read, (h.only typed same).symm⟩

/-- The value that is read is the one that holds the number. -/
theorem readPrimitive_whole (whole : wholeBits? signature = some bits) :
    readPrimitive signature cs = some value ↔
      ∃ n, readSigned bits (unmarked signature cs) = some n ∧
      value.asInt? = some n ∧ value.fits signature = true := by
  unfold wholeBits? at whole
  split at whole <;> cases whole
  · exact holds_byte.readSigned
  · exact holds_short.readSigned
  · exact holds_int.readSigned
  · rw [readPrimitive_long]
    exact holds_long.readSigned

/-- Signs are in front only and marks of a long at the end only. -/
def Tidy (cs : List Char) : Prop := SignFirst cs ∧ ∀ c ∈ cs.dropLast, c ≠ 'L' ∧ c ≠ 'l'

instance (cs : List Char) : Decidable (Tidy cs) :=
  @instDecidableAnd _ _ (List.decidableBAll _ _) (List.decidableBAll _ _)

/-- A text is a literal, of a long perhaps with one mark behind it, and denotes this value of the
type. -/
def Denotes (signature : String) (bits : Nat) (cs : List Char) (value : Value) : Prop :=
  ∃ digits n, (cs = digits ∨ signature = "J" ∧ ∃ mark ∈ ['L', 'l'], cs = digits ++ [mark]) ∧
    Literal digits n ∧ fitsSigned bits n = true ∧ value.asInt? = some n ∧
    value.fits signature = true

/-- The negation that follows a minus sign leaves the range of 64 bits. -/
def Overflows (cs : List Char) : Prop :=
  ∃ rest n, cs = '-' :: rest ∧ readMagnitude rest = some n ∧ (-(Int64.ofInt n)).toInt ≠ -n

private theorem exists_marks (signature : String) (cs : List Char) : ∃ marks,
    cs = unmarked signature cs ++ marks ∧ (∀ c ∈ marks, c ∈ ['L', 'l']) ∧
      (marks ≠ [] → signature = "J") := by
  by_cases long : signature = "J"
  · refine ⟨(cs.reverse.takeWhile ['L', 'l'].contains).reverse, ?_, ?_, fun _ => long⟩
    · rw [unmarked, if_pos long, dropMarks, Text.dropEndWhile, ← List.reverse_append,
        List.takeWhile_append_dropWhile, List.reverse_reverse]
    · intro c mem
      simpa using List.mem_takeWhile_imp (List.mem_reverse.1 mem)
  · exact ⟨[], by simp [unmarked, long], by simp, absurd rfl⟩

private theorem Literal.plain (h : Literal cs n) {c : Char} (mem : c ∈ cs) : c ≠ 'L' ∧ c ≠ 'l' := by
  have plain : ∀ {cs : List Char} {m : Nat}, Magnitude cs m → c ∈ cs → c ≠ 'L' ∧ c ≠ 'l' := by
    intro cs m magnitude mem
    have := magnitude.plain mem
    simp_all
  cases h with
  | unsigned magnitude => exact plain magnitude mem
  | plus magnitude =>
    rcases List.mem_cons.1 mem with rfl | mem
    · decide
    · exact plain magnitude mem
  | minus magnitude =>
    rcases List.mem_cons.1 mem with rfl | mem
    · decide
    · exact plain magnitude mem

private theorem Literal.ne_nil (h : Literal cs n) : cs ≠ [] := by
  have filled : ∀ {cs : List Char} {m : Nat}, Magnitude cs m → cs ≠ [] := by
    intro cs m magnitude
    cases magnitude with
    | decimal digits => exact digits.ne_nil
    | hexadecimal => simp
  cases h with
  | unsigned magnitude => exact filled magnitude
  | plus => simp
  | minus => simp

private theorem Denotes.tidy (h : Denotes signature bits cs value) : Tidy cs := by
  obtain ⟨digits, n, rfl | ⟨-, mark, isMark, rfl⟩, literal, -⟩ := h
  · exact ⟨literal.signFirst, fun c mem => literal.plain (List.dropLast_subset _ mem)⟩
  · constructor
    · intro c mem
      rw [List.tail_append_of_ne_nil literal.ne_nil] at mem
      rcases List.mem_append.1 mem with front | last
      · exact literal.signFirst c front
      · rw [List.mem_singleton.1 last]
        obtain rfl | rfl : mark = 'L' ∨ mark = 'l' := by simpa using isMark
        · exact ⟨by decide, by decide⟩
        · exact ⟨by decide, by decide⟩
    · rw [List.dropLast_concat]
      exact fun c mem => literal.plain mem

private theorem readWhole_nil : readWhole [] = none := by decide

/-- A tidy text that is read denotes the value. -/
private theorem denotes_of_tidy (whole : wholeBits? signature = some bits)
    (read : readPrimitive signature cs = some value) (tidy : Tidy cs) :
    Denotes signature bits cs value := by
  obtain ⟨n, whole, same, typed⟩ := (readPrimitive_whole whole).1 read
  obtain ⟨w, read, rfl, fits⟩ := readSigned_eq_some_iff.1 whole
  obtain ⟨marks, parts, all, long⟩ := exists_marks signature cs
  have some : unmarked signature cs ≠ [] := by
    intro empty
    rw [empty, readWhole_nil] at read
    cases read
  have literal : Literal (unmarked signature cs) w.toInt := by
    refine (readWhole_literal_iff read).2 fun c mem => tidy.1 c ?_
    rw [parts, List.tail_append_of_ne_nil some]
    exact List.mem_append_left _ mem
  refine ⟨unmarked signature cs, w.toInt, ?_, literal, fits, same, typed⟩
  match marks with
  | [] => exact .inl (parts.trans (List.append_nil _))
  | [mark] => exact .inr ⟨long (by simp), mark, all mark List.mem_cons_self, parts⟩
  | mark :: next :: rest =>
    -- The first of two marks is not at the end.
    have inside : mark ∈ cs.dropLast := by
      rw [parts, List.dropLast_append_of_ne_nil (by simp), List.dropLast_cons_of_ne_nil (by simp)]
      simp
    have isMark := all mark List.mem_cons_self
    simp only [List.mem_cons, List.not_mem_nil, or_false] at isMark
    exact (isMark.elim (tidy.2 mark inside).1 (tidy.2 mark inside).2).elim

private theorem unmarked_of_literal {digits : List Char} (literal : Literal digits n)
    (text : cs = digits ∨ signature = "J" ∧ ∃ mark ∈ ['L', 'l'], cs = digits ++ [mark]) :
    unmarked signature cs = digits := by
  have bare : dropMarks ['L', 'l'] digits = digits := by
    refine Text.dropEndWhile_eq_self fun c last => ?_
    have plain := literal.plain (List.mem_of_getLast? last)
    simp [plain]
  obtain rfl | ⟨long, mark, isMark, rfl⟩ := text
  · rw [unmarked, bare, ite_self]
  · rw [unmarked, if_pos long, dropMarks, Text.dropEndWhile_concat (by simpa using isMark)]
    exact bare

private theorem number_ne_least (whole : wholeBits? signature = some bits)
    (fits : fitsSigned bits n = true) (same : value.asInt? = some n)
    (typed : value.fits signature = true) (other : value ≠ .long Int64.minValue) :
    n ≠ minSigned 64 := by
  rintro rfl
  unfold wholeBits? at whole
  split at whole <;> cases whole
  · exact absurd fits (by decide)
  · exact absurd fits (by decide)
  · exact absurd fits (by decide)
  · have least : Int64.ofInt (minSigned 64) = Int64.minValue := by decide
    exact other ((holds_long.only typed same).trans (congrArg Value.long least))

/-- What denotes a value is read as this value. -/
private theorem Denotes.read (h : Denotes signature bits cs value)
    (whole : wholeBits? signature = some bits) (unsigned : ¬ PlusBase cs)
    (other : value ≠ .long Int64.minValue) : readPrimitive signature cs = some value := by
  obtain ⟨digits, n, text, literal, fits, same, typed⟩ := h
  have front : digits <+: cs := by
    rcases text with rfl | ⟨-, mark, -, rfl⟩
    · exact List.prefix_rfl
    · exact List.prefix_append _ _
  have plain : ¬ PlusBase digits := fun base =>
    unsigned (base.imp (List.IsPrefix.trans · front) (List.IsPrefix.trans · front))
  have least := number_ne_least whole fits same typed other
  have read := readWhole_of_literal literal (fits_sixtyFour whole fits) least plain
  refine (readPrimitive_whole whole).2 ⟨n, ?_, same, typed⟩
  rw [unmarked_of_literal literal text, readSigned_eq_some_iff]
  obtain ⟨w, read, number⟩ := read
  exact ⟨w, read, number, fits⟩

private theorem not_overflows (tidy : Tidy cs) : ¬ Overflows (unmarked signature cs) := by
  rintro ⟨rest, n, text, read, wraps⟩
  obtain ⟨marks, parts, -⟩ := exists_marks signature cs
  have signless : Signless rest := by
    refine fun c mem => tidy.1 c ?_
    rw [parts, text]
    exact List.mem_append_left _ mem
  exact wraps
    (toInt_neg_ofInt (readMagnitude_eq_some_iff.1 read).2 (magnitude_ne_min read signless))

theorem isPrimitive_of_whole (whole : wholeBits? signature = some bits) :
    Signature.isPrimitive signature = true := by
  unfold wholeBits? at whole
  split at whole <;> first | decide | cases whole

theorem parse_primitive (primitive : Signature.isPrimitive signature = true) (text : String) :
    parse text signature = match readPrimitive signature (Text.trim text.toList) with
      | some value => .ok value
      | none => .error (.setVariableFailed ("'" ++ Text.trimmed text ++ "' is not a valid " ++
          Signature.typeName signature)) := by
  simp only [parse, primitive, if_true]
  rfl

/-- The whole number that is read from a text is the one that the text denotes, and in the range of
the type, if and only if the text is tidy; no step of reading a tidy text overflows. What a text
denotes is read, unless it is the smallest number of 64 bits or a plus sign is in front of its base.
What is not read is refused by the type. -/
theorem parse_denotes_iff (whole : wholeBits? signature = some bits) (text : String) :
    (∀ value, parse text signature = .ok value →
      (Denotes signature bits (Text.trim text.toList) value ↔ Tidy (Text.trim text.toList))) ∧
    (∀ value, Denotes signature bits (Text.trim text.toList) value →
      ¬ PlusBase (Text.trim text.toList) → value ≠ .long Int64.minValue →
      parse text signature = .ok value) ∧
    (∀ e, parse text signature = .error e → e = .setVariableFailed ("'" ++ Text.trimmed text ++
      "' is not a valid " ++ Signature.typeName signature)) ∧
    (Tidy (Text.trim text.toList) → ¬ Overflows (unmarked signature (Text.trim text.toList))) := by
  rw [parse_primitive (isPrimitive_of_whole whole)]
  refine ⟨fun value read => ⟨Denotes.tidy, fun tidy => ?_⟩,
    fun value denotes unsigned other => ?_, fun e refused => ?_, not_overflows⟩
  · split at read
    · rename_i held
      cases read
      exact denotes_of_tidy whole held tidy
    · cases read
  · rw [denotes.read whole unsigned other]
  · split at refused
    · cases refused
    · exact (Except.error.inj refused).symm

theorem parse_denotes_hexadecimal : parse " -0x10 " "I" = .ok (.int (-16)) ∧
    Denotes "I" 32 ['-', '0', 'x', '1', '0'] (.int (-16)) := by
  have read : parse " -0x10 " "I" = .ok (.int (-16)) := by decide +kernel
  have text : Text.trim " -0x10 ".toList = ['-', '0', 'x', '1', '0'] := by decide +kernel
  have whole : wholeBits? "I" = some 32 := rfl
  have denotes := ((parse_denotes_iff whole " -0x10 ").1 _ read).2
  rw [text] at denotes
  exact ⟨read, denotes (by decide)⟩

/-- Two signs are read as none, a sign behind the base and a second mark are passed over, and the
smallest number behind a second sign cannot be negated. -/
theorem second_sign_read :
    (parse "--5" "I" = .ok (.int 5) ∧ ¬ Denotes "I" 32 "--5".toList (.int 5)) ∧
    (parse "0x-5" "B" = .ok (.byte (-5)) ∧ ¬ Denotes "B" 8 "0x-5".toList (.byte (-5))) ∧
    (parse "5LL" "J" = .ok (.long 5) ∧ ¬ Denotes "J" 64 "5LL".toList (.long 5)) ∧
    Overflows "--9223372036854775808".toList := by
  refine ⟨⟨by decide +kernel, fun h => absurd h.tidy (by decide +kernel)⟩,
    ⟨by decide +kernel, fun h => absurd h.tidy (by decide +kernel)⟩,
    ⟨by decide +kernel, fun h => absurd h.tidy (by decide +kernel)⟩,
    "-9223372036854775808".toList, minSigned 64, by decide +kernel, by decide +kernel,
    by decide +kernel⟩

end Value
end DebugSession
