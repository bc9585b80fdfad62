import DebugSession.Text.Utf8
/-!
Text that is written as bytes is read back from them, whatever characters it has, and nothing but
what is written for a text is read as that text.
-/

namespace DebugSession.Text.Utf8

variable {index n : Nat} {p : Partial} {b : UInt8} {bytes : List UInt8}

/-! ## One byte -/

private theorem decodeFrom_ascii (ascii : b.toNat < 0x80) :
    decodeFrom index none (b :: bytes) =
      (decodeFrom (index + 1) none bytes).map (Char.ofNat b.toNat :: ·) := by
  rw [decodeFrom, if_pos ascii]
  cases decodeFrom (index + 1) none bytes <;> rfl

private theorem decodeFrom_lead (wide : ¬b.toNat < 0x80) (lead : lead? b.toNat = some p) :
    decodeFrom index none (b :: bytes) = decodeFrom index (some p) bytes := by
  rw [decodeFrom, if_neg wide, lead]

private theorem decodeFrom_inner (within : p.lo ≤ b.toNat ∧ b.toNat ≤ p.hi) (more : 1 < p.needed) :
    decodeFrom index (some p) (b :: bytes) = decodeFrom index
      (some ⟨p.needed - 1, 0x80, 0xBF, p.bits * 64 + (b.toNat - 0x80), p.seen + 1⟩) bytes := by
  rw [decodeFrom, if_pos (by simpa using within)]
  dsimp only
  rw [if_neg (Nat.not_le.2 more)]

private theorem decodeFrom_last (within : p.lo ≤ b.toNat ∧ b.toNat ≤ p.hi) (last : p.needed ≤ 1) :
    decodeFrom index (some p) (b :: bytes) =
      (decodeFrom (index + p.seen + 1) none bytes).map
        (Char.ofNat (p.bits * 64 + (b.toNat - 0x80)) :: ·) := by
  rw [decodeFrom, if_pos (by simpa using within)]
  dsimp only
  rw [if_pos last]
  cases decodeFrom (index + p.seen + 1) none bytes <;> rfl

/-! ## The first byte of a character -/

private theorem lead?_two (low : 0x80 ≤ n) (high : n < 0x800) :
    lead? (0xC0 + n / 64) = some ⟨1, 0x80, 0xBF, n / 64, 1⟩ := by
  have range : 0xC2 ≤ 0xC0 + n / 64 ∧ 0xC0 + n / 64 ≤ 0xDF := by omega
  rw [lead?, if_pos (by simpa using range)]
  simp

/-- The bounds of the second byte keep out the characters that fewer bytes write, and those that
are halves of a pair. -/
private theorem lead?_three (low : 0x800 ≤ n) (high : n < 0x10000)
    (whole : n < 0xD800 ∨ 0xE000 ≤ n) :
    ∃ lo hi, lead? (0xE0 + n / 4096) = some ⟨2, lo, hi, n / 4096, 1⟩ ∧
      lo ≤ 0x80 + n / 64 % 64 ∧ 0x80 + n / 64 % 64 ≤ hi := by
  have wide : ¬(0xE0 + n / 4096 ≤ 0xDF) := by omega
  by_cases first : n / 4096 = 0
  · refine ⟨0xA0, 0xBF, ?_, by omega, by omega⟩
    simp [lead?, first]
  · by_cases pairs : n / 4096 = 0xD
    · refine ⟨0x80, 0x9F, ?_, by omega, by omega⟩
      simp [lead?, pairs]
    · refine ⟨0x80, 0xBF, ?_, by omega, by omega⟩
      have range : 0xE1 ≤ 0xE0 + n / 4096 ∧ 0xE0 + n / 4096 ≤ 0xEF := by omega
      rw [lead?, if_neg (by simp [wide]), if_neg (by omega), if_neg (by omega),
        if_pos (by simpa using range)]
      simp

/-- The bounds of the second byte keep out the characters that fewer bytes write, and the numbers
that are too large. -/
private theorem lead?_four (low : 0x10000 ≤ n) (high : n < 0x110000) :
    ∃ lo hi, lead? (0xF0 + n / 262144) = some ⟨3, lo, hi, n / 262144, 1⟩ ∧
      lo ≤ 0x80 + n / 4096 % 64 ∧ 0x80 + n / 4096 % 64 ≤ hi := by
  have wide : ¬(0xF0 + n / 262144 ≤ 0xDF) ∧ ¬(0xF0 + n / 262144 ≤ 0xEF) := by omega
  have later : ¬0xF0 + n / 262144 = 0xE0 ∧ ¬0xF0 + n / 262144 = 0xED := by omega
  by_cases first : n / 262144 = 0
  · refine ⟨0x90, 0xBF, ?_, by omega, by omega⟩
    simp [lead?, first]
  · by_cases last : n / 262144 = 4
    · refine ⟨0x80, 0x8F, ?_, by omega, by omega⟩
      simp [lead?, last]
    · refine ⟨0x80, 0xBF, ?_, by omega, by omega⟩
      have range : 0xF1 ≤ 0xF0 + n / 262144 ∧ 0xF0 + n / 262144 ≤ 0xF3 := by omega
      rw [lead?, if_neg (by simp [wide.1]), if_neg later.1, if_neg later.2,
        if_neg (by simp [wide.2]), if_neg (by omega), if_pos (by simpa using range)]
      simp

/-! ## Characters and text -/

private theorem toNat_toUInt8 (h : n < 256) : n.toUInt8.toNat = n := by
  simp only [Nat.toUInt8, UInt8.toNat_ofNat']
  omega

private theorem toNat_whole (c : Char) :
    c.toNat < 0xD800 ∨ 0xE000 ≤ c.toNat ∧ c.toNat < 0x110000 := by
  rcases c.valid with low | ⟨above, below⟩
  · exact .inl low
  · exact .inr ⟨above, below⟩

private theorem decodeFrom_two (above : ¬n < 0x80) (two : n < 0x800) :
    decodeFrom index none ((0xC0 + n / 64).toUInt8 :: (0x80 + n % 64).toUInt8 :: bytes) =
      (decodeFrom (index + 2) none bytes).map (Char.ofNat n :: ·) := by
  have b₀ : (0xC0 + n / 64).toUInt8.toNat = 0xC0 + n / 64 := toNat_toUInt8 (by omega)
  have b₁ : (0x80 + n % 64).toUInt8.toNat = 0x80 + n % 64 := toNat_toUInt8 (by omega)
  have lead := lead?_two (Nat.not_lt.1 above) two
  have bits : n / 64 * 64 + (0x80 + n % 64 - 0x80) = n := by omega
  rw [decodeFrom_lead (by omega) (b₀.symm ▸ lead),
    decodeFrom_last (by dsimp only; omega) (by simp), b₁]
  dsimp only
  rw [bits]

private theorem decodeFrom_three (above : ¬n < 0x800) (three : n < 0x10000)
    (whole : n < 0xD800 ∨ 0xE000 ≤ n) :
    decodeFrom index none ((0xE0 + n / 4096).toUInt8 :: (0x80 + n / 64 % 64).toUInt8 ::
      (0x80 + n % 64).toUInt8 :: bytes) =
      (decodeFrom (index + 3) none bytes).map (Char.ofNat n :: ·) := by
  have b₀ : (0xE0 + n / 4096).toUInt8.toNat = 0xE0 + n / 4096 := toNat_toUInt8 (by omega)
  have b₁ : (0x80 + n / 64 % 64).toUInt8.toNat = 0x80 + n / 64 % 64 := toNat_toUInt8 (by omega)
  have b₂ : (0x80 + n % 64).toUInt8.toNat = 0x80 + n % 64 := toNat_toUInt8 (by omega)
  obtain ⟨lo, hi, lead, within⟩ := lead?_three (Nat.not_lt.1 above) three whole
  have bits : (n / 4096 * 64 + (0x80 + n / 64 % 64 - 0x80)) * 64 + (0x80 + n % 64 - 0x80) = n := by
    omega
  rw [decodeFrom_lead (by omega) (b₀.symm ▸ lead),
    decodeFrom_inner (by rw [b₁]; exact within) (by simp),
    decodeFrom_last (by dsimp only; omega) (by simp), b₁, b₂]
  dsimp only
  rw [bits]

private theorem decodeFrom_four (above : ¬n < 0x10000) (whole : n < 0x110000) :
    decodeFrom index none ((0xF0 + n / 262144).toUInt8 :: (0x80 + n / 4096 % 64).toUInt8 ::
      (0x80 + n / 64 % 64).toUInt8 :: (0x80 + n % 64).toUInt8 :: bytes) =
      (decodeFrom (index + 4) none bytes).map (Char.ofNat n :: ·) := by
  have b₀ : (0xF0 + n / 262144).toUInt8.toNat = 0xF0 + n / 262144 := toNat_toUInt8 (by omega)
  have b₁ : (0x80 + n / 4096 % 64).toUInt8.toNat = 0x80 + n / 4096 % 64 :=
    toNat_toUInt8 (by omega)
  have b₂ : (0x80 + n / 64 % 64).toUInt8.toNat = 0x80 + n / 64 % 64 := toNat_toUInt8 (by omega)
  have b₃ : (0x80 + n % 64).toUInt8.toNat = 0x80 + n % 64 := toNat_toUInt8 (by omega)
  obtain ⟨lo, hi, lead, within⟩ := lead?_four (Nat.not_lt.1 above) whole
  have bits : ((n / 262144 * 64 + (0x80 + n / 4096 % 64 - 0x80)) * 64 +
      (0x80 + n / 64 % 64 - 0x80)) * 64 + (0x80 + n % 64 - 0x80) = n := by
    omega
  rw [decodeFrom_lead (by omega) (b₀.symm ▸ lead),
    decodeFrom_inner (by rw [b₁]; exact within) (by simp),
    decodeFrom_inner (by dsimp only; omega) (by simp),
    decodeFrom_last (by dsimp only; omega) (by simp), b₁, b₂, b₃]
  dsimp only
  rw [bits]

/-- The bytes of a character are read as that character, and the reading goes on behind them. -/
theorem decodeFrom_encodeChar (index : Nat) (c : Char) (bytes : List UInt8) :
    decodeFrom index none (encodeChar c ++ bytes) =
      (decodeFrom (index + (encodeChar c).length) none bytes).map (c :: ·) := by
  have back : Char.ofNat c.toNat = c := Char.ofNat_toNat c
  have whole := toNat_whole c
  unfold encodeChar
  generalize c.toNat = n at back whole
  subst back
  dsimp only
  split
  · have b₀ : n.toUInt8.toNat = n := toNat_toUInt8 (by omega)
    rw [List.cons_append, List.nil_append, decodeFrom_ascii (by omega), b₀]
    rfl
  split
  · rename_i above two
    exact decodeFrom_two above two
  split
  · rename_i above three
    exact decodeFrom_three above three (by omega)
  · rename_i above
    exact decodeFrom_four above (by omega)

theorem decodeFrom_encode (index : Nat) (cs : List Char) :
    decodeFrom index none (encode cs) = .ok cs := by
  induction cs generalizing index with
  | nil => rfl
  | cons c cs ih =>
    have parts : encode (c :: cs) = encodeChar c ++ encode cs := rfl
    rw [parts, decodeFrom_encodeChar, ih]
    rfl

theorem decode_encode (cs : List Char) : decode (encode cs) = .ok cs := decodeFrom_encode 0 cs

theorem encode_append (cs ds : List Char) : encode (cs ++ ds) = encode cs ++ encode ds :=
  List.flatMap_append

private theorem length_encodeChar (c : Char) : (encodeChar c).length = c.utf8Size := by
  have size : c.utf8Size = if c.toNat ≤ 0x7F then 1 else if c.toNat ≤ 0x7FF then 2
      else if c.toNat ≤ 0xFFFF then 3 else 4 := by
    simp only [Char.utf8Size, UInt32.le_iff_toNat_le, Char.toNat_val, UInt32.toNat_ofNatLT]
  unfold encodeChar
  dsimp only
  rw [size]
  repeat' split
  all_goals first | rfl | omega

/-- The bytes are as many as the text's own representation has. -/
theorem length_encode (cs : List Char) : (encode cs).length = (String.ofList cs).utf8ByteSize := by
  induction cs with
  | nil => rfl
  | cons c cs ih =>
    have parts : encode (c :: cs) = encodeChar c ++ encode cs := rfl
    rw [parts, List.length_append, length_encodeChar, ih, String.ofList_cons,
      String.utf8ByteSize_append, String.utf8ByteSize_singleton]

/-- An ASCII character is one byte. -/
theorem encode_ascii {cs : List Char} (ascii : ∀ c ∈ cs, c.toNat < 0x80) :
    encode cs = cs.map fun c => c.toNat.toUInt8 := by
  induction cs with
  | nil => rfl
  | cons c cs ih =>
    have single : encodeChar c = [c.toNat.toUInt8] := if_pos (ascii c List.mem_cons_self)
    have others := ih fun d mem => ascii d (List.mem_cons_of_mem _ mem)
    have parts : encode (c :: cs) = encodeChar c ++ encode cs := rfl
    rw [parts, single, others]
    rfl

/-! ## What is read -/

/-- What the first byte of a character promises, by the number of bytes that follow it. -/
private theorem lead?_range (lead : lead? n = some p) :
    (p = ⟨1, 0x80, 0xBF, n - 0xC0, 1⟩ ∧ 0xC2 ≤ n ∧ n ≤ 0xDF) ∨
      (∃ lo hi, p = ⟨2, lo, hi, n - 0xE0, 1⟩ ∧ 0xE0 ≤ n ∧ n ≤ 0xEF ∧ 0x80 ≤ lo ∧ hi ≤ 0xBF ∧
        (n = 0xE0 → 0xA0 ≤ lo) ∧ (n = 0xED → hi ≤ 0x9F)) ∨
      ∃ lo hi, p = ⟨3, lo, hi, n - 0xF0, 1⟩ ∧ 0xF0 ≤ n ∧ n ≤ 0xF4 ∧ 0x80 ≤ lo ∧ hi ≤ 0xBF ∧
        (n = 0xF0 → 0x90 ≤ lo) ∧ (n = 0xF4 → hi ≤ 0x8F) := by
  unfold lead? at lead
  simp only [Bool.and_eq_true, decide_eq_true_eq] at lead
  split at lead
  · exact .inl ⟨(Option.some.inj lead).symm, by omega, by omega⟩
  split at lead
  · rename_i first
    subst first
    exact .inr (.inl ⟨_, _, (Option.some.inj lead).symm, by omega⟩)
  split at lead
  · rename_i pairs
    subst pairs
    exact .inr (.inl ⟨_, _, (Option.some.inj lead).symm, by omega⟩)
  split at lead
  · exact .inr (.inl ⟨_, _, (Option.some.inj lead).symm, by omega⟩)
  split at lead
  · rename_i first
    subst first
    exact .inr (.inr ⟨_, _, (Option.some.inj lead).symm, by omega⟩)
  split at lead
  · exact .inr (.inr ⟨_, _, (Option.some.inj lead).symm, by omega⟩)
  split at lead
  · rename_i last
    subst last
    exact .inr (.inr ⟨_, _, (Option.some.inj lead).symm, by omega⟩)
  · cases lead

/-- The byte that a character under way goes on with, and what is read from there. -/
private theorem next_of_decodeFrom {cs : List Char}
    (read : decodeFrom index (some p) bytes = .ok cs) :
    ∃ b rest, bytes = b :: rest ∧ p.lo ≤ b.toNat ∧ b.toNat ≤ p.hi ∧
      (1 < p.needed → decodeFrom index
        (some ⟨p.needed - 1, 0x80, 0xBF, p.bits * 64 + (b.toNat - 0x80), p.seen + 1⟩) rest =
          .ok cs) ∧
      (p.needed ≤ 1 → ∃ ds, cs = Char.ofNat (p.bits * 64 + (b.toNat - 0x80)) :: ds ∧
        decodeFrom (index + p.seen + 1) none rest = .ok ds) := by
  cases bytes with
  | nil => cases read
  | cons b rest =>
    by_cases within : p.lo ≤ b.toNat ∧ b.toNat ≤ p.hi
    · refine ⟨b, rest, rfl, within.1, within.2, fun more => ?_, fun last => ?_⟩
      · rwa [decodeFrom_inner within more] at read
      · rw [decodeFrom_last within last] at read
        cases others : decodeFrom (index + p.seen + 1) none rest with
        | error e =>
          rw [others] at read
          cases read
        | ok ds =>
          rw [others] at read
          exact ⟨ds, (Except.ok.inj read).symm, rfl⟩
    · rw [decodeFrom, if_neg (by simpa using within)] at read
      cases read

private theorem toUInt8_eq {m : Nat} (h : m = b.toNat) : m.toUInt8 = b :=
  UInt8.toNat_inj.1 ((toNat_toUInt8 (h ▸ b.toNat_lt)).trans h)

private theorem toNat_ofNat (whole : n < 0xD800 ∨ 0xE000 ≤ n ∧ n < 0x110000) :
    (Char.ofNat n).toNat = n := by
  have valid : n.isValidChar := by
    rcases whole with low | ⟨above, below⟩
    · exact .inl low
    · exact .inr ⟨above, below⟩
  rw [Char.ofNat, dif_pos valid]
  rfl

private theorem encodeChar_one (low : b.toNat < 0x80) : encodeChar (Char.ofNat b.toNat) = [b] := by
  have back : (Char.ofNat b.toNat).toNat = b.toNat := toNat_ofNat (by omega)
  have single : b.toNat.toUInt8 = b := toUInt8_eq rfl
  simp only [encodeChar, back, if_pos low, single]

private theorem encodeChar_two {b₁ : UInt8} (lead : 0xC2 ≤ b.toNat ∧ b.toNat ≤ 0xDF)
    (next : 0x80 ≤ b₁.toNat ∧ b₁.toNat ≤ 0xBF) :
    encodeChar (Char.ofNat ((b.toNat - 0xC0) * 64 + (b₁.toNat - 0x80))) = [b, b₁] := by
  generalize same : (b.toNat - 0xC0) * 64 + (b₁.toNat - 0x80) = n
  have back : (Char.ofNat n).toNat = n := toNat_ofNat (by omega)
  have first : (0xC0 + n / 64).toUInt8 = b := toUInt8_eq (by omega)
  have second : (0x80 + n % 64).toUInt8 = b₁ := toUInt8_eq (by omega)
  have one : ¬n < 0x80 := by omega
  have two : n < 0x800 := by omega
  simp only [encodeChar, back, if_neg one, if_pos two, first, second]

private theorem encodeChar_three {b₁ b₂ : UInt8} (lead : 0xE0 ≤ b.toNat ∧ b.toNat ≤ 0xEF)
    (next : 0x80 ≤ b₁.toNat ∧ b₁.toNat ≤ 0xBF) (least : b.toNat = 0xE0 → 0xA0 ≤ b₁.toNat)
    (single : b.toNat = 0xED → b₁.toNat ≤ 0x9F) (last : 0x80 ≤ b₂.toNat ∧ b₂.toNat ≤ 0xBF) :
    encodeChar (Char.ofNat (((b.toNat - 0xE0) * 64 + (b₁.toNat - 0x80)) * 64 +
      (b₂.toNat - 0x80))) = [b, b₁, b₂] := by
  generalize same : ((b.toNat - 0xE0) * 64 + (b₁.toNat - 0x80)) * 64 + (b₂.toNat - 0x80) = n
  have back : (Char.ofNat n).toNat = n := toNat_ofNat (by omega)
  have first : (0xE0 + n / 4096).toUInt8 = b := toUInt8_eq (by omega)
  have second : (0x80 + n / 64 % 64).toUInt8 = b₁ := toUInt8_eq (by omega)
  have third : (0x80 + n % 64).toUInt8 = b₂ := toUInt8_eq (by omega)
  have one : ¬n < 0x80 := by omega
  have two : ¬n < 0x800 := by omega
  have three : n < 0x10000 := by omega
  simp only [encodeChar, back, if_neg one, if_neg two, if_pos three, first, second, third]

private theorem encodeChar_four {b₁ b₂ b₃ : UInt8} (lead : 0xF0 ≤ b.toNat ∧ b.toNat ≤ 0xF4)
    (next : 0x80 ≤ b₁.toNat ∧ b₁.toNat ≤ 0xBF) (least : b.toNat = 0xF0 → 0x90 ≤ b₁.toNat)
    (most : b.toNat = 0xF4 → b₁.toNat ≤ 0x8F) (more : 0x80 ≤ b₂.toNat ∧ b₂.toNat ≤ 0xBF)
    (last : 0x80 ≤ b₃.toNat ∧ b₃.toNat ≤ 0xBF) :
    encodeChar (Char.ofNat ((((b.toNat - 0xF0) * 64 + (b₁.toNat - 0x80)) * 64 +
      (b₂.toNat - 0x80)) * 64 + (b₃.toNat - 0x80))) = [b, b₁, b₂, b₃] := by
  generalize same : (((b.toNat - 0xF0) * 64 + (b₁.toNat - 0x80)) * 64 + (b₂.toNat - 0x80)) * 64 +
    (b₃.toNat - 0x80) = n
  have back : (Char.ofNat n).toNat = n := toNat_ofNat (by omega)
  have first : (0xF0 + n / 262144).toUInt8 = b := toUInt8_eq (by omega)
  have second : (0x80 + n / 4096 % 64).toUInt8 = b₁ := toUInt8_eq (by omega)
  have third : (0x80 + n / 64 % 64).toUInt8 = b₂ := toUInt8_eq (by omega)
  have fourth : (0x80 + n % 64).toUInt8 = b₃ := toUInt8_eq (by omega)
  have one : ¬n < 0x80 := by omega
  have two : ¬n < 0x800 := by omega
  have three : ¬n < 0x10000 := by omega
  simp only [encodeChar, back, if_neg one, if_neg two, if_neg three, first, second, third, fourth]

/-- The first byte and those that it promises are how the first character is written. -/
private theorem character_of_lead {b : UInt8} {rest : List UInt8} {cs : List Char}
    (lead : lead? b.toNat = some p) (read : decodeFrom index (some p) rest = .ok cs) :
    ∃ c ds rest' index', b :: rest = encodeChar c ++ rest' ∧ rest'.length ≤ rest.length ∧
      cs = c :: ds ∧ decodeFrom index' none rest' = .ok ds := by
  obtain ⟨b₁, rest₁, rfl, low₁, high₁, more, last⟩ := next_of_decodeFrom read
  rcases lead?_range lead with ⟨rfl, range⟩ | ⟨lo, hi, rfl, range⟩ | ⟨lo, hi, rfl, range⟩
  · obtain ⟨ds, same, after⟩ := last (Nat.le_refl 1)
    refine ⟨_, ds, rest₁, _, ?_, Nat.le_succ _, same, after⟩
    dsimp only at low₁ high₁ ⊢
    rw [encodeChar_two range ⟨low₁, high₁⟩]
    rfl
  · obtain ⟨b₂, rest₂, rfl, low₂, high₂, -, last⟩ := next_of_decodeFrom (more (Nat.le_refl 2))
    obtain ⟨ds, same, after⟩ := last (Nat.le_refl 1)
    refine ⟨_, ds, rest₂, _, ?_, Nat.le_add_right _ 2, same, after⟩
    dsimp only at low₁ high₁ low₂ high₂ ⊢
    rw [encodeChar_three ⟨range.1, range.2.1⟩ (by omega) (by omega) (by omega) ⟨low₂, high₂⟩]
    rfl
  · obtain ⟨b₂, rest₂, rfl, low₂, high₂, more, -⟩ := next_of_decodeFrom (more (by simp))
    obtain ⟨b₃, rest₃, rfl, low₃, high₃, -, last⟩ := next_of_decodeFrom (more (Nat.le_refl 2))
    obtain ⟨ds, same, after⟩ := last (Nat.le_refl 1)
    refine ⟨_, ds, rest₃, _, ?_, Nat.le_add_right _ 3, same, after⟩
    dsimp only at low₁ high₁ low₂ high₂ low₃ high₃ ⊢
    rw [encodeChar_four ⟨range.1, range.2.1⟩ (by omega) (by omega) (by omega) ⟨low₂, high₂⟩
      ⟨low₃, high₃⟩]
    rfl

/-- What is left behind the first character is read as text as well. -/
private theorem character_of_decodeFrom {b : UInt8} {rest : List UInt8} {cs : List Char}
    (read : decodeFrom index none (b :: rest) = .ok cs) :
    ∃ c ds rest' index', b :: rest = encodeChar c ++ rest' ∧ rest'.length ≤ rest.length ∧
      cs = c :: ds ∧ decodeFrom index' none rest' = .ok ds := by
  by_cases ascii : b.toNat < 0x80
  · rw [decodeFrom_ascii ascii] at read
    cases after : decodeFrom (index + 1) none rest with
    | error e =>
      rw [after] at read
      cases read
    | ok ds =>
      rw [after] at read
      refine ⟨_, ds, rest, _, ?_, Nat.le_refl _, (Except.ok.inj read).symm, after⟩
      rw [encodeChar_one ascii]
      rfl
  · cases lead : lead? b.toNat with
    | none =>
      rw [decodeFrom, if_neg ascii, lead] at read
      cases read
    | some p =>
      rw [decodeFrom_lead ascii lead] at read
      exact character_of_lead lead read

theorem eq_encode_of_decodeFrom {cs : List Char} (read : decodeFrom index none bytes = .ok cs) :
    bytes = encode cs := by
  induction length : bytes.length using Nat.strongRecOn generalizing index bytes cs with
  | ind length ih =>
  subst length
  cases bytes with
  | nil =>
    obtain rfl := Except.ok.inj read
    rfl
  | cons b rest =>
    obtain ⟨c, ds, rest', index', parts, shorter, rfl, after⟩ := character_of_decodeFrom read
    rw [parts, ih rest'.length (Nat.lt_succ_of_le shorter) after rfl]
    rfl

/-- Bytes are read as a text exactly if they are how that text is written. -/
theorem decode_eq_ok_iff {cs : List Char} : decode bytes = .ok cs ↔ bytes = encode cs :=
  ⟨eq_encode_of_decodeFrom, fun same => same ▸ decode_encode cs⟩

end DebugSession.Text.Utf8
