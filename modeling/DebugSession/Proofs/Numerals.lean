import DebugSession.Number.Numeral
/-!
Which texts are decimal numbers, and which numbers they are.
-/

namespace DebugSession.Number

variable {c : Char} {cs : List Char} {acc d max n : Nat}

/-- One decimal digit or more, with this value. -/
structure Digits (cs : List Char) (n : Nat) : Prop where
  some : cs ≠ []
  digits : ∀ c ∈ cs, c.isDigit = true
  value : Nat.ofDigitChars 10 cs 0 = n

/-- A number in decimal digits, perhaps behind a plus sign. -/
def Numeral (cs : List Char) (n : Nat) : Prop :=
  Digits cs n ∨ ∃ ds, cs = '+' :: ds ∧ Digits ds n

private theorem isDigit_iff : c.isDigit = true ↔ '0' ≤ c ∧ c ≤ '9' := by
  simp [Char.isDigit, Char.le_def]

private theorem digit?_ten_eq_some_iff :
    digit? 10 c = some d ↔ c.isDigit = true ∧ c.toNat - '0'.toNat = d := by
  have zero : '0'.toNat = 48 := rfl
  have small : ∀ {low : Char}, low ≤ c → low.toNat ≤ c.toNat := fun h => h
  simp only [digit?, Bool.and_eq_true, decide_eq_true_eq, Option.filter_eq_some_iff, isDigit_iff]
  constructor
  · rintro ⟨found, below⟩
    split at found
    · rename_i digit
      exact ⟨digit, Option.some.inj found⟩
    · -- Letters count from ten on.
      split at found
      · have value := Option.some.inj found
        omega
      · split at found
        · have value := Option.some.inj found
          omega
        · cases found
  · rintro ⟨digit, rfl⟩
    have below : c.toNat ≤ '9'.toNat := digit.2
    have nine : '9'.toNat = 57 := rfl
    exact ⟨if_pos digit, by omega⟩

private theorem readDigitsFrom_ten_eq_some_iff : readDigitsFrom 10 acc cs = some n ↔
    (∀ c ∈ cs, c.isDigit = true) ∧ Nat.ofDigitChars 10 cs acc = n := by
  induction cs generalizing acc with
  | nil => simp [readDigitsFrom]
  | cons c cs ih =>
    rw [Nat.ofDigitChars_cons, List.forall_mem_cons]
    cases first : digit? 10 c with
    | none =>
      have other : ¬ c.isDigit = true := by
        intro digit
        cases first.symm.trans (digit?_ten_eq_some_iff.2 ⟨digit, rfl⟩)
      simp [readDigitsFrom, first, other]
    | some d =>
      obtain ⟨digit, rfl⟩ := digit?_ten_eq_some_iff.1 first
      simp only [readDigitsFrom, first]
      rw [ih, Nat.mul_comm, and_assoc]
      exact ⟨fun h => ⟨digit, h⟩, fun h => h.2⟩

private theorem readDigits_ten_eq_some_iff : readDigits 10 cs = some n ↔ Digits cs n := by
  unfold readDigits
  cases cs with
  | nil => exact ⟨nofun, fun h => absurd rfl h.some⟩
  | cons c cs =>
    rw [if_neg (by simp), readDigitsFrom_ten_eq_some_iff]
    exact ⟨fun h => ⟨List.cons_ne_nil c cs, h.1, h.2⟩, fun h => ⟨h.digits, h.value⟩⟩

theorem Digits.ne_plus (h : Digits cs n) : ∀ ds, cs ≠ '+' :: ds := by
  rintro ds rfl
  exact absurd (h.digits '+' List.mem_cons_self) (by decide)

/-- Of numbers up to `max`, exactly those are read that are written in digits. -/
theorem readNatUpTo_eq_some_iff : readNatUpTo max cs = some n ↔ Numeral cs n ∧ n ≤ max := by
  unfold readNatUpTo Numeral
  split
  · rename_i ds
    dsimp only
    rw [Option.filter_eq_some_iff, readDigits_ten_eq_some_iff, decide_eq_true_eq]
    constructor
    · exact fun h => ⟨.inr ⟨ds, rfl, h.1⟩, h.2⟩
    · rintro ⟨digits | ⟨_, same, digits⟩, within⟩
      · exact absurd rfl (digits.ne_plus ds)
      · cases same
        exact ⟨digits, within⟩
  · rename_i unsigned
    dsimp only
    rw [Option.filter_eq_some_iff, readDigits_ten_eq_some_iff, decide_eq_true_eq]
    constructor
    · exact fun h => ⟨.inl h.1, h.2⟩
    · rintro ⟨digits | ⟨ds, same, -⟩, within⟩
      · exact ⟨digits, within⟩
      · exact absurd same (unsigned ds)

theorem Numeral.unique {m : Nat} (h : Numeral cs m) (h' : Numeral cs n) : m = n := by
  have first : readNatUpTo (m + n) cs = some m :=
    readNatUpTo_eq_some_iff.2 ⟨h, Nat.le_add_right m n⟩
  have second : readNatUpTo (m + n) cs = some n :=
    readNatUpTo_eq_some_iff.2 ⟨h', Nat.le_add_left n m⟩
  exact Option.some.inj (first.symm.trans second)

/-- A number is read from its decimal digits. -/
theorem readNatUpTo_toDigits (within : n ≤ max) :
    readNatUpTo max (Nat.toDigits 10 n) = some n := by
  refine readNatUpTo_eq_some_iff.2 ⟨.inl ⟨by simp, ?_, Nat.ofDigitChars_ten_toDigits⟩, within⟩
  exact fun c mem => Nat.isDigit_of_mem_toDigits (by decide) (by decide) mem

end DebugSession.Number
