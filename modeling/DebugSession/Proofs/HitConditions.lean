import DebugSession.Proofs.Identity
import DebugSession.Proofs.Numerals
/-!
The texts that are hit conditions, what each says of a count, and that every condition on a
breakpoint or watchpoint has an answer for every count.
-/

namespace DebugSession

namespace HitCondition

/-! ## Grammar -/

/-- What may stand in front of the number. -/
inductive Operator where
  | none
  | less
  | lessEqual
  | equal
  | doubleEqual
  | greaterEqual
  | greater
  | modulo
  deriving DecidableEq, Repr

namespace Operator

def sign : Operator → List Char
  | none => []
  | less => ['<']
  | lessEqual => ['<', '=']
  | equal => ['=']
  | doubleEqual => ['=', '=']
  | greaterEqual => ['>', '=']
  | greater => ['>']
  | modulo => ['%']

def condition : Operator → UInt32 → HitCondition
  | less => below
  | lessEqual => atMost
  | equal | doubleEqual => exactly
  | none | greaterEqual => atLeast
  | greater => above
  | modulo => every

/-- What an operator and a number say of a count. -/
def Says (count n : Nat) : Operator → Prop
  | less => count < n
  | lessEqual => count ≤ n
  | equal | doubleEqual => count = n
  | none | greaterEqual => n ≤ count
  | greater => n < count
  | modulo => n ∣ count

end Operator

/-- A hit condition as it may be written. -/
structure Written where
  operator : Operator
  blanks : List Char
  digits : List Char
  number : Nat
  blank : ∀ c ∈ blanks, Text.isBlank c = true
  numeral : Number.Numeral digits number
  small : number < UInt32.size
  positive : operator = .modulo → number ≠ 0

namespace Written

def chars (w : Written) : List Char := w.operator.sign ++ (w.blanks ++ w.digits)

def condition (w : Written) : HitCondition := w.operator.condition w.number.toUInt32

variable (w : Written)

theorem toNat_number : w.number.toUInt32.toNat = w.number := UInt32.toNat_ofNat_of_lt' w.small

theorem condition_ne : w.condition ≠ every 0 := by
  intro same
  have modulo : w.operator = .modulo := by
    unfold condition at same
    cases operator : w.operator <;> rw [operator] at same <;> first | rfl | cases same
  refine w.positive modulo ?_
  unfold condition at same
  rw [modulo] at same
  rw [← w.toNat_number, every.inj same]
  rfl

/-- A count meets what is written exactly if it is so. -/
theorem isMet_iff (count : UInt32) :
    w.condition.isMet count = true ↔ w.operator.Says count.toNat w.number := by
  unfold condition
  cases w.operator <;>
    simp [Operator.condition, isMet, Operator.Says, UInt32.lt_iff_toNat_lt,
      UInt32.le_iff_toNat_le, ← UInt32.toNat_inj, Nat.dvd_iff_mod_eq_zero, w.toNat_number]

end Written

/-! ## Parsing -/

/-- What operators are made of. -/
def signs : List Char := ['<', '=', '>', '%']

private theorem plain_of_sign {c : Char} (h : c ∈ signs) :
    c.isDigit = false ∧ Text.isBlank c = false := by
  simp only [signs, List.mem_cons, List.not_mem_nil, or_false] at h
  rcases h with rfl | rfl | rfl | rfl <;> exact ⟨rfl, rfl⟩

variable {cs rest : List Char}

private theorem after?_cons_cons (c d : Char) (head cs : List Char) :
    Text.after? (c :: head) (d :: cs) = if d = c then Text.after? head cs else none := by
  by_cases same : d = c
  · simp [Text.after?, same]
  · simp [Text.after?, same, Ne.symm same]

private theorem after?_nil (cs : List Char) : Text.after? [] cs = some cs := rfl

/-- No operator is taken for one that it starts with. -/
private theorem split_sign {operator : Operator} (some : operator ≠ .none)
    (plain : ∀ c ∈ rest.head?, c ≠ '=') :
    split (operator.sign ++ rest) = (operator.condition, Text.trimStart rest) := by
  cases rest with
  | nil =>
    cases operator <;> first | exact absurd rfl some | rfl
  | cons c rest =>
    have other := plain c rfl
    cases operator with
    | none => exact absurd rfl some
    | _ =>
      simp [split, operators, after?_cons_cons, after?_nil, Operator.sign, Operator.condition,
        other]

private theorem split_number (plain : ∀ c ∈ cs.head?, c ∉ signs) :
    split cs = (atLeast, cs) := by
  cases cs with
  | nil => rfl
  | cons c cs =>
    have other := plain c rfl
    simp only [signs, List.mem_cons, List.not_mem_nil, or_false, not_or] at other
    simp [split, operators, after?_cons_cons, other]

private theorem operators_eq : operators =
    [Operator.lessEqual, .less, .doubleEqual, .equal, .greaterEqual, .greater, .modulo].map
      fun operator => (operator.sign, operator.condition) := rfl

/-- Every text is what it is split into, white space behind an operator apart. -/
private theorem exists_operator (cs : List Char) : ∃ operator : Operator, ∃ blanks,
    (∀ c ∈ blanks, Text.isBlank c = true) ∧ (split cs).1 = operator.condition ∧
      cs = operator.sign ++ (blanks ++ (split cs).2) := by
  let taken (x : List Char × (UInt32 → HitCondition)) :=
    (Text.after? x.1 cs).map fun rest => (x.2, Text.trimStart rest)
  have found_eq : split cs = (operators.findSome? taken).getD (atLeast, cs) := rfl
  rw [found_eq]
  cases found : operators.findSome? taken with
  | none => exact ⟨.none, [], List.forall_mem_nil _, rfl, rfl⟩
  | some parts =>
    obtain ⟨⟨sign, make⟩, mem, mapped⟩ := List.exists_of_findSome?_eq_some found
    obtain ⟨rest, behind, rfl⟩ := Option.map_eq_some_iff.1 mapped
    obtain rfl := Text.after?_eq_some_iff.1 behind
    rw [operators_eq] at mem
    obtain ⟨operator, -, same⟩ := List.mem_map.1 mem
    obtain ⟨rfl, rfl⟩ := Prod.mk.inj same
    refine ⟨operator, rest.takeWhile Text.isBlank, ?_, rfl, ?_⟩
    · exact List.all_eq_true.1 List.all_takeWhile
    · exact congrArg _ List.takeWhile_append_dropWhile.symm

private theorem not_blank_of_digit {c : Char} (h : c.isDigit = true) : Text.isBlank c = false := by
  have range : 48 ≤ c.toNat ∧ c.toNat ≤ 57 := by
    simpa [Char.isDigit, Char.le_def, UInt32.le_iff_toNat_le] using h
  rw [Bool.eq_false_iff, Ne, Text.isBlank_iff_ascii (by omega)]
  omega

/-- Neither white space nor an operator starts a number. -/
private theorem head_of_numeral {n : Nat} (h : Number.Numeral cs n) :
    ∃ c rest, cs = c :: rest ∧ Text.isBlank c = false ∧ c ∉ signs := by
  rcases h with digits | ⟨ds, rfl, -⟩
  · obtain ⟨c, rest, rfl⟩ := List.exists_cons_of_ne_nil digits.some
    have digit := digits.digits c List.mem_cons_self
    refine ⟨c, rest, rfl, not_blank_of_digit digit, fun mem => ?_⟩
    exact nomatch digit.symm.trans (plain_of_sign mem).1
  · exact ⟨'+', ds, rfl, rfl, by decide⟩

private theorem plain_of_head_trim (cs : List Char) :
    ∀ c ∈ (Text.trim cs).head?, Text.isBlank c = false := by
  intro c here
  obtain ⟨rest, same⟩ : ∃ rest, Text.trim cs = c :: rest := List.head?_eq_some_iff.1 here
  have ends : Text.trim cs <+: Text.trimStart cs := by
    rw [← List.reverse_suffix, Text.trim, Text.trimEnd, Text.dropEndWhile, List.reverse_reverse]
    exact List.dropWhile_suffix _
  obtain ⟨back, start⟩ := ends
  have stops := List.head?_dropWhile_not Text.isBlank cs
  rw [same] at start
  rw [show cs.dropWhile Text.isBlank = _ from start.symm] at stops
  exact stops

namespace Written

variable (w : Written)

theorem head_chars : ∀ c ∈ (w.blanks ++ w.digits).head?, c ∉ signs := by
  intro c here
  cases blanks : w.blanks with
  | nil =>
    obtain ⟨d, rest, same, -, other⟩ := head_of_numeral w.numeral
    rw [blanks, same] at here
    obtain rfl := Option.some.inj here
    exact other
  | cons d rest =>
    rw [blanks] at here
    obtain rfl := Option.some.inj here
    have blank := w.blank d (blanks ▸ List.mem_cons_self)
    intro mem
    exact nomatch blank.symm.trans (plain_of_sign mem).2

theorem trimStart_number : Text.trimStart (w.blanks ++ w.digits) = w.digits := by
  obtain ⟨c, rest, same, plain, -⟩ := head_of_numeral w.numeral
  rw [Text.trimStart, List.dropWhile_append_of_pos w.blank, same,
    List.dropWhile_cons_of_neg (by simp [plain])]

theorem split_chars (trimmed : Text.trim cs = w.chars) :
    split w.chars = (w.operator.condition, w.digits) := by
  by_cases alone : w.operator = .none
  · -- The text has been trimmed, so there is no white space in front of a number alone.
    have blanks : w.blanks = [] := by
      cases blanks : w.blanks with
      | nil => rfl
      | cons c rest =>
        have first := plain_of_head_trim cs c
        rw [trimmed, chars, alone, blanks] at first
        exact nomatch (w.blank c (blanks ▸ List.mem_cons_self)).symm.trans (first rfl)
    have plain := w.head_chars
    rw [blanks] at plain
    rw [chars, alone, blanks]
    exact split_number plain
  · rw [chars, split_sign alone fun c here same => w.head_chars c here (by simp [same, signs]),
      w.trimStart_number]

end Written

theorem parse_eq_ok_iff {text : String} {c : HitCondition} : parse text = .ok c ↔
    ∃ w : Written, Text.trim text.toList = w.chars ∧ w.condition = c := by
  unfold parse
  dsimp only
  constructor
  · intro parsed
    obtain ⟨operator, blanks, blank, made, same⟩ := exists_operator (Text.trim text.toList)
    split at parsed
    · cases parsed
    · rename_i n read
      obtain ⟨numeral, most⟩ := Number.readNatUpTo_eq_some_iff.1 read
      have small : n < UInt32.size := Nat.lt_of_le_of_lt most (by decide)
      rw [made] at parsed
      split at parsed
      · cases parsed
      · rename_i other
        refine ⟨⟨operator, blanks, _, n, blank, numeral, small, ?_⟩, same, Except.ok.inj parsed⟩
        rintro rfl rfl
        exact other rfl
  · rintro ⟨w, trimmed, rfl⟩
    have read : Number.readNatUpTo (Number.maxUnsigned 32) w.digits = some w.number :=
      Number.readNatUpTo_eq_some_iff.2 ⟨w.numeral, Nat.le_of_lt_succ w.small⟩
    rw [trimmed, w.split_chars trimmed]
    dsimp only
    rw [read]
    exact if_neg w.condition_ne

end HitCondition

/-! ## Stored conditions -/

namespace Session

variable {V : Type}

/-- If all hit conditions can be checked, they still can. -/
def Guarded (s s' : Session V) : Prop := s.breakpoints.Checkable → s'.breakpoints.Checkable

theorem Guarded.of_eq {s s' : Session V} (same : s'.breakpoints = s.breakpoints) : Guarded s s' :=
  fun checkable => same ▸ checkable

variable [Machine V]

instance : Composes (Guarded (V := V)) where
  refl _ := id
  trans h h' := h' ∘ h

instance : Ambient (Guarded (V := V)) where
  advance _ _ := .of_eq rfl
  cancel _ := .of_eq rfl

private theorem guarded_allows (c : Call) : Allows (Guarded (V := V)) c :=
  allows_of_parts (fun _ => .of_eq rfl) (fun _ => .of_eq rfl) fun _ _ => .of_eq rfl

instance : Relines (Guarded (V := V)) where
  delete _ := guarded_allows _
  steps _ _ := .of_eq rfl
  tokens _ _ := .of_eq rfl
  loaded _ := guarded_allows _
  create _ := guarded_allows _
  beside _ _ h := h.checkable
  breakpoints _ _ h := h.checkable

instance : Enlists (Guarded (V := V)) where
  line _ _ := .of_eq rfl

theorem Managed.checkable {s : Session V} (h : Managed s) : s.breakpoints.Checkable := by
  induction h with
  | start machine settings providers => exact Breakpoints.checkable_empty
  | turn op _ t checkable => exact (op.task_moves (R := Guarded)).turn t checkable
  | hit _ found checkable => exact checkable.hit (checkable.installed found)
  | beside _ same checkable => exact same ▸ checkable

omit [Machine V] in
/-- A text is read as a hit condition exactly if the grammar has it, and then as what is written
there. Whatever has happened to the breakpoints of a session, there is an answer for every count
by each condition that is stored. -/
theorem hitConditions_exact :
    (∀ (text : String) (c : HitCondition), HitCondition.parse text = .ok c ↔
      ∃ w : HitCondition.Written, Text.trim text.toList = w.chars ∧ w.condition = c) ∧
    (∀ (w : HitCondition.Written) (count : UInt32),
      w.condition.isMet count = true ↔ w.operator.Says count.toNat w.number) ∧
    ∀ (V : Type) [Machine V] (s : Session V), Managed s → ∀ i ∈ s.breakpoints.stored,
      ∀ c ∈ i.installation.options.hitCondition, ∀ count,
        c.isMet? count = some (c.isMet count) :=
  ⟨fun _ _ => HitCondition.parse_eq_ok_iff, fun w => w.isMet_iff,
    fun _ _ _ managed => managed.checkable⟩

private def everyThird : HitCondition.Written where
  operator := .modulo
  blanks := [' ']
  digits := ['+', '3']
  number := 3
  blank := List.forall_mem_singleton.2 rfl
  numeral := .inr ⟨['3'], rfl, by decide, List.forall_mem_singleton.2 rfl, by decide⟩
  small := by decide
  positive _ := by decide

theorem hitConditions_exact_every_third :
    let s := (start reluctant {} oneLine).afterOperation
      (.setLines "A.java" [{ line := 7, hitCondition := some " % +3" }] false)
    s.breakpoints.stored.map (fun i => i.installation.options.hitCondition) =
        [some (.every 3)] ∧
      HitCondition.parse " % +3" = .ok (.every 3) ∧
      ∀ i ∈ s.breakpoints.stored, ∀ c ∈ i.installation.options.hitCondition, ∀ count,
        c.isMet? count = some (c.isMet count) := by
  refine ⟨by decide +kernel, ?_, ?_⟩
  · exact (hitConditions_exact.1 _ _).2 ⟨everyThird, by decide, by decide⟩
  · exact hitConditions_exact.2.2 _ _ ((Managed.start reluctant {} oneLine).operation _)

end Session
end DebugSession
