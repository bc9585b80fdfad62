/-!
White space, and text without it at its ends.
-/

namespace DebugSession.Text

/-- The characters with the Unicode property `White_Space`. -/
def isBlank (c : Char) : Bool :=
  let n := c.toNat
  (9 ≤ n && n ≤ 13) || n = 0x20 || n = 0x85 || n = 0xA0 || n = 0x1680 ||
    (0x2000 ≤ n && n ≤ 0x200A) || n = 0x2028 || n = 0x2029 || n = 0x202F || n = 0x205F ||
    n = 0x3000

/-- Drops from the end the characters that satisfy `p`. -/
def dropEndWhile (p : Char → Bool) (cs : List Char) : List Char :=
  (cs.reverse.dropWhile p).reverse

def trimStart (cs : List Char) : List Char := cs.dropWhile isBlank

def trimEnd (cs : List Char) : List Char := dropEndWhile isBlank cs

def trim (cs : List Char) : List Char := trimEnd (trimStart cs)

/-- The text without white space at either end. -/
def trimmed (s : String) : String := String.ofList (trim s.toList)

/-- The trimmed text, when anything is left of it. -/
def nonBlank (s : String) : Option String :=
  let t := trimmed s
  if t.isEmpty then none else some t

/-- What follows `head` in a list that starts with it. -/
def after? (head : List Char) (cs : List Char) : Option (List Char) :=
  if head.isPrefixOf cs then some (cs.drop head.length) else none

/-- What precedes `tail` in a list that ends with it. -/
def before? (tail : List Char) (cs : List Char) : Option (List Char) :=
  if tail.isSuffixOf cs then some (cs.take (cs.length - tail.length)) else none

/-- The pieces between the occurrences of `sep`; a text without any is one piece. -/
def pieces (sep : Char) : List Char → List (List Char)
  | [] => [[]]
  | c :: cs =>
    if c = sep then [] :: pieces sep cs
    else match pieces sep cs with
      | [] => [[c]]
      | p :: ps => (c :: p) :: ps

/-- Splits at the first occurrence of `sep`, which belongs to neither part. -/
def cut? (sep : List Char) : List Char → Option (List Char × List Char)
  | [] => if sep.isEmpty then some ([], []) else none
  | c :: cs =>
    match after? sep (c :: cs) with
    | some rest => some ([], rest)
    | none => (cut? sep cs).map fun (head, rest) => (c :: head, rest)

theorem after?_eq_some_iff {head cs behind : List Char} :
    after? head cs = some behind ↔ cs = head ++ behind := by
  unfold after?
  constructor
  · intro found
    split at found
    · rename_i starts
      obtain ⟨behind', rfl⟩ := List.isPrefixOf_iff_prefix.1 starts
      rw [List.drop_left] at found
      rw [Option.some.inj found]
    · cases found
  · rintro rfl
    rw [if_pos (by simp), List.drop_left]

theorem after?_append (head cs : List Char) : after? head (head ++ cs) = some cs :=
  after?_eq_some_iff.2 rfl

theorem isBlank_iff_ascii {c : Char} (h : c.toNat < 0x80) :
    isBlank c = true ↔ (9 ≤ c.toNat ∧ c.toNat ≤ 13) ∨ c.toNat = 0x20 := by
  simp [isBlank]
  omega

/-! ## Texts without white space at their ends -/

variable {cs : List Char}

theorem dropEndWhile_concat {p : Char → Bool} {c : Char} (dropped : p c = true) :
    dropEndWhile p (cs ++ [c]) = dropEndWhile p cs := by
  rw [dropEndWhile, List.reverse_append, List.reverse_singleton, List.singleton_append,
    List.dropWhile_cons_of_pos dropped, dropEndWhile]

theorem dropEndWhile_eq_self {p : Char → Bool} (last : ∀ c, cs.getLast? = some c → p c = false) :
    dropEndWhile p cs = cs := by
  rw [← List.head?_reverse] at last
  rw [dropEndWhile]
  cases same : cs.reverse with
  | nil => simp [List.reverse_eq_nil_iff.1 same]
  | cons d rest =>
    rw [same] at last
    rw [List.dropWhile_cons_of_neg (by simpa using last d rfl), ← same, List.reverse_reverse]

theorem trimEnd_eq_self (last : ∀ c, cs.getLast? = some c → isBlank c = false) :
    trimEnd cs = cs := dropEndWhile_eq_self last

theorem trim_eq_self (first : ∀ c, cs.head? = some c → isBlank c = false)
    (last : ∀ c, cs.getLast? = some c → isBlank c = false) : trim cs = cs := by
  have start : trimStart cs = cs := by
    cases cs with
    | nil => rfl
    | cons c cs => exact List.dropWhile_cons_of_neg (by simpa using first c rfl)
  rw [trim, start, trimEnd_eq_self last]

end DebugSession.Text
