/-!
Things that one at a time can have. Whoever asks for one joins a line, and has it when nobody who
has asked for it before is left in the line.
-/

namespace DebugSession

/-- What one at a time can have. -/
inductive Shared where
  /-- The breakpoints on lines. -/
  | lines
  /-- The watchpoints on fields. -/
  | fields
  /-- The request for exceptions. -/
  | exceptions
  /-- The events of the debuggee. -/
  | events
  deriving DecidableEq, Repr

/-- What is asked for and by whom, in order. Everyone in the line has a number. -/
structure Line where
  entries : List (Shared × Nat) := []
  deriving DecidableEq, Repr

namespace Line

def nextNumber (l : Line) : Nat := (l.entries.getLast?.map fun e => e.2 + 1).getD 0

/-- Asks for something. -/
def join (what : Shared) (l : Line) : Nat × Line :=
  (l.nextNumber, ⟨l.entries ++ [(what, l.nextNumber)]⟩)

/-- Whether someone is the first who asked for something. -/
def isFirst (l : Line) (what : Shared) (number : Nat) : Bool :=
  l.entries.find? (fun e => e.1 = what) = some (what, number)

def leave (number : Nat) (l : Line) : Line := ⟨l.entries.filter fun e => e.2 ≠ number⟩

/-- Where nobody asks for a thing, it can be had at once. -/
theorem isFirst_join {l : Line} {what : Shared} (h : ∀ e ∈ l.entries, e.1 ≠ what) :
    (l.join what).2.isFirst what (l.join what).1 = true := by
  have none : l.entries.find? (fun e => e.1 = what) = none := by simpa using h
  simp [join, isFirst, none]

/-- Who is first stays so when others ask. -/
theorem isFirst_join_of_isFirst {l : Line} {what other : Shared} {number : Nat}
    (h : l.isFirst what number = true) : (l.join other).2.isFirst what number = true := by
  simp only [isFirst, decide_eq_true_eq] at h
  simp [join, isFirst, h]

/-- Who joins a line and leaves it again leaves it as it was, if the numbers in it are smaller. -/
theorem leave_join {l : Line} {what : Shared} (h : ∀ e ∈ l.entries, e.2 < l.nextNumber) :
    (l.join what).2.leave (l.join what).1 = l := by
  have kept : l.entries.filter (fun e => decide (e.2 ≠ l.nextNumber)) = l.entries :=
    List.filter_eq_self.2 fun e he => decide_eq_true (Nat.ne_of_lt (h e he))
  unfold join leave
  rw [List.filter_append, kept]
  simp

end Line
end DebugSession
