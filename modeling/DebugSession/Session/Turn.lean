import DebugSession.Session.State
/-!
Having something that one at a time can have. What is done with it may take time; others who ask
for it meanwhile have to wait.
-/

namespace DebugSession

namespace Session

variable {V α : Type}

/-- Asks for something; the number under which one stands in line for it. -/
def standInLine (what : Shared) : Task (Session V) Nat :=
  modifyGet fun s =>
    let (number, line) := s.line.join what
    (number, { s with line })

def leaveLine (number : Nat) : Task (Session V) Unit :=
  modify fun s => { s with line := s.line.leave number }

/-- Does something while one has `what`; that begins when nobody is left who has asked before. -/
def exclusively (what : Shared) (x : Task (Session V) α) : Task (Session V) α := do
  let number ← standInLine what
  Task.await fun s => s.line.isFirst what number
  let a ← x
  leaveLine number
  return a

end Session

/-- Does something that may fail while one has `what`, which is given back in any case. -/
def Action.exclusively {V α : Type} (what : Shared) (x : Action V α) : Action V α :=
  ExceptT.mk (Session.exclusively what x.run)

end DebugSession
