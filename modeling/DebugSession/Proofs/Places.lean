import DebugSession.Proofs.Tables
import DebugSession.Session.Breakpoints
import Mathlib.Logic.Function.Basic
/-!
Breakpoints and watchpoints by the place where they are kept. Both are stored, replaced and dropped
in one way, which is a change of what is kept at one place.
-/

namespace DebugSession

/-- Where something installed is kept. -/
inductive Place where
  | line (source : String) (number : UInt32)
  | field (className fieldName : String)
  deriving DecidableEq, Repr

namespace Owner

def place : Owner → Place
  | breakpoint source line _ => .line source line
  | watchpoint className fieldName _ => .field className fieldName

def id : Owner → UInt32
  | breakpoint _ _ id => id
  | watchpoint _ _ id => id

end Owner

namespace Installed

def owner : Installed → Owner
  | breakpoint b => .breakpoint b.source b.line b.id
  | watchpoint w => .watchpoint w.className w.fieldName w.id

def place (i : Installed) : Place := i.owner.place

def requests (i : Installed) : List RequestId := i.installation.requests

/-- The event request that something asks for, if its place in loaded code is known. -/
def request? : Installed → Option EventRequest
  | breakpoint b => b.location.map fun l =>
    Session.breakpointRequest l b.installation.options.condition
  | watchpoint w => some (Session.watchpointRequest w)

theorem request?_breakpoint {b : Breakpoint} {i i' : Installation}
    (condition : i'.options.condition = i.options.condition) :
    (breakpoint { b with installation := i' }).request? =
      (breakpoint { b with installation := i }).request? := by
  simp only [request?, condition]

theorem request?_watchpoint {w : Watchpoint} {i i' : Installation}
    (condition : i'.options.condition = i.options.condition) :
    (watchpoint { w with installation := i' }).request? =
      (watchpoint { w with installation := i }).request? := by
  simp only [request?, Session.watchpointRequest, condition]

theorem request?_located {b : Breakpoint} {l : BreakpointLocation} (located : b.location = some l) :
    (breakpoint b).request? =
      some (Session.breakpointRequest l b.installation.options.condition) := by
  simp [request?, located]

theorem owner_id (i : Installed) : i.owner.id = i.id := by
  cases i <;> rfl

end Installed

namespace Breakpoints

def at? (b : Breakpoints) : Place → Option Installed
  | .line source number => (b.breakpoint? source number).map .breakpoint
  | .field className fieldName => (b.watchpoint? (className, fieldName)).map .watchpoint

theorem at?_congr {b b' : Breakpoints} (lines : b'.sources = b.sources)
    (fields : b'.watchpoints = b.watchpoints) : b'.at? = b.at? := by
  funext p
  cases p with
  | line source number => simp only [at?, breakpoint?, ofSource, lines]
  | field className fieldName => simp only [at?, watchpoint?, fields]

theorem at?_eq_breakpoint {b : Breakpoints} {source : String} {number : UInt32}
    {bp : Breakpoint} : b.at? (.line source number) = some (.breakpoint bp) ↔
      b.breakpoint? source number = some bp := by
  simp [at?]

theorem at?_eq_watchpoint {b : Breakpoints} {key : String × String} {wp : Watchpoint} :
    b.at? (.field key.1 key.2) = some (.watchpoint wp) ↔ b.watchpoint? key = some wp := by
  simp [at?]

theorem ofOwner?_eq (b : Breakpoints) (o : Owner) :
    b.ofOwner? o = ((b.at? o.place).filter (·.id = o.id) <|> b.leaving.find? (·.id = o.id)) := by
  cases o <;> rfl

/-- Something other is kept at a place; the requests are noted as before. -/
structure Swap (b b' : Breakpoints) (p : Place) (new : Option Installed) : Prop where
  stored : b'.at? = Function.update b.at? p new
  owners : b'.owners = b.owners
  exceptionRequest : b'.exceptionRequest = b.exceptionRequest
  distinct : b.watchpoints.keys.Nodup → b'.watchpoints.keys.Nodup

theorem Swap.at_self {b b' : Breakpoints} {p : Place} {new : Option Installed}
    (h : Swap b b' p new) : b'.at? p = new := by
  rw [h.stored, Function.update_self]

theorem Swap.at_ne {b b' : Breakpoints} {p p' : Place} {new : Option Installed}
    (h : Swap b b' p new) (away : p' ≠ p) : b'.at? p' = b.at? p' := by
  rw [h.stored, Function.update_of_ne away]

theorem Swap.again {b b₁ b' : Breakpoints} {p : Place} {new new' : Option Installed}
    (h : Swap b b₁ p new) (h' : Swap b₁ b' p new') : Swap b b' p new' where
  stored := by rw [h'.stored, h.stored, Function.update_idem]
  owners := h'.owners.trans h.owners
  exceptionRequest := h'.exceptionRequest.trans h.exceptionRequest
  distinct := h'.distinct ∘ h.distinct

theorem Swap.put_or_kept {b b' : Breakpoints} {p p' : Place} {new : Option Installed}
    {i : Installed} (h : Swap b b' p new) (stored : b'.at? p' = some i) :
    p' = p ∧ new = some i ∨ p' ≠ p ∧ b.at? p' = some i := by
  by_cases here : p' = p
  · subst here
    exact .inl ⟨rfl, h.at_self.symm.trans stored⟩
  · exact .inr ⟨here, (h.at_ne here).symm.trans stored⟩

private theorem at_insertSource (b : Breakpoints) (source : String) (t : Table UInt32 Breakpoint)
    (number : UInt32) (new : Option Breakpoint)
    (h : ∀ n, t.get? n = if n = number then new else b.breakpoint? source n) :
    Breakpoints.at? { b with sources := b.sources.insert source t } =
      Function.update b.at? (.line source number) (new.map .breakpoint) := by
  funext p
  rw [Function.update_apply]
  cases p with
  | line source' number' =>
    by_cases same : source' = source
    · subst same
      have here : Breakpoints.at? { b with sources := b.sources.insert source' t }
          (.line source' number') = (t.get? number').map .breakpoint := by
        simp [at?, breakpoint?, ofSource, Table.get?_insert]
      rw [here, h number']
      by_cases at_number : number' = number
      · simp [at_number]
      · simp [at_number, at?]
    · simp [at?, breakpoint?, ofSource, Table.get?_insert, same]
  | field className fieldName => simp [at?, watchpoint?]

theorem swap_putBreakpoint (b : Breakpoints) (bp : Breakpoint) :
    Swap b (b.putBreakpoint bp) (.line bp.source bp.line) (some (.breakpoint bp)) where
  stored := at_insertSource b bp.source _ bp.line (some bp) fun n => by
    rw [Table.get?_insert]
    rfl
  owners := rfl
  exceptionRequest := rfl
  distinct := id

theorem swap_dropBreakpoint (b : Breakpoints) (source : String) (number : UInt32) :
    Swap b (b.dropBreakpoint source number) (.line source number) none where
  stored := at_insertSource b source _ number none fun n => by
    rw [Table.get?_erase]
    rfl
  owners := rfl
  exceptionRequest := rfl
  distinct := id

theorem swap_putWatchpoint (b : Breakpoints) (wp : Watchpoint) :
    Swap b (b.putWatchpoint wp) (.field wp.className wp.fieldName) (some (.watchpoint wp)) where
  stored := by
    funext p
    rw [Function.update_apply]
    cases p with
    | line source number => simp [at?, breakpoint?, ofSource, putWatchpoint]
    | field className fieldName =>
      by_cases same : (className, fieldName) = (wp.className, wp.fieldName)
      · obtain ⟨rfl, rfl⟩ := Prod.mk.inj same
        simp [at?, watchpoint?, putWatchpoint, Table.get?_insert]
      · have away : Place.field className fieldName ≠ .field wp.className wp.fieldName := by
          simpa using same
        simp only [at?, watchpoint?, putWatchpoint, Table.get?_insert, if_neg same, if_neg away]
  owners := rfl
  exceptionRequest := rfl
  distinct h := Table.nodup_insert h _ _

theorem swap_dropWatchpoint (b : Breakpoints) (className fieldName : String) :
    Swap b (b.dropWatchpoint (className, fieldName)) (.field className fieldName) none where
  stored := by
    funext p
    rw [Function.update_apply]
    cases p with
    | line source number => simp [at?, breakpoint?, ofSource, dropWatchpoint]
    | field className' fieldName' =>
      by_cases same : (className', fieldName') = (className, fieldName)
      · obtain ⟨rfl, rfl⟩ := Prod.mk.inj same
        simp [at?, watchpoint?, dropWatchpoint, Table.get?_erase]
      · have away : Place.field className' fieldName' ≠ .field className fieldName := by
          simpa using same
        simp only [at?, watchpoint?, dropWatchpoint, Table.get?_erase, if_neg same, if_neg away]
  owners := rfl
  exceptionRequest := rfl
  distinct h := Table.nodup_erase h _

end Breakpoints
end DebugSession
