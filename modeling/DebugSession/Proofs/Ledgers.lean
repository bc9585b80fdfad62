import DebugSession.Debuggee.Faults
import DebugSession.Proofs.Calls
/-!
A debuggee held in memory keeps a ledger of event requests, and so does a machine behind a plan of
faults if the machine itself does.
-/

namespace DebugSession

namespace Debuggee

/-- The event requests of a debuggee and the last number that it has given to one. -/
def book (d : Debuggee) : Table RequestId EventRequest × RequestId := (d.requests, d.lastRequest)

private theorem book_runThread (d : Debuggee) (thread : ThreadId) :
    (d.runThread thread).book = d.book := by
  unfold runThread
  split <;> rfl

private theorem book_resumeAll (threads : List ThreadId) (d : Debuggee) :
    (threads.foldl runThread d).book = d.book := by
  induction threads generalizing d with
  | nil => rfl
  | cons thread rest ih => exact (ih _).trans (book_runThread d thread)

private theorem book_issueFrames (d : Debuggee) (thread : ThreadId) (generation depth : Nat)
    (frames : List Frame) : (d.issueFrames thread generation depth frames).2.book = d.book := by
  induction frames generalizing d depth with
  | nil => rfl
  | cons f rest ih => exact ih _ _

private theorem book_frames (d : Debuggee) (thread : ThreadId) :
    (d.frames thread).2.book = d.book := by
  unfold frames
  simp only
  split
  · rfl
  · split
    · rfl
    · split
      · rfl
      · exact book_issueFrames _ _ _ _ _

private theorem book_suspend (d : Debuggee) (thread : ThreadId) :
    (d.suspend thread).2.book = d.book := by
  unfold suspend
  split <;> rfl

private theorem book_resume (d : Debuggee) (thread : ThreadId) :
    (d.resume thread).2.book = d.book := by
  unfold resume
  split
  · rfl
  · exact book_runThread d thread

private theorem book_setLocalValue (d : Debuggee) (frame : FrameId) (target : LocalVariable)
    (value : Value) : (d.setLocalValue frame target value).2.book = d.book := by
  unfold setLocalValue
  split <;> rfl

private theorem book_setFieldValue (d : Debuggee) (object : Option ObjectId) (field : Field)
    (value : Value) : (d.setFieldValue object field value).2.book = d.book := by
  unfold setFieldValue
  simp only
  split
  · rfl
  · rfl
  · split <;> rfl

private theorem book_invokeMethod (d : Debuggee) (thread : ThreadId) (object : ObjectId)
    (method : MethodCall) (arguments : List Value) :
    (d.invokeMethod thread object method arguments).2.book = d.book := by
  unfold invokeMethod
  split
  · rfl
  · split
    · rfl
    · simp only
      split <;> rfl

theorem book_perform (c : Call) (d : Debuggee) (create : ∀ q, c ≠ .createRequest q)
    (delete : ∀ r, c ≠ .deleteRequest r) : (d.perform c).2.book = d.book := by
  cases c with
  | frames thread => exact book_frames d thread
  | suspend thread => exact book_suspend d thread
  | resume thread => exact book_resume d thread
  | resumeAll => exact book_resumeAll d.suspendedThreads d
  | setLocalValue frame target value => exact book_setLocalValue d frame target value
  | setFieldValue object field value => exact book_setFieldValue d object field value
  | invokeMethod thread object method arguments =>
    exact book_invokeMethod d thread object method arguments
  | createRequest request => exact absurd rfl (create request)
  | deleteRequest request => exact absurd rfl (delete request)
  | _ => rfl

/-- No request has a number that is yet to be given out. -/
def Numbered (d : Debuggee) : Prop :=
  ∀ r request, d.requests.get? r = some request → r ≤ d.lastRequest

private theorem Numbered.of_book {d d' : Debuggee} (h : d.Numbered) (same : d'.book = d.book) :
    d'.Numbered := by
  obtain ⟨requests, last⟩ := Prod.mk.inj same
  intro r request found
  rw [requests] at found
  rw [last]
  exact h r request found

private theorem numbered_createRequest {d : Debuggee} (h : d.Numbered) (request : EventRequest) :
    (d.createRequest request).2.Numbered := by
  intro r other found
  simp only [createRequest, Table.get?_insert] at found ⊢
  split at found
  · rename_i same
    exact Nat.le_of_eq same
  · exact Nat.le_succ_of_le (h r other found)

private theorem numbered_deleteRequest {d : Debuggee} (h : d.Numbered) (r : RequestId) :
    (d.deleteRequest r).2.Numbered := by
  unfold deleteRequest
  simp only
  split
  · exact h
  · intro r' request found
    simp only [Table.get?_erase] at found
    split at found
    · cases found
    · exact h r' request found

private theorem effect_createRequest {d : Debuggee} (h : d.Numbered) (request : EventRequest) :
    d.requests.get? (d.lastRequest + 1) = none ∧
      (d.createRequest request).2.requests.get? =
        Function.update d.requests.get? (d.lastRequest + 1) (some request) := by
  constructor
  · cases found : d.requests.get? (d.lastRequest + 1) with
    | none => rfl
    | some other => exact absurd (h _ other found) (Nat.not_succ_le_self _)
  · funext r
    simp only [createRequest, Table.get?_insert, Function.update_apply]

private theorem effect_deleteRequest (d : Debuggee) (r : RequestId) :
    (Call.deleteRequest r).Effect (d.deleteRequest r).1 d.requests.get?
      (d.deleteRequest r).2.requests.get? := by
  unfold deleteRequest
  simp only
  split
  · rfl
  · funext r'
    simp only [Table.get?_erase, Function.update_apply]

instance : Ledger Debuggee where
  live d := d.requests.get?
  Sound := Numbered
  sound_submit _ _ h := h
  live_submit _ _ _ := rfl
  sound_perform c d h := by
    by_cases create : ∃ q, c = .createRequest q
    · obtain ⟨q, rfl⟩ := create
      exact numbered_createRequest h q
    · by_cases delete : ∃ r, c = .deleteRequest r
      · obtain ⟨r, rfl⟩ := delete
        exact numbered_deleteRequest h r
      · exact h.of_book (book_perform c d (not_exists.1 create) (not_exists.1 delete))
  effect c d h := by
    by_cases create : ∃ q, c = .createRequest q
    · obtain ⟨q, rfl⟩ := create
      exact effect_createRequest h q
    · by_cases delete : ∃ r, c = .deleteRequest r
      · obtain ⟨r, rfl⟩ := delete
        exact effect_deleteRequest d r
      · have same := book_perform c d (not_exists.1 create) (not_exists.1 delete)
        have requests : (d.perform c).2.requests = d.requests := (Prod.mk.inj same).1
        exact .same (not_exists.1 create) (not_exists.1 delete) (congrArg Table.get? requests)

end Debuggee

namespace Faulty

instance {V : Type} [Machine V] [Ledger V] : Ledger (Faulty V) where
  live m := Ledger.live m.machine
  Sound m := Ledger.Sound m.machine
  sound_submit c m h := by
    simp only [Machine.submit]
    split
    · exact h
    · exact Ledger.sound_submit c m.machine h
  live_submit c m h := by
    simp only [Machine.submit]
    split
    · rfl
    · exact Ledger.live_submit c m.machine h
  sound_perform c m h := Ledger.sound_perform c m.machine h
  effect c m h := Ledger.effect c m.machine h

end Faulty
end DebugSession
