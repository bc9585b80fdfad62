import DebugSession.Proofs.Ends
import Mathlib.Logic.Function.Basic
/-!
What a call does to a session that nothing else happens to meanwhile: it is noted, the debuggee
may change, time may pass and the session may end. Everything else stays.
-/

namespace DebugSession

variable {V : Type}

/-- What a call may come to: it is not made, it is made without effect, or it has its effect. -/
inductive Machine.Answers [Machine V] (c : Call) (v : V) : Except RemoteError c.Reply → V → Prop
  | unasked : Answers c v (.error .disconnected) v
  | undone (e : RemoteError) : Answers c v (.error e) (Machine.submit c v).2
  | done : Answers c v (Machine.perform c (Machine.submit c v).2).1
      (Machine.perform c (Machine.submit c v).2).2

namespace Session

def called (s : Session V) (machine : V) (clock : Nat) (cancelled : Bool) (x : Exchange) :
    Session V :=
  { s with machine, clock, cancelled, calls := s.calls ++ [x] }

section

variable (s : Session V) (machine : V) (clock : Nat) (cancelled : Bool) (x : Exchange)

@[simp] theorem called_machine : (s.called machine clock cancelled x).machine = machine := rfl

@[simp] theorem called_calls : (s.called machine clock cancelled x).calls = s.calls ++ [x] := rfl

@[simp] theorem called_breakpoints :
    (s.called machine clock cancelled x).breakpoints = s.breakpoints := rfl

end

section

variable {s s₁ s' : Session V} {xs xs' : List Exchange} {es es' : List Protocol.Event}

/-- Calls that were noted and events that were queued. -/
structure Adds (xs : List Exchange) (es : List Protocol.Event) (s s' : Session V) : Prop where
  calls : s'.calls = s.calls ++ xs
  pending : s'.pending = s.pending ++ es

theorem Adds.trans (h : Adds xs es s s₁) (h' : Adds xs' es' s₁ s') :
    Adds (xs ++ xs') (es ++ es') s s' := by
  constructor
  · rw [h'.calls, h.calls, List.append_assoc]
  · rw [h'.pending, h.pending, List.append_assoc]

theorem Adds.newCalls (h : Adds xs es s s') : s'.calls.drop s.calls.length = xs := by
  rw [h.calls, List.drop_left]

theorem Adds.newEvents (h : Adds xs es s s') : s'.pending.drop s.pending.length = es := by
  rw [h.pending, List.drop_left]

end

variable [Machine V]

private theorem answerAfter_ends (c : Call) (delay : Nat) (lost : Bool) (s : Session V) (v : V)
    (asked : s.machine = (Machine.submit c v).2) :
    Task.Ends (answerAfter c delay lost) s fun r s' =>
      ∃ machine clock, s' = { s with machine, clock } ∧ Machine.Answers c v r machine := by
  have complete_ends : ∀ clock, Task.Ends (complete c lost) { s with clock } fun r s' =>
      ∃ machine clock, s' = { s with machine, clock } ∧ Machine.Answers c v r machine := by
    intro clock
    unfold complete
    split
    · exact ⟨s.machine, clock, rfl, asked ▸ .undone _⟩
    · refine ⟨_, clock, rfl, ?_⟩
      rw [asked]
      exact .done
  have rest_ends : ∀ clock, Task.Ends
      (if s.waitLimit < delay then pure (.error (.timeout s.timeout)) else complete c lost)
      { s with clock } fun r s' =>
        ∃ machine clock, s' = { s with machine, clock } ∧ Machine.Answers c v r machine := by
    intro clock
    split
    · exact ⟨s.machine, clock, rfl, asked ▸ .undone _⟩
    · exact complete_ends clock
  unfold answerAfter
  simp only [Task.ends_bind, Task.ends_get]
  split
  · simp only [Task.ends_bind, Task.ends_sleep, Task.ends_get]
    split
    · exact ⟨s.machine, _, rfl, asked ▸ .undone _⟩
    · exact rest_ends _
  · exact rest_ends s.clock

private theorem issue_ends (c : Call) (s : Session V) :
    Task.Ends (issue c) s fun r s' =>
      ∃ machine clock, s' = { s with machine, clock } ∧ Machine.Answers c s.machine r machine := by
  unfold issue
  simp only [Task.ends_bind, Task.ends_modifyGet]
  split
  · exact ⟨_, s.clock, rfl, .undone _⟩
  · exact answerAfter_ends c _ _ _ s.machine rfl

/-- What becomes of a call, and of the session that makes it. -/
theorem tryCall_ends (c : Call) (s : Session V) :
    Task.Ends (tryCall c) s fun r s' =>
      ∃ machine clock cancelled, s' = s.called machine clock cancelled (.ofReply c r) ∧
        Machine.Answers c s.machine r machine := by
  unfold tryCall
  simp only [Task.ends_bind, Task.ends_get]
  split
  · exact ⟨s.machine, s.clock, s.cancelled, rfl, .unasked⟩
  · unfold ask
    simp only [Task.ends_bind]
    apply (issue_ends c s).mono
    rintro r s' ⟨machine, clock, rfl, answers⟩
    split
    · exact ⟨machine, clock, true, rfl, answers⟩
    · exact ⟨machine, clock, s.cancelled, rfl, answers⟩

end Session

/-! ## Requests on the debuggee -/

/-- What a call that has come to `r` does to the requests on a debuggee. A failed call does
nothing. -/
def Call.Effect : (c : Call) → Except RemoteError c.Reply →
    (RequestId → Option EventRequest) → (RequestId → Option EventRequest) → Prop
  | .createRequest request, .ok id, before, after =>
    before id = none ∧ after = Function.update before id (some request)
  | .deleteRequest id, .ok _, before, after => after = Function.update before id none
  | _, _, before, after => after = before

theorem Call.Effect.error {c : Call} {e : RemoteError}
    {live : RequestId → Option EventRequest} : c.Effect (.error e) live live := by
  cases c <;> rfl

theorem Call.Effect.same {c : Call} {r : Except RemoteError c.Reply}
    {live live' : RequestId → Option EventRequest} (create : ∀ q, c ≠ .createRequest q)
    (delete : ∀ id, c ≠ .deleteRequest id) (h : live' = live) : c.Effect r live live' := by
  cases c with
  | createRequest q => exact absurd rfl (create q)
  | deleteRequest id => exact absurd rfl (delete id)
  | _ => exact h

/-- A machine that keeps a record of the event requests on it. Only a call that succeeds in
creating or deleting one changes the record, and a new request gets an unused number. -/
class Ledger (V : Type) [Machine V] where
  /-- The requests that stand, by number. -/
  live : V → RequestId → Option EventRequest
  /-- The machine is in a state that it can come to. -/
  Sound : V → Prop
  sound_submit : ∀ c v, Sound v → Sound (Machine.submit c v).2
  live_submit : ∀ c v, Sound v → live (Machine.submit c v).2 = live v
  sound_perform : ∀ c v, Sound v → Sound (Machine.perform c v).2
  effect : ∀ (c : Call) v, Sound v →
    c.Effect (Machine.perform c v).1 (live v) (live (Machine.perform c v).2)

variable [Machine V] [Ledger V]

theorem Machine.Answers.effect {c : Call} {v v' : V} {r : Except RemoteError c.Reply}
    (h : Machine.Answers c v r v') (sound : Ledger.Sound v) :
    Ledger.Sound v' ∧ c.Effect r (Ledger.live v) (Ledger.live v') := by
  cases h with
  | unasked => exact ⟨sound, .error⟩
  | undone e =>
    rw [Ledger.live_submit c v sound]
    exact ⟨Ledger.sound_submit c v sound, .error⟩
  | done =>
    have submitted := Ledger.sound_submit c v sound
    rw [← Ledger.live_submit c v sound]
    exact ⟨Ledger.sound_perform c _ submitted, Ledger.effect c _ submitted⟩

end DebugSession
