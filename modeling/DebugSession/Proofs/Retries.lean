import DebugSession.Proofs.FrameHistories
/-!
Operations on frames through proxies, for any debuggee and whatever it answers. Main statement: an
operation is tried on the handle that is kept; if that is stale, or if there is none, the stack is
looked at once, and the operation is tried once more or given up.
-/

namespace DebugSession

variable {V : Type} [Machine V]

/-! ## Calls and their answers -/

namespace Session

/-- A call is made and comes to `r`. -/
def Hears (c : Call) (r : Except RemoteError c.Reply) (s s' : Session V) : Prop :=
  (tryCall c).run advance s = (r, s')

theorem tryCall_hears (c : Call) (s : Session V) :
    Task.Ends (tryCall c) s fun r s' => Hears c r s s' := rfl

theorem Hears.called {c : Call} {r : Except RemoteError c.Reply} {s s' : Session V}
    (h : Hears c r s s') :
    ∃ machine clock cancelled, s' = s.called machine clock cancelled (.ofReply c r) := by
  obtain ⟨machine, clock, cancelled, same, -⟩ := tryCall_ends c s
  rw [h] at same
  exact ⟨machine, clock, cancelled, same⟩

/-- These calls were made and no others, and what the client was told of means what it did. -/
structure Makes (cs : List Call) (s s' : Session V) : Prop where
  calls : s'.calls.map Exchange.call = s.calls.map Exchange.call ++ cs
  handles : s'.handles = s.handles

section

omit [Machine V]

variable {cs cs' : List Call} {s s₁ s' : Session V}

theorem Makes.refl (s : Session V) : Makes [] s s := ⟨(List.append_nil _).symm, rfl⟩

theorem Makes.trans (h : Makes cs s s₁) (h' : Makes cs' s₁ s') : Makes (cs ++ cs') s s' where
  calls := by rw [h'.calls, h.calls, List.append_assoc]
  handles := h'.handles.trans h.handles

end

theorem Hears.makes {c : Call} {r : Except RemoteError c.Reply} {s s' : Session V}
    (h : Hears c r s s') : Makes [c] s s' := by
  obtain ⟨machine, clock, cancelled, rfl⟩ := h.called
  exact ⟨by rw [called_calls, List.map_append, List.map_singleton, Exchange.call_ofReply], rfl⟩

theorem Hears.cells {c : Call} {r : Except RemoteError c.Reply} {s s' : Session V}
    (h : Hears c r s s') : s'.cells = s.cells := by
  obtain ⟨machine, clock, cancelled, rfl⟩ := h.called
  rfl

end Session

open Session

namespace FrameOperation

/-- The call that an operation makes on the frame behind a handle. -/
def call : FrameOperation → FrameId → Call
  | location, id => .frameLocation id
  | visibleVariables, id => .visibleVariables id
  | localValues targets, id => .localValues id targets
  | argumentValues, id => .argumentValues id
  | thisObject, id => .thisObject id
  | setLocalValue target value, id => .setLocalValue id target value

/-- An operation is tried on the frame behind a handle and comes to `r`. -/
def Tries : (op : FrameOperation) → FrameId → Except RemoteError op.Reply →
    Session V → Session V → Prop
  | location, id, r, s, s' => Hears (.frameLocation id) r s s'
  | visibleVariables, id, r, s, s' => Hears (.visibleVariables id) r s s'
  | localValues targets, id, r, s, s' => Hears (.localValues id targets) r s s'
  | argumentValues, id, r, s, s' => Hears (.argumentValues id) r s s'
  | thisObject, id, r, s, s' => Hears (.thisObject id) r s s'
  | setLocalValue target value, id, r, s, s' => Hears (.setLocalValue id target value) r s s'

theorem ask_tries (op : FrameOperation) (id : FrameId) (s : Session V) :
    Settles (op.ask id) s fun r s' => op.Tries id r s s' := by
  cases op <;> exact tryCall_hears _ s

section

variable {op : FrameOperation} {id : FrameId} {r : Except RemoteError op.Reply} {s s' : Session V}

theorem Tries.makes (h : op.Tries id r s s') : Makes [op.call id] s s' := by
  cases op <;> exact Hears.makes h

theorem Tries.cells (h : op.Tries id r s s') : s'.cells = s.cells := by
  cases op <;> exact Hears.cells h

end

end FrameOperation

namespace Session

/-! ## Looking at the stack -/

/-- The stack of a suspended thread is asked for, and what is found at a depth. -/
inductive Requeries (p : Suspension) (depth : Nat) (s : Session V) :
    Option FrameInfo → Session V → Prop
  | running {r : Except RemoteError Bool} {s' : Session V}
      (state : Hears (.isSuspended p.thread) r s s') (moving : r ≠ .ok true) :
      Requeries p depth s none s'
  | refused {e : RemoteError} {s₁ s' : Session V}
      (state : Hears (.isSuspended p.thread) (.ok true) s s₁)
      (stack : Hears (.frames p.thread) (.error e) s₁ s') : Requeries p depth s none s'
  | seen {frames : List FrameInfo} {s₁ s₂ : Session V}
      (state : Hears (.isSuspended p.thread) (.ok true) s s₁)
      (stack : Hears (.frames p.thread) (.ok frames) s₁ s₂) :
      Requeries p depth s frames[depth]?
        { s₂ with snapshots := s₂.snapshots.insert p.version frames }

theorem refresh_requeries (p : Suspension) (depth : Nat) (s : Session V) :
    Task.Ends (refresh p depth) s fun g s' => Requeries p depth s g s' := by
  unfold refresh queryFrames
  rw [Task.ends_bind, Task.ends_bind]
  apply (tryCall_hears (.isSuspended p.thread) s).mono
  intro r s₁ state
  split
  · rw [Task.ends_bind]
    apply (tryCall_hears (.frames p.thread) s₁).mono
    intro r s₂ stack
    cases r with
    | ok frames => exact .seen state stack
    | error e => exact .refused state stack
  · rename_i moving
    exact .running state moving

theorem Requeries.makes {p : Suspension} {depth : Nat} {s s' : Session V} {g : Option FrameInfo}
    (h : Requeries p depth s g s') :
    ∃ cs, Makes cs s s' ∧ cs.Sublist [.isSuspended p.thread, .frames p.thread] := by
  cases h with
  | running state moving => exact ⟨_, state.makes, .cons_cons _ (List.nil_sublist _)⟩
  | refused state stack => exact ⟨_, state.makes.trans stack.makes, List.Sublist.refl _⟩
  | seen state stack =>
    have both := state.makes.trans stack.makes
    exact ⟨_, ⟨both.calls, both.handles⟩, List.Sublist.refl _⟩

/-! ## Trying once more -/

/-- There is no good handle to go by, with the error that says so: none is kept, or an operation on
the one that is kept has failed because it is stale. -/
inductive Stranded (p : FrameProxy) (op : FrameOperation) (s : Session V) :
    RemoteError → Session V → Prop
  | unknown (none : s.cachedFrame p = none) : Stranded p op s .invalidStackFrame s
  | stale {f : FrameInfo} {e : RemoteError} {s₁ : Session V} (cached : s.cachedFrame p = some f)
      (first : op.Tries f.id (.error e) s s₁) (stale : e.isStale = true) : Stranded p op s e s₁

/-- What may come of an operation through a proxy. -/
inductive Operates (p : FrameProxy) (op : FrameOperation) (s : Session V) :
    Except RemoteError op.Reply → Session V → Prop
  /-- On the handle that is kept, it succeeds or fails for another reason. -/
  | straight {f : FrameInfo} {r : Except RemoteError op.Reply} {s' : Session V}
      (cached : s.cachedFrame p = some f) (first : op.Tries f.id r s s')
      (fresh : ∀ e, r = .error e → e.isStale = false) (kept : s'.cachedFrame p = some f) :
      Operates p op s r s'
  /-- The frame is found again and kept, and the second try counts, whatever it comes to. -/
  | again {e : RemoteError} {f : FrameInfo} {r : Except RemoteError op.Reply} {s₁ s₂ s' : Session V}
      (stranded : Stranded p op s e s₁) (found : Requeries p.key.suspension p.depth s₁ (some f) s₂)
      (second : op.Tries f.id r (setCachedFrame p (some f) s₂) s')
      (kept : s'.cachedFrame p = some f) : Operates p op s r s'
  /-- There is no frame any more; the first failure counts. -/
  | dropped {e : RemoteError} {s₁ s₂ s' : Session V} (stranded : Stranded p op s e s₁)
      (gone : Requeries p.key.suspension p.depth s₁ none s₂) (same : s' = setCachedFrame p none s₂)
      (kept : s'.cachedFrame p = none) : Operates p op s (.error e) s'

section

variable {p : FrameProxy} {op : FrameOperation} {s s' : Session V}

omit [Machine V] in
theorem cachedFrame_setCachedFrame (p : FrameProxy) (f : Option FrameInfo) (s : Session V) :
    (setCachedFrame p f s).cachedFrame p = f := by
  rw [cachedFrame, setCachedFrame, Table.get?_insert, if_pos rfl, Option.join_some]

theorem retry_operates {e : RemoteError} {s₁ : Session V} (stranded : Stranded p op s e s₁) :
    Settles (retry p op.ask e) s₁ fun r s' => Operates p op s r s' := by
  unfold retry
  apply (refresh_requeries p.key.suspension p.depth s₁).andThen
  intro g s₂ looked
  cases g with
  | none => exact .dropped stranded looked rfl (cachedFrame_setCachedFrame p none s₂)
  | some f =>
    rw [settles_bind, settles_modify]
    apply (op.ask_tries f.id _).mono
    intro r s' second
    refine .again stranded looked second ?_
    rw [cachedFrame, second.cells]
    exact cachedFrame_setCachedFrame p (some f) s₂

theorem through_operates (p : FrameProxy) (op : FrameOperation) (s : Session V) :
    Settles (op.through p) s fun r s' => Operates p op s r s' := by
  rw [FrameOperation.through_eq, withFrame, settles_bind, settles_get]
  dsimp only
  cases cached : s.cachedFrame p with
  | none => exact retry_operates (.unknown cached)
  | some f =>
    rw [settles_bind, settles_attempt]
    apply (op.ask_tries f.id s).mono
    intro r s₁ first
    have kept : s₁.cachedFrame p = some f := by
      rw [cachedFrame, first.cells]
      exact cached
    cases r with
    | ok a =>
      refine .straight cached first (fun e failed => ?_) kept
      cases failed
    | error e =>
      dsimp only
      split
      · rename_i stale
        exact retry_operates (.stale cached first stale)
      · rename_i fresh
        refine .straight cached first (fun e' same => ?_) kept
        cases same
        exact Bool.not_eq_true _ ▸ fresh

theorem Stranded.makes {e : RemoteError} (h : Stranded p op s e s') :
    ∃ cs first, Makes cs s s' ∧ cs.Sublist [op.call first] := by
  cases h with
  | unknown none => exact ⟨[], 0, .refl s, List.nil_sublist _⟩
  | stale cached first stale => exact ⟨_, _, first.makes, List.Sublist.refl _⟩

theorem Operates.makes {r : Except RemoteError op.Reply} (h : Operates p op s r s') :
    ∃ cs first second, Makes cs s s' ∧
      cs.Sublist [op.call first, .isSuspended p.thread, .frames p.thread, op.call second] := by
  cases h with
  | @straight f r s' cached first fresh kept =>
    exact ⟨_, f.id, 0, first.makes, .cons_cons _ (List.nil_sublist _)⟩
  | @again e f r s₁ s₂ s' stranded found second kept =>
    obtain ⟨cs, id, before, tried⟩ := stranded.makes
    obtain ⟨cs', looked, asked⟩ := found.makes
    have whole := (before.trans looked).trans ⟨second.makes.calls, second.makes.handles⟩
    exact ⟨_, id, f.id, whole, (tried.append asked).append (List.Sublist.refl _)⟩
  | @dropped e s₁ s₂ s' stranded gone same kept =>
    obtain ⟨cs, id, before, tried⟩ := stranded.makes
    obtain ⟨cs', looked, asked⟩ := gone.makes
    have whole := before.trans looked
    subst same
    exact ⟨_, id, 0, ⟨whole.calls, whole.handles⟩,
      (tried.append asked).trans (List.sublist_append_left _ [op.call 0])⟩

end

/-- An operation through a proxy is tried at most twice, with at most one look at the stack in
between: on the handle that is kept, and once more where that handle is stale or there is none. The
proxy stays equal to what it was equal to, and all handles that the client has stay. -/
theorem through_retries_once (p : FrameProxy) (op : FrameOperation) (s : Session V) :
    Settles (op.through p) s fun r s' =>
      Operates p op s r s' ∧
      (∃ cs first second, Makes cs s s' ∧
        cs.Sublist [op.call first, .isSuspended p.thread, .frames p.thread, op.call second]) ∧
      ∀ q : FrameProxy, ((p == q) = true ↔
          p.thread = q.thread ∧ p.key.suspension.version = q.key.suspension.version ∧
            p.depth = q.depth) ∧
        ((p == q) = true → hash p = hash q) := by
  apply (through_operates p op s).mono
  intro r s' operates
  refine ⟨operates, operates.makes, fun q => ⟨?_, LawfulHashable.hash_eq p q⟩⟩
  obtain ⟨⟨⟨thread, version⟩, depth⟩, cell⟩ := p
  obtain ⟨⟨⟨thread', version'⟩, depth'⟩, cell'⟩ := q
  rw [FrameProxy.beq_iff]
  simp [FrameProxy.thread, FrameProxy.depth, and_assoc]

end Session
end DebugSession
