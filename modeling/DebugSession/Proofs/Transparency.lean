import DebugSession.Proofs.FrameHistories
/-!
Proxies of frames are as good as the frames. As long as the debuggee answers, an operation through
a proxy does what it would do on the frame that is now at that depth, whatever has happened since
the proxy was made.
-/

namespace DebugSession

namespace Debuggee

/-- What an operation on the frame at a depth of a thread comes to: what that frame makes of it, as
it is now, or an error and no change if there is none. -/
def Acts (d : Debuggee) (op : FrameOperation) (thread : ThreadId) (depth : Nat)
    (r : Except RemoteError op.Reply) (d' : Debuggee) : Prop :=
  match d.standing? thread depth with
  | some f =>
    r = (op.onFrame f).1 ∧ (∀ e, r = .error e → e.isStale = false) ∧
      Replaces d d' thread depth (op.onFrame f).2
  | none => (∃ e, r = .error e) ∧ ∀ t i, d'.frameAt t i = d.frameAt t i

section

variable {d d' d'' : Debuggee} {op : FrameOperation} {thread : ThreadId} {depth : Nat}
  {r : Except RemoteError op.Reply}

private theorem Acts.of_issues (h : Issues d d') (acts : d'.Acts op thread depth r d'') :
    d.Acts op thread depth r d'' := by
  unfold Acts Replaces at *
  rw [← h.standing]
  simp only [← h.frameAt]
  exact acts

private theorem acts_of_none (stands : d.standing? thread depth = none) (h : Issues d d')
    (e : RemoteError) : d.Acts op thread depth (.error e) d' := by
  unfold Acts
  rw [stands]
  exact ⟨⟨e, rfl⟩, h.frameAt⟩

private theorem acts_of_ok {id : FrameId} (named : d.Names id thread depth) {f : Frame}
    (stands : d.standing? thread depth = some f) (good : d.frame id = .ok f) :
    d.Acts op thread depth (op.perform id d).1 (op.perform id d).2 := by
  obtain ⟨-, generation, found⟩ := named
  obtain ⟨answer, replaces⟩ := perform_of_ok op found good
  unfold Acts
  rw [stands]
  refine ⟨answer, fun e failed => ?_, replaces⟩
  exact (onFrame_error op (answer.symm.trans failed)).1

private theorem acts_of_refusal {e : RemoteError} (refused : ∀ f, op.onFrame f = (.error e, f))
    (fresh : e.isStale = false) (h : Issues d d') : d.Acts op thread depth (.error e) d' := by
  unfold Acts
  cases stands : d.standing? thread depth with
  | none => exact ⟨⟨e, rfl⟩, h.frameAt⟩
  | some f =>
    dsimp only
    rw [refused f]
    refine ⟨rfl, fun e' same => ?_, fun t i => ?_⟩
    · cases same
      exact fresh
    · rw [h.frameAt]
      split
      · rename_i here
        rw [here.1, here.2, frameAt_of_standing stands]
      · rfl

end

end Debuggee

namespace Session

variable {s s' : Session Debuggee}

/-! ## Calls that are answered -/

/-- The debuggee answers every call, and in the time that is allowed. -/
structure Responsive (s : Session Debuggee) : Prop where
  going : s.cancelled = false
  connected : s.machine.disconnected = false
  prompt : s.machine.latency ≤ s.waitLimit

instance (s : Session Debuggee) : Decidable s.Responsive :=
  decidable_of_iff (s.cancelled = false ∧ s.machine.disconnected = false ∧
    s.machine.latency ≤ s.waitLimit) ⟨fun h => ⟨h.1, h.2.1, h.2.2⟩, fun h => ⟨h.1, h.2, h.3⟩⟩

private theorem Responsive.of_issues (responsive : s.Responsive) (going : s'.cancelled = false)
    (settings : s'.settings = s.settings) (h : Debuggee.Issues s.machine s'.machine) :
    s'.Responsive where
  going := going
  connected := h.disconnected.trans responsive.connected
  prompt := by
    unfold waitLimit timeout
    rw [settings, h.latency]
    exact responsive.prompt

structure Answered (s : Session Debuggee) (c : Call) (r : Except RemoteError c.Reply)
    (s' : Session Debuggee) : Prop where
  reply : r = (Debuggee.perform c s.machine).1
  machine : s'.machine = (Debuggee.perform c s.machine).2
  settings : s'.settings = s.settings
  going : r ≠ .error .disconnected → s'.cancelled = false

theorem tryCall_answered (responsive : s.Responsive) (c : Call) :
    Task.Ends (tryCall c) s fun r s' => Answered s c r s' := by
  have in_time : ¬ s.waitLimit < s.machine.latency := Nat.not_lt_of_le responsive.prompt
  have submitted : Machine.submit c s.machine =
      (.accepted s.machine.latency s.machine.disconnected, s.machine) := rfl
  have asked : Task.Ends (issue c) s fun r s' => Answered s c r s' ∧ s'.cancelled = false := by
    unfold issue
    simp only [Task.ends_bind, Task.ends_modifyGet, submitted]
    have completed : ∀ clock, Task.Ends (complete c s.machine.disconnected) { s with clock }
        fun r s' => Answered s c r s' ∧ s'.cancelled = false := by
      intro clock
      unfold complete
      rw [responsive.connected]
      exact ⟨⟨rfl, rfl, rfl, fun _ => responsive.going⟩, responsive.going⟩
    unfold answerAfter
    simp only [Task.ends_bind, Task.ends_get, if_neg in_time]
    split
    · simp only [Task.ends_bind, Task.ends_sleep, Task.ends_get]
      have still_going : (s.advance (s.clock + min s.machine.latency s.waitLimit)).cancelled =
          false := responsive.going
      rw [if_neg (by rw [still_going]; exact Bool.false_ne_true)]
      exact completed _
    · exact completed s.clock
  unfold tryCall ask
  simp only [Task.ends_bind, Task.ends_get, responsive.going, Bool.false_eq_true, if_false]
  apply asked.mono
  rintro r s' ⟨answered, going⟩
  split
  · exact ⟨answered.reply, answered.machine, answered.settings, fun other => absurd rfl other⟩
  · exact ⟨answered.reply, answered.machine, answered.settings, fun _ => going⟩

private theorem ask_answered (responsive : s.Responsive) (op : FrameOperation) (id : FrameId) :
    Settles (op.ask id) s fun r s' =>
      r = (op.perform id s.machine).1 ∧ s'.machine = (op.perform id s.machine).2 ∧
        s'.settings = s.settings ∧ (r ≠ .error .disconnected → s'.cancelled = false) := by
  cases op <;> exact (tryCall_answered responsive _).mono fun r s' answered =>
    ⟨answered.reply, answered.machine, answered.settings, answered.going⟩

/-! ## Looking at the frames again -/

private theorem queryFrames_shows (responsive : s.Responsive) (thread : ThreadId) :
    Task.Ends (queryFrames thread) s fun r s' =>
      s'.Responsive ∧ Debuggee.Issues s.machine s'.machine ∧
        ∀ depth, s'.machine.Shows thread depth (r.bind fun infos => infos[depth]?) := by
  apply Task.Ends.bind (tryCall_answered responsive (.isSuspended thread))
  intro r s₁ state
  have issues₁ : Debuggee.Issues s.machine s₁.machine := by
    rw [state.machine]
    exact .refl _
  rcases Debuggee.isSuspended_shows s.machine thread with
    ⟨still, said, moving⟩ | ⟨⟨e, failed, reason⟩, unknown⟩
  · obtain rfl : r = .ok still := state.reply.trans said
    have responsive₁ := responsive.of_issues (state.going nofun) state.settings issues₁
    cases still with
    | false =>
      exact ⟨responsive₁, issues₁, fun depth => (issues₁.standing thread depth).trans
        (moving rfl depth)⟩
    | true =>
      apply Task.Ends.bind (tryCall_answered responsive₁ (.frames thread))
      intro r s₂ given
      have issues₂ : Debuggee.Issues s₁.machine s₂.machine := by
        rw [given.machine]
        exact Debuggee.frames_issues s₁.machine thread
      rcases Debuggee.frames_shows s₁.machine thread with
        ⟨infos, answered, shows⟩ | ⟨⟨e, failed, reason⟩, nothing⟩
      · obtain rfl : r = .ok infos := given.reply.trans answered
        have now : s₂.machine = (s₁.machine.frames thread).2 := given.machine
        rw [← now] at shows
        exact ⟨responsive₁.of_issues (given.going nofun) given.settings issues₂,
          issues₁.trans issues₂, shows⟩
      · obtain rfl : r = .error e := given.reply.trans failed
        have going := given.going fun same => reason (Except.error.inj same)
        exact ⟨responsive₁.of_issues going given.settings issues₂, issues₁.trans issues₂,
          fun depth => (issues₂.standing thread depth).trans (nothing depth)⟩
  · obtain rfl : r = .error e := state.reply.trans failed
    have going := state.going fun same => reason (Except.error.inj same)
    exact ⟨responsive.of_issues going state.settings issues₁, issues₁,
      fun depth => (issues₁.standing thread depth).trans (unknown depth)⟩

private theorem refresh_shows (responsive : s.Responsive) (p : Suspension) (depth : Nat) :
    Task.Ends (refresh p depth) s fun r s' =>
      s'.Responsive ∧ Debuggee.Issues s.machine s'.machine ∧
        s'.machine.Shows p.thread depth r := by
  apply Task.Ends.bind (queryFrames_shows responsive p.thread)
  rintro r s₁ ⟨responsive₁, issues, shows⟩
  cases r with
  | none => exact ⟨responsive₁, issues, shows depth⟩
  | some infos =>
    exact ⟨⟨responsive₁.going, responsive₁.connected, responsive₁.prompt⟩, issues, shows depth⟩

/-! ## Operations through proxies -/

private theorem retry_acts (responsive : s.Responsive) (q : FrameProxy) (op : FrameOperation)
    (e : RemoteError) :
    Settles (retry q op.ask e) s fun r s' =>
      s.machine.Acts op q.thread q.depth r s'.machine := by
  apply (refresh_shows responsive q.key.suspension q.depth).andThen
  rintro r s₁ ⟨responsive₁, issues, shows⟩
  cases r with
  | none =>
    have nothing : s.machine.standing? q.thread q.depth = none :=
      (issues.standing _ _).symm.trans shows
    exact Debuggee.acts_of_none nothing issues e
  | some info =>
    obtain ⟨named, f, stands, good⟩ := shows
    have kept : (setCachedFrame q (some info) s₁).Responsive :=
      ⟨responsive₁.going, responsive₁.connected, responsive₁.prompt⟩
    rw [settles_bind, settles_modify]
    apply (ask_answered kept op info.id).mono
    rintro r s₂ ⟨reply, machine, -, -⟩
    rw [reply, machine]
    exact (Debuggee.acts_of_ok named stands good).of_issues issues

/-- An operation through a proxy does to the debuggee what it does on the frame that is now at the
depth of the proxy; without such a frame it fails. -/
theorem through_acts {ps : List Suspension} {qs : List FrameProxy} {q : FrameProxy}
    (past : Past s ps qs) (responsive : s.Responsive) (hq : q ∈ qs) (op : FrameOperation) :
    Settles (op.through q) s fun r s' =>
      s.machine.Acts op q.thread q.depth r s'.machine := by
  rw [FrameOperation.through_eq]
  unfold withFrame
  rw [settles_bind, settles_get]
  dsimp only
  cases cached : cachedFrame s q with
  | none => exact retry_acts responsive q op _
  | some info =>
    have named := past.traced.cached q hq info cached
    obtain ⟨-, generation, found⟩ := id named
    dsimp only
    rw [settles_bind, settles_attempt]
    apply (ask_answered responsive op info.id).mono
    rintro r s₁ ⟨reply, machine, settings, going⟩
    rcases Debuggee.frame_of_handle found with ⟨f, good, stands⟩ | ⟨e, bad, reason⟩
    -- The handle is good: its thread has not run since it was given out.
    · have acts : s.machine.Acts op q.thread q.depth r s₁.machine := by
        rw [reply, machine]
        exact Debuggee.acts_of_ok named stands good
      cases r with
      | ok a => exact acts
      | error e =>
        have fresh : e.isStale = false := by
          unfold Debuggee.Acts at acts
          rw [stands] at acts
          exact acts.2.1 e rfl
        dsimp only
        rw [fresh]
        exact acts
    · obtain ⟨issues, refused⟩ := Debuggee.perform_of_error op bad
      rw [← machine] at issues
      rcases refused with failed | ⟨e', failed, fresh, -, always⟩
      -- A stale handle is a reason to look again; any other error means that there is no frame.
      · obtain rfl : r = .error e := reply.trans failed
        dsimp only
        split
        · rename_i stale
          have responsive₁ : s₁.Responsive := by
            refine responsive.of_issues (going fun same => ?_) settings issues
            cases same
            cases stale
          exact (retry_acts responsive₁ q op e).mono fun _ _ acts => acts.of_issues issues
        · rename_i fresh
          have nothing : s.machine.standing? q.thread q.depth = none := by
            rcases reason with rfl | nothing
            · exact absurd rfl fresh
            · exact nothing
          exact Debuggee.acts_of_none nothing issues e
      -- The value does not fit the variable, which is found out before the handle is looked at.
      · obtain rfl : r = .error e' := reply.trans failed
        dsimp only
        rw [fresh]
        exact Debuggee.acts_of_refusal always fresh issues

def frameAtLine (line : UInt32) : Frame :=
  { location := { className := "A", methodName := "m", line } }

def haltedThread : Debuggee :=
  ((({} : Debuggee).addThread 1 "main").setFrames 1 [frameAtLine 5]).suspendThread 1

def innermost : FrameProxy := ⟨⟨⟨1, 1⟩, 0⟩, 0⟩

def proxied : Session Debuggee :=
  (openFrame ((capture 1).run advance (start haltedThread {} {})).2 ⟨1, 1⟩ 0).2

def restacked : Session Debuggee :=
  { proxied with machine := proxied.machine.change 1 (.restacks [frameAtLine 9]) }

/-- The proxy finds the frame that is on the stack now, although its handle is stale. -/
theorem location_through_of_restacked :
    Past restacked [⟨1, 1⟩] [innermost] ∧ restacked.Responsive ∧
      (∃ info, restacked.cachedFrame innermost = some info ∧
        restacked.machine.frame info.id = .error .invalidStackFrame) ∧
      Settles (FrameOperation.location.through innermost) restacked fun r _ =>
        r = .ok (frameAtLine 9).location := by
  have began : Past (start haltedThread {} {}) [] [] := .start haltedThread {} {}
  have known : Past proxied [⟨1, 1⟩] [innermost] :=
    (began.capture 1).openFrame 0 (List.mem_singleton.2 rfl)
  have past : Past restacked [⟨1, 1⟩] [innermost] := known.passes (passes_change proxied 1 _)
  have responsive : restacked.Responsive := by
    constructor <;> decide +kernel
  refine ⟨past, responsive, ⟨⟨1, (frameAtLine 5).location⟩, by decide +kernel, rfl⟩, ?_⟩
  apply (through_acts past responsive (List.mem_singleton.2 rfl) .location).mono
  intro r s' acts
  have stands : restacked.machine.standing? innermost.thread innermost.depth =
      some (frameAtLine 9) := by decide +kernel
  unfold Debuggee.Acts at acts
  rw [stands] at acts
  exact acts.1

end Session
end DebugSession
