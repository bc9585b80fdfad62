import DebugSession.Proofs.Calls
import DebugSession.Proofs.FrameHandles
import DebugSession.Session.Frames
/-!
Suspensions and proxies after any history. Whatever handle is kept for a frame, in the snapshot of
its suspension or by a proxy, was given out for that frame's thread and depth.
-/

namespace DebugSession

namespace FrameOperation

variable {V : Type} [Machine V]

def ask : (op : FrameOperation) → FrameId → Remote V op.Reply
  | location, id => Session.call (.frameLocation id)
  | visibleVariables, id => Session.call (.visibleVariables id)
  | localValues targets, id => Session.call (.localValues id targets)
  | argumentValues, id => Session.call (.argumentValues id)
  | thisObject, id => Session.call (.thisObject id)
  | setLocalValue target value, id => Session.call (.setLocalValue id target value)

def through : (op : FrameOperation) → FrameProxy → Remote V op.Reply
  | location, q => Session.frameLocation q
  | visibleVariables, q => Session.visibleVariables q
  | localValues targets, q => Session.localValues q targets
  | argumentValues, q => Session.argumentValues q
  | thisObject, q => Session.thisObject q
  | setLocalValue target value, q => Session.setLocalValue q target value

theorem through_eq (op : FrameOperation) (q : FrameProxy) :
    (op.through q : Remote V op.Reply) = Session.withFrame q op.ask := by
  cases op <;> rfl

end FrameOperation

/-- Frames of a thread, the innermost first, with handles that were given out for them. -/
def Debuggee.Lists (d : Debuggee) (thread : ThreadId) (infos : List FrameInfo) : Prop :=
  ∀ depth info, infos[depth]? = some info → d.Names info.id thread depth

theorem Debuggee.Lists.mono {d d' : Debuggee} {thread : ThreadId} {infos : List FrameInfo}
    (lists : d.Lists thread infos) (h : Extends d d') : d'.Lists thread infos :=
  fun depth info there => (lists depth info there).mono h

theorem Debuggee.extends_answers {c : Call} {d d' : Debuggee} {r : Except RemoteError c.Reply}
    (h : Machine.Answers c d r d') : Extends d d' := by
  cases h with
  | unasked => exact .refl d
  | undone e => exact .refl d
  | done => exact extends_perform c d

namespace Session

variable {s s' s'' : Session Debuggee}

/-! ## What a step does to suspensions and proxies -/

/-- Suspensions and proxies are left as they are, and so is what handles were given out for. -/
structure Leaves (s s' : Session Debuggee) : Prop where
  suspensions : s'.suspensions = s.suspensions
  snapshots : s'.snapshots = s.snapshots
  cells : s'.cells = s.cells
  cellCount : s'.cellCount = s.cellCount
  handles : Debuggee.Extends s.machine s'.machine

theorem Leaves.refl (s : Session Debuggee) : Leaves s s := ⟨rfl, rfl, rfl, rfl, .refl _⟩

theorem Leaves.trans (h : Leaves s s') (h' : Leaves s' s'') : Leaves s s'' where
  suspensions := h'.suspensions.trans h.suspensions
  snapshots := h'.snapshots.trans h.snapshots
  cells := h'.cells.trans h.cells
  cellCount := h'.cellCount.trans h.cellCount
  handles := h.handles.trans h'.handles

theorem tryCall_leaves (c : Call) (s : Session Debuggee) :
    Task.Ends (tryCall c) s fun _ s' => Leaves s s' := by
  apply (tryCall_ends c s).mono
  rintro r s' ⟨machine, clock, cancelled, rfl, answers⟩
  exact ⟨rfl, rfl, rfl, rfl, Debuggee.extends_answers answers⟩

theorem ask_leaves (op : FrameOperation) (id : FrameId) (s : Session Debuggee) :
    Settles (op.ask id) s fun _ s' => Leaves s s' := by
  cases op <;> exact tryCall_leaves _ s

private theorem frames_lists (thread : ThreadId) (s : Session Debuggee) :
    Task.Ends (tryCall (.frames thread)) s fun r s' =>
      Leaves s s' ∧ ∀ infos, r = .ok infos → s'.machine.Lists thread infos := by
  apply ((tryCall_leaves _ s).and (tryCall_ends _ s)).mono
  rintro r s' ⟨leaves, machine, clock, cancelled, rfl, answers⟩
  refine ⟨leaves, ?_⟩
  intro infos ok
  cases answers with
  | unasked => cases ok
  | undone e => cases ok
  | done =>
    rcases Debuggee.frames_shows s.machine thread with ⟨shown, answered, shows⟩ | ⟨failed, -⟩
    · have same : shown = infos := Except.ok.inj (answered.symm.trans ok)
      intro depth info there
      have here := shows depth
      rw [same, there] at here
      exact here.1
    · obtain ⟨e, refused, -⟩ := failed
      cases refused.symm.trans ok

theorem queryFrames_lists (thread : ThreadId) (s : Session Debuggee) :
    Task.Ends (queryFrames thread) s fun r s' =>
      Leaves s s' ∧ ∀ infos, r = some infos → s'.machine.Lists thread infos := by
  apply Task.Ends.bind (tryCall_leaves (.isSuspended thread) s)
  intro r s₁ asked
  split
  · apply Task.Ends.bind (frames_lists thread s₁)
    rintro r s₂ ⟨leaves, lists⟩
    cases r with
    | ok infos =>
      refine ⟨asked.trans leaves, ?_⟩
      intro infos' same
      cases same
      exact lists infos rfl
    | error e => exact ⟨asked.trans leaves, nofun⟩
  · exact ⟨asked, nofun⟩

/-! ## The invariant -/

/-- All suspensions `ps` and proxies `qs` of a session keep only handles of their own frames. -/
structure Traced (s : Session Debuggee) (ps : List Suspension) (qs : List FrameProxy) : Prop where
  /-- Versions that are not used yet have no snapshot. -/
  fresh : ∀ version, s.suspensions < version → s.snapshots.get? version = none
  taken : ∀ p ∈ ps, p.version ≤ s.suspensions
  distinct : ∀ p ∈ ps, ∀ p' ∈ ps, p.version = p'.version → p = p'
  opened : ∀ q ∈ qs, q.key.suspension ∈ ps
  allotted : ∀ q ∈ qs, q.cell < s.cellCount
  /-- Only proxies of one frame share a cell. -/
  own : ∀ q ∈ qs, ∀ q' ∈ qs, q.cell = q'.cell → q.key = q'.key
  seen : ∀ p ∈ ps, s.machine.Lists p.thread (s.framesOf p)
  cached : ∀ q ∈ qs, ∀ info, s.cachedFrame q = some info →
    s.machine.Names info.id q.thread q.depth

section

variable {ps : List Suspension} {qs : List FrameProxy}

theorem traced_start (machine : Debuggee) (settings : Settings) (providers : Providers) :
    Traced (start machine settings providers) [] [] where
  fresh _ _ := rfl
  taken := nofun
  distinct := nofun
  opened := nofun
  allotted := nofun
  own := nofun
  seen := nofun
  cached := nofun

theorem Traced.leaves (traced : Traced s ps qs) (h : Leaves s s') : Traced s' ps qs where
  fresh := by rw [h.suspensions, h.snapshots]; exact traced.fresh
  taken := by rw [h.suspensions]; exact traced.taken
  distinct := traced.distinct
  opened := traced.opened
  allotted := by rw [h.cellCount]; exact traced.allotted
  own := traced.own
  seen := by
    intro p hp
    have same : s'.framesOf p = s.framesOf p := by
      unfold framesOf
      rw [h.snapshots]
    rw [same]
    exact (traced.seen p hp).mono h.handles
  cached := by
    intro q hq info found
    unfold cachedFrame at found
    rw [h.cells] at found
    exact (traced.cached q hq info found).mono h.handles

private theorem Traced.suspend (traced : Traced s ps qs) (thread : ThreadId) :
    Traced { s with suspensions := s.suspensions + 1 } (⟨thread, s.suspensions + 1⟩ :: ps) qs where
  fresh version above := traced.fresh version (Nat.lt_of_succ_lt above)
  taken := by
    intro p hp
    rcases List.mem_cons.1 hp with rfl | old
    · exact Nat.le_refl _
    · exact Nat.le_succ_of_le (traced.taken p old)
  distinct := by
    have newer : ∀ p ∈ ps, p.version ≠ s.suspensions + 1 := fun p old =>
      Nat.ne_of_lt (Nat.lt_succ_of_le (traced.taken p old))
    intro p hp p' hp' same
    rcases List.mem_cons.1 hp with rfl | old <;> rcases List.mem_cons.1 hp' with rfl | old'
    · rfl
    · exact absurd same.symm (newer p' old')
    · exact absurd same (newer p old)
    · exact traced.distinct p old p' old' same
  opened q hq := List.mem_cons_of_mem _ (traced.opened q hq)
  allotted := traced.allotted
  own := traced.own
  seen := by
    intro p hp
    rcases List.mem_cons.1 hp with rfl | old
    · have none_yet : s.snapshots.get? (s.suspensions + 1) = none :=
        traced.fresh _ (Nat.lt_succ_self _)
      intro depth info there
      unfold framesOf at there
      rw [none_yet] at there
      cases there
    · exact traced.seen p old
  cached := traced.cached

theorem Traced.look (traced : Traced s ps qs) {p : Suspension} (hp : p ∈ ps)
    {infos : List FrameInfo} (lists : s.machine.Lists p.thread infos) :
    Traced { s with snapshots := s.snapshots.insert p.version infos } ps qs where
  fresh := by
    -- The snapshot is one of a suspension that there has been, so its version is used.
    intro version above
    rw [Table.get?_insert, if_neg]
    · exact traced.fresh version above
    · rintro rfl
      exact absurd (traced.taken p hp) (Nat.not_le_of_lt above)
  taken := traced.taken
  distinct := traced.distinct
  opened := traced.opened
  allotted := traced.allotted
  own := traced.own
  seen := by
    intro p' hp'
    unfold framesOf
    rw [Table.get?_insert]
    split
    · rename_i same
      rw [traced.distinct p' hp' p hp same]
      exact lists
    · exact traced.seen p' hp'
  cached := traced.cached

theorem Traced.openFrame (traced : Traced s ps qs) {p : Suspension} (hp : p ∈ ps) (depth : Nat) :
    Traced (openFrame s p depth).2 ps ((openFrame s p depth).1 :: qs) where
  fresh := traced.fresh
  taken := traced.taken
  distinct := traced.distinct
  opened := by
    intro q hq
    rcases List.mem_cons.1 hq with rfl | old
    · exact hp
    · exact traced.opened q old
  allotted := by
    intro q hq
    rcases List.mem_cons.1 hq with rfl | old
    · exact Nat.lt_succ_self _
    · exact Nat.lt_succ_of_lt (traced.allotted q old)
  own := by
    have newer : ∀ q ∈ qs, q.cell ≠ s.cellCount := fun q old => Nat.ne_of_lt (traced.allotted q old)
    intro q hq q' hq' same
    rcases List.mem_cons.1 hq with rfl | old <;> rcases List.mem_cons.1 hq' with rfl | old'
    · rfl
    · exact absurd same.symm (newer q' old')
    · exact absurd same (newer q old)
    · exact traced.own q old q' old' same
  seen := traced.seen
  cached := by
    intro q hq info found
    simp only [cachedFrame, Session.openFrame, Table.get?_insert] at found
    rcases List.mem_cons.1 hq with rfl | old
    · have here : (Session.openFrame s p depth).1.cell = s.cellCount := rfl
      rw [if_pos here] at found
      exact traced.seen p hp depth info found
    · rw [if_neg (Nat.ne_of_lt (traced.allotted q old))] at found
      exact traced.cached q old info found

theorem Traced.keep (traced : Traced s ps qs) {q : FrameProxy} (hq : q ∈ qs)
    {kept : Option FrameInfo}
    (named : ∀ info, kept = some info → s.machine.Names info.id q.thread q.depth) :
    Traced (setCachedFrame q kept s) ps qs where
  fresh := traced.fresh
  taken := traced.taken
  distinct := traced.distinct
  opened := traced.opened
  allotted := traced.allotted
  own := traced.own
  seen := traced.seen
  cached := by
    intro q' hq' info found
    simp only [cachedFrame, setCachedFrame, Table.get?_insert] at found
    split at found
    -- The proxies that share the cell are all of the same frame.
    · rename_i same
      have key : q'.key = q.key := traced.own q' hq' q hq same
      unfold FrameProxy.thread FrameProxy.depth
      rw [key]
      exact named info found
    · exact traced.cached q' hq' info found

theorem Traced.capture (traced : Traced s ps qs) (thread : ThreadId) :
    Task.Ends (capture thread) s fun p s' => Traced s' (p :: ps) qs := by
  unfold Session.capture
  refine Task.Ends.bind (P := fun version s' =>
    Traced s' (⟨thread, version⟩ :: ps) qs) (traced.suspend thread) ?_
  intro version s₁ suspended
  apply Task.Ends.bind (queryFrames_lists thread s₁)
  rintro r s₂ ⟨leaves, lists⟩
  cases r with
  | none => exact suspended.leaves leaves
  | some infos =>
    exact (suspended.leaves leaves).look (List.mem_cons_self ..) (lists infos rfl)

theorem Traced.refresh (traced : Traced s ps qs) {p : Suspension} (hp : p ∈ ps) (depth : Nat) :
    Task.Ends (refresh p depth) s fun r s' =>
      Traced s' ps qs ∧ ∀ info, r = some info → s'.machine.Names info.id p.thread depth := by
  unfold Session.refresh
  apply Task.Ends.bind (queryFrames_lists p.thread s)
  rintro r s' ⟨leaves, lists⟩
  cases r with
  | none => exact ⟨traced.leaves leaves, nofun⟩
  | some infos =>
    have listed := lists infos rfl
    exact ⟨(traced.leaves leaves).look hp listed, fun info there => listed depth info there⟩

private theorem Traced.retry (traced : Traced s ps qs) {q : FrameProxy} (hq : q ∈ qs)
    (op : FrameOperation) (e : RemoteError) :
    Settles (retry q op.ask e) s fun _ s' => Traced s' ps qs := by
  unfold Session.retry
  apply (traced.refresh (traced.opened q hq) q.depth).andThen
  rintro r s' ⟨looked, named⟩
  cases r with
  | none => exact looked.keep hq nofun
  | some info =>
    have kept : Traced (setCachedFrame q (some info) s') ps qs := by
      apply looked.keep hq
      intro info' same
      cases same
      exact named info rfl
    rw [settles_bind]
    exact (ask_leaves op info.id _).mono fun _ _ leaves => kept.leaves leaves

theorem Traced.through (traced : Traced s ps qs) {q : FrameProxy} (hq : q ∈ qs)
    (op : FrameOperation) : Settles (op.through q) s fun _ s' => Traced s' ps qs := by
  rw [FrameOperation.through_eq]
  unfold withFrame
  rw [settles_bind, settles_get]
  dsimp only
  split
  · exact traced.retry hq op _
  · rename_i info _
    rw [settles_bind, settles_attempt]
    apply (ask_leaves op info.id s).mono
    intro r s' leaves
    have now := traced.leaves leaves
    cases r with
    | ok a => exact now
    | error e =>
      dsimp only
      split
      · exact now.retry hq op e
      · exact now

end

/-! ## Histories -/

end Session

/-- What becomes of a thread without a call. -/
inductive ThreadChange where
  | halts
  | runs
  | dies
  | restacks (frames : List Frame)

def Debuggee.change (d : Debuggee) (thread : ThreadId) : ThreadChange → Debuggee
  | .halts => d.suspendThread thread
  | .runs => d.runThread thread
  | .dies => d.killThread thread
  | .restacks frames => d.setFrames thread frames

namespace Session

variable {s s' : Session Debuggee}

/-- Something happens that has to do neither with suspensions and proxies nor with handles of
frames: threads of the debuggee change, time passes, or the session turns to other things. -/
structure Passes (s s' : Session Debuggee) : Prop where
  suspensions : s'.suspensions = s.suspensions
  snapshots : s'.snapshots = s.snapshots
  cells : s'.cells = s.cells
  cellCount : s'.cellCount = s.cellCount
  frameHandles : s'.machine.frameHandles = s.machine.frameHandles
  nextFrame : s'.machine.nextFrame = s.machine.nextFrame

theorem passes_change (s : Session Debuggee) (thread : ThreadId) (c : ThreadChange) :
    Passes s { s with machine := s.machine.change thread c } := by
  cases c with
  | runs =>
    have same := s.machine.runThread_eq thread
    exact ⟨rfl, rfl, rfl, rfl, same.1, same.2⟩
  | _ => exact ⟨rfl, rfl, rfl, rfl, rfl, rfl⟩

/-- A session that has had the suspensions `ps` and the proxies `qs`, and all that may have
happened to it since it began. -/
inductive Past : Session Debuggee → List Suspension → List FrameProxy → Prop where
  | start (machine : Debuggee) (settings : Settings) (providers : Providers) :
      Past (start machine settings providers) [] []
  | passes {s s' : Session Debuggee} {ps : List Suspension} {qs : List FrameProxy} :
      Past s ps qs → Passes s s' → Past s' ps qs
  | call {s : Session Debuggee} {ps : List Suspension} {qs : List FrameProxy} (c : Call) :
      Past s ps qs → Past ((tryCall c).run advance s).2 ps qs
  | capture {s : Session Debuggee} {ps : List Suspension} {qs : List FrameProxy}
      (thread : ThreadId) : Past s ps qs →
      Past ((capture thread).run advance s).2 (((capture thread).run advance s).1 :: ps) qs
  | refresh {s : Session Debuggee} {ps : List Suspension} {qs : List FrameProxy} {p : Suspension}
      (depth : Nat) : Past s ps qs → p ∈ ps → Past ((refresh p depth).run advance s).2 ps qs
  | openFrame {s : Session Debuggee} {ps : List Suspension} {qs : List FrameProxy}
      {p : Suspension} (depth : Nat) : Past s ps qs → p ∈ ps →
      Past (openFrame s p depth).2 ps ((openFrame s p depth).1 :: qs)
  | operate {s : Session Debuggee} {ps : List Suspension} {qs : List FrameProxy} {q : FrameProxy}
      (op : FrameOperation) : Past s ps qs → q ∈ qs →
      Past (Task.run advance (op.through q).run s).2 ps qs

theorem Past.traced {ps : List Suspension} {qs : List FrameProxy} (past : Past s ps qs) :
    Traced s ps qs := by
  induction past with
  | start machine settings providers => exact traced_start machine settings providers
  | passes _ h ih =>
    exact ih.leaves ⟨h.suspensions, h.snapshots, h.cells, h.cellCount,
      .of_eq h.frameHandles h.nextFrame⟩
  | call c _ ih => exact ih.leaves (tryCall_leaves c _)
  | capture thread _ ih => exact ih.capture thread
  | refresh depth _ hp ih => exact (ih.refresh hp depth).1
  | openFrame depth _ hp ih => exact ih.openFrame hp depth
  | operate op _ hq ih => exact ih.through hq op

end Session
end DebugSession
