import DebugSession.Proofs.Endings
import DebugSession.Proofs.Handing
import DebugSession.Proofs.Upkeep
/-!
Single hits of breakpoints and watchpoints: where a hit is counted, what the client hears of it by
the number that is counted, and what it leaves alone.
-/

namespace DebugSession

variable {V α β ε : Type}

/-! ## Conditions -/

namespace HitCondition

/-- What a condition says of a number of hits. -/
def Holds (count : Nat) : HitCondition → Prop
  | below n => count < n.toNat
  | atMost n => count ≤ n.toNat
  | exactly n => count = n.toNat
  | atLeast n => n.toNat ≤ count
  | above n => n.toNat < count
  | every n => n.toNat ∣ count

instance (count : Nat) : (c : HitCondition) → Decidable (c.Holds count)
  | below n => inferInstanceAs (Decidable (count < n.toNat))
  | atMost n => inferInstanceAs (Decidable (count ≤ n.toNat))
  | exactly n => inferInstanceAs (Decidable (count = n.toNat))
  | atLeast n => inferInstanceAs (Decidable (n.toNat ≤ count))
  | above n => inferInstanceAs (Decidable (n.toNat < count))
  | every n => inferInstanceAs (Decidable (n.toNat ∣ count))

theorem isMet_iff {count : Nat} (room : count < UInt32.size) (c : HitCondition) :
    c.isMet (UInt32.ofNat count) = true ↔ c.Holds count := by
  have same : (UInt32.ofNat count).toNat = count := UInt32.toNat_ofNat_of_lt' room
  cases c with
  | below n => simp [isMet, Holds, UInt32.lt_iff_toNat_lt, same]
  | atMost n => simp [isMet, Holds, UInt32.le_iff_toNat_le, same]
  | exactly n => simp [isMet, Holds, ← UInt32.toNat_inj, same]
  | atLeast n => simp [isMet, Holds, UInt32.le_iff_toNat_le, same]
  | above n => simp [isMet, Holds, UInt32.lt_iff_toNat_lt, same]
  | every n => simp [isMet, Holds, ← UInt32.toNat_inj, same, Nat.dvd_iff_mod_eq_zero]

end HitCondition

/-! ## Hits -/

/-- A hit that the debuggee reports, of a breakpoint or of a watchpoint. -/
structure Hit where
  ofWatchpoint : Bool := false
  request : RequestId
  thread : ThreadId
  location : Location
  deriving DecidableEq, Repr

namespace Hit

def event (h : Hit) : VmEvent :=
  if h.ofWatchpoint then .watchpoint h.request h.thread h.location
  else .breakpoint h.request h.thread h.location

def reason (h : Hit) : String := if h.ofWatchpoint then "data breakpoint" else "breakpoint"

/-- The client is told that a thread has stopped, and at what. -/
def stopped (h : Hit) (id : UInt32) : Protocol.Event :=
  let text := s!"Paused on {h.reason} at {h.location.text}"
  .halted h.reason (Int64.ofNat h.thread) (some text) [id]

end Hit

/-- What the client is told of a hit that calls for an action. -/
def HitAction.told (h : Hit) (id : UInt32) : HitAction → List Protocol.Event
  | stop => [h.stopped id]
  | log text => [.ofOutput "console" (text ++ "\n")]
  | .continue => []

/-- What the client is told of a hit, the `count`-th one. -/
def Installed.told (i : Installed) (count : Nat) (h : Hit) : List Protocol.Event :=
  if ∀ c ∈ i.installation.options.hitCondition, c.Holds count then
    match i.installation.options.logMessage with
    | none => [h.stopped i.id]
    | some text => [.ofOutput "console" (text ++ "\n")]
  else []

theorem Installed.told_eq {i : Installed} {count : Nat} (h : Hit) (room : count < UInt32.size)
    (counted : i.hits + 1 = UInt32.ofNat count) :
    i.told count h = i.hit.1.told h i.id := by
  have due : i.installation.options.hitCondition.all
      (HitCondition.isMet (i.installation.hits + 1)) = true ↔
      ∀ c ∈ i.installation.options.hitCondition, c.Holds count := by
    have same : i.installation.hits + 1 = UInt32.ofNat count := counted
    rw [same, Option.all_eq_true]
    exact forall₂_congr fun c _ => HitCondition.isMet_iff room c
  have action : i.hit.1 = i.installation.hit.1 := by cases i <;> rfl
  rw [action]
  unfold told Installation.hit
  by_cases met : ∀ c ∈ i.installation.options.hitCondition, c.Holds count
  · simp only [due.2 met, if_pos met]
    cases i.installation.options.logMessage <;> rfl
  · have unmet := Bool.eq_false_iff.2 (mt due.1 met)
    simp only [unmet, if_neg met, Bool.not_false, if_true]
    rfl

/-! ## What the client is told -/

/-- All moves of a computation together queue some events for the client, whatever others do
meanwhile, and `Q` holds at the end. -/
def Step.Queues (Q : α → Session V → Prop) :
    Step (Session V) α → List Protocol.Event → Session V → Prop
  | done a s', es, s => s'.pending = s.pending ++ es ∧ Q a s'
  | wait _ _ s' resume, es, s => ∃ now later, es = now ++ later ∧ s'.pending = s.pending ++ now ∧
    ∀ s₁, (resume s₁).Queues Q later s₁

/-- The same of a computation that begins in a state. -/
def Task.Queues (x : Task (Session V) α) (es : List Protocol.Event) (s : Session V) : Prop :=
  (x s).Queues (fun _ _ => True) es s

namespace Step

variable {Q : α → Session V → Prop} {s s' : Session V} {es es' : List Protocol.Event}

theorem Queues.after {x : Step (Session V) α} (first : s'.pending = s.pending ++ es)
    (h : x.Queues Q es' s') : x.Queues Q (es ++ es') s := by
  cases x with
  | done a s'' =>
    refine ⟨?_, h.2⟩
    rw [h.1, first, List.append_assoc]
  | wait time ready s'' resume =>
    obtain ⟨now, later, rfl, queued, rest⟩ := h
    refine ⟨es ++ now, later, (List.append_assoc ..).symm, ?_, rest⟩
    rw [queued, first, List.append_assoc]

theorem Queues.bind {x : Step (Session V) β} {f : β → Session V → Step (Session V) α}
    {P : β → Session V → Prop} (h : x.Queues P es s)
    (rest : ∀ b s', P b s' → (f b s').Queues Q es' s') : (x.bind f).Queues Q (es ++ es') s := by
  induction x generalizing s es with
  | done b s' => exact (rest b s' h.2).after h.1
  | wait time ready s' resume ih =>
    obtain ⟨now, later, rfl, queued, goes⟩ := h
    exact ⟨now, later ++ es', List.append_assoc .., queued, fun s₁ => ih s₁ (goes s₁)⟩

/-- What says nothing queues nothing. -/
theorem Queues.of_mute {x : Step (Session V) α} (h : x.Moves Session.Mute s) :
    x.Queues (fun _ _ => True) [] s := by
  have silent : ∀ {s s' : Session V}, Session.Mute s s' → s'.pending = s.pending ++ [] := by
    rintro s s' ⟨xs, es, added, none, -⟩
    rw [added.pending, List.eq_nil_iff_forall_not_mem.2 none]
  induction x generalizing s with
  | done a s' => exact ⟨silent h, trivial⟩
  | wait time ready s' resume ih =>
    exact ⟨[], [], rfl, silent h.1, fun s₁ => ih s₁ (h.2.2 s₁)⟩

end Step

namespace Session

variable [Machine V] {s : Session V} {es : List Protocol.Event}

/-- The session after a hit was counted, if anything is known by the request. -/
def counting (request : RequestId) (s : Session V) : Session V :=
  match s.breakpoints.installed? request with
  | none => s
  | some i => { s with breakpoints := (s.breakpoints.hit i).2 }

/-- What is done about a hit once it was counted. -/
def followHit (h : Hit) (id : UInt32) : HitAction → Action V Unit
  | .stop => do
    let _ ← quietly (dropStep h.thread)
    let _ ← quietly (threadHalted h.thread)
    modify fun s => s.announce (h.stopped id)
  | .log text => do
    modify fun s => s.announce (.ofOutput "console" (text ++ "\n"))
    release h.thread
  | .continue => release h.thread

/-- A hit is counted before anything has to wait. -/
theorem onHit_run (h : Hit) (s : Session V) :
    (onHit h.request h.thread h.location h.reason).run s =
      match s.breakpoints.installed? h.request with
      | none => (release h.thread : Action V Unit).run s
      | some i => (followHit h i.id i.hit.1).run (s.counting h.request) := by
  have looked : ∀ f : Session V → Action V Unit, (get >>= f).run s = (f s).run s := fun _ => rfl
  unfold onHit counting
  rw [looked]
  cases s.breakpoints.installed? h.request with
  | none => rfl
  | some i =>
    have counted : ∀ f : HitAction → Action V Unit, (quietly (hitInstalled i) >>= f).run s =
        (f i.hit.1).run { s with breakpoints := (s.breakpoints.hit i).2 } := fun _ => rfl
    dsimp only
    rw [counted]
    cases i.hit.1 <;> rfl

private theorem handleEvent_hit (h : Hit) :
    handleEvent h.event = (do
      onHit h.request h.thread h.location h.reason
      return false : Action V Bool) := by
  unfold Hit.event Hit.reason
  cases h.ofWatchpoint <;> rfl

/-! ## What the client is told of a hit -/

/-- A call queues nothing, and the session is over once it has found the debuggee gone. -/
private theorem tryCall_queues (c : Call) (s : Session V) :
    (tryCall c s).Queues (fun r s' => r = .error .disconnected → s'.cancelled = true) [] s := by
  have issued : (issue c s).Queues (fun _ _ => True) [] s := .of_mute <|
    (issue_moves (R := Mute) (fun _ => .of_eq rfl rfl rfl) fun _ => .of_eq rfl rfl rfl).step s
  have looked : ∀ f : Session V → Task (Session V) (Except RemoteError c.Reply),
      (get >>= f) s = f s s := fun _ => rfl
  unfold tryCall
  rw [looked]
  by_cases gone : s.cancelled = true
  · rw [if_pos gone]
    exact ⟨(List.append_nil _).symm, fun _ => gone⟩
  · rw [if_neg gone]
    unfold ask
    rw [bind_assoc]
    refine issued.bind fun r s' _ => ?_
    cases r with
    | ok a => exact ⟨(List.append_nil _).symm, nofun⟩
    | error e =>
      cases e with
      | disconnected => exact ⟨(List.append_nil _).symm, fun _ => rfl⟩
      | _ => exact ⟨(List.append_nil _).symm, nofun⟩

/-- The session is over when the debuggee was found gone. -/
private def OverWhenGone (r : Except SessionError α) (s : Session V) : Prop :=
  ∀ e, r = .error e → e.isDisconnect = true → s.cancelled = true

private theorem release_queues (thread : ThreadId) (s : Session V) :
    ((release thread : Action V Unit).run s).Queues OverWhenGone [] s := by
  unfold release Remote.orFail ExceptT.adapt
  rw [ExceptT.run_mk, map_eq_pure_bind]
  refine (tryCall_queues (.resume thread) s).bind fun r s' known => ?_
  refine ⟨(List.append_nil _).symm, ?_⟩
  cases r with
  | ok _ => exact nofun
  | error e =>
    rintro _ ⟨⟩ lost
    have lost : e.isDisconnect = true := lost
    exact known (congrArg Except.error ((RemoteError.isDisconnect_iff e).1 lost))

omit [Machine V] in
/-- What says nothing, before something else. -/
private theorem queues_quietly {x : Task (Session V) β} {f : β → Action V α}
    {Q : Except SessionError α → Session V → Prop} (h : Task.Moves Mute x)
    (rest : ∀ b s', ((f b).run s').Queues Q es s') (s : Session V) :
    ((quietly x >>= f).run s).Queues Q es s := by
  unfold quietly
  rw [ExceptT.run_bind, ExceptT.run_lift, bind_map_left]
  exact (Step.Queues.of_mute (h.step s)).bind fun b s' _ => rest b s'

private theorem followHit_queues (h : Hit) (id : UInt32) (action : HitAction) (s : Session V) :
    ((followHit h id action).run s).Queues OverWhenGone (action.told h id) s := by
  cases action with
  | stop =>
    have halted : Task.Moves Mute (threadHalted h.thread : Task (Session V) _) :=
      threadHalted_moves _ (fun _ _ => .of_eq rfl rfl rfl) fun _ _ => .of_eq rfl rfl rfl
    have told : ∀ s : Session V, ((modify fun s => s.announce (h.stopped id) :
        Action V PUnit).run s).Queues OverWhenGone [h.stopped id] s := fun s => ⟨rfl, nofun⟩
    exact queues_quietly (dropStep_moves h.thread) (fun _ => queues_quietly halted fun _ => told) s
  | log text =>
    have told : (s.announce (.ofOutput "console" (text ++ "\n"))).pending =
        s.pending ++ [.ofOutput "console" (text ++ "\n")] := rfl
    exact (release_queues h.thread _).after told
  | «continue» => exact release_queues h.thread s

/-- What the client is told of a hit is settled when the hit is counted, by the options of what is
hit. It is told nothing if a thread cannot be let run. -/
theorem pumpEvent_queues (h : Hit) (s : Session V) :
    (pumpEvent h.event).Queues
      ((s.breakpoints.installed? h.request).elim [] fun i => i.hit.1.told h i.id) s := by
  have hit : ((onHit h.request h.thread h.location h.reason).run s).Queues OverWhenGone
      ((s.breakpoints.installed? h.request).elim [] fun i => i.hit.1.told h i.id) s := by
    rw [onHit_run]
    cases found : s.breakpoints.installed? h.request with
    | none => exact release_queues h.thread s
    | some i =>
      have same : (s.counting h.request).pending = s.pending ++ [] := by
        rw [counting, found, List.append_nil]
      exact (followHit_queues h i.id i.hit.1 _).after same
  unfold Task.Queues pumpEvent
  rw [handleEvent_hit, ExceptT.run_bind, bind_assoc, ← List.append_nil (Option.elim ..)]
  refine hit.bind fun r s' known => ?_
  cases r with
  | ok _ => exact ⟨(List.append_nil _).symm, trivial⟩
  | error e =>
    by_cases lost : e.isDisconnect = true
    · -- The call that found the debuggee gone has ended the session, so no end is announced here.
      have same : terminate s' = s' := if_pos (known e rfl lost)
      simp only [pure_bind, if_pos lost]
      exact ⟨by rw [same, List.append_nil], trivial⟩
    · simp only [pure_bind, if_neg lost]
      exact ⟨(List.append_nil _).symm, trivial⟩

/-! ## What a hit changes -/

end Session

/-- What an event for a request changes: one hit more is counted where the request belongs, or
nothing if it belongs nowhere. -/
inductive Breakpoints.Counts (r : RequestId) (b b' : Breakpoints) : Prop
  | counted (i : Installed) (there : b.at? i.place = some i) (owns : r ∈ i.requests)
    (alone : ∀ p j, b.at? p = some j → r ∈ j.requests → p = i.place)
    (after : b'.at? = Function.update b.at? i.place (some (i.withHits (i.hits + 1))))
  | nowhere (closed : ∀ p i, b.at? p = some i → r ∉ i.requests) (same : b'.at? = b.at?)

namespace Session

variable [Machine V] [Ledger V] {s s' : Session V} {began : Nat} {loose : List RequestId}
  {r : RequestId}

/-- The breakpoints, the steps and all event requests are left alone. -/
structure Harmless (s s' : Session V) : Prop where
  breakpoints : s'.breakpoints = s.breakpoints
  steps : s'.steps = s.steps
  ledger : Ledger.Sound s.machine →
    Ledger.Sound s'.machine ∧ Ledger.live s'.machine = Ledger.live s.machine

theorem Harmless.of_eq (breakpoints : s'.breakpoints = s.breakpoints) (steps : s'.steps = s.steps)
    (machine : s'.machine = s.machine) : Harmless s s' :=
  ⟨breakpoints, steps, fun sound => by rw [machine]; exact ⟨sound, rfl⟩⟩

instance : Composes (Harmless (V := V)) where
  refl _ := .of_eq rfl rfl rfl
  trans h h' := ⟨h'.breakpoints.trans h.breakpoints, h'.steps.trans h.steps, fun sound =>
    have first := h.ledger sound
    have second := h'.ledger first.1
    ⟨second.1, second.2.trans first.2⟩⟩

instance : Ambient (Harmless (V := V)) where
  advance _ _ := .of_eq rfl rfl rfl
  cancel _ := .of_eq rfl rfl rfl

private theorem harmless_allows {c : Call}
    (effect : ∀ (r : Except RemoteError c.Reply) live live', c.Effect r live live' → live' = live) :
    Allows (Harmless (V := V)) c :=
  allows_of_parts
    (fun s => ⟨rfl, rfl, fun sound =>
      ⟨Ledger.sound_submit c s.machine sound, Ledger.live_submit c s.machine sound⟩⟩)
    (fun s => ⟨rfl, rfl, fun sound =>
      ⟨Ledger.sound_perform c s.machine sound, effect _ _ _ (Ledger.effect c s.machine sound)⟩⟩)
    fun _ _ => .of_eq rfl rfl rfl

instance : Browses (Harmless (V := V)) where
  query c query := harmless_allows fun r live live' effect => by
    cases c <;> first | exact effect | cases query
  snapshot _ _ _ := .of_eq rfl rfl rfl
  cell _ _ _ := .of_eq rfl rfl rfl

theorem Upkept.harmless (upkept : s.Upkept began loose) (h : Harmless s s') :
    s'.Upkept began loose := by
  obtain ⟨sound, live⟩ := h.ledger upkept.sound
  refine ⟨sound, ?_, ?_, ?_, h.steps.trans upkept.idle⟩
  · rw [live, h.breakpoints]
    exact upkept.books
  · rw [h.breakpoints]
    exact upkept.given
  · rw [h.breakpoints]
    exact upkept.left

theorem Harmless.spares (h : Harmless s s') (upkept : s.Upkept began loose) : Spares s s' :=
  ⟨(h.ledger upkept.sound).2, .of_eq h.breakpoints⟩

private theorem release_harmless (thread : ThreadId) :
    Stirs Harmless (release thread : Action V Unit) :=
  .orFail _ (harmless_allows fun _ _ _ effect => effect)

/-- Where no step is under way, none is given up. -/
private theorem dropStep_harmless (thread : ThreadId) (idle : s.steps = {}) :
    MovesFrom Harmless s (dropStep thread) := by
  have unknown : s.steps.get? thread = none := by rw [idle]; rfl
  have erased : s.steps.erase thread = s.steps := by rw [idle]; rfl
  have nothing : takeStep thread s = .done none s := by
    show Step.done (s.steps.get? thread) { s with steps := s.steps.erase thread } = _
    rw [unknown, erased]
  unfold dropStep
  exact .known nothing (Composes.refl s)

private theorem followHit_harmless (h : Hit) (id : UInt32) (action : HitAction)
    (idle : s.steps = {}) : ((followHit h id action).run s).Moves Harmless s := by
  cases action with
  | stop =>
    have halted : Task.Moves Harmless (threadHalted h.thread : Task (Session V) _) :=
      threadHalted_moves _ (fun _ _ => .of_eq rfl rfl rfl) fun _ _ => .of_eq rfl rfl rfl
    exact StirsFrom.bind (.quietly (dropStep_harmless h.thread idle)) fun _ =>
      .bind (.quietly halted) fun _ => .modify fun _ => .of_eq rfl rfl rfl
  | log text =>
    have told : Harmless s (s.announce (.ofOutput "console" (text ++ "\n"))) := .of_eq rfl rfl rfl
    exact ((release_harmless h.thread).step _).after told
  | «continue» => exact (release_harmless h.thread).step s

/-- After a hit was counted nothing is done to breakpoints. -/
theorem pumpEvent_harmless (h : Hit) (idle : s.steps = {}) :
    (pumpEvent h.event s).Moves Harmless (s.counting h.request) := by
  have hit : ((onHit h.request h.thread h.location h.reason).run s).Moves Harmless
      (s.counting h.request) := by
    rw [onHit_run]
    cases found : s.breakpoints.installed? h.request with
    | none =>
      have same : s.counting h.request = s := by rw [counting, found]
      rw [same]
      exact (release_harmless h.thread).step s
    | some i =>
      refine followHit_harmless h i.id i.hit.1 ?_
      rw [counting, found]
      exact idle
  have ended : ∀ s : Session V, Harmless s (terminate s) := by
    intro s
    unfold terminate
    split
    · exact Composes.refl s
    · exact .of_eq rfl rfl rfl
  unfold pumpEvent
  rw [handleEvent_hit, ExceptT.run_bind, bind_assoc]
  refine Step.Moves.bind hit fun r s' => ?_
  cases r with
  | ok _ => exact Composes.refl s'
  | error e =>
    simp only [pure_bind]
    split
    · exact ended s'
    · exact Composes.refl s'

/-- A hit is counted where its request belongs, also while breakpoints are being changed. -/
theorem counting_counts (upkept : s.Upkept began []) (r : RequestId) :
    s.breakpoints.Counts r (s.counting r).breakpoints := by
  unfold counting
  cases found : s.breakpoints.installed? r with
  | none =>
    refine .nowhere (fun p i there mem => ?_) rfl
    rw [← upkept.books.keyed p i there] at there
    have known := (installed?_iff upkept.books r i).2 ⟨there, mem⟩
    rw [found] at known
    cases known
  | some i =>
    obtain ⟨there, owns⟩ := (installed?_iff upkept.books r i).1 found
    exact .counted i there owns
      (fun p j there' mem => upkept.books.same_place there owns there' mem)
      (Breakpoints.puts_hit upkept.left i).stored

/-- A hit leaves in order what is being changed. -/
theorem counting_spares (upkept : s.Upkept began []) (r : RequestId) :
    Spares s (s.counting r) ∧ (s.counting r).Upkept began [] := by
  unfold counting
  cases found : s.breakpoints.installed? r with
  | none => exact ⟨⟨rfl, .of_eq rfl⟩, upkept⟩
  | some i =>
    obtain ⟨there, -⟩ := (installed?_iff upkept.books r i).1 found
    have put := Breakpoints.puts_hit upkept.left i
    exact ⟨⟨rfl, put.alike there⟩, upkept.sound, upkept.books.hit found,
      Nat.le_trans upkept.given (Nat.le_of_eq put.issued.symm), put.leaving.trans upkept.left,
      upkept.idle⟩

end Session
end DebugSession
