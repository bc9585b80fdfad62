import DebugSession.Proofs.Answering
import DebugSession.Proofs.Isolation
/-!
What a client is told of the frames of a halted thread, answer by answer: how each frame looks, and
what its id stands for from then on.
-/

namespace DebugSession.Session

variable {V α : Type} {s s' : Session V} {p : Suspension}

/-! ## Surroundings -/

/-- What the session was given for its surroundings stays. -/
def Equipped (s s' : Session V) : Prop := s'.providers = s.providers

instance : Composes (Equipped (V := V)) where
  refl _ := rfl
  trans h h' := h'.trans h

instance : Ambient (Equipped (V := V)) where
  advance _ _ := rfl
  cancel _ := rfl

instance : Enlists (Equipped (V := V)) where
  line _ _ := rfl

section

variable [Machine V]

private theorem equipped_allows (c : Call) : Allows (Equipped (V := V)) c :=
  allows_of_parts (fun _ => rfl) (fun _ => rfl) fun _ _ => rfl

instance : Announces (Equipped (V := V)) where
  call := equipped_allows
  aside same := by
    simp only [heeded, Prod.mk.injEq] at same
    exact same.1.2.2.2.2
  started _ _ _ := rfl
  died _ _ := rfl
  announce _ _ := rfl

omit [Machine V] in
private theorem terminate_equipped (s : Session V) : Equipped s (terminate s) := by
  unfold terminate
  split <;> rfl

private theorem respond_equipped (m : Protocol.RequestMessage) (s : Session V) :
    Task.Ends (respond m) s fun _ s' => Equipped s s' := by
  refine respond_of_performAny m rfl fun r _ => ?_
  by_cases parts : ∃ terminate, r = .disconnect terminate
  · obtain ⟨terminate, rfl⟩ := parts
    have left := (disconnect_moves (R := Equipped) terminate).ends Ambient.advance s
    exact .answered _ _ ((settles_quietly _).2 left)
  · have stays : ∀ terminate, r ≠ .disconnect terminate := fun terminate same =>
      parts ⟨terminate, same⟩
    have moves : Stirs Equipped (performAny r : Attempt V _) :=
      performAny_stirs r stays (fun _ => inferInstance) fun _ _ => rfl
    exact moves.settles Ambient.advance s

/-- Nothing that happens to a session takes away what it was given, or adds to it. -/
theorem after_providers (s : Session V) (i : Input V) : (s.after i).providers = s.providers := by
  cases i with
  | event e => exact (pumpEvent_moves e terminate_equipped).ends Ambient.advance s
  | message m => exact respond_equipped m s
  | leave => exact (disconnect_moves (R := Equipped) false).ends Ambient.advance s
  | debuggee machine => rfl
  | settings x =>
    exact after_settings (Q := fun s' => s'.providers = s.providers) x rfl fun _ _ => rfl
  | time time => rfl
  | deliver => rfl

end

/-! ## Frames -/

/-- How a client sees a frame at a code position. -/
def portray (lookup : Option SourceLookup) (l : Location) (id : Int64) : Protocol.StackFrame where
  id := id
  name := s!"{Signature.simpleName l.className}.{l.methodName}"
  source := sourceOf lookup l
  line := l.line
  column := 1

/-- A reference stands for a container, up to the cells of its frame. -/
def Denotes (s : Session V) (reference : Int64) (k : Container.Key) : Prop :=
  ∃ e, s.resolve? reference = some e ∧ e.object.key = k

/-- Two references are one if and only if what they stand for is one. -/
theorem Denotes.eq_iff (sound : s.handles.Sound) {n n' : Int64} {k k' : Container.Key}
    (h : s.Denotes n k) (h' : s.Denotes n' k') : n = n' ↔ k = k' := by
  obtain ⟨e, there, rfl⟩ := h
  obtain ⟨e', there', rfl⟩ := h'
  constructor
  · rintro rfl
    rw [Option.some.inj (there.symm.trans there')]
  · intro same
    obtain ⟨handle, number, found⟩ := Option.bind_eq_some_iff.1 there
    obtain ⟨handle', number', found'⟩ := Option.bind_eq_some_iff.1 there'
    obtain rfl := sound.apart handle handle' e e' found found' ((Container.beq_iff _ _).2 same)
    exact Int64.toInt_inj.1 ((Int.mem_toNat?.1 number).trans (Int.mem_toNat?.1 number').symm)

theorem Denotes.of_shown {thread : ThreadId} {n : Int64} {k : Container.Key}
    (h : s.Denotes n k) (shown : Shown thread s s') (sound : s.handles.Sound)
    (room : s'.HasRoom) : s'.Denotes n k := by
  obtain ⟨e, there, same⟩ := h
  exact ⟨e, resolve?_of_shown shown sound room there, same⟩

private theorem addHandle_stands (owner : ThreadId) (c : Container) (s : Session V) :
    Task.Ends (addHandle owner c) s fun n s' =>
      s.handles.Sound → s'.HasRoom → s'.Denotes n c.key := by
  intro sound room
  have room' : s.handles.size < maxHandle := Nat.lt_of_le_of_lt (Pool.size_add _ owner c) room
  obtain ⟨e, there, equal⟩ := Pool.get?_add sound room' owner c
  have number := (Pool.sound_add sound room' owner c).keys _ (Table.mem_keys there)
  exact ⟨e, (resolve?_ofNat _ number.2).trans there, (Container.beq_iff _ _).1 equal⟩

/-- A frame was shown as one at a code position, with an id that stands for the frame at that
depth. -/
structure Portrays (p : Suspension) (l : Location) (depth : Nat) (f : Protocol.StackFrame)
    (s s' : Session V) : Prop where
  likeness : f = portray s.providers.lookup l f.id
  stands : s.handles.Sound → s'.HasRoom → s'.Denotes f.id (.frame ⟨p, depth⟩)

private theorem describeFrame_portrays (p : Suspension) (depth : Nat) (l : Location)
    (s : Session V) : Task.Ends (describeFrame p depth l) s fun f s' =>
      s'.providers = s.providers ∧ Portrays p l depth f s s' := by
  unfold describeFrame
  rw [Task.ends_bind, Task.ends_modifyGet, Task.ends_bind]
  have stands := addHandle_stands p.thread (.frame (s.openFrame p depth).1) (s.openFrame p depth).2
  exact ⟨rfl, rfl, stands⟩

private theorem describeFrames_portrays (p : Suspension) (frames : List (FrameInfo × Nat))
    (s : Session V) : Task.Ends (describeFrames p frames) s fun fs s' =>
      s'.providers = s.providers ∧
        List.Forall₂ (fun x f => Portrays p x.1.location x.2 f s s') frames fs := by
  induction frames generalizing s with
  | nil => exact ⟨rfl, .nil⟩
  | cons x rest ih =>
    obtain ⟨info, depth⟩ := x
    unfold describeFrames
    refine .bind ((describeFrame_ends p depth info.location s).and
      (describeFrame_portrays p depth info.location s)) ?_
    rintro f s₁ ⟨presents, same, likeness, stands⟩
    refine .bind ((describeFrames_ends p rest s₁).and (ih s₁)) ?_
    rintro fs s' ⟨more, same', others⟩
    -- What stood for a frame before the others were shown still does so after them.
    refine ⟨same'.trans same, .cons ⟨likeness, fun sound room => ?_⟩ (others.imp ?_)⟩
    · have room' : s₁.HasRoom := Nat.lt_of_le_of_lt more.shown.handles.size_le room
      exact (stands sound room').of_shown more.shown
        (presents.shown.handles.sound sound room') room
    · rintro x f ⟨likeness', stands'⟩
      rw [same] at likeness'
      refine ⟨likeness', fun sound room => ?_⟩
      have room' : s₁.HasRoom := Nat.lt_of_le_of_lt more.shown.handles.size_le room
      exact stands' (presents.shown.handles.sound sound room') room

/-! ## Answers -/

/-- The part of a trace from depth `start` on; zero levels stand for all. -/
def portion (frames : List α) (start levels : Nat) : List α :=
  if levels = 0 then frames.drop start else (frames.drop start).take levels

theorem getElem?_portion {frames : List α} {start levels k : Nat} {a : α}
    (h : (portion frames start levels)[k]? = some a) : frames[start + k]? = some a := by
  unfold portion at h
  split at h
  · rwa [List.getElem?_drop] at h
  · rw [List.getElem?_take] at h
    split at h
    · rwa [List.getElem?_drop] at h
    · cases h

theorem getElem?_portion_zipIdx {stack : List FrameInfo} {start levels k : Nat}
    {x : FrameInfo × Nat} (h : (portion stack.zipIdx start levels)[k]? = some x) :
    x.2 = start + k := by
  have there := getElem?_portion h
  rw [List.getElem?_zipIdx] at there
  obtain ⟨info, -, rfl⟩ := Option.map_eq_some_iff.1 there
  exact Nat.zero_add _

theorem map_portion {β : Type} (f : α → β) (frames : List α) (start levels : Nat) :
    (portion frames start levels).map f = portion (frames.map f) start levels := by
  unfold portion
  split <;> simp

/-- An answer about the frames of a suspension. -/
inductive FrameAnswer where
  /-- A part of the trace, while the frames of the suspension were at these positions. -/
  | page (suspension : Suspension) (stack : List Location) (start levels : Nat)
    (body : Protocol.StackTraceResponseBody)
  | single (suspension : Suspension) (depth : Nat) (frame : Protocol.StackFrame)

namespace FrameAnswer

def suspension : FrameAnswer → Suspension
  | page p _ _ _ _ | single p _ _ => p

/-- The depth of the first frame in the answer. -/
def first : FrameAnswer → Nat
  | page _ _ start _ _ => start
  | single _ depth _ => depth

def frames : FrameAnswer → List Protocol.StackFrame
  | page _ _ _ _ body => body.stackFrames
  | single _ _ frame => [frame]

/-- The answer has a frame in it that is said to be at a depth. -/
def Shows (a : FrameAnswer) (depth : Nat) (f : Protocol.StackFrame) : Prop :=
  ∃ k, depth = a.first + k ∧ a.frames[k]? = some f

/-- The answer shows what it should of the frames that there were. -/
def Faithful (lookup : Option SourceLookup) : FrameAnswer → Prop
  | page _ stack start levels body =>
    List.Forall₂ (fun l f => f = portray lookup l f.id) (portion stack start levels)
        body.stackFrames ∧
      body.totalFrames = some (Int64.ofNat stack.length)
  | single _ _ frame => ∃ l, frame = portray lookup l frame.id

end FrameAnswer

/-- Where the frames are that are told of a suspension. There are none any more if the thread has
ended. -/
def stackOf (s : Session V) (p : Suspension) : List Location :=
  if s.threads.isDead p.thread then [] else (s.framesOf p).map (·.location)

variable [Machine V]

/-- What a client is told about frames in answer to a request. -/
def frameAnswer? (s : Session V) : Request → Option FrameAnswer
  | .stackTrace thread start levels =>
    match s.stopped.get? thread, ((stackTrace thread start levels).run.run advance s).1 with
    | some p, .ok body => some (.page p (s.stackOf p) start levels body)
    | _, _ => none
  | .stackFrame thread depth =>
    match s.stopped.get? thread, ((stackFrame? thread depth).run advance s).1 with
    | some p, some frame => some (.single p depth frame)
    | _, _ => none
  | _ => none

/-- The same in answer to what happens; only messages are answered. -/
def frameAnswers (s : Session V) : Input V → List FrameAnswer
  | .message m =>
    match Request.ofMessage m with
    | .ok r => (s.frameAnswer? r).toList
    | .error _ => []
  | _ => []

/-- An answer that shows frames of a suspension on record, and what has become of the session. -/
structure Reveals (a : FrameAnswer) (s s' : Session V) : Prop where
  recorded : s.stopped.get? a.suspension.thread = some a.suspension
  shown : Shown a.suspension.thread s s'
  faithful : a.Faithful s.providers.lookup
  stands : s.handles.Sound → s'.HasRoom → ∀ depth f, a.Shows depth f →
    s'.Denotes f.id (.frame ⟨a.suspension, depth⟩)

section

omit [Machine V]

/-- A trace of a suspension on record is answered, whatever part of it is asked for. -/
theorem stackTrace_reveals (tidy : s.Tidy) {thread : ThreadId}
    (halted : s.stopped.get? thread = some p) (start levels : Nat) :
    Settles (stackTrace thread start levels) s fun r s' =>
      ∃ body, r = .ok body ∧ Reveals (.page p (s.stackOf p) start levels body) s s' := by
  have own : p.thread = thread := tidy.named thread p halted
  subst own
  unfold stackTrace stackOf
  rw [settles_bind, settles_get]
  dsimp only
  split
  · refine ⟨_, rfl, halted, Composes.refl s, ⟨?_, rfl⟩, ?_⟩
    · unfold portion
      split <;> simp
    · rintro - - depth f ⟨k, -, there⟩
      cases there
  · rw [halted]
    dsimp only
    rw [settles_bind, settles_quietly]
    refine ((describeFrames_ends p _ s).and (describeFrames_portrays p _ s)).mono ?_
    rintro fs s' ⟨presents, -, portrays⟩
    have positions : (portion (s.framesOf p).zipIdx start levels).map (fun x => x.1.location) =
        portion ((s.framesOf p).map (·.location)) start levels := by
      conv_rhs => rw [← List.zipIdx_map_fst 0 (s.framesOf p), List.map_map, ← map_portion]
      rfl
    refine ⟨_, rfl, halted, presents.shown, ⟨?_, by rw [List.length_map]⟩, ?_⟩
    · rw [← positions, List.forall₂_map_left_iff]
      exact portrays.imp fun _ _ h => h.likeness
    rintro sound room depth f ⟨k, rfl, there⟩
    obtain ⟨bound, rfl⟩ := List.getElem?_eq_some_iff.1 there
    have bound' := portrays.length_eq ▸ bound
    have stands := (portrays.get bound' bound).stands sound room
    rw [List.get_eq_getElem, List.get_eq_getElem,
      getElem?_portion_zipIdx (List.getElem?_eq_getElem bound')] at stands
    exact stands

theorem stackFrame?_reveals (tidy : s.Tidy) {thread : ThreadId}
    (halted : s.stopped.get? thread = some p) (depth : Nat) :
    Task.Ends (stackFrame? thread depth) s fun r s' =>
      ∀ f, r = some f → Reveals (.single p depth f) s s' := by
  have own : p.thread = thread := tidy.named thread p halted
  subst own
  unfold stackFrame?
  rw [Task.ends_bind, Task.ends_get, halted, Option.bind_some]
  cases (s.framesOf p)[depth]? with
  | none => exact nofun
  | some info =>
    refine .bind ((describeFrame_ends p depth info.location s).and
      (describeFrame_portrays p depth info.location s)) ?_
    rintro f s' ⟨presents, -, portrays⟩
    rintro _ ⟨⟩
    refine ⟨halted, presents.shown, ⟨info.location, portrays.likeness⟩, fun sound room => ?_⟩
    rintro _ _ ⟨k, rfl, there⟩
    obtain ⟨bound, rfl⟩ := List.getElem?_eq_some_iff.1 there
    obtain rfl := Nat.lt_one_iff.1 bound
    exact portrays.stands sound room

end

/-- A message that is understood is answered by what its request comes to. -/
theorem ends_respond {m : Protocol.RequestMessage} {r : Request}
    (asked : Request.ofMessage m = .ok r) {Q : Reply → Session V → Prop} :
    Task.Ends (respond m) s Q ↔
      Settles (performAny r) s fun result s' => Q (reply m result) s' := by
  unfold respond handle
  rw [asked, Task.ends_bind]
  exact Iff.rfl

private theorem ends_respond_stackTrace {m : Protocol.RequestMessage} {thread : ThreadId}
    {start levels : Nat} (asked : Request.ofMessage m = .ok (.stackTrace thread start levels))
    {Q : Reply → Session V → Prop} :
    Task.Ends (respond m) s Q ↔ Settles (stackTrace thread start levels) s fun r s' =>
      Q (reply m ((r.mapError Failure.error).map .ofBody)) s' := by
  rw [ends_respond asked]
  simp only [performAny, perform, settles_adapt, settles_bind]
  constructor <;> refine fun h => h.mono fun r s' => ?_ <;> cases r <;> exact id

private theorem ends_respond_stackFrame {m : Protocol.RequestMessage} {thread : ThreadId}
    {depth : Nat} (asked : Request.ofMessage m = .ok (.stackFrame thread depth))
    {Q : Session V → Prop} :
    Task.Ends (respond m) s (fun _ s' => Q s') ↔
      Task.Ends (stackFrame? thread depth) s fun _ s' => Q s' := by
  rw [ends_respond asked]
  simp only [performAny, perform, settles_adapt, settles_bind, settles_quietly, settles_pure]

/-- What a client is told about frames is so. -/
theorem reveals_of_answered (tidy : s.Tidy) {i : Input V} {a : FrameAnswer}
    (told : a ∈ s.frameAnswers i) : Reveals a s (s.after i) := by
  cases i with
  | message m =>
    simp only [frameAnswers] at told
    split at told
    · rename_i r asked
      rw [Option.mem_toList] at told
      cases r with
      | stackTrace thread start levels =>
        simp only [frameAnswer?] at told
        split at told
        · rename_i p body halted answered
          obtain rfl := Option.some.inj told
          obtain ⟨body', same, reveals⟩ := stackTrace_reveals tidy halted start levels
          obtain rfl := Except.ok.inj (answered.symm.trans same)
          have after : s.after (.message m) =
              ((stackTrace thread start levels).run.run advance s).2 :=
            (ends_respond_stackTrace asked (Q := fun _ s' => s' = _)).2 rfl
          rw [after]
          exact reveals
        · cases told
      | stackFrame thread depth =>
        simp only [frameAnswer?] at told
        split at told
        · rename_i p frame halted answered
          obtain rfl := Option.some.inj told
          have after : s.after (.message m) = ((stackFrame? thread depth).run advance s).2 :=
            (ends_respond_stackFrame asked (Q := fun s' => s' = _)).2 rfl
          rw [after]
          exact stackFrame?_reveals tidy halted depth frame answered
        · cases told
      | _ => cases told
    · cases told
  | _ => cases told

/-- Whoever asks for a part of the trace of a suspension on record gets it. -/
theorem stackTrace_answered (tidy : s.Tidy) {m : Protocol.RequestMessage} {thread : ThreadId}
    {start levels : Nat} (asked : Request.ofMessage m = .ok (.stackTrace thread start levels))
    (halted : s.stopped.get? thread = some p) :
    ∃ body, s.frameAnswers (.message m) = [.page p (s.stackOf p) start levels body] ∧
      ((respond m).run advance s).1.response = .succeeded m (some (Json.write body)) := by
  obtain ⟨body, answered, -⟩ := stackTrace_reveals tidy halted start levels
  refine ⟨body, ?_, ?_⟩
  · simp only [frameAnswers, asked, frameAnswer?, halted, answered]
    rfl
  · have responds : Task.Ends (respond m) s fun reply _ =>
        reply.response = .succeeded m (some (Json.write body)) := by
      rw [ends_respond_stackTrace asked]
      show (reply m (Except.map _ (Except.mapError _
        ((stackTrace thread start levels).run.run advance s).1))).response = _
      rw [answered]
      rfl
    exact responds

end DebugSession.Session
