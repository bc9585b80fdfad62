import DebugSession.Proofs.Installing
import DebugSession.Proofs.Pools
/-!
What showing a halted thread to a client does to a session. Nothing that is shown before loses its
handle, and what is shown can be looked into until something else happens.
-/

namespace DebugSession

variable {V α β ε : Type}

def Call.resumes : Call → Bool
  | .resume _ | .resumeAll => true
  | _ => false

/-- The frame that a container is about, if there is one, is a frame of the thread. -/
def Container.BelongsTo (thread : ThreadId) (c : Container) : Prop :=
  ∀ p, c.proxy? = some p → p.thread = thread

theorem Container.BelongsTo.congr {thread : ThreadId} {c c' : Container}
    (h : c'.BelongsTo thread) (equal : (c == c') = true) : c.BelongsTo thread := by
  have keys : c.proxy?.map FrameProxy.key = c'.proxy?.map FrameProxy.key := by
    have same := (Container.beq_iff c c').1 equal
    cases c <;> cases c' <;> simp_all [Container.key, Container.proxy?]
  intro p found
  rw [found] at keys
  obtain ⟨p', found', same⟩ := Option.map_eq_some_iff.1 keys.symm
  rw [← h p' found', FrameProxy.thread, FrameProxy.thread, same]

instance {σ : Type} : Composes (Eq : σ → σ → Prop) := ⟨fun _ => rfl, fun h h' => h.trans h'⟩

instance [BEq α] {owner : ThreadId} {C : α → Prop} : Composes (Pool.Grows owner C) :=
  ⟨fun _ => .refl, fun h h' => h.trans h'⟩

namespace Session

/-! ## What goes on while no halt is recorded or forgotten -/

/-- The recorded halts stay, the handles change as `H` says, and only such calls let threads run as
satisfy `P`. There may be suspensions that are not on record. -/
structure Keeps (H : Pool Container → Pool Container → Prop) (P : Call → Prop)
    (s s' : Session V) : Prop where
  suspensions : s.suspensions ≤ s'.suspensions
  stopped : s'.stopped = s.stopped
  handles : H s.handles s'.handles
  calls : ∃ xs, s'.calls = s.calls ++ xs ∧ ∀ x ∈ xs, x.call.resumes = true → P x.call

/-- Handles stay as they are, and no thread is let run. -/
abbrev Quiet (s s' : Session V) : Prop := Keeps Eq (fun _ => False) s s'

/-- Handles may be given out for a thread, and no thread is let run. -/
abbrev Shown (thread : ThreadId) (s s' : Session V) : Prop :=
  Keeps (Pool.Grows thread (Container.BelongsTo thread)) (fun _ => False) s s'

section

variable {H : Pool Container → Pool Container → Prop} [Composes H] {P : Call → Prop}

theorem Keeps.of_le {s s' : Session V} (stopped : s'.stopped = s.stopped)
    (handles : s'.handles = s.handles) (calls : s'.calls = s.calls)
    (suspensions : s.suspensions ≤ s'.suspensions) : Keeps H P s s' :=
  ⟨suspensions, stopped, handles ▸ Composes.refl _, [], by simpa using calls, by simp⟩

theorem Keeps.of_eq {s s' : Session V} (stopped : s'.stopped = s.stopped)
    (handles : s'.handles = s.handles) (calls : s'.calls = s.calls)
    (suspensions : s'.suspensions = s.suspensions) : Keeps H P s s' :=
  .of_le stopped handles calls (Nat.le_of_eq suspensions.symm)

instance : Composes (Keeps H P (V := V)) where
  refl _ := .of_eq rfl rfl rfl rfl
  trans := by
    intro s s' s'' h h'
    obtain ⟨xs, calls, only⟩ := h.calls
    obtain ⟨xs', calls', only'⟩ := h'.calls
    refine ⟨Nat.le_trans h.suspensions h'.suspensions, h'.stopped.trans h.stopped,
      Composes.trans h.handles h'.handles, xs ++ xs', ?_, ?_⟩
    · rw [calls', calls, List.append_assoc]
    · intro x hx
      rcases List.mem_append.1 hx with hx | hx
      · exact only x hx
      · exact only' x hx

theorem Quiet.keeps {s s' : Session V} (h : Quiet s s') : Keeps H P s s' := by
  obtain ⟨xs, calls, none⟩ := h.calls
  exact ⟨h.suspensions, h.stopped, h.handles ▸ Composes.refl _, xs, calls,
    fun x hx resumes => (none x hx resumes).elim⟩

theorem Keeps.advance (time : Nat) (s : Session V) : Keeps H P s (s.advance time) :=
  .of_eq rfl rfl rfl rfl

variable [Machine V]

instance : Ambient (Keeps H P (V := V)) where
  advance := Keeps.advance
  cancel _ := .of_eq rfl rfl rfl rfl

theorem Keeps.allows {c : Call} (h : c.resumes = true → P c) : Allows (Keeps H P (V := V)) c :=
  allows_of_parts (fun _ => .of_eq rfl rfl rfl rfl) (fun _ => .of_eq rfl rfl rfl rfl) fun _ r =>
    ⟨Nat.le_refl _, rfl, Composes.refl _, [.ofReply c r], rfl, by simpa using h⟩

instance : Assigns (Keeps H P (V := V)) where
  query c h := Keeps.allows fun resumes => by cases c <;> cases resumes <;> cases h
  snapshot _ _ _ := .of_eq rfl rfl rfl rfl
  cell _ _ _ := .of_eq rfl rfl rfl rfl
  invoke _ _ _ _ := Keeps.allows nofun
  openFrame _ _ _ := .of_eq rfl rfl rfl rfl
  setLocal _ _ _ := Keeps.allows nofun
  setField _ _ _ := Keeps.allows nofun
  evaluations _ _ _ := .of_eq rfl rfl rfl rfl

instance : Relines (Keeps H P (V := V)) where
  loaded _ := Keeps.allows nofun
  create _ := Keeps.allows nofun
  delete _ := Keeps.allows nofun
  beside _ _ _ := .of_eq rfl rfl rfl rfl
  breakpoints _ _ _ := .of_eq rfl rfl rfl rfl
  steps _ _ := .of_eq rfl rfl rfl rfl
  tokens _ _ := .of_eq rfl rfl rfl rfl

instance : Enlists (Keeps H P (V := V)) where
  line _ _ := .of_eq rfl rfl rfl rfl

omit [Machine V] in
theorem keeps_ends {x : Task (Session V) α} (h : Task.Moves (Keeps H P) x) (s : Session V) :
    Task.Ends x s fun _ s' => Keeps H P s s' :=
  h.ends Keeps.advance s

omit [Machine V] in
theorem keeps_settles {x : ExceptT ε (Task (Session V)) α} (h : Stirs (Keeps H P) x)
    (s : Session V) : Settles x s fun _ s' => Keeps H P s s' :=
  h.settles Keeps.advance s

end

/-! ## References -/

/-- There are more numbers for handles than handles. A session that had given out all of them would
look for another one forever. -/
def HasRoom (s : Session V) : Prop := s.handles.size < maxHandle

instance (s : Session V) : Decidable s.HasRoom := Nat.decLt _ _

/-- A reference stands for something that has to do with no other thread's frames. -/
def Holds (s : Session V) (thread : ThreadId) (reference : Int64) : Prop :=
  ∃ e, s.resolve? reference = some e ∧ e.object.BelongsTo thread

theorem toInt_handle {handle : Nat} (h : handle ≤ maxHandle) :
    (Int64.ofNat handle).toInt = handle := by
  have small : maxHandle < 2 ^ 63 := by
    have value : maxHandle = 2 ^ 31 - 1 := rfl
    rw [value]
    decide
  exact Int64.toInt_ofNat_of_lt (Nat.lt_of_le_of_lt h small)

theorem resolve?_ofNat (s : Session V) {handle : Nat} (h : handle ≤ maxHandle) :
    s.resolve? (Int64.ofNat handle) = s.handles.get? handle := by
  unfold resolve?
  rw [toInt_handle h]
  rfl

theorem resolve?_of_shown {thread : ThreadId} {s s' : Session V} (h : Shown thread s s')
    (sound : s.handles.Sound) (room : s'.HasRoom) {reference : Int64} {e : Pooled Container}
    (there : s.resolve? reference = some e) : s'.resolve? reference = some e := by
  obtain ⟨handle, number, found⟩ := Option.bind_eq_some_iff.1 there
  exact Option.bind_eq_some_iff.2 ⟨handle, number, h.handles.keeps sound room found⟩

/-- A state in which a thread was shown to a client, who was given some references. The reference
zero stands for nothing. -/
structure Presents (thread : ThreadId) (references : List Int64) (s s' : Session V) : Prop where
  shown : Shown thread s s'
  held : s.handles.Sound → s'.HasRoom → ∀ n ∈ references, n ≠ 0 → s'.Holds thread n

namespace Presents

variable {thread : ThreadId} {ns ms : List Int64} {s s' s'' : Session V}

theorem of_shown (h : Shown thread s s') : Presents thread [] s s' :=
  ⟨h, fun _ _ _ hn => absurd hn List.not_mem_nil⟩

theorem trans (h : Presents thread ns s s') (h' : Presents thread ms s' s'') :
    Presents thread (ns ++ ms) s s'' := by
  refine ⟨Composes.trans h.shown h'.shown, ?_⟩
  intro sound room n hn nonzero
  have room' : s'.HasRoom := Nat.lt_of_le_of_lt h'.shown.handles.size_le room
  have sound' := h.shown.handles.sound sound room'
  rcases List.mem_append.1 hn with hn | hn
  · obtain ⟨e, there, belongs⟩ := h.held sound room' n hn nonzero
    exact ⟨e, resolve?_of_shown h'.shown sound' room there, belongs⟩
  · exact h'.held sound' room n hn nonzero

theorem before (h : Presents thread ns s s') (h' : Shown thread s' s'') :
    Presents thread ns s s'' := by
  have both := h.trans (of_shown h')
  rwa [List.append_nil] at both

theorem after (h : Shown thread s s') (h' : Presents thread ns s' s'') :
    Presents thread ns s s'' :=
  (of_shown h).trans h'

theorem zero (h : Shown thread s s') : Presents thread [0] s s' :=
  ⟨h, fun _ _ _ hn nonzero => absurd (List.mem_singleton.1 hn) nonzero⟩

end Presents

def referencesIn (references : α → List Int64) : Except ε α → List Int64
  | .ok a => references a
  | .error _ => []

/-! ## Frames -/

theorem addHandle_ends {thread : ThreadId} {c : Container} (h : c.BelongsTo thread)
    (s : Session V) :
    Task.Ends (addHandle thread c) s fun n s' => Presents thread [n] s s' := by
  refine ⟨⟨Nat.le_refl _, rfl, Pool.Grows.one h, [], (List.append_nil _).symm, by simp⟩, ?_⟩
  intro sound room n hn nonzero
  obtain rfl := List.mem_singleton.1 hn
  have room' : s.handles.size < maxHandle := Nat.lt_of_le_of_lt (Pool.size_add _ thread c) room
  obtain ⟨e, there, equal⟩ := Pool.get?_add sound room' thread c
  have after : ((s.handles.add thread c).2).Sound := Pool.sound_add sound room' thread c
  have number := after.keys _ (Table.mem_keys there)
  exact ⟨e, (resolve?_ofNat _ number.2).trans there, h.congr equal⟩

theorem describeFrame_ends (p : Suspension) (depth : Nat) (l : Location) (s : Session V) :
    Task.Ends (describeFrame p depth l) s fun f s' => Presents p.thread [f.id] s s' := by
  unfold describeFrame
  rw [Task.ends_bind, Task.ends_modifyGet, Task.ends_bind]
  have belongs : (Container.frame (s.openFrame p depth).1).BelongsTo p.thread := by
    rintro _ ⟨⟩
    rfl
  have opened : Shown p.thread s (s.openFrame p depth).2 := .of_eq rfl rfl rfl rfl
  apply (addHandle_ends belongs _).mono
  intro n s' presents
  show Presents p.thread [n] s s'
  exact .after opened presents

theorem describeFrames_ends (p : Suspension) (frames : List (FrameInfo × Nat))
    (s : Session V) :
    Task.Ends (describeFrames p frames) s fun fs s' =>
      Presents p.thread (fs.map (·.id)) s s' := by
  induction frames generalizing s with
  | nil => exact .of_shown (Composes.refl s)
  | cons frame rest ih =>
    obtain ⟨f, depth⟩ := frame
    unfold describeFrames
    refine .bind (describeFrame_ends p depth f.location s) ?_
    intro shown s' first
    refine .bind (ih s') ?_
    intro others s'' more
    exact first.trans more

/-! ## Variables -/

variable [Machine V]

omit [Machine V] in
theorem evaluationSite_settles (frameId : Option Int64) (s : Session V) :
    Settles (evaluationSite frameId) s fun r s' => s' = s ∧
      ∀ e p, r = .ok (e, p) → ∃ owner, frameId.bind s.resolve? = some ⟨owner, .frame p⟩ := by
  obtain ⟨r, done, found⟩ := evaluationSite_done frameId s
  exact Task.Ends.of_done done ⟨rfl, found⟩

theorem openObject_settles (thread : ThreadId) (o : ObjectRef) (evaluateName : Option String)
    (showLogical : Bool) (s : Session V) :
    Settles (openObject thread o evaluateName showLogical) s fun r s' =>
      Presents thread (referencesIn (fun x => [x.2.2]) r) s s' := by
  have measured : Settles (measureObject thread o showLogical) s fun _ s' => Shown thread s s' :=
    keeps_settles (measureObject_stirs thread o showLogical) s
  rw [openObject_eq]
  refine measured.andThen ?_ ?_
  · intro found s' shown
    rw [settles_bind, settles_quietly]
    apply (addHandle_ends (fun _ h => by cases h) s').mono
    intro n s'' presents
    exact .after shown presents
  · intro e s' shown
    exact .of_shown shown

theorem describeVariable_settles (thread : ThreadId) (settings : VariableSettings) (v : Variable)
    (s : Session V) :
    Settles (describeVariable thread settings v) s fun r s' =>
      Presents thread (referencesIn (fun x => [x.variablesReference]) r) s s' := by
  have plain := Presents.zero (Composes.refl (R := Shown thread) s)
  have opened : Settles (openValue thread settings v) s fun r s' =>
      Presents thread (referencesIn (fun x => [x.2.2]) r) s s' := by
    unfold openValue
    split
    · split
      · exact plain
      · exact openObject_settles thread _ _ _ s
    · exact plain
  rw [describeVariable_eq]
  refine opened.andThen ?_ ?_
  · intro found s' presents
    have asked : Settles (formatValue v.value found.1 (FormatOptions.ofSettings settings)) s'
        fun _ s'' => Shown thread s' s'' := keeps_settles (formatValue_stirs _ _ _) s'
    refine asked.andThen ?_ ?_
    · intro value s'' more
      exact presents.before more
    · intro e s'' more
      exact .of_shown (Composes.trans presents.shown more)
  · intro e s' presents
    exact .of_shown presents.shown

theorem describeVariables_settles (thread : ThreadId) (settings : VariableSettings)
    (vs : List Variable) (s : Session V) :
    Settles (vs.mapM (describeVariable thread settings)) s fun r s' =>
      Presents thread (referencesIn (fun xs => xs.map (·.variablesReference)) r) s s' := by
  induction vs generalizing s with
  | nil => exact .of_shown (Composes.refl s)
  | cons v rest ih =>
    rw [List.mapM_cons]
    refine (describeVariable_settles thread settings v s).andThen ?_ ?_
    · intro shown s' first
      refine (ih s').andThen ?_ ?_
      · intro others s'' more
        exact first.trans more
      · intro e s'' more
        exact .of_shown (Composes.trans first.shown more.shown)
    · intro e s' first
      exact .of_shown first.shown

end Session
end DebugSession
