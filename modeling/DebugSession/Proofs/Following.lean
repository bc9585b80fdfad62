import DebugSession.Debuggee.Calls
import DebugSession.Proofs.Answering
import DebugSession.Server.Basic
/-!
What a session derives from its settings: the way it makes calls, how many ended threads it
remembers, and how much it reads at a time. All of it is kept in line with the settings, although
settings and measured latencies come in any order, and while anything else is under way.
-/

namespace DebugSession

variable {V : Type}

/-! ## New settings -/

namespace Session

variable {s s' : Session V} {x : Settings}

/-- Who is to hear of new settings. -/
def notices (s : Session V) (x : Settings) : List (Listener × SettingsChange) :=
  if s.settings = x then [] else s.listeners.map fun l => (l, ⟨s.settings, x⟩)

theorem update_of_invalid (invalid : x.display.pageSize = 0) :
    s.update x = .error (.configuration "variables.page_size must be at least 1") := by
  have refused : x.validate = .error (.configuration "variables.page_size must be at least 1") :=
    if_pos invalid
  simp only [update, SettingsHandle.update, refused]
  rfl

theorem update_of_valid (valid : x.display.pageSize ≠ 0) :
    s.update x = .ok (s.notices x, { s with settings := x }.tell (s.notices x)) := by
  have taken : x.validate = .ok () := if_neg valid
  simp only [update, SettingsHandle.update, taken]
  rfl

variable {numbers : List Nat}

/-- Whoever only looks on changes nothing. -/
private theorem tell_observers (s : Session V) (change : SettingsChange) (numbers : List Nat) :
    s.tell (numbers.map fun number => (.observer number, change)) = s := by
  induction numbers with
  | nil => rfl
  | cons number rest ih => exact ih

private theorem hear_callMode (change : SettingsChange)
    (before : s.callMode = CallMode.choose (s.latency.getD 0) change.old.remote) :
    s.hear change .callMode =
      { s with callMode := CallMode.choose (s.latency.getD 0) change.new.remote } := by
  simp only [hear]
  split
  · rename_i same
    rw [← same, ← before]
  · rfl

private theorem hear_threads (change : SettingsChange)
    (before : s.threads.capacity = change.old.threads.deathCacheSize) (bounded : s.threads.Bounded) :
    ∃ threads, s.hear change .threads = { s with threads } ∧
      threads.capacity = change.new.threads.deathCacheSize ∧ threads.Bounded := by
  simp only [hear]
  split
  · rename_i same
    exact ⟨s.threads, rfl, before.trans same, bounded⟩
  · exact ⟨_, rfl, rfl, ThreadCache.bounded_setCapacity _ _⟩

/-- The call mode and the memory of threads follow the settings when their listeners are told, if
they did before. -/
theorem tell_notices (listeners : s.listeners = [.callMode, .threads] ++ numbers.map .observer)
    (mode : s.callMode = CallMode.choose (s.latency.getD 0) s.settings.remote)
    (capacity : s.threads.capacity = s.settings.threads.deathCacheSize)
    (bounded : s.threads.Bounded) :
    ∃ threads, { s with settings := x }.tell (s.notices x) =
        { s with
          settings := x, callMode := CallMode.choose (s.latency.getD 0) x.remote, threads } ∧
      threads.capacity = x.threads.deathCacheSize ∧ threads.Bounded := by
  by_cases same : s.settings = x
  · subst same
    refine ⟨s.threads, ?_, capacity, bounded⟩
    rw [notices, if_pos rfl, ← mode]
    rfl
  · have change : s.notices x = [(.callMode, ⟨s.settings, x⟩), (.threads, ⟨s.settings, x⟩)] ++
        numbers.map fun number => (.observer number, ⟨s.settings, x⟩) := by
      rw [notices, if_neg same, listeners, List.map_append, List.map_map]
      rfl
    let chosen := CallMode.choose (s.latency.getD 0) x.remote
    have first : { s with settings := x }.hear ⟨s.settings, x⟩ .callMode =
        { s with settings := x, callMode := chosen } := hear_callMode _ mode
    obtain ⟨threads, second, room, bounded⟩ := hear_threads ⟨s.settings, x⟩
      (s := { s with settings := x, callMode := chosen }) capacity bounded
    refine ⟨threads, ?_, room, bounded⟩
    rw [change, tell, List.foldl_append, ← tell, tell_observers]
    simp only [List.foldl_cons, List.foldl_nil, first]
    exact second

end Session

/-! ## Moves that leave it alone -/

namespace Session

/-- What is derived from the settings stays as it is, and so does all that it is derived from. -/
structure Unmoved (s s' : Session V) : Prop where
  settings : s'.settings = s.settings
  listeners : s'.listeners = s.listeners
  latency : s'.latency = s.latency
  callMode : s'.callMode = s.callMode
  capacity : s'.threads.capacity = s.threads.capacity
  bounded : s.threads.Bounded → s'.threads.Bounded

section

variable {s s' : Session V}

private theorem Unmoved.of_parts (settings : s'.settings = s.settings)
    (listeners : s'.listeners = s.listeners) (latency : s'.latency = s.latency)
    (callMode : s'.callMode = s.callMode) (threads : s'.threads = s.threads) : Unmoved s s' :=
  ⟨settings, listeners, latency, callMode, by rw [threads], fun bounded => threads ▸ bounded⟩

theorem Unmoved.of_heeded (same : s'.heeded = s.heeded) : Unmoved s s' := by
  simp only [heeded, Prod.mk.injEq] at same
  obtain ⟨-, settings, listeners, latency, callMode, threads⟩ := same
  exact .of_parts settings listeners latency callMode threads

instance : Composes (Unmoved (V := V)) where
  refl _ := .of_heeded rfl
  trans h h' := ⟨h'.settings.trans h.settings, h'.listeners.trans h.listeners,
    h'.latency.trans h.latency, h'.callMode.trans h.callMode, h'.capacity.trans h.capacity,
    h'.bounded ∘ h.bounded⟩

instance : Ambient (Unmoved (V := V)) where
  advance _ _ := .of_parts rfl rfl rfl rfl rfl
  cancel _ := .of_parts rfl rfl rfl rfl rfl

instance : Enlists (Unmoved (V := V)) where
  line _ _ := .of_parts rfl rfl rfl rfl rfl

theorem unmoved_terminate (s : Session V) : Unmoved s (terminate s) := by
  unfold terminate
  split <;> exact .of_parts rfl rfl rfl rfl rfl

variable [Machine V]

private theorem unmoved_allows (c : Call) : Allows (Unmoved (V := V)) c :=
  allows_of_parts (fun _ => .of_parts rfl rfl rfl rfl rfl)
    (fun _ => .of_parts rfl rfl rfl rfl rfl) fun _ _ => .of_parts rfl rfl rfl rfl rfl

instance : Announces (Unmoved (V := V)) where
  call := unmoved_allows
  aside := .of_heeded
  started _ thread name := ⟨rfl, rfl, rfl, rfl, ThreadCache.capacity_started _ thread name,
    fun bounded => bounded.started thread name⟩
  died _ thread := ⟨rfl, rfl, rfl, rfl, ThreadCache.capacity_died _ thread,
    fun bounded => bounded.died thread⟩
  announce _ _ := .of_parts rfl rfl rfl rfl rfl

end

/-! ## Moves that measure -/

/-- A latency was measured at last, or none was. -/
def Measures : Option Nat → Session V → Session V → Prop
  | none, s, s' => Unmoved s s'
  | some latency, s, s' => ∃ s₁, Unmoved s s₁ ∧ s' = s₁.recordLatency latency

private theorem measures_after (latency : Option Nat) (s s₁ s' : Session V) (first : Unmoved s s₁)
    (h : Measures latency s₁ s') : Measures latency s s' := by
  cases latency with
  | none => exact Composes.trans (R := Unmoved) first h
  | some latency =>
    obtain ⟨s₂, last, rfl⟩ := h
    exact ⟨s₂, Composes.trans first last, rfl⟩

variable [Machine V]

private theorem respond_unmoved {m : Protocol.RequestMessage}
    (other : Request.ofMessage m ≠ .ok .attach) :
    Task.Moves Unmoved (respond m : Task (Session V) _) := by
  by_cases parts : ∃ terminate, Request.ofMessage m = .ok (.disconnect terminate)
  · obtain ⟨terminate, asked⟩ := parts
    unfold respond handle
    rw [asked]
    have parted : Stirs Unmoved (performAny (.disconnect terminate) : Attempt V _) :=
      .adapt _ (.bind (.quietly (disconnect_moves terminate)) fun _ => .pure _)
    exact .bind parted fun _ => .pure _
  · exact respond_moves m (fun terminate same => parts ⟨terminate, same⟩)
      fun same => absurd same other

end Session

/-! ## All that may be under way -/

/-- What a session does for others. -/
inductive Errand where
  | answer (m : Protocol.RequestMessage)
  /-- Deals with the next event. -/
  | pump
  /-- The client is gone. -/
  | leave
  /-- Measures how long a call takes. -/
  | probe (latency : Nat)

variable [Machine V]

namespace Errand

/-- Does it. The result is the latency, if one was measured. -/
def task : Errand → Task (Session V) (Option Nat)
  | answer m => do
    let reply ← Session.respond m
    return match Request.ofMessage m with
      | .ok .attach => if reply.response.success then some 0 else none
      | _ => none
  | pump => do
    let _ ← Session.pump
    return none
  | leave => do
    Session.disconnect false
    return none
  | probe latency => do
    match ← (Session.probe latency).run with
    | .ok _ => return some latency
    | .error _ => return none

open Session

omit [Machine V] in
private theorem finishes_of_moves {α : Type} {x : Task (Session V) α} (h : Task.Moves Unmoved x)
    (s : Session V) :
    ((do let _ ← x; return none : Task (Session V) (Option Nat)) s).Finishes Unmoved Measures s :=
  Step.Moves.finishes measures_after (h.step s) fun _ s' => Composes.refl (R := Unmoved) s'

private theorem probe_finishes (latency : Nat) (s : Session V) :
    ((probe latency).task s).Finishes Unmoved Measures s := by
  have asked : Stirs Unmoved ((call .version).orFail .remote : Action V _) :=
    .orFail _ (Heeds.call _)
  simp only [task, Session.probe]
  rw [ExceptT.run_bind, bind_assoc]
  refine Step.Moves.finishes measures_after (Task.Moves.step asked s) ?_
  intro r s'
  cases r with
  | ok version => exact ⟨s', Composes.refl s', rfl⟩
  | error e => exact Composes.refl (R := Unmoved) s'

/-- To attach is to measure a call. -/
private theorem task_attach {m : Protocol.RequestMessage}
    (asked : Request.ofMessage m = .ok .attach) :
    (answer m).task = ((probe 0).task : Task (Session V) _) := by
  have attached : (handle m : Attempt V _).run = do
      let r ← (Session.probe 0).run
      return (r.mapError Failure.error).map fun _ => Result.empty := by
    unfold handle
    rw [asked]
    show (Except.mapError Failure.error <$> (do
      let _ ← Session.probe 0
      return Result.empty : Action V Result).run : Task (Session V) _) = _
    rw [ExceptT.run_bind, map_eq_pure_bind, bind_assoc]
    refine bind_congr fun r => ?_
    cases r <;> rfl
  simp only [task, respond]
  rw [attached, asked]
  simp only [bind_assoc, pure_bind]
  refine bind_congr fun r => ?_
  cases r <;> rfl

/-- A latency is recorded in the last move, if the call is answered at all. -/
theorem task_finishes (e : Errand) (s : Session V) : (e.task s).Finishes Unmoved Measures s := by
  cases e with
  | answer m =>
    by_cases asked : Request.ofMessage m = .ok .attach
    · rw [task_attach asked]
      exact probe_finishes 0 s
    · have silent : (answer m).task = (do
          let _ ← respond m
          return none : Task (Session V) _) := by
        simp only [task]
      rw [silent]
      exact finishes_of_moves (respond_unmoved asked) s
  | pump =>
    refine finishes_of_moves ?_ s
    unfold Session.pump
    refine .bind nextEvent_stirs fun r => ?_
    split
    · exact pumpEvent_moves _ unmoved_terminate
    · exact .bind (.modify unmoved_terminate) fun _ => .pure _
  | leave => exact finishes_of_moves (disconnect_moves false) s
  | probe latency => exact probe_finishes latency s

end Errand

/-! ## Side by side -/

/-- A session, the latency that was measured last, what the listeners were told, and all that is
under way. -/
structure Affairs (V : Type) where
  session : Session V
  measured : Option Nat := none
  told : List (Listener × SettingsChange) := []
  waiting : List (Paused (Session V) (Option Nat)) := []

/-- What happens next. -/
inductive Occurrence (V : Type) where
  | settings (x : Settings)
  | observe (number : Nat)
  | begins (e : Errand)
  | goesOn (number : Nat)
  | debuggee (machine : V)
  | time (time : Nat)
  | deliver

/-- Who listens from then on. -/
def Occurrence.observer? : Occurrence V → Option Nat
  | .observe number => some number
  | _ => none

namespace Affairs

omit [Machine V] in
/-- An errand has got to its end or to a wait. -/
def moved (a : Affairs V) : Step (Session V) (Option Nat) → Affairs V
  | .done measured session => { a with session, measured := measured.or a.measured }
  | .wait deadline ready session resume =>
    { a with session, waiting := a.waiting ++ [⟨deadline, ready, resume⟩] }

def after (a : Affairs V) : Occurrence V → Affairs V
  | .settings x =>
    match a.session.update x with
    | .ok (notices, session) => { a with session, told := a.told ++ notices }
    | .error _ => a
  | .observe number => { a with session := a.session.observe number }
  | .begins e => a.moved (e.task a.session)
  | .goesOn number =>
    match a.waiting[number]? with
    | none => a
    | some rest =>
      { a with waiting := a.waiting.eraseIdx number }.moved (rest.resume a.session)
  | .debuggee machine => { a with session := { a.session with machine } }
  | .time time => { a with session := a.session.advance time }
  | .deliver => { a with session := { a.session with pending := [] } }

def run (a : Affairs V) (os : List (Occurrence V)) : Affairs V := os.foldl after a

omit [Machine V] in
def start (machine : V) (settings : Settings) (providers : Providers) : Affairs V :=
  { session := .start machine settings providers }

/-! ## What every move preserves -/

/-- What is derived from the settings is as they are, whoever listens and whoever waits. They are
valid if the `first` ones were. -/
structure InLine (first : Settings) (observers : List Nat) (a : Affairs V) : Prop where
  valid : first.display.pageSize ≠ 0 → a.session.settings.display.pageSize ≠ 0
  latency : a.session.latency = a.measured
  mode : a.session.callMode = CallMode.choose (a.measured.getD 0) a.session.settings.remote
  capacity : a.session.threads.capacity = a.session.settings.threads.deathCacheSize
  bounded : a.session.threads.Bounded
  listeners : a.session.listeners = [.callMode, .threads] ++ observers.map .observer
  waiting : ∀ rest ∈ a.waiting, ∀ now,
    (rest.resume now).Finishes Session.Unmoved Session.Measures now

section

variable {a : Affairs V} {first x : Settings} {observers : List Nat} {s' : Session V}

omit [Machine V]

theorem inLine_start (machine : V) (settings : Settings) (providers : Providers) :
    (start machine settings providers).InLine settings [] where
  valid := id
  latency := rfl
  mode := rfl
  capacity := rfl
  bounded := Nat.zero_le _
  listeners := rfl
  waiting _ mem := absurd mem List.not_mem_nil

private theorem InLine.unmoved (h : a.InLine first observers)
    (unmoved : Session.Unmoved a.session s') :
    InLine first observers { a with session := s' } where
  valid := by
    rw [unmoved.settings]
    exact h.valid
  latency := unmoved.latency.trans h.latency
  mode := by rw [unmoved.callMode, unmoved.settings, h.mode]
  capacity := by rw [unmoved.capacity, unmoved.settings, h.capacity]
  bounded := unmoved.bounded h.bounded
  listeners := unmoved.listeners.trans h.listeners
  waiting := h.waiting

private theorem InLine.measured (h : a.InLine first observers) (latency : Nat) :
    InLine first observers
      { a with session := a.session.recordLatency latency, measured := some latency } where
  valid := h.valid
  latency := rfl
  mode := rfl
  capacity := h.capacity
  bounded := h.bounded
  listeners := h.listeners
  waiting := h.waiting

theorem InLine.moved (h : a.InLine first observers) {step : Step (Session V) (Option Nat)}
    (turn : step.Finishes Session.Unmoved Session.Measures a.session) :
    (a.moved step).InLine first observers := by
  cases step with
  | done measured session =>
    cases measured with
    | none => exact h.unmoved turn
    | some latency =>
      obtain ⟨s₁, unmoved, rfl⟩ := turn
      exact (h.unmoved unmoved).measured latency
  | wait deadline ready session resume =>
    obtain ⟨unmoved, goes⟩ := turn
    refine { h.unmoved unmoved with waiting := fun rest mem => ?_ }
    rcases List.mem_append.1 mem with mem | mem
    · exact h.waiting rest mem
    · obtain rfl := List.mem_singleton.1 mem
      exact goes

theorem InLine.updated (h : a.InLine first observers) (valid : x.display.pageSize ≠ 0)
    (told : List (Listener × SettingsChange)) :
    InLine first observers
      { a with session := { a.session with settings := x }.tell (a.session.notices x), told } := by
  have mode : a.session.callMode =
      CallMode.choose (a.session.latency.getD 0) a.session.settings.remote := by
    rw [h.latency, h.mode]
  obtain ⟨threads, same, capacity, bounded⟩ :=
    Session.tell_notices (x := x) h.listeners mode h.capacity h.bounded
  rw [same]
  exact ⟨fun _ => valid, h.latency, by rw [h.latency], capacity, bounded, h.listeners, h.waiting⟩

theorem InLine.observed (h : a.InLine first observers) (number : Nat) :
    InLine first (observers ++ [number]) { a with session := a.session.observe number } where
  valid := h.valid
  latency := h.latency
  mode := h.mode
  capacity := h.capacity
  bounded := h.bounded
  listeners := by
    show a.session.listeners ++ [.observer number] = _
    rw [h.listeners, List.append_assoc, List.map_append]
    rfl
  waiting := h.waiting

end

section

variable {a : Affairs V} {first x : Settings} {observers : List Nat}

omit [Machine V] in
theorem after_settings_of_invalid [Machine V] (invalid : x.display.pageSize = 0) :
    a.after (.settings x) = a := by
  simp only [after, Session.update_of_invalid invalid]

theorem after_settings_of_valid (valid : x.display.pageSize ≠ 0) :
    a.after (.settings x) =
      { a with
        session := { a.session with settings := x }.tell (a.session.notices x)
        told := a.told ++ a.session.notices x } := by
  simp only [after, Session.update_of_valid valid]

theorem InLine.after (h : a.InLine first observers) (o : Occurrence V) :
    (a.after o).InLine first (observers ++ o.observer?.toList) := by
  have stays : ∀ {a' : Affairs V}, a'.InLine first observers →
      a'.InLine first (observers ++ []) := fun h => (List.append_nil observers).symm ▸ h
  cases o with
  | settings x =>
    apply stays
    by_cases invalid : x.display.pageSize = 0
    · rw [after_settings_of_invalid invalid]
      exact h
    · rw [after_settings_of_valid invalid]
      exact h.updated invalid _
  | observe number => exact h.observed number
  | begins e => exact stays (h.moved (e.task_finishes a.session))
  | goesOn number =>
    apply stays
    simp only [Affairs.after]
    split
    · exact h
    · rename_i rest found
      have fewer : InLine first observers { a with waiting := a.waiting.eraseIdx number } :=
        { h with waiting := fun rest' mem => h.waiting rest' (List.mem_of_mem_eraseIdx mem) }
      exact fewer.moved (h.waiting rest (List.mem_of_getElem? found) a.session)
  | debuggee machine => exact stays (h.unmoved (.of_parts rfl rfl rfl rfl rfl))
  | time time => exact stays (h.unmoved (Ambient.advance time a.session))
  | deliver => exact stays (h.unmoved (.of_parts rfl rfl rfl rfl rfl))

theorem InLine.run (h : a.InLine first observers) (os : List (Occurrence V)) :
    (a.run os).InLine first (observers ++ os.filterMap Occurrence.observer?) := by
  induction os generalizing a observers with
  | nil =>
    rw [List.filterMap_nil, List.append_nil]
    exact h
  | cons o rest ih =>
    have both : observers ++ (o :: rest).filterMap Occurrence.observer? =
        (observers ++ o.observer?.toList) ++ rest.filterMap Occurrence.observer? := by
      rw [List.append_assoc, List.filterMap_cons]
      cases o.observer? <;> rfl
    rw [both]
    exact ih (h.after o)

/-- Invalid settings are refused: nothing changes, and nobody is told. Valid ones are in effect from
then on, and if they differ, every listener is told once of what there was and what there is. -/
structure Obeys (a : Affairs V) (x : Settings) : Prop where
  refuses : x.display.pageSize = 0 →
    a.session.update x = .error (.configuration "variables.page_size must be at least 1") ∧
      a.after (.settings x) = a
  accepts : x.display.pageSize ≠ 0 →
    (a.session.update x).isOk = true ∧ (a.after (.settings x)).session.settings = x ∧
      (a.after (.settings x)).told = a.told ++
        if a.session.settings = x then []
        else a.session.listeners.map fun l => (l, ⟨a.session.settings, x⟩)

theorem obeys (a : Affairs V) (x : Settings) : a.Obeys x where
  refuses invalid := ⟨Session.update_of_invalid invalid, after_settings_of_invalid invalid⟩
  accepts valid := by
    have updated := Session.update_of_valid (s := a.session) valid
    obtain ⟨callMode, threads, same⟩ := Session.update_eq updated
    rw [after_settings_of_valid valid, updated]
    exact ⟨rfl, by rw [same], rfl⟩

end

/-- Whatever has happened to a session, whoever listens and whatever is under way: its call mode is
chosen by the latency that was measured last and the settings in effect, it remembers as many ended
threads as they say at most, and reads as much at a time. They can be replaced by valid ones. -/
theorem follows_settings (machine : V) (settings : Settings) (providers : Providers)
    (os : List (Occurrence V)) :
    let a := (start machine settings providers).run os
    let current := a.session.settings
    a.session.callMode = CallMode.choose (a.measured.getD 0) current.remote ∧
      a.session.threads.capacity = current.threads.deathCacheSize ∧
      a.session.threads.dead.length ≤ current.threads.deathCacheSize ∧
      a.session.fetchPolicy =
        ⟨max 1 current.display.pageSize, CallMode.choose (a.measured.getD 0) current.remote⟩ ∧
      (settings.display.pageSize ≠ 0 →
        a.session.fetchPolicy.pageSize = current.display.pageSize) ∧
      a.session.listeners =
        [.callMode, .threads] ++ (os.filterMap Occurrence.observer?).map .observer ∧
      ∀ x, a.Obeys x := by
  intro a current
  have inLine : a.InLine settings ([] ++ os.filterMap Occurrence.observer?) :=
    (inLine_start machine settings providers).run os
  refine ⟨inLine.mode, inLine.capacity, ?_, congrArg _ inLine.mode, fun valid => ?_,
    inLine.listeners, a.obeys⟩
  · exact Nat.le_trans inLine.bounded (Nat.le_of_eq inLine.capacity)
  · exact Nat.max_eq_right (Nat.one_le_iff_ne_zero.2 (inLine.valid valid))

/-- A call was slow, but is not any more by a new threshold. -/
theorem follows_settings_over_threshold :
    let slow := (start ({} : Debuggee) {} {}).run [.observe 7, .begins (.probe 20000)]
    let raised : Settings := { remote := { latencyThresholdMs := 50 } }
    slow.session.callMode = .pipelined ∧
      (slow.after (.settings raised)).session.callMode = .synchronous ∧
      (slow.after (.settings raised)).told =
        [(.callMode, ⟨{}, raised⟩), (.threads, ⟨{}, raised⟩), (.observer 7, ⟨{}, raised⟩)] ∧
      slow.session.fetchPolicy.pageSize = 100 ∧
      slow.after (.settings { display := { pageSize := 0 } }) = slow := by
  intro slow raised
  have follows := follows_settings ({} : Debuggee) {} {} [.observe 7, .begins (.probe 20000)]
  obtain ⟨mode, -, -, -, size, listeners, obeys⟩ := follows
  have later := follows_settings ({} : Debuggee) {} {}
    [.observe 7, .begins (.probe 20000), .settings raised]
  refine ⟨mode.trans (by decide +kernel), later.1.trans (by decide +kernel), ?_,
    (size (by decide)).trans (by decide +kernel), ((obeys _).refuses rfl).2⟩
  have before : slow.session.settings = {} := by decide +kernel
  have untold : slow.told = [] := List.eq_nil_of_length_eq_zero (by decide +kernel)
  have changed : ({} : Settings) ≠ raised := by decide
  rw [((obeys raised).accepts (by decide)).2.2, listeners, before, untold, if_neg changed]
  rfl

end Affairs
end DebugSession
