import DebugSession.Proofs.Hits
/-!
The histories of breakpoints. Requests for breakpoints come one after the other, hits come at any
time, and whoever has to wait goes on later. What a breakpoint has counted is how many events came
for it since it was created, and by this number the client hears of the next one.
-/

namespace DebugSession

variable {V : Type}

/-! ## Histories -/

/-- What a move of a session was about: a request for breakpoints that began when `began` numbers
had been given, an event for an event request, or anything else. -/
inductive Cause where
  | request (began : Nat)
  | hit (request : RequestId)
  | other
  deriving DecidableEq, Repr

/-- A move of a session, as it concerns breakpoints. -/
structure Passage where
  before : Breakpoints
  cause : Cause
  after : Breakpoints

namespace Passage

variable {p : Place} {id : UInt32}

/-- There was an event for what was kept at a place then. -/
def isHitAt (p : Place) (m : Passage) : Bool :=
  match m.cause with
  | .hit r => (m.before.at? p).any fun i => r ∈ i.requests
  | _ => false

/-- Something new was kept at a place for a request, under a number that was given since the
request began. -/
def Creates (p : Place) (id : UInt32) (m : Passage) : Prop :=
  ∃ began, m.cause = .request began ∧
    ∃ i, m.after.at? p = some i ∧ i.id = id ∧ m.after.Fresh began i

/-- What a move may do to breakpoints, by what it is about. -/
def Fair (m : Passage) : Prop :=
  match m.cause with
  | .request began => m.before.Continues began m.after
  | .hit r => m.before.Counts r m.after
  | .other => m.after = m.before

end Passage

/-- How many events there were for what was kept at a place. -/
def hitsAt (p : Place) (ms : List Passage) : Nat := ms.countP (Passage.isHitAt p)

/-- What is kept at a place was created there before `later`, and was kept there all the time. -/
def Lives (p : Place) (id : UInt32) (ms later : List Passage) : Prop :=
  ∃ earlier m, ms = earlier ++ m :: later ∧ m.Creates p id ∧
    ∀ m' ∈ later, ∃ i, m'.before.at? p = some i ∧ i.id = id

/-- What is kept has counted the events for it since it was created. -/
def Tracked (ms : List Passage) (b : Breakpoints) : Prop :=
  ∀ p i, b.at? p = some i → ∃ later, Lives p i.id ms later ∧ i.hits = UInt32.ofNat (hitsAt p later)

section

variable {p : Place} {i j : Installed} {ms later : List Passage} {m : Passage}

theorem hitsAt_snoc : hitsAt p (later ++ [m]) = hitsAt p later + if m.isHitAt p then 1 else 0 := by
  rw [hitsAt, List.countP_append, List.countP_singleton]
  rfl

/-- What was kept and still is counts one event more if there was one. -/
private theorem Tracked.stays (h : Tracked ms m.before) (there : m.before.at? p = some j)
    (id : j.id = i.id) (hits : i.hits = if m.isHitAt p then j.hits + 1 else j.hits) :
    ∃ later, Lives p i.id (ms ++ [m]) later ∧ i.hits = UInt32.ofNat (hitsAt p later) := by
  obtain ⟨later, ⟨earlier, first, rfl, creates, lives⟩, counted⟩ := h p j there
  refine ⟨later ++ [m], ⟨earlier, first, by simp, id ▸ creates, ?_⟩, ?_⟩
  · intro m' mem
    rcases List.mem_append.1 mem with mem | mem
    · exact id ▸ lives m' mem
    · obtain rfl := List.mem_singleton.1 mem
      exact ⟨j, there, id⟩
  · rw [hits, hitsAt_snoc, counted]
    split
    · exact (UInt32.ofNat_add _ 1).symm
    · rfl

theorem Tracked.next (h : Tracked ms m.before) (fair : m.Fair) : Tracked (ms ++ [m]) m.after := by
  intro p i there
  obtain ⟨before, cause, after⟩ := m
  cases cause with
  | request began =>
    have fair : before.Continues began after := fair
    rcases fair.kept p i there with ⟨j, there', id, hits⟩ | fresh
    · exact h.stays there' id hits.symm
    · have creates : Passage.Creates p i.id ⟨before, .request began, after⟩ :=
        ⟨began, rfl, i, there, rfl, fresh⟩
      exact ⟨[], ⟨ms, _, rfl, creates, by simp⟩, fresh.1⟩
  | hit r =>
    have fair : before.Counts r after := fair
    cases fair with
    | counted j there' owns alone same =>
      -- Requests belong to one place, so what is kept at any other was not hit.
      rw [show after.at? = _ from same] at there
      by_cases here : p = j.place
      · subst here
        rw [Function.update_self] at there
        obtain rfl := Option.some.inj there
        have hit : Passage.isHitAt j.place ⟨before, .hit r, after⟩ = true := by
          simp [Passage.isHitAt, there', owns]
        exact h.stays there' (by simp) (by simp [hit])
      · rw [Function.update_of_ne here] at there
        have missed : Passage.isHitAt p ⟨before, .hit r, after⟩ = false := by
          simpa [Passage.isHitAt, there] using fun owns' => here (alone p i there owns')
        exact h.stays there rfl (by simp [missed])
    | nowhere closed same =>
      rw [show after.at? = _ from same] at there
      have missed : Passage.isHitAt p ⟨before, .hit r, after⟩ = false := by
        simpa [Passage.isHitAt, there] using closed p i there
      exact h.stays there rfl (by simp [missed])
  | other =>
    have fair : after = before := fair
    subst fair
    exact h.stays there rfl rfl

end

/-! ## Requests and hits side by side -/

/-- A session, the request for breakpoints that waits, with how many numbers had been given when it
began, and the hits that are being dealt with. -/
structure Stage (V : Type) where
  session : Session V
  request : Option (Nat × Paused (Session V) Unit) := none
  hits : List (Paused (Session V) Bool) := []

variable [Machine V]

/-- A request for breakpoints, its answer apart. -/
def Wish.task : Wish → Task (Session V) Unit
  | .lines source specs modified => do
    let _ ← (Session.setBreakpoints source specs modified).run
  | .fields specs => do
    let _ ← (Session.setWatchpoints specs).run

namespace Stage

omit [Machine V] in
/-- The request under way goes on with what is left of it. -/
def requested (c : Stage V) (began : Nat) : Step (Session V) Unit → Stage V
  | .done _ session => { c with session, request := none }
  | .wait deadline ready session resume =>
    { c with session, request := some (began, ⟨deadline, ready, resume⟩) }

omit [Machine V] in
/-- The request that waits goes on, if there is one. -/
def goOn (c : Stage V) : Stage V :=
  match c.request with
  | none => c
  | some (began, rest) => c.requested began (rest.resume c.session)

omit [Machine V] in
/-- A hit is dealt with, beside the others. -/
def reported (c : Stage V) (others : List (Paused (Session V) Bool)) :
    Step (Session V) Bool → Stage V
  | .done _ session => { c with session, hits := others }
  | .wait deadline ready session resume =>
    { c with session, hits := ⟨deadline, ready, resume⟩ :: others }

variable [Ledger V]

/-- What happens next. A request begins when no other one is under way; hits come at any time, and
whoever waits may go on at any time. -/
inductive Next (c : Stage V) : Cause → Stage V → Prop
  | begin (w : Wish) (idle : c.request = none) :
    Next c (.request c.session.breakpoints.issued)
      (c.requested c.session.breakpoints.issued (w.task c.session))
  | goOn {began : Nat} {rest : Paused (Session V) Unit} (waits : c.request = some (began, rest)) :
    Next c (.request began) c.goOn
  | hit (h : Hit) :
    Next c (.hit h.request) (c.reported c.hits (Session.pumpEvent h.event c.session))
  | dealOn {front back : List (Paused (Session V) Bool)} {rest : Paused (Session V) Bool}
    (waits : c.hits = front ++ rest :: back) :
    Next c .other (c.reported (front ++ back) (rest.resume c.session))
  | beside {session : Session V} (harmless : Session.Harmless c.session session) :
    Next c .other { c with session }

/-- What can become of a session with its requests and hits, and what it went through. -/
inductive Course (machine : V) (settings : Settings) (providers : Providers) :
    List Passage → Stage V → Prop
  | start : Course machine settings providers []
      { session := Session.start machine settings providers }
  | next {ms : List Passage} {c c' : Stage V} {cause : Cause}
    (h : Course machine settings providers ms c) (n : c.Next cause c') :
    Course machine settings providers
      (ms ++ [⟨c.session.breakpoints, cause, c'.session.breakpoints⟩]) c'

/-! ## What a move preserves -/

/-- The breakpoints are in order, and whoever waits goes on as it may. -/
structure Fine (c : Stage V) : Prop where
  upkept : c.session.Upkept 0 []
  request : ∀ began rest, c.request = some (began, rest) →
    began ≤ c.session.breakpoints.issued ∧ ∀ now, now.Upkept began [] →
      Session.Spares c.session now →
        (rest.resume now).Abides (Session.upkeep began) (fun _ s' => s'.Upkept began []) now
  hits : ∀ rest ∈ c.hits, ∀ now, (rest.resume now).Moves Session.Harmless now

variable {c c' : Stage V} {s : Session V} {began : Nat}

theorem wish_abides (w : Wish) (upkept : s.Upkept began []) :
    (w.task s).Abides (Session.upkeep began) (fun _ s' => s'.Upkept began []) s := by
  cases w with
  | lines source specs modified =>
    exact Task.Abides.bind (Session.setBreakpoints_honours source specs modified upkept)
      fun _ _ upkept => .pure upkept
  | fields specs =>
    exact Task.Abides.bind (Session.setWatchpoints_honours specs upkept)
      fun _ _ upkept => .pure upkept

/-- A move of a request. -/
private theorem Fine.requested {x : Step (Session V) Unit} (h : c.Fine)
    (abides : x.Abides (Session.upkeep began) (fun _ s' => s'.Upkept began []) c.session) :
    (c.requested began x).Fine ∧
      c.session.breakpoints.Continues began (c.requested began x).session.breakpoints := by
  cases x with
  | done _ session => exact ⟨⟨abides.2.fromStart, nofun, h.hits⟩, abides.1⟩
  | wait deadline ready session resume =>
    obtain ⟨own, standing, goes⟩ := abides
    refine ⟨⟨standing.fromStart, ?_, h.hits⟩, own⟩
    rintro _ _ ⟨⟩
    exact ⟨standing.given, goes⟩

/-- While a request waits, others leave it what it relies on. -/
private theorem Fine.spared {hits : List (Paused (Session V) Bool)} (h : c.Fine)
    (spares : Session.Spares c.session s) (upkept : s.Upkept 0 [])
    (waits : ∀ rest ∈ hits, ∀ now, (rest.resume now).Moves Session.Harmless now) :
    ({ c with session := s, hits } : Stage V).Fine := by
  refine ⟨upkept, fun began rest under => ?_, waits⟩
  obtain ⟨given, goes⟩ := h.request began rest under
  refine ⟨Nat.le_trans given (Nat.le_of_eq spares.alike.issued.symm), ?_⟩
  exact fun now upkept later => goes now upkept (spares.trans later)

/-- A move of a hit that is being dealt with, beside `others`. The breakpoints are as in `s`. -/
private theorem Fine.reported {x : Step (Session V) Bool}
    {others : List (Paused (Session V) Bool)} (h : c.Fine)
    (among : ∀ rest ∈ others, rest ∈ c.hits) (spares : Session.Spares c.session s)
    (upkept : s.Upkept 0 []) (moves : x.Moves Session.Harmless s) :
    (c.reported others x).Fine ∧
      (c.reported others x).session.breakpoints = s.breakpoints := by
  have waits : ∀ rest ∈ others, ∀ now, (rest.resume now).Moves Session.Harmless now :=
    fun rest mem => h.hits rest (among rest mem)
  have first := moves.state
  have spared := spares.trans (first.spares upkept)
  cases x with
  | done _ session => exact ⟨h.spared spared (upkept.harmless first) waits, first.breakpoints⟩
  | wait deadline ready session resume =>
    refine ⟨h.spared spared (upkept.harmless first) ?_, first.breakpoints⟩
    exact List.forall_mem_cons.2 ⟨moves.2.2, waits⟩

/-- Each move is fair to breakpoints and leaves everybody able to go on. -/
theorem Fine.next {cause : Cause} (h : c.Fine) (n : c.Next cause c') :
    c'.Fine ∧ Passage.Fair ⟨c.session.breakpoints, cause, c'.session.breakpoints⟩ := by
  have kept : Session.Spares c.session c.session := ⟨rfl, .of_eq rfl⟩
  cases n with
  | begin w idle => exact h.requested (wish_abides w (h.upkept.since (Nat.le_refl _)))
  | @goOn began rest waits =>
    obtain ⟨given, goes⟩ := h.request began rest waits
    have same : c.goOn = c.requested began (rest.resume c.session) := by rw [Stage.goOn, waits]
    rw [same]
    exact h.requested (goes _ (h.upkept.since given) kept)
  | hit hit =>
    obtain ⟨spares, upkept⟩ := Session.counting_spares h.upkept hit.request
    obtain ⟨fine, same⟩ := h.reported (fun _ => id) spares upkept
      (Session.pumpEvent_harmless hit h.upkept.idle)
    refine ⟨fine, ?_⟩
    rw [same]
    exact Session.counting_counts h.upkept hit.request
  | dealOn waits =>
    refine h.reported ?_ kept h.upkept (h.hits _ (by simp [waits]) _)
    intro rest mem
    rw [waits]
    rcases List.mem_append.1 mem with mem | mem
    · exact List.mem_append_left _ mem
    · exact List.mem_append_right _ (List.mem_cons_of_mem _ mem)
  | beside harmless =>
    exact ⟨h.spared (harmless.spares h.upkept) (h.upkept.harmless harmless) h.hits,
      harmless.breakpoints⟩

/-! ## Whole courses -/

variable {machine : V} {settings : Settings} {providers : Providers} {ms : List Passage}

/-- What holds of a session and of all that it went through. -/
private theorem Course.fine (sound : Ledger.Sound machine)
    (fresh : ∀ r, Ledger.live machine r = none) (h : Course machine settings providers ms c) :
    c.Fine ∧ (∀ m ∈ ms, m.Fair) ∧ Tracked ms c.session.breakpoints := by
  -- Fairness of the moves comes from the state they begin in, and the counts from fairness.
  induction h with
  | start =>
    have booked := Session.start_booked settings providers sound fresh
    have books := booked.books.remember fun _ _ => trivial
    refine ⟨⟨⟨booked.sound, books, Nat.zero_le _, rfl, rfl⟩, nofun, by simp⟩, by simp, ?_⟩
    rintro (_ | _) i ⟨⟩
  | next _ n ih =>
    obtain ⟨fine, fair, tracked⟩ := ih
    obtain ⟨fine', fair'⟩ := fine.next n
    exact ⟨fine', List.forall_mem_append.2 ⟨fair, by simpa using fair'⟩, tracked.next fair'⟩

end Stage

/-- What hits have come to, and what the next one will. -/
structure Tallied (ms : List Passage) (s : Session V) : Prop where
  /-- Each event was counted where its request belonged then, and nowhere else. -/
  counted : ∀ m ∈ ms, ∀ r, m.cause = .hit r → m.before.Counts r m.after
  /-- What is kept has counted all events for it since it was created, and by this number the
  client is told of the next one. -/
  kept : ∀ p i, s.breakpoints.at? p = some i → ∃ later, Lives p i.id ms later ∧
    i.hits = UInt32.ofNat (hitsAt p later) ∧
    ∀ h : Hit, h.request ∈ i.requests → hitsAt p later + 1 < UInt32.size →
      (Session.pumpEvent h.event).Queues (i.told (hitsAt p later + 1) h) s
  /-- Of other events the client is told nothing. -/
  closed : ∀ h : Hit, (∀ p i, s.breakpoints.at? p = some i → h.request ∉ i.requests) →
    (Session.pumpEvent h.event).Queues [] s

/-- Whatever requests and hits there are, and however they go on beside each other, hits are
counted where they belong, and are told by the number that is counted. -/
theorem Stage.Course.tallied [Ledger V] {machine : V} {settings : Settings}
    {providers : Providers} {ms : List Passage} {c : Stage V} (sound : Ledger.Sound machine)
    (fresh : ∀ r, Ledger.live machine r = none)
    (h : Stage.Course machine settings providers ms c) : Tallied ms c.session := by
  obtain ⟨fine, fair, tracked⟩ := Stage.Course.fine sound fresh h
  have known := Session.installed?_iff fine.upkept.books
  constructor
  case counted =>
    rintro ⟨before, _, after⟩ mem r rfl
    exact fair _ mem
  case kept =>
    intro p i there
    obtain ⟨later, lives, counted⟩ := tracked p i there
    refine ⟨later, lives, counted, fun h owns room => ?_⟩
    have queues := Session.pumpEvent_queues h c.session
    rw [← fine.upkept.books.keyed p i there] at there
    rw [(known h.request i).2 ⟨there, owns⟩, Option.elim_some] at queues
    have next : i.hits + 1 = UInt32.ofNat (hitsAt p later + 1) := by
      rw [counted]
      exact (UInt32.ofNat_add _ 1).symm
    rwa [Installed.told_eq h room next]
  case closed =>
    intro h nobody
    have unknown : c.session.breakpoints.installed? h.request = none := by
      cases found : c.session.breakpoints.installed? h.request with
      | none => rfl
      | some i =>
        obtain ⟨there, owns⟩ := (known h.request i).1 found
        exact absurd owns (nobody _ i there)
    have queues := Session.pumpEvent_queues h c.session
    rwa [unknown, Option.elim_none] at queues

/-- One event comes while its breakpoint is yet to be created, as calls take their time, and counts
nowhere; another one comes after that. -/
theorem Stage.tallied_after_early_hit :
    let machine : Debuggee := { latency := 5 }
    let hit : Hit := { request := 1, thread := 1, location := ⟨"A", "m", 7, "()V", 0, none⟩ }
    let c : Stage Debuggee := { session := Session.start machine {} Session.oneLine }
    let c₁ := c.requested 0 ((Wish.lines "A.java" [{ line := 7 }] false).task c.session)
    let c₂ := c₁.reported c₁.hits (Session.pumpEvent hit.event c₁.session)
    let c₃ := c₂.goOn
    let c₄ := c₃.reported c₃.hits (Session.pumpEvent hit.event c₃.session)
    c₂.request.isSome = true ∧ c₂.session.breakpoints.at? (.line "A.java" 7) = none ∧
      (c₄.session.breakpoints.at? (.line "A.java" 7)).map Installed.hits = some 1 ∧
      ∃ ms, Stage.Course machine {} Session.oneLine ms c₄ ∧ Tallied ms c₄.session := by
  intro machine hit c c₁ c₂ c₃ c₄
  have waits : c₂.request.isSome = true := by decide +kernel
  obtain ⟨⟨began, rest⟩, under⟩ := Option.isSome_iff_exists.1 waits
  have begun : Stage.Course machine {} Session.oneLine [] c := .start
  have course := (((begun.next (.begin (.lines "A.java" [{ line := 7 }] false) rfl)).next
    (.hit hit)).next (.goOn under)).next (.hit hit)
  have sound : Ledger.Sound machine := by
    intro r request found
    cases found
  exact ⟨waits, by decide +kernel, by decide +kernel, _, course, course.tallied sound fun _ => rfl⟩

end DebugSession
