import DebugSession.Proofs.Accounts
import DebugSession.Proofs.Patience
import Mathlib.Data.Nat.Init
/-!
Runs of a service in which every task that can go on has its turn at some time, and time does not
stand still. A task that nobody keeps waiting has its turn, and what it computes comes to an end.
-/

namespace DebugSession.Service

variable {V α : Type} [Machine V] {h : Handler V}

/-- What happens to a service, forever. In the beginning nobody asks for anything. -/
structure Run (h : Handler V) where
  state : Nat → Service V
  act : Nat → Act V
  start : ∃ session : Session V, session.line = {} ∧ state 0 = Service.start session
  next : ∀ n, state (n + 1) = (state n).after h (act n)

/-- A task that stays in the queue has its turn, and every time comes. -/
structure Run.Fair (r : Run h) : Prop where
  turns : ∀ role n, (∀ m ≥ n, ∃ w ∈ (r.state m).server.queue, w.role = role) →
    ∃ m ≥ n, r.act m = .turn role
  time : ∀ t n, ∃ m ≥ n, ∃ t' ≥ t, r.act m = .time t'

namespace Run

variable {r : Run h} {n m : Nat} {w : Work V} {role : Role}

/-! ## What holds all the time -/

theorem staffed (r : Run h) (n : Nat) : Staffed (r.state n).server := by
  induction n with
  | zero =>
    obtain ⟨session, -, start⟩ := r.start
    rw [start]
    exact staffed_start session
  | succ n ih =>
    rw [r.next]
    exact ih.after _

theorem orderly (r : Run h) (n : Nat) : (r.state n).server.Orderly := by
  induction n with
  | zero =>
    obtain ⟨session, free, start⟩ := r.start
    rw [start]
    exact Server.orderly_start free
  | succ n ih =>
    rw [r.next]
    exact ih.after (r.staffed n) _

theorem account (r : Run h) (n : Nat) : Accounted h (r.state n) := by
  induction n with
  | zero =>
    obtain ⟨session, -, start⟩ := r.start
    rw [start]
    exact (Account.start session).accounted
  | succ n ih =>
    obtain ⟨c, texts, rest, segments, begun, account⟩ := ih
    rw [r.next]
    exact account.after (r.staffed n) _

/-- A task has a turn at a time. -/
def Turns (r : Run h) (n : Nat) (w : Work V) (others : List (Work V)) : Prop :=
  Server.Turned h w others (r.state n).server (r.state (n + 1)).server

theorem step_cases (r : Run h) (n : Nat) :
    (∃ w others, w ∈ (r.state n).server.queue ∧ r.Turns n w others) ∨
      Server.Stood (r.state n).server (r.state (n + 1)).server := by
  unfold Turns
  rw [r.next]
  exact after_cases (r.staffed n) (r.act n)

theorem Turns.mem {others : List (Work V)} (turns : r.Turns n w others) :
    w ∈ (r.state n).server.tasks := turns.before.mem_iff.2 List.mem_cons_self

/-- A session that is over stays so. -/
theorem over_later (past : (r.state n).server.session.cancelled = true) (later : n ≤ m) :
    (r.state m).server.session.cancelled = true := by
  induction m, later using Nat.le_induction with
  | base => exact past
  | succ m _ ih =>
    rcases r.step_cases m with ⟨w, others, -, turns⟩ | stood
    · have orderly := r.orderly m
      obtain ⟨civil, -⟩ := outcome_fits (h := h) orderly.ordered (orderly.fits w turns.mem)
        ((r.staffed m).role turns.mem)
      rw [turns.session]
      exact civil.past ih
    · exact stood.session.past ih

/-! ## Turns come -/

/-- A task stays until it has its turn. -/
theorem mem_next (mem : w ∈ (r.state n).server.tasks) :
    w ∈ (r.state (n + 1)).server.tasks ∨ ∃ others, r.Turns n w others := by
  rcases r.step_cases n with ⟨v, others, -, turns⟩ | stood
  · by_cases same : v = w
    · exact .inr ⟨others, same ▸ turns⟩
    · rcases List.mem_cons.1 (turns.before.mem_iff.1 mem) with same' | mem
      · exact absurd same'.symm same
      · exact .inl (turns.after.mem_iff.2 (List.mem_append_right _ mem))
  · exact .inl (stood.became.tasks.mem_iff.2 mem)

/-- So does one in the queue. -/
theorem queue_next (mem : w ∈ (r.state n).server.queue) :
    w ∈ (r.state (n + 1)).server.queue ∨ ∃ others, r.Turns n w others := by
  rcases r.step_cases n with ⟨v, others, mem', turns⟩ | stood
  · by_cases same : w.role = v.role
    · have both := (r.staffed n).unique (Server.mem_tasks_of_queue mem)
        (Server.mem_tasks_of_queue mem') same
      exact .inr ⟨others, both ▸ turns⟩
    · exact .inl (turns.queue w mem same)
  · exact .inl (stood.became.queue w mem)

/-- Nobody keeps a task waiting any more. -/
structure Free (r : Run h) (n : Nat) (w : Work V) : Prop where
  due : ∀ m ≥ n, w.role.due (r.state m).server.session
  reads : w = .read → ∀ m ≥ n, w ∈ (r.state m).server.tasks →
    (r.state m).server.reading ≠ .incomplete
  joins : w = .join → ∀ m ≥ n, ∀ v ∈ (r.state m).server.tasks, v.servesClient = false

/-- When its time has come, it is in the queue. -/
theorem Free.wakes (free : r.Free n w) (later : n ≤ m) (mem : w ∈ (r.state m).server.tasks)
    {t : Nat} (deadline : ∀ d ∈ w.deadline?, d ≤ t) (comes : r.act m = .time t) :
    w ∈ (r.state (m + 1)).server.queue := by
  have orderly := r.orderly m
  obtain ⟨s, is⟩ : ∃ s : Server V,
      s = { (r.state m).server with session := (r.state m).server.session.advance t } := ⟨_, rfl⟩
  have fits : w.Fits s.session := by
    rw [is]
    exact (orderly.fits w mem).later ⟨orderly.ordered, rfl⟩ id
  have due : w.role.due s.session := by
    have due := free.due m later
    rw [is]
    cases role : w.role <;> rw [role] at due <;> exact due
  have reached : ∀ d ∈ w.deadline?, d ≤ s.session.clock := by
    intro d mem
    rw [is]
    exact Nat.le_trans (deadline d mem) (Nat.le_max_right ..)
  have ready : s.isReady w = true := by
    refine fits.ready due reached ?_ ?_
    · intro reads
      rw [is]
      exact free.reads reads m later mem
    · intro joins
      rw [is]
      exact free.joins joins m later
  have woken : (r.state (m + 1)).server = s.wake := by
    rw [r.next, comes, is]
    rfl
  rw [woken]
  refine Server.wake_queue ?_ ready
  rw [is]
  exact mem

/-- A task that nobody keeps waiting has its turn. -/
theorem Fair.turn_comes (fair : r.Fair) (free : r.Free n w)
    (mem : w ∈ (r.state n).server.tasks) : ∃ m ≥ n, ∃ others, r.Turns m w others := by
  by_contra never
  push Not at never
  have stays : ∀ m ≥ n, w ∈ (r.state m).server.tasks := by
    intro m later
    induction m, later using Nat.le_induction with
    | base => exact mem
    | succ m later ih =>
      refine (mem_next ih).resolve_right ?_
      rintro ⟨others, turns⟩
      exact never m later others turns
  obtain ⟨k, later, t, reached, comes⟩ := fair.time (w.deadline?.getD 0) n
  have queued := free.wakes later (stays k later) (by
    intro d is
    rw [Option.mem_def.1 is] at reached
    exact reached) comes
  have waits : ∀ m ≥ k + 1, w ∈ (r.state m).server.queue := by
    intro m later'
    induction m, later' using Nat.le_induction with
    | base => exact queued
    | succ m later' ih =>
      refine (queue_next ih).resolve_right ?_
      rintro ⟨others, turns⟩
      exact never m (by omega) others turns
  obtain ⟨m, later', turn⟩ := fair.turns w.role (k + 1) fun m later' => ⟨w, waits m later', rfl⟩
  have staffed := r.staffed m
  obtain ⟨v, others, mem', role, turned⟩ := Server.grant_turned (h := h) staffed.connected
    staffed.serves ⟨w, waits m later', rfl⟩
  obtain rfl := staffed.unique (Server.mem_tasks_of_queue mem')
    (Server.mem_tasks_of_queue (waits m later')) role
  refine never m (by omega) others ?_
  unfold Turns
  rw [r.next, turn]
  exact turned

/-! ## What is computed comes to an end -/

/-- No task has that role. -/
def Gone (r : Run h) (n : Nat) (role : Role) : Prop := ∀ w ∈ (r.state n).server.tasks, w.role ≠ role

/-- Such tasks are left with that role. -/
structure Leaves (r : Run h) (n : Nat) (role : Role) (ws : List (Work V)) : Prop where
  there : ∀ w ∈ ws, w ∈ (r.state n).server.tasks
  gone : ws = [] → r.Gone n role

theorem Turns.leaves {others : List (Work V)} (turns : r.Turns n w others) :
    r.Leaves (n + 1) w.role ((r.state n).server.outcome h w).next := by
  constructor
  · exact fun v mem => turns.after.mem_iff.2 (List.mem_append_left _ mem)
  · intro none v mem
    have mem := turns.after.mem_iff.1 mem
    rw [none, List.nil_append] at mem
    exact (r.staffed n).alone turns.before v mem

/-- Most tasks depend on their role alone. -/
theorem free_of_due (due : ∀ m ≥ n, w.role.due (r.state m).server.session) (apart : w ≠ .read)
    (apart' : w ≠ .join) : r.Free n w :=
  ⟨due, fun same => absurd same apart, fun same => absurd same apart'⟩

/-- A computation that nobody keeps waiting comes to an end. -/
theorem Fair.ends (fair : r.Fair) (pause : Paused (Session V) α → Work V)
    {next : α → List (Work V)} (roles : ∀ rest, (pause rest).role = role)
    (outcome : ∀ (s : Server V) rest, (s.outcome h (pause rest)).next =
      (Outcome.carry pause next (rest.resume s.session)).next)
    (free : ∀ m ≥ n, ∀ rest, r.Free m (pause rest)) (y : Step (Session V) α) (later : n ≤ m)
    (leaves : r.Leaves m role (Outcome.carry pause next y).next) :
    ∃ k ≥ m, ∃ a, r.Leaves k role (next a) := by
  induction y generalizing m with
  | done a s => exact ⟨m, Nat.le_refl m, a, leaves⟩
  | wait deadline ready s resume ih =>
    have mem := leaves.there (pause ⟨deadline, ready, resume⟩) List.mem_cons_self
    obtain ⟨k, later', others, turns⟩ := fair.turn_comes (free m later _) mem
    have leaves := turns.leaves
    rw [roles, outcome] at leaves
    obtain ⟨l, later'', a, leaves⟩ := ih _ (by omega) leaves
    exact ⟨l, by omega, a, leaves⟩

/-- A request that is being answered comes to its reply. -/
theorem Fair.sends (fair : r.Fair) (asker : Asker)
    (due : ∀ m ≥ n, asker.role.due (r.state m).server.session)
    (mem : w ∈ (r.state n).server.tasks) (role : w.role = asker.role) (answers : w.answers = true) :
    ∃ m ≥ n, ∃ reply, .send reply asker ∈ (r.state m).server.tasks := by
  have free : ∀ v : Work V, v.role = asker.role → v.answers = true → ∀ m ≥ n, r.Free m v := by
    intro v role answers m later
    refine free_of_due ?_ ?_ ?_
    · rw [role]
      exact fun k later' => due k (Nat.le_trans later later')
    · rintro rfl
      cases answers
    · rintro rfl
      cases answers
  have ends : ∀ (y : Step (Session V) Reply) (m : Nat), n ≤ m →
      r.Leaves m asker.role (Outcome.ofAnswer asker y).next →
      ∃ k ≥ m, ∃ reply, .send reply asker ∈ (r.state k).server.tasks := by
    intro y m later leaves
    obtain ⟨k, later', reply, leaves⟩ := fair.ends (.answering asker) (fun _ => rfl)
      (fun _ _ => rfl) (fun m later rest => free (.answering asker rest) rfl rfl m later) y later
      leaves
    exact ⟨k, later', reply, leaves.there _ List.mem_cons_self⟩
  have begins : ∀ (message : Protocol.RequestMessage) (m : Nat), n ≤ m →
      .answer message asker ∈ (r.state m).server.tasks →
      ∃ k ≥ m, ∃ reply, .send reply asker ∈ (r.state k).server.tasks := by
    intro message m later mem
    obtain ⟨k, later', others, turns⟩ :=
      fair.turn_comes (free (.answer message asker) rfl rfl m later) mem
    obtain ⟨l, later'', reply, sent⟩ := ends _ (k + 1) (by omega) turns.leaves
    exact ⟨l, by omega, reply, sent⟩
  have known : ∀ asker' : Asker, asker'.role = asker.role → asker' = asker := by
    intro asker' same
    cases asker' <;> cases asker <;> cases same <;> rfl
  obtain ⟨k, later, others, turns⟩ := fair.turn_comes (free w role answers n (Nat.le_refl n)) mem
  have leaves := turns.leaves
  cases w with
  | evaluate message number =>
    obtain rfl := known (.evaluation number) role
    obtain ⟨l, later', reply, sent⟩ := begins message (k + 1) (by omega)
      (leaves.there _ List.mem_cons_self)
    exact ⟨l, by omega, reply, sent⟩
  | answer message asker' =>
    obtain rfl := known asker' role
    obtain ⟨l, later', reply, sent⟩ := ends _ (k + 1) (by omega) leaves
    exact ⟨l, by omega, reply, sent⟩
  | answering asker' rest =>
    obtain rfl := known asker' role
    obtain ⟨l, later', reply, sent⟩ := ends _ (k + 1) (by omega) leaves
    exact ⟨l, by omega, reply, sent⟩
  | send reply asker' =>
    obtain rfl := known asker' role
    exact ⟨n, Nat.le_refl n, reply, mem⟩
  | _ => cases answers

end Run

end DebugSession.Service
