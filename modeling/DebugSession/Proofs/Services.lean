import DebugSession.Proofs.Browsing
import DebugSession.Proofs.Turns
import Mathlib.Data.List.Nodup
/-!
A server with its client and its debuggee. The tasks of the server have their turns in any order,
and between two turns the client sends something, the debuggee changes, new settings come into
effect or time passes.
-/

namespace DebugSession

open Protocol

variable {V : Type}

/-- A server and what its client has done so far. -/
structure Service (V : Type) where
  server : Server V
  /-- All that the client has sent. -/
  sent : Framing.Bytes := []
  /-- The client sends nothing more. -/
  ended : Bool := false

namespace Service

/-- What happens next. -/
inductive Act (V : Type) where
  /-- A task has its turn. -/
  | turn (role : Role)
  /-- The client sends something. -/
  | send (bytes : Framing.Bytes)
  /-- The client sends nothing more. -/
  | close
  | time (time : Nat)
  | debuggee (machine : V)
  | settings (settings : Settings)

end Service

namespace Server

/-- No task has had a turn. -/
structure Stood (s s' : Server V) : Prop where
  became : Became s s' []
  session : Discreet s.session s'.session
  evaluations : s'.evaluations = s.evaluations
  connected : s'.connection.isSome = s.connection.isSome

variable {s : Server V}

theorem Stood.refl (s : Server V) : Stood s s := ⟨.of_eq rfl rfl, Composes.refl _, rfl, rfl⟩

theorem stood_wake {session : Session V} (changes : Discreet s.session session) :
    Stood s ({ s with session } : Server V).wake := by
  have changed : Became s { s with session } [] := .of_eq rfl rfl
  exact ⟨changed.trans wake_became, changes, rfl, rfl⟩

theorem stood_modify (f : Connection → Connection) : Stood s (s.modifyConnection f).wake := by
  have changed : Became s (s.modifyConnection f) [] := .of_eq rfl rfl
  exact ⟨changed.trans wake_became, Composes.refl _, rfl, Option.isSome_map⟩

/-- Changes the settings, if the new ones are valid. -/
def configure (settings : Settings) (s : Server V) : Server V :=
  match s.session.update settings with
  | .ok (_, session) => { s with session }.wake
  | .error _ => s

theorem stood_configure (settings : Settings) : Stood s (s.configure settings) := by
  unfold configure
  cases updated : s.session.update settings with
  | error e => exact .refl s
  | ok r =>
    refine stood_wake ?_
    obtain ⟨callMode, threads, same⟩ := Session.update_eq updated
    rw [same]
    exact ⟨rfl, id⟩

theorem configure_connection (settings : Settings) :
    (s.configure settings).connection = s.connection := by
  unfold configure
  split <;> rfl

end Server

namespace Service

/-- A client has just connected. -/
def start (session : Session V) : Service V := { server := (Server.ofSession session).connect }

/-- The tasks of a server have different roles, and all of them serve its client. -/
structure Staffed (s : Server V) : Prop where
  distinct : (s.tasks.map Work.role).Nodup
  begun : ∀ number, .evaluation number ∈ s.tasks.map Work.role → number < s.evaluations
  serves : ∀ who, .pump who ∈ s.tasks.map Work.role → who = .client
  connected : s.connection.isSome = true

theorem Staffed.role {s : Server V} {w : Work V} (staffed : Staffed s) (mem : w ∈ s.tasks) :
    ∀ who, w.role = .pump who → who = .client :=
  fun who pumps => staffed.serves who (List.mem_map.2 ⟨w, mem, pumps⟩)

theorem Staffed.unique {s : Server V} {v w : Work V} (staffed : Staffed s) (mem : v ∈ s.tasks)
    (mem' : w ∈ s.tasks) (same : v.role = w.role) : v = w :=
  List.inj_on_of_nodup_map staffed.distinct mem mem' same

theorem Staffed.alone {s : Server V} {w : Work V} {others : List (Work V)} (staffed : Staffed s)
    (before : s.tasks.Perm (w :: others)) : ∀ v ∈ others, v.role ≠ w.role := by
  intro v mem same
  have distinct := (before.map Work.role).nodup_iff.1 staffed.distinct
  exact (List.nodup_cons.1 distinct).1 (List.mem_map.2 ⟨v, mem, same⟩)

theorem Staffed.stood {s s' : Server V} (staffed : Staffed s) (stood : Server.Stood s s') :
    Staffed s' := by
  have same : (s'.tasks.map Work.role).Perm (s.tasks.map Work.role) := stood.became.tasks.map _
  constructor
  · exact same.nodup_iff.2 staffed.distinct
  · intro number mem
    rw [stood.evaluations]
    exact staffed.begun number (same.mem_iff.1 mem)
  · exact fun who mem => staffed.serves who (same.mem_iff.1 mem)
  · exact stood.connected.trans staffed.connected

theorem staffed_start (session : Session V) : Staffed (start session).server := by
  refine ⟨?_, ?_, ?_, rfl⟩
  · show [Role.pump .client, .reader].Nodup
    decide
  · intro number mem
    have mem : Role.evaluation number ∈ [Role.pump .client, .reader] := mem
    simp at mem
  · intro who mem
    have mem : Role.pump who ∈ [Role.pump .client, .reader] := mem
    simpa using mem

end Service

section

variable [Machine V]

/-! ## Turns -/

namespace Server

/-- Gives a task in the queue its turn. -/
def grant (h : Handler V) (role : Role) (s : Server V) : Server V :=
  match s.queue.find? fun w => w.role = role with
  | none => s
  | some w => { s with queue := s.queue.eraseP fun w => w.role = role }.turnWith h w

/-- A task has given place to what comes of its turn. -/
structure Turned (h : Handler V) (w : Work V) (others : List (Work V)) (s s' : Server V) :
    Prop where
  before : s.tasks.Perm (w :: others)
  after : s'.tasks.Perm ((s.outcome h w).next ++ others)
  queue : ∀ v ∈ s.queue, v.role ≠ w.role → v ∈ s'.queue
  session : s'.session = (s.outcome h w).session
  connection : s'.connection = s.connection.map (s.outcome h w).client
  evaluations : s'.evaluations = s.evaluations + (s.outcome h w).begun

variable {h : Handler V} {s : Server V} {role : Role}

/-- The server by itself gives the tasks their turns in the order in which they stand. -/
theorem grant_head {w : Work V} {queue : List (Work V)} (head : s.queue = w :: queue) :
    s.grant .ofSession w.role = { s with queue }.turn w := by
  have found : s.queue.find? (fun v => v.role = w.role) = some w := by simp [head]
  have erased : s.queue.eraseP (fun v => v.role = w.role) = queue := by simp [head]
  unfold grant
  rw [found, erased]
  exact turnWith_ofSession _ w

theorem drain_grants (count : Nat) (s : Server V) :
    ∃ roles : List Role, s.drain count = roles.foldl (fun s role => s.grant .ofSession role) s := by
  induction count generalizing s with
  | zero => exact ⟨[], rfl⟩
  | succ count ih =>
    unfold drain
    cases head : s.queue with
    | nil => exact ⟨[], rfl⟩
    | cons w queue =>
      obtain ⟨roles, same⟩ := ih ({ s with queue }.turn w)
      refine ⟨w.role :: roles, ?_⟩
      rw [List.foldl_cons, grant_head head]
      exact same

theorem grant_of_none (none : ∀ w ∈ s.queue, w.role ≠ role) : s.grant h role = s := by
  have absent : s.queue.find? (fun w => w.role = role) = .none := by simpa using none
  unfold grant
  rw [absent]

theorem grant_turned (connected : s.connection.isSome = true)
    (serves : ∀ who, .pump who ∈ s.tasks.map Work.role → who = .client)
    (queued : ∃ w ∈ s.queue, w.role = role) :
    ∃ w others, w ∈ s.queue ∧ w.role = role ∧ Turned h w others s (s.grant h role) := by
  obtain ⟨w, found⟩ : ∃ w, s.queue.find? (fun w => w.role = role) = some w := by
    refine Option.isSome_iff_exists.1 (List.find?_isSome.2 ?_)
    simpa using queued
  obtain ⟨mine, front, back, parts, others⟩ := List.find?_eq_some_iff_append.1 found
  have mine : w.role = role := of_decide_eq_true mine
  have apart : ∀ v ∈ front, ¬ decide (v.role = role) = true := by simpa using others
  have erased : s.queue.eraseP (fun w => w.role = role) = front ++ back := by
    rw [parts, List.eraseP_append_right _ apart, List.eraseP_cons_of_pos (by simp [mine])]
  have granted : s.grant h role = { s with queue := front ++ back }.turnWith h w := by
    unfold grant
    rw [found, ← erased]
  have queued : w ∈ s.queue := by simp [parts]
  have same : { s with queue := front ++ back }.outcome h w = s.outcome h w := by cases w <;> rfl
  have shows := shows_turn (s := { s with queue := front ++ back }) (h := h) connected
    (fun who pumps => serves who (List.mem_map.2 ⟨w, mem_tasks_of_queue queued, pumps⟩))
  rw [same] at shows
  refine ⟨w, { s with queue := front ++ back }.tasks, queued, mine, ?_⟩
  rw [granted]
  refine ⟨?_, shows.became.tasks, ?_, shows.session, shows.connection, shows.evaluations⟩
  · show (s.queue ++ s.waiting).Perm (w :: ((front ++ back) ++ s.waiting))
    rw [parts]
    exact List.perm_middle.append_right s.waiting
  · intro v mem other
    refine shows.became.queue v ?_
    rw [parts, List.mem_append, List.mem_cons] at mem
    rcases mem with mem | rfl | mem
    · exact List.mem_append_left _ mem
    · exact absurd rfl other
    · exact List.mem_append_right _ mem

end Server

namespace Service

def after (h : Handler V) (x : Service V) : Act V → Service V
  | .turn role => { x with server := x.server.grant h role }
  | .send bytes =>
    if x.ended then x
    else { x with server := (x.server.receive bytes).2, sent := x.sent ++ bytes }
  | .close => { x with server := x.server.endInput, ended := true }
  | .time time => { x with server := x.server.passTime time }
  | .debuggee machine =>
    { x with server := { x.server with session := { x.server.session with machine } }.wake }
  | .settings settings => { x with server := x.server.configure settings }

variable {h : Handler V} {x : Service V} {a : Act V}

/-- A task has the turn that is its, or there is none. -/
theorem turn_cases (staffed : Staffed x.server) (role : Role) :
    (∃ w others, w ∈ x.server.queue ∧ w.role = role ∧
      Server.Turned h w others x.server (x.after h (.turn role)).server) ∨
    x.after h (.turn role) = x := by
  by_cases queued : ∃ w ∈ x.server.queue, w.role = role
  · exact .inl (Server.grant_turned (h := h) staffed.connected staffed.serves queued)
  · push Not at queued
    refine .inr ?_
    simp only [after, Server.grant_of_none queued]

/-- A task has had a turn, or none has. -/
theorem after_cases (staffed : Staffed x.server) (a : Act V) :
    (∃ w others, w ∈ x.server.queue ∧ Server.Turned h w others x.server (x.after h a).server) ∨
    Server.Stood x.server (x.after h a).server := by
  cases a with
  | turn role =>
    rcases turn_cases (h := h) staffed role with ⟨w, others, mem, -, turned⟩ | same
    · exact .inl ⟨w, others, mem, turned⟩
    · rw [same]
      exact .inr (.refl _)
  | send bytes =>
    refine .inr ?_
    simp only [after]
    split
    · exact .refl _
    · unfold Server.receive
      split
      · exact .refl _
      · split
        · exact Server.stood_modify _
        · exact .refl _
  | close => exact .inr (Server.stood_modify _)
  | time time => exact .inr (Server.stood_wake (Ambient.advance _ _))
  | debuggee machine => exact .inr (Server.stood_wake ⟨rfl, id⟩)
  | settings settings => exact .inr (Server.stood_configure settings)

/-- What becomes of the role of a task in its turn, after so many evaluations. -/
inductive Inherits (number : Nat) (w : Work V) (o : Outcome V) : Prop
  | ends (none : o.next = []) (begun : o.begun = 0) (last : w.role = .reader → w = .join)
  | goesOn (one : o.next.map Work.role = [w.role]) (begun : o.begun = 0)
  | begins (reads : w = .read) (two : o.next.map Work.role = [.reader, .evaluation number])
    (begun : o.begun = 1)

omit [Machine V] in
private theorem inherits_ofAnswer {number : Nat} {w : Work V} {asker : Asker}
    (y : Step (Session V) Reply) (role : w.role = asker.role) :
    Inherits number w (Outcome.ofAnswer asker y) := by
  obtain ⟨roles, begun⟩ := Outcome.ofAnswer_roles asker y
  exact .goesOn (by rw [role, roles]) begun

omit [Machine V] in
private theorem inherits_ofPump {number : Nat} {w : Work V} (y : Step (Session V) Bool)
    (role : w.role = .pump .client) : Inherits number w (Outcome.ofPump y) := by
  cases y with
  | wait deadline ready session resume => exact .goesOn (by rw [role]; rfl) rfl
  | done isOver session =>
    cases isOver with
    | true => exact .ends rfl rfl fun reader => by rw [role] at reader; cases reader
    | false => exact .goesOn (by rw [role]; rfl) rfl

private theorem inherits_read (s : Server V) :
    Inherits s.evaluations .read (s.outcome h .read) := by
  have stopped : ∀ error, (Server.readOutcome.stopped s error).next.map Work.role = [.reader] ∧
      (Server.readOutcome.stopped s error).begun = 0 := by
    intro error
    unfold Server.readOutcome.stopped
    split
    · exact ⟨rfl, rfl⟩
    · exact Outcome.ofClosing_roles _
  simp only [Server.outcome, Server.readOutcome]
  cases s.reading with
  | message text rest =>
    simp only [Outcome.ofText]
    split
    · exact .goesOn rfl rfl
    · split
      · exact .begins rfl rfl rfl
      · exact .goesOn rfl rfl
  | failed e => exact .goesOn (stopped _).1 (stopped _).2
  | ended => exact .goesOn (stopped _).1 (stopped _).2
  | incomplete => exact .goesOn rfl rfl

/-- The role of a task goes on to what comes of its turn, or ends with it. The reader also begins
evaluations. -/
theorem outcome_inherits (s : Server V) {w : Work V}
    (serves : ∀ who, w.role = .pump who → who = .client) :
    Inherits s.evaluations w (s.outcome h w) := by
  cases w with
  | pump who =>
    obtain rfl := serves who rfl
    exact inherits_ofPump _ rfl
  | pumping who rest =>
    obtain rfl := serves who rfl
    exact inherits_ofPump _ rfl
  | read => exact inherits_read s
  | evaluate m number => exact .goesOn rfl rfl
  | answer m asker => exact inherits_ofAnswer _ rfl
  | answering asker rest => exact inherits_ofAnswer _ rfl
  | send r asker =>
    cases asker with
    | reader => exact .goesOn rfl rfl
    | evaluation number => exact .ends rfl rfl fun reader => by cases reader
  | closing rest =>
    obtain ⟨roles, begun⟩ := Outcome.ofClosing_roles (rest.resume s.session)
    exact .goesOn roles begun
  | join => exact .ends rfl rfl fun _ => rfl

section

variable {s s' : Server V} {roles : List Role}

omit [Machine V] in
private theorem Staffed.same_evaluations (staffed : Staffed s)
    (connected : s'.connection.isSome = true) (are : (s'.tasks.map Work.role).Perm roles)
    (old : ∀ role ∈ roles, role ∈ s.tasks.map Work.role) (distinct : roles.Nodup)
    (evaluations : s'.evaluations = s.evaluations) : Staffed s' where
  distinct := are.nodup_iff.2 distinct
  begun number mem := by
    rw [evaluations]
    exact staffed.begun number (old _ (are.mem_iff.1 mem))
  serves who mem := staffed.serves who (old _ (are.mem_iff.1 mem))
  connected := connected

omit [Machine V] in
/-- One more evaluation has the next number. -/
private theorem Staffed.one_evaluation (staffed : Staffed s)
    (connected : s'.connection.isSome = true) (before : (s.tasks.map Work.role).Perm roles)
    (after : (s'.tasks.map Work.role).Perm (.evaluation s.evaluations :: roles))
    (evaluations : s'.evaluations = s.evaluations + 1) : Staffed s' := by
  have known : ∀ role ∈ s'.tasks.map Work.role,
      role = .evaluation s.evaluations ∨ role ∈ s.tasks.map Work.role := by
    intro role mem
    exact (List.mem_cons.1 (after.mem_iff.1 mem)).imp_right before.mem_iff.2
  have fresh : Role.evaluation s.evaluations ∉ roles := fun mem =>
    Nat.lt_irrefl _ (staffed.begun _ (before.mem_iff.2 mem))
  refine ⟨?_, fun number mem => ?_, fun who mem => ?_, connected⟩
  · rw [after.nodup_iff]
    exact List.nodup_cons.2 ⟨fresh, before.nodup_iff.1 staffed.distinct⟩
  · rcases known _ mem with new | old
    · obtain rfl := Role.evaluation.inj new
      omega
    · have := staffed.begun number old
      omega
  · rcases known _ mem with new | old
    · cases new
    · exact staffed.serves who old

theorem Staffed.turned {w : Work V} {others : List (Work V)}
    (staffed : Staffed s) (turned : Server.Turned h w others s s') : Staffed s' := by
  have before : (s.tasks.map Work.role).Perm (w.role :: others.map Work.role) :=
    turned.before.map _
  have after := turned.after.map Work.role
  rw [List.map_append] at after
  have mem : w ∈ s.tasks := turned.before.mem_iff.2 List.mem_cons_self
  have distinct := before.nodup_iff.1 staffed.distinct
  have connected : s'.connection.isSome = true := by
    rw [turned.connection, Option.isSome_map]
    exact staffed.connected
  cases outcome_inherits (h := h) s (staffed.role mem) with
  | ends none begun last =>
    rw [none] at after
    exact staffed.same_evaluations connected after
      (fun role mem => before.mem_iff.2 (List.mem_cons_of_mem _ mem)) (List.nodup_cons.1 distinct).2
      (by rw [turned.evaluations, begun]; rfl)
  | goesOn one begun =>
    rw [one] at after
    exact staffed.same_evaluations connected after (fun role mem => before.mem_iff.2 mem) distinct
      (by rw [turned.evaluations, begun]; rfl)
  | begins reads two begun =>
    subst reads
    rw [two] at after
    exact staffed.one_evaluation connected before (after.trans (List.Perm.swap ..))
      (by rw [turned.evaluations, begun])

end

/-- An act does not mix up the tasks. -/
theorem Staffed.after (staffed : Staffed x.server) (a : Act V) :
    Staffed (x.after h a).server := by
  rcases after_cases (h := h) staffed a with ⟨w, others, -, turned⟩ | stood
  · exact staffed.turned turned
  · exact staffed.stood stood

end Service

end

end DebugSession
