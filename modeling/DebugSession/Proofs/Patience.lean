import DebugSession.Proofs.Services
/-!
Tasks that wait. What one of them waits for comes by itself, or comes when the session is over, and
the others do not take it away: tasks with different roles ask for different things.
-/

namespace DebugSession

variable {V α : Type}

/-- What a task may ask for. -/
def Role.own : Role → Shared → Bool
  | .reader => Session.forRequests
  | .pump _ => Shared.isEvents
  | .evaluation _ => fun _ => false

/-- When a task waits for calls only. -/
def Role.due : Role → Session V → Prop
  | .reader => fun _ => True
  | .pump _ | .evaluation _ => fun s => s.cancelled = true

theorem Role.own_apart {role role' : Role} (different : role ≠ role')
    (serves : ∀ who, role = .pump who → who = .client)
    (serves' : ∀ who, role' = .pump who → who = .client) (what : Shared)
    (mine : role'.own what = true) : role.own what = false := by
  cases role with
  | evaluation number => rfl
  | reader =>
    cases role' with
    | reader => exact absurd rfl different
    | pump who =>
      have events : what.isEvents = true := mine
      simp [own, Session.forRequests, events]
    | evaluation number => cases mine
  | pump who =>
    cases role' with
    | reader => simpa [own, Session.forRequests] using mine
    | pump who' =>
      obtain rfl := serves who rfl
      obtain rfl := serves' who' rfl
      exact absurd rfl different
    | evaluation number => cases mine

/-- What is left of a computation goes on in time when a task has that role, and in the end has seen
to it that `Q`. -/
structure Paused.Fits (rest : Paused (Session V) α) (role : Role) (Q : α → Session V → Prop)
    (s : Session V) : Prop where
  ready : ∀ now, role.due now → (∀ t ∈ rest.deadline, t ≤ now.clock) → rest.ready now = true
  resume : ∀ now, Undisturbed role.own s now → (rest.resume now).Timely role.own role.due Q now

/-- A task is where its role may be in a session. -/
def Work.Fits (s : Session V) : Work V → Prop
  | .pump who => s.line.part (Role.pump who).own = []
  | .pumping who rest =>
    rest.Fits (.pump who) (fun _ s' => s'.line.part (Role.pump who).own = []) s
  | .read => s.line.part Role.reader.own = []
  | .evaluate m _ => m.command = "evaluate"
  | .answer m asker =>
    s.line.part asker.role.own = [] ∧ (asker = .reader ∨ m.command = "evaluate")
  | .answering asker rest =>
    rest.Fits asker.role (fun _ s' => s'.line.part asker.role.own = []) s
  | .send _ asker => s.line.part asker.role.own = []
  | .closing rest =>
    rest.Fits .reader (fun _ s' => s'.line.part Role.reader.own = [] ∧ s'.cancelled = true) s
  | .join => s.cancelled = true

variable {s s' : Session V} {w : Work V}

theorem Undisturbed.trans {own : Shared → Bool} {s s' s'' : Session V} (h : Undisturbed own s s')
    (h' : Undisturbed own s' s'') : Undisturbed own s s'' :=
  ⟨h'.ordered, h'.part.trans h.part⟩

theorem Paused.Fits.later {rest : Paused (Session V) α} {role : Role} {Q : α → Session V → Prop}
    (fits : rest.Fits role Q s) (same : Undisturbed role.own s s') : rest.Fits role Q s' :=
  ⟨fits.ready, fun now same' => fits.resume now (same.trans same')⟩

/-- Others do not move a task. -/
theorem Work.Fits.later (fits : w.Fits s) (same : Undisturbed w.role.own s s')
    (past : s.cancelled = true → s'.cancelled = true) : w.Fits s' := by
  cases w with
  | pump who => exact same.part.trans fits
  | pumping who rest => exact Paused.Fits.later fits same
  | read => exact same.part.trans fits
  | evaluate m number => exact fits
  | answer m asker => exact ⟨same.part.trans fits.1, fits.2⟩
  | answering asker rest => exact Paused.Fits.later fits same
  | send r asker => exact same.part.trans fits
  | closing rest => exact Paused.Fits.later fits same
  | join => exact past fits

namespace Outcome

/-- A computation that goes on later still fits. -/
theorem carry_fits {pause : Paused (Session V) α → Work V} {next : α → List (Work V)}
    {y : Step (Session V) α} {role : Role} {Q : α → Session V → Prop}
    (timely : y.Timely role.own role.due Q s)
    (paused : ∀ rest s', Paused.Fits rest role Q s' → (pause rest).Fits s')
    (ended : ∀ a s', Q a s' → ∀ v ∈ next a, v.Fits s') :
    Civil role.own s (carry pause next y).session ∧
      ∀ v ∈ (carry pause next y).next, v.Fits (carry pause next y).session := by
  cases y with
  | wait deadline ready session resume =>
    obtain ⟨civil, ready, resumes⟩ := timely
    refine ⟨civil, fun v mem => ?_⟩
    obtain rfl := List.mem_singleton.1 mem
    exact paused _ _ ⟨ready, resumes⟩
  | done a session => exact ⟨timely.1, ended a session timely.2⟩

theorem ofPump_fits {y : Step (Session V) Bool}
    (timely : y.Timely (Role.pump .client).own (Role.pump .client).due
      (fun _ s' => s'.line.part (Role.pump .client).own = []) s) :
    Civil (Role.pump .client).own s (ofPump y).session ∧
      ∀ v ∈ (ofPump y).next, v.Fits (ofPump y).session := by
  have handled : Civil (Role.pump .client).own s (ofEvent y).session ∧
      ∀ v ∈ (ofEvent y).next, v.Fits (ofEvent y).session := by
    refine carry_fits timely (fun _ _ h => h) ?_
    intro isOver s' free v mem
    cases isOver with
    | true => cases mem
    | false =>
      obtain rfl := List.mem_singleton.1 mem
      exact free
  -- The events that are handed out have nothing to do with the line.
  have quiet : Discreet (ofEvent y).session (ofPump y).session := ⟨rfl, id⟩
  refine ⟨handled.1.trans (quiet.civil handled.1.ordered), fun v mem => ?_⟩
  exact (handled.2 v mem).later ⟨handled.1.ordered, rfl⟩ id

theorem ofAnswer_fits {asker : Asker} {y : Step (Session V) Reply}
    (timely : y.Timely asker.role.own asker.role.due
      (fun _ s' => s'.line.part asker.role.own = []) s) :
    Civil asker.role.own s (ofAnswer asker y).session ∧
      ∀ v ∈ (ofAnswer asker y).next, v.Fits (ofAnswer asker y).session :=
  carry_fits timely (fun _ _ h => h) fun r s' free v mem => by
    obtain rfl := List.mem_singleton.1 mem
    exact free

theorem ofClosing_fits {y : Step (Session V) Unit}
    (timely : y.Timely Role.reader.own Role.reader.due
      (fun _ s' => s'.line.part Role.reader.own = [] ∧ s'.cancelled = true) s) :
    Civil Role.reader.own s (ofClosing y).session ∧
      ∀ v ∈ (ofClosing y).next, v.Fits (ofClosing y).session :=
  carry_fits timely (fun _ _ h => h) fun r s' ended v mem => by
    obtain rfl := List.mem_singleton.1 mem
    exact ended.2

/-- What is made of a message that was read. -/
theorem ofText_fits {session : Session V} (number : Nat)
    (free : session.line.part Role.reader.own = []) (text : String) :
    (ofText number session text).session = session ∧
      ∀ v ∈ (ofText number session text).next, v.Fits session := by
  unfold ofText
  split
  · refine ⟨rfl, fun v mem => ?_⟩
    obtain rfl := List.mem_singleton.1 mem
    exact free
  · rename_i m _
    split
    · rename_i evaluation
      refine ⟨rfl, fun v mem => ?_⟩
      rcases List.mem_cons.1 mem with rfl | mem
      · exact free
      · obtain rfl := List.mem_singleton.1 mem
        exact evaluation
    · refine ⟨rfl, fun v mem => ?_⟩
      obtain rfl := List.mem_singleton.1 mem
      exact ⟨free, .inl rfl⟩

end Outcome

section

variable {s : Server V}

/-- A task that waits for calls only goes on when they are due, if it finds what to read and nobody
else to wait for. -/
theorem Work.Fits.ready (fits : w.Fits s.session) (due : w.role.due s.session)
    (reached : ∀ t ∈ w.deadline?, t ≤ s.session.clock) (reads : w = .read → s.reading ≠ .incomplete)
    (joins : w = .join → ∀ v ∈ s.tasks, v.servesClient = false) : s.isReady w = true := by
  cases w with
  | pumping who rest => exact Paused.Fits.ready fits _ due reached
  | answering asker rest => exact Paused.Fits.ready fits _ due reached
  | closing rest => exact Paused.Fits.ready fits _ due reached
  | read =>
    have enough := reads rfl
    unfold Server.reading at enough
    unfold Server.isReady
    cases found : s.connection.map Connection.reading with
    | none => rfl
    | some r =>
      rw [found] at enough
      cases r with
      | incomplete => exact absurd rfl enough
      | _ => rfl
  | join =>
    have none : s.tasks.any Work.servesClient = false :=
      List.any_eq_false.2 fun v mem => by simp [joins rfl v mem]
    exact congrArg not none
  | _ => rfl

/-- The line is in order, and every task is where its role may be. The session is over before the
reader ends. -/
structure Server.Orderly (s : Server V) : Prop where
  ordered : s.session.line.Ordered
  fits : ∀ w ∈ s.tasks, w.Fits s.session
  ended : (∀ w ∈ s.tasks, w.role ≠ .reader) → s.session.cancelled = true

theorem Server.orderly_start {session : Session V} (free : session.line = {}) :
    (Service.start session).server.Orderly := by
  have none : ∀ own : Shared → Bool, session.line.part own = [] := by
    intro own
    rw [free]
    rfl
  refine ⟨?_, ?_, fun gone => ?_⟩
  · show session.line.Ordered
    rw [free]
    exact List.Pairwise.nil
  · intro w mem
    have mem : w ∈ [(.pump .client : Work V), .read] := mem
    rcases List.mem_cons.1 mem with rfl | mem
    · exact none _
    · obtain rfl := List.mem_singleton.1 mem
      exact none _
  · have there : Work.read ∈ (Service.start session).server.tasks :=
      List.mem_cons_of_mem _ List.mem_cons_self
    exact absurd rfl (gone .read there)

variable [Machine V] {h : Handler V}

open Outcome

/-- What answers a message waits as its role may. -/
theorem respond_timely {m : Protocol.RequestMessage} {asker : Asker}
    (mine : asker = .reader ∨ m.command = "evaluate") :
    Task.Timely asker.role.own asker.role.due (h.respond m) := by
  refine Task.Timely.bind ?_ fun r => .pure _
  cases asker with
  | reader => exact h.punctual m
  | evaluation number => exact h.evaluates m (mine.resolve_left nofun)

/-- Where reading ends, so does the session. -/
private theorem stopped_fits (ordered : s.session.line.Ordered)
    (free : s.session.line.part Role.reader.own = []) (error : Option SessionError) :
    Civil Role.reader.own s.session (Server.readOutcome.stopped s error).session ∧
      ∀ v ∈ (Server.readOutcome.stopped s error).next,
        v.Fits (Server.readOutcome.stopped s error).session := by
  unfold Server.readOutcome.stopped
  by_cases past : s.session.cancelled = true
  · rw [if_pos past]
    refine ⟨⟨ordered, rfl, id⟩, fun v mem => ?_⟩
    obtain rfl := List.mem_singleton.1 mem
    exact past
  · rw [if_neg past]
    exact ofClosing_fits (Session.disconnect_timely false ordered free)

/-- The turn of a task leaves the others alone, and what comes of it fits as well. -/
theorem outcome_fits (ordered : s.session.line.Ordered) (fits : w.Fits s.session)
    (serves : ∀ who, w.role = .pump who → who = .client) :
    Civil w.role.own s.session (s.outcome h w).session ∧
      ∀ v ∈ (s.outcome h w).next, v.Fits (s.outcome h w).session := by
  have same : ∀ {own : Shared → Bool}, Civil own s.session s.session := ⟨ordered, rfl, id⟩
  have here : Undisturbed w.role.own s.session s.session := ⟨ordered, rfl⟩
  cases w with
  | pump who =>
    obtain rfl := serves who rfl
    exact ofPump_fits (Session.pump_timely.step _ ordered fits)
  | pumping who rest =>
    obtain rfl := serves who rfl
    exact ofPump_fits (Paused.Fits.resume fits _ here)
  | read =>
    simp only [Server.outcome, Server.readOutcome]
    cases s.reading with
    | message text rest =>
      obtain ⟨session, next⟩ := ofText_fits s.evaluations fits text
      dsimp only
      rw [session]
      exact ⟨same, next⟩
    | failed e => exact stopped_fits ordered fits (some e)
    | ended => exact stopped_fits ordered fits none
    | incomplete =>
      refine ⟨same, fun v mem => ?_⟩
      obtain rfl := List.mem_singleton.1 mem
      exact fits
  | evaluate m number =>
    refine ⟨same, fun v mem => ?_⟩
    obtain rfl := List.mem_singleton.1 mem
    have none : (s.session.line.part fun _ => false) = [] :=
      List.filter_eq_nil_iff.2 fun _ _ mine => by cases mine
    exact ⟨none, .inr fits⟩
  | answer m asker => exact ofAnswer_fits ((respond_timely fits.2).step _ ordered fits.1)
  | answering asker rest => exact ofAnswer_fits (Paused.Fits.resume fits _ here)
  | send r asker =>
    refine ⟨same, fun v mem => ?_⟩
    cases asker with
    | reader =>
      obtain rfl := List.mem_singleton.1 mem
      exact fits
    | evaluation number => cases mem
  | closing rest => exact ofClosing_fits (Paused.Fits.resume fits _ here)
  | join => exact ⟨same, fun v mem => by cases mem⟩

/-- Whatever happens, it stays so. -/
theorem Server.Orderly.after {x : Service V} (orderly : x.server.Orderly)
    (staffed : Service.Staffed x.server) (a : Service.Act V) :
    (x.after h a).server.Orderly := by
  rcases Service.after_cases (h := h) staffed a with ⟨w, others, queued, turned⟩ | stood
  · have mem := Server.mem_tasks_of_queue queued
    obtain ⟨civil, next⟩ := outcome_fits (h := h) orderly.ordered (orderly.fits w mem)
      (staffed.role mem)
    have alone := staffed.alone turned.before
    have stays : ∀ v ∈ others, v ∈ (x.after h a).server.tasks := fun v old =>
      turned.after.mem_iff.2 (List.mem_append_right _ old)
    refine ⟨?_, ?_, fun gone => ?_⟩
    · rw [turned.session]
      exact civil.ordered
    · intro v mem'
      rw [turned.session]
      rcases List.mem_append.1 (turned.after.mem_iff.1 mem') with new | old
      · exact next v new
      · have there := turned.before.mem_iff.2 (List.mem_cons_of_mem w old)
        have apart := Role.own_apart (alone v old).symm (staffed.role mem) (staffed.role there)
        exact (orderly.fits v there).later (civil.undisturbed apart) civil.past
    · rw [turned.session]
      refine civil.past ?_
      by_cases reader : w.role = .reader
      · have none : .reader ∉ (x.server.outcome h w).next.map Work.role := by
          intro mem
          obtain ⟨v, new, role⟩ := List.mem_map.1 mem
          exact gone v (turned.after.mem_iff.2 (List.mem_append_left _ new)) role
        cases Service.outcome_inherits (h := h) x.server (staffed.role mem) with
        | ends _ _ last =>
          obtain rfl := last reader
          exact orderly.fits .join mem
        | goesOn one => simp [one, reader] at none
        | begins _ two => simp [two] at none
      · refine orderly.ended fun v there => ?_
        rcases List.mem_cons.1 (turned.before.mem_iff.1 there) with rfl | old
        · exact reader
        · exact gone v (stays v old)
  · refine ⟨?_, ?_, fun gone => ?_⟩
    · rw [stood.session.line]
      exact orderly.ordered
    · intro v mem
      refine (orderly.fits v (stood.became.tasks.mem_iff.1 mem)).later ?_ stood.session.past
      exact ⟨stood.session.line ▸ orderly.ordered, by rw [stood.session.line]⟩
    · exact stood.session.past (orderly.ended fun v there =>
        gone v (stood.became.tasks.mem_iff.2 there))

end

end DebugSession
