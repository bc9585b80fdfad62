import DebugSession.Debuggee.Calls
import DebugSession.Proofs.Fairness
import DebugSession.Proofs.Records
import Mathlib.Data.Nat.Pairing
/-!
Once a client has sent all that can be read, the reader comes to an end, then the session, and then
every other task. Every request has been answered by then, once.
-/

namespace DebugSession

open Protocol Framing

variable {V : Type}

theorem Framing.Passes.broken {bytes rest : Bytes} {texts : List String}
    (h : Passes bytes texts rest) (broken : Broken bytes) : Broken rest := by
  induction h with
  | nil bytes => exact broken
  | cons first others ih => exact ih (broken.of_message first)

namespace Service

/-- No more can be read than is there: the client sends nothing more, or it cannot be told where
messages begin. -/
def Final (x : Service V) : Prop := x.ended = true ∨ Broken x.sent

/-- The bytes that are still to be read. -/
def input (x : Service V) : Bytes := (x.server.connection.map Connection.input).getD []

/-- How many messages are still to be read. -/
def left (x : Service V) : Nat := (readAll x.input).1.length

variable [Machine V] {h : Handler V} {x : Service V}

theorem Final.after (final : x.Final) (a : Act V) : (x.after h a).Final := by
  cases a with
  | send bytes =>
    simp only [Service.after]
    split
    · exact final
    · exact final.imp_right Broken.append
  | close => exact .inl rfl
  | _ => exact final

section

variable {c : Connection} {texts : List String} {rest : Bytes} {segments : List Segment}
  {begun : List (Work V × RequestMessage)}

/-- What is left of the stream is final as well. -/
theorem Final.remains (final : x.Final) (account : Account h x c texts rest segments begun) :
    x.ended = true ∨ Broken rest := final.imp_right account.intake.sent.broken

/-- What the reader finds. -/
theorem reading_eq (account : Account h x c texts rest segments begun) {w : Work V}
    (mem : w ∈ x.server.tasks) (reader : w.role = .reader) :
    x.server.reading = read x.ended rest ∧ x.input = rest := by
  obtain ⟨input, ended⟩ := account.intake.input (account.intake.going mem reader)
  simp [Server.reading, Service.input, account.connection, Connection.reading, input, ended]

/-- The reader need not wait. -/
theorem Final.reads (final : x.Final) (account : Account h x c texts rest segments begun)
    {w : Work V} (mem : w ∈ x.server.tasks) (reader : w.role = .reader) :
    x.server.reading ≠ .incomplete := by
  rw [(reading_eq account mem reader).1]
  rcases final.remains account with ended | broken
  · rw [ended]
    exact read_ended
  · exact broken.enough

/-- Only the reader takes anything of the input. -/
theorem outcome_input (s : Server V) (w : Work V) (c : Connection) :
    ((s.outcome h w).client c).input = c.input ∨
      w = .read ∧ ∃ text, s.reading = .message text ((s.outcome h w).client c).input := by
  cases w with
  | pump who => exact .inl (Connection.posts_input ..)
  | pumping who rest => exact .inl (Connection.posts_input ..)
  | read =>
    simp only [Server.outcome, Server.readOutcome]
    cases s.reading with
    | message text rest => exact .inr ⟨trivial, text, rfl⟩
    | failed e => exact .inl rfl
    | ended => exact .inl rfl
    | incomplete => exact .inl rfl
  | evaluate m number => exact .inl rfl
  | answer m asker => exact .inl (by rw [Server.outcome, Outcome.ofAnswer_client]; rfl)
  | answering asker rest => exact .inl (by rw [Server.outcome, Outcome.ofAnswer_client]; rfl)
  | send r asker => exact .inl (Connection.posts_input ..)
  | closing rest => exact .inl (by rw [Server.outcome, Outcome.ofClosing_client]; rfl)
  | join => exact .inl rfl

variable {s' : Server V} {w : Work V} {others : List (Work V)}

private theorem input_turned (account : Account h x c texts rest segments begun)
    (turned : Server.Turned h w others x.server s') :
    ({ x with server := s' } : Service V).input = ((x.server.outcome h w).client c).input := by
  simp [Service.input, turned.connection, account.connection]

/-- A message that is read is one less to be read. -/
theorem left_message (account : Account h x c texts rest segments begun)
    (turned : Server.Turned h .read others x.server s') {text : String} {later : Bytes}
    (found : x.server.reading = .message text later) :
    ({ x with server := s' } : Service V).left < x.left := by
  have mem : .read ∈ x.server.tasks := turned.before.mem_iff.2 List.mem_cons_self
  obtain ⟨reading, same⟩ := reading_eq account mem rfl
  have input' := input_turned account turned
  simp only [Server.outcome, Server.readOutcome, found] at input'
  rw [reading] at found
  have first := readAll_message (read_of_message (read_message found))
  unfold left
  rw [input', same, first]
  exact Nat.lt_succ_self _

/-- There is never more to be read than before. -/
private theorem left_turned (account : Account h x c texts rest segments begun)
    (turned : Server.Turned h w others x.server s') :
    ({ x with server := s' } : Service V).left ≤ x.left := by
  have input : x.input = c.input := by simp [Service.input, account.connection]
  rcases outcome_input (h := h) x.server w c with same | ⟨rfl, text, found⟩
  · refine Nat.le_of_eq ?_
    unfold left
    rw [input_turned account turned, input, same]
  · exact Nat.le_of_lt (left_message account turned found)

theorem Final.left_after (final : x.Final) (account : Account h x c texts rest segments begun)
    (staffed : Staffed x.server) (a : Act V) : (x.after h a).left ≤ x.left := by
  cases a with
  | turn role =>
    rcases turn_cases (h := h) staffed role with ⟨w, others, -, -, turned⟩ | same
    · exact left_turned account turned
    · exact Nat.le_of_eq (congrArg left same)
  | send bytes =>
    by_cases ended : x.ended = true
    · simp only [Service.after, if_pos ended, Nat.le_refl]
    · simp only [Service.after, if_neg ended, left, Service.input]
      unfold Server.receive
      rw [account.connection]
      dsimp only
      by_cases hears : c.isOpen = true
      · have going : c.finished = false := by
          simp only [Connection.isOpen, Bool.and_eq_true, Bool.not_eq_true'] at hears
          exact hears.2
        have broken := (final.remains account).resolve_left ended
        rw [if_pos hears]
        simp [Server.modifyConnection, account.connection, (account.intake.input going).1,
          broken.readAll_append]
      · refine Nat.le_of_eq ?_
        rw [if_neg hears, account.connection]
  | close =>
    simp [left, Service.input, Service.after, Server.endInput, Server.modifyConnection,
      account.connection]
  | time time => exact Nat.le_refl _
  | debuggee machine => exact Nat.le_refl _
  | settings settings =>
    simp [left, Service.input, Service.after, Server.configure_connection]

end

namespace Run

variable {r : Run h} {n m k : Nat} {w : Work V} {role : Role}

/-! ## The reader -/

theorem final_later (final : (r.state n).Final) (later : n ≤ m) : (r.state m).Final := by
  induction m, later using Nat.le_induction with
  | base => exact final
  | succ m _ ih =>
    rw [r.next]
    exact ih.after _

theorem left_later (final : (r.state n).Final) (later : n ≤ m) :
    (r.state m).left ≤ (r.state n).left := by
  induction m, later using Nat.le_induction with
  | base => exact Nat.le_refl _
  | succ m later ih =>
    obtain ⟨c, texts, rest, segments, begun, account⟩ := r.account m
    rw [r.next]
    exact Nat.le_trans ((final_later final later).left_after account (r.staffed m) _) ih

/-- The end of a session takes some time only. -/
theorem Fair.closes (fair : r.Fair) (y : Step (Session V) Unit)
    (leaves : r.Leaves n .reader (Outcome.ofClosing y).next) :
    ∃ m ≥ n, .join ∈ (r.state m).server.tasks := by
  obtain ⟨m, later, -, leaves⟩ := fair.ends .closing (fun _ => rfl) (fun _ _ => rfl)
    (fun m _ rest => free_of_due (w := .closing rest) (fun _ _ => trivial) nofun nofun) y
    (Nat.le_refl n) leaves
  exact ⟨m, later, leaves.there _ List.mem_cons_self⟩

/-- The reader comes to read again, or it is done. -/
theorem Fair.reads_again (fair : r.Fair) (mem : w ∈ (r.state n).server.tasks)
    (reader : w.role = .reader) :
    ∃ m ≥ n, .read ∈ (r.state m).server.tasks ∨ .join ∈ (r.state m).server.tasks := by
  by_cases answers : w.answers = true
  · obtain ⟨m, later, reply, sends⟩ := fair.sends .reader (fun _ _ => trivial) mem
      reader answers
    have free : r.Free m (.send reply .reader) := free_of_due (fun _ _ => trivial) nofun nofun
    obtain ⟨k, later', others, turns⟩ := fair.turn_comes free sends
    exact ⟨k + 1, by omega, .inl (turns.leaves.there _ List.mem_cons_self)⟩
  · cases w with
    | read => exact ⟨n, Nat.le_refl n, .inl mem⟩
    | join => exact ⟨n, Nat.le_refl n, .inr mem⟩
    | closing rest =>
      have free : r.Free n (.closing rest) := free_of_due (fun _ _ => trivial) nofun nofun
      obtain ⟨m, later, others, turns⟩ := fair.turn_comes free mem
      obtain ⟨k, later', joins⟩ := fair.closes _ turns.leaves
      exact ⟨k, by omega, .inr joins⟩
    | pump who => cases reader
    | pumping who rest => cases reader
    | _ => exact absurd rfl answers

/-- A message is taken, or the reader is done. -/
theorem Fair.reads (fair : r.Fair) (final : (r.state n).Final)
    (mem : .read ∈ (r.state n).server.tasks) :
    ∃ m ≥ n, .join ∈ (r.state m).server.tasks ∨
      (∃ v ∈ (r.state m).server.tasks, v.role = .reader) ∧
        (r.state m).left < (r.state n).left := by
  have free : r.Free n .read := by
    refine ⟨fun _ _ => trivial, fun _ m later mem => ?_, nofun⟩
    obtain ⟨c, texts, rest, segments, begun, account⟩ := r.account m
    exact (final_later final later).reads account mem rfl
  obtain ⟨m, later, others, turns⟩ := fair.turn_comes free mem
  obtain ⟨c, texts, rest, segments, begun, account⟩ := r.account m
  have leaves := turns.leaves
  have stops : ∀ error, ((r.state m).server.outcome h .read).next =
      (Server.readOutcome.stopped (r.state m).server error).next →
      ∃ k ≥ m + 1, .join ∈ (r.state k).server.tasks := by
    intro error next
    rw [next] at leaves
    unfold Server.readOutcome.stopped at leaves
    by_cases past : (r.state m).server.session.cancelled = true
    · rw [if_pos past] at leaves
      exact ⟨m + 1, Nat.le_refl _, leaves.there _ List.mem_cons_self⟩
    · rw [if_neg past] at leaves
      exact fair.closes _ leaves
  cases found : (r.state m).server.reading with
  | message text later' =>
    have less := left_message account turns found
    have before := left_later final later
    refine ⟨m + 1, by omega, .inr ⟨?_, Nat.lt_of_lt_of_le less before⟩⟩
    have next : ((r.state m).server.outcome h .read).next =
        (Outcome.ofText (r.state m).server.evaluations (r.state m).server.session text).next := by
      simp [Server.outcome, Server.readOutcome, found]
    obtain ⟨v, mem, reader⟩ := Outcome.ofText_reader (r.state m).server.evaluations
      (r.state m).server.session text
    exact ⟨v, leaves.there v (next ▸ mem), reader⟩
  | failed e =>
    obtain ⟨k, later', joins⟩ := stops (some e) (by
      simp [Server.outcome, Server.readOutcome, found])
    exact ⟨k, by omega, .inl joins⟩
  | ended =>
    obtain ⟨k, later', joins⟩ := stops none (by
      simp [Server.outcome, Server.readOutcome, found])
    exact ⟨k, by omega, .inl joins⟩
  | incomplete => exact absurd found (free.reads rfl m later turns.mem)

/-- When no more can be read, the reader is done at some time. -/
theorem Fair.joins (fair : r.Fair) (final : (r.state n).Final)
    (mem : w ∈ (r.state n).server.tasks) (reader : w.role = .reader) :
    ∃ m ≥ n, .join ∈ (r.state m).server.tasks := by
  obtain ⟨count, is⟩ : ∃ count, (r.state n).left = count := ⟨_, rfl⟩
  induction count using Nat.strong_induction_on generalizing n w with
  | h count ih =>
    obtain ⟨m, later, reads | joins⟩ := fair.reads_again mem reader
    · have fewer := left_later final later
      obtain ⟨k, later', joins | ⟨⟨v, mem, reader⟩, less⟩⟩ :=
        fair.reads (final_later final later) reads
      · exact ⟨k, by omega, joins⟩
      · obtain ⟨l, later'', joins⟩ :=
          ih _ (by omega) (final_later final (by omega : n ≤ k)) mem reader rfl
        exact ⟨l, by omega, joins⟩
    · exact ⟨m, later, joins⟩

/-! ## The others -/

/-- The reader is done, and the session over. -/
structure Ends (r : Run h) (n : Nat) : Prop where
  reader : ∀ w ∈ (r.state n).server.tasks, w.role = .reader → w = .join
  past : (r.state n).server.session.cancelled = true

theorem ends_of_join (joins : .join ∈ (r.state n).server.tasks) : r.Ends n :=
  ⟨fun _ mem reader => (r.staffed n).unique mem joins reader, (r.orderly n).fits .join joins⟩

theorem ends_of_gone (gone : r.Gone n .reader) : r.Ends n :=
  ⟨fun w mem reader => absurd reader (gone w mem), (r.orderly n).ended gone⟩

/-- No new tasks are begun then. -/
private theorem Ends.roles_next (ends : r.Ends n) {v : Work V}
    (mem : v ∈ (r.state (n + 1)).server.tasks) :
    v ∈ (r.state n).server.tasks ∨
      ∃ w ∈ (r.state n).server.tasks, w.role = v.role ∧ v.role ≠ .reader := by
  rcases r.step_cases n with ⟨w, others, -, turns⟩ | stood
  · rcases List.mem_append.1 (turns.after.mem_iff.1 mem) with new | old
    · refine .inr ⟨w, turns.mem, ?_⟩
      cases outcome_inherits (h := h) (r.state n).server ((r.staffed n).role turns.mem) with
      | ends none =>
        rw [none] at new
        cases new
      | goesOn one =>
        have same : v.role = w.role := by
          have role := List.mem_map_of_mem (f := Work.role) new
          rw [one] at role
          exact List.mem_singleton.1 role
        refine ⟨same.symm, fun reader => ?_⟩
        obtain rfl := ends.reader w turns.mem (same ▸ reader)
        cases new
      | begins reads =>
        cases reads
        cases ends.reader .read turns.mem rfl
    · exact .inl (turns.before.mem_iff.2 (List.mem_cons_of_mem _ old))
  · exact .inl (stood.became.tasks.mem_iff.1 mem)

theorem Ends.later (ends : r.Ends n) (later : n ≤ m) : r.Ends m := by
  induction m, later using Nat.le_induction with
  | base => exact ends
  | succ m later ih =>
    refine ⟨fun v mem reader => ?_, over_later ih.past (Nat.le_succ m)⟩
    rcases ih.roles_next mem with old | ⟨w, -, -, other⟩
    · exact ih.reader v old reader
    · exact absurd reader other

/-- What has ended does not begin again. -/
theorem Gone.later (gone : r.Gone n role) (ends : r.Ends n) (later : n ≤ m) : r.Gone m role := by
  induction m, later using Nat.le_induction with
  | base => exact gone
  | succ m later ih =>
    intro v mem
    rcases (ends.later later).roles_next mem with old | ⟨w, old, same, -⟩
    · exact ih v old
    · rw [← same]
      exact ih w old

/-- A pump ends when the session is over. -/
private theorem Fair.pump_ends (fair : r.Fair) (ends : r.Ends n)
    (mem : .pump .client ∈ (r.state n).server.tasks) : ∃ m ≥ n, r.Gone m (.pump .client) := by
  have free : r.Free n (.pump .client) :=
    free_of_due (fun m later => over_later ends.past later) nofun nofun
  obtain ⟨m, later, others, turns⟩ := fair.turn_comes free mem
  have none : ((r.state m).server.outcome h (.pump .client)).next = [] := by
    simp [Server.outcome, Session.pump_over (over_later ends.past later), Outcome.ofPump,
      Outcome.ofEvent, Outcome.carry]
  exact ⟨m + 1, by omega, turns.leaves.gone none⟩

/-- So does every task but the reader. -/
theorem Fair.task_ends (fair : r.Fair) (ends : r.Ends n) (mem : w ∈ (r.state n).server.tasks)
    (other : w.role ≠ .reader) : ∃ m ≥ n, r.Gone m w.role := by
  have past : ∀ m ≥ n, (r.state m).server.session.cancelled = true := fun m later =>
    over_later ends.past later
  have answers : ∀ number, w.role = (Asker.evaluation number).role → w.answers = true →
      ∃ m ≥ n, r.Gone m w.role := by
    intro number role answers
    obtain ⟨m, later, reply, sends⟩ := fair.sends (.evaluation number) past mem role answers
    have free : r.Free m (.send reply (.evaluation number)) :=
      free_of_due (fun k later' => past k (Nat.le_trans later later')) nofun nofun
    obtain ⟨k, later', others, turns⟩ := fair.turn_comes free sends
    rw [role]
    exact ⟨k + 1, by omega, turns.leaves.gone rfl⟩
  cases w with
  | pump who =>
    obtain rfl := (r.staffed n).role mem who rfl
    exact fair.pump_ends ends mem
  | pumping who rest =>
    obtain rfl := (r.staffed n).role mem who rfl
    have free : ∀ m ≥ n, ∀ rest, r.Free m (.pumping .client rest) := fun m later rest =>
      free_of_due (fun k later' => past k (Nat.le_trans later later')) nofun nofun
    obtain ⟨m, later, others, turns⟩ := fair.turn_comes (free n (Nat.le_refl n) rest) mem
    obtain ⟨k, later', isOver, leaves⟩ := fair.ends (.pumping .client) (fun _ => rfl)
      (fun _ _ => rfl) free _ (by omega : n ≤ m + 1) turns.leaves
    cases isOver with
    | true => exact ⟨k, by omega, leaves.gone rfl⟩
    | false =>
      obtain ⟨l, later'', gone⟩ := fair.pump_ends (ends.later (by omega : n ≤ k))
        (leaves.there _ List.mem_cons_self)
      exact ⟨l, by omega, gone⟩
  | evaluate message number => exact answers number rfl rfl
  | answer message asker =>
    cases asker with
    | reader => exact absurd rfl other
    | evaluation number => exact answers number rfl rfl
  | answering asker rest =>
    cases asker with
    | reader => exact absurd rfl other
    | evaluation number => exact answers number rfl rfl
  | send reply asker =>
    cases asker with
    | reader => exact absurd rfl other
    | evaluation number => exact answers number rfl rfl
  | _ => exact absurd rfl other

/-- At some time all the others have ended. -/
theorem Fair.others_end (fair : r.Fair) (ends : r.Ends n) :
    ∃ m ≥ n, ∀ w ∈ (r.state m).server.tasks, w.role = .reader := by
  have each : ∀ tasks : List (Work V), (∀ w ∈ tasks, w ∈ (r.state n).server.tasks) →
      ∃ m ≥ n, ∀ w ∈ tasks, w.role ≠ .reader → r.Gone m w.role := by
    intro tasks
    induction tasks with
    | nil => exact fun _ => ⟨n, Nat.le_refl n, nofun⟩
    | cons w tasks ih =>
      intro there
      obtain ⟨m, later, gone⟩ := ih fun v mem => there v (List.mem_cons_of_mem _ mem)
      by_cases reader : w.role = .reader
      · refine ⟨m, later, fun v mem other => ?_⟩
        rcases List.mem_cons.1 mem with rfl | mem
        · exact absurd reader other
        · exact gone v mem other
      · obtain ⟨k, later', gone'⟩ := fair.task_ends ends (there w List.mem_cons_self) reader
        refine ⟨max m k, by omega, fun v mem other => ?_⟩
        rcases List.mem_cons.1 mem with rfl | mem
        · exact gone'.later (ends.later later') (Nat.le_max_right m k)
        · exact (gone v mem other).later (ends.later later) (Nat.le_max_left m k)
  obtain ⟨m, later, gone⟩ := each _ fun _ mem => mem
  refine ⟨m, later, fun w mem => ?_⟩
  by_contra other
  by_cases old : ∃ v ∈ (r.state n).server.tasks, v.role = w.role
  · obtain ⟨v, mem', same⟩ := old
    exact gone v mem' (same ▸ other) w mem same.symm
  · push Not at old
    exact Gone.later old ends later w mem rfl

/-- When no more can be read, all tasks end, and none begins again. -/
theorem Fair.rests (fair : r.Fair) (final : (r.state n).Final) :
    ∃ m ≥ n, ∀ k ≥ m, (r.state k).server.tasks = [] := by
  obtain ⟨m, later, ends⟩ : ∃ m ≥ n, r.Ends m := by
    by_cases reader : ∃ w ∈ (r.state n).server.tasks, w.role = .reader
    · obtain ⟨w, mem, reader⟩ := reader
      obtain ⟨m, later, joins⟩ := fair.joins final mem reader
      exact ⟨m, later, ends_of_join joins⟩
    · push Not at reader
      exact ⟨n, Nat.le_refl n, ends_of_gone reader⟩
  obtain ⟨k, later', alone⟩ := fair.others_end ends
  have only : ∀ l ≥ k, ∀ w ∈ (r.state l).server.tasks, w = .join := by
    intro l later'' w mem
    by_cases reader : w.role = .reader
    · exact (ends.later (Nat.le_trans later' later'')).reader w mem reader
    · have gone : r.Gone k w.role := fun v mem' same => reader (same ▸ alone v mem')
      exact absurd rfl (gone.later (ends.later later') later'' w mem)
  obtain ⟨l, later'', gone⟩ : ∃ l ≥ k, r.Gone l .reader := by
    by_cases joins : .join ∈ (r.state k).server.tasks
    · have free : r.Free k .join := by
        refine ⟨fun _ _ => trivial, nofun, fun _ l later'' v mem => ?_⟩
        rw [only l later'' v mem]
        rfl
      obtain ⟨l, later'', others, turns⟩ := fair.turn_comes free joins
      exact ⟨l + 1, by omega, turns.leaves.gone rfl⟩
    · refine ⟨k, Nat.le_refl k, fun w mem _ => joins ?_⟩
      rwa [← only k (Nat.le_refl k) w mem]
  refine ⟨l, by omega, fun i after => List.eq_nil_iff_forall_not_mem.2 fun w mem => ?_⟩
  have gone' := gone.later (ends.later (by omega : m ≤ l)) after
  obtain rfl := only i (by omega) w mem
  exact gone' .join mem rfl

end Run

/-! ## What the client has got -/

/-- The requests in a stream. Texts that cannot be read and other messages are none. -/
def requests (bytes : Bytes) : List RequestMessage := (readAll bytes).1.filterMap Server.request?

/-- Every request of the client has been answered, and no task is left. -/
structure Served (h : Handler V) (x : Service V) (segments : List Segment) : Prop where
  finished : x.server.tasks = [] ∧ ∃ c, x.server.connection = some c ∧ c.finished = true ∧
    c.output.length = (segments.flatMap Segment.messages).length ∧
    ∀ (i : Nat) (o : Outgoing), (segments.flatMap Segment.messages)[i]? = some o →
      ∃ j, c.output[i]? = some j ∧ o.ReadsAs (Int64.ofNat (i + 1)) j
  once : (Segment.replied segments).Perm (requests x.sent)
  inOrder : (Segment.replied segments).filter (fun m => !m.isEvaluation) =
    (requests x.sent).filter fun m => !m.isEvaluation
  given : ∀ m r, .reply m r ∈ segments → ∃ o, (h.handle m).run.Gives o ∧ r = Session.reply m o
  echoes : ∀ m r, .reply m r ∈ segments → r.response.kind = "response" ∧
    r.response.requestSeq = m.seq ∧ r.response.command = m.command

omit [Machine V] in
private theorem reply_echoes (m : RequestMessage) (o : Except Failure Result) :
    (Session.reply m o).response.kind = "response" ∧
      (Session.reply m o).response.requestSeq = m.seq ∧
      (Session.reply m o).response.command = m.command := by
  rcases o with (e | -) | r <;> exact ⟨rfl, rfl, rfl⟩

private theorem respond_gives {m : RequestMessage} {r : Reply} (gives : (h.respond m).Gives r) :
    ∃ o, (h.handle m).run.Gives o ∧ r = Session.reply m o := by
  obtain ⟨s, gives⟩ := gives
  obtain ⟨o, s', given, rest⟩ := Step.Gives.of_bind gives
  cases rest
  exact ⟨o, ⟨s, given⟩, rfl⟩

omit [Machine V] in
/-- What is numbered is read with its number. -/
private theorem numbered_reads (os : List Outgoing) :
    (Connection.numbered os).length = os.length ∧ ∀ (i : Nat) (o : Outgoing), os[i]? = some o →
      ∃ j, (Connection.numbered os)[i]? = some j ∧ o.ReadsAs (Int64.ofNat (i + 1)) j := by
  refine ⟨List.length_mapIdx, fun i o found => ⟨_, ?_, o.reads_toJson _⟩⟩
  rw [Connection.numbered, List.getElem?_mapIdx, found]
  rfl

theorem served_of_idle {c : Connection} {texts : List String} {rest : Bytes}
    {segments : List Segment} {begun : List (Work V × RequestMessage)}
    (account : Account h x c texts rest segments begun) (idle : x.server.tasks = []) :
    Served h x segments := by
  have finished : c.finished = true := by
    by_contra going
    obtain ⟨w, mem, -⟩ := account.intake.reading (by simpa using going)
    rw [idle] at mem
    cases mem
  have read : (readAll x.sent).1 = texts := by
    rw [account.intake.sent.readAll]
    dsimp only
    rw [(account.intake.finished finished).2.2, List.append_nil]
  have tally := account.tally
  rw [idle] at tally
  obtain rfl : begun = [] := by
    have none := tally.tasks
    simpa using none
  have others := tally.others
  have evaluations := tally.evaluations
  rw [List.map_nil, List.append_nil] at others evaluations
  have given := fun m r mem => respond_gives (tally.given m r mem)
  refine ⟨⟨idle, c, account.connection, finished, ?_⟩, ?_, ?_, given, ?_⟩
  · rw [account.output]
    exact numbered_reads _
  · unfold requests
    rw [read]
    have asked := List.filter_append_perm (fun m => m.isEvaluation)
      (texts.filterMap Server.request?)
    have replied := List.filter_append_perm (fun m => m.isEvaluation) (Segment.replied segments)
    rw [← others] at replied
    exact replied.symm.trans ((evaluations.symm.append_right _).trans asked)
  · unfold requests
    rw [read]
    exact others.symm
  · intro m r mem
    obtain ⟨o, -, rfl⟩ := given m r mem
    exact reply_echoes m o

/-- What comes of acts, one after another. -/
def states (h : Handler V) (x : Service V) (acts : Nat → Act V) : Nat → Service V
  | 0 => x
  | n + 1 => (states h x acts n).after h (acts n)

/-- A client sends something and then nothing more. After that every task has its turn again and
again, and time passes. -/
def rounds (bytes : Bytes) : Nat → Act V
  | 0 => .send bytes
  | 1 => .close
  | n + 2 =>
    match n.unpair with
    | (0, time) => .time time
    | (1, _) => .turn .reader
    | (2, _) => .turn (.pump .observer)
    | (3, _) => .turn (.pump .client)
    | (number + 4, _) => .turn (.evaluation number)

omit [Machine V] in
theorem rounds_time (bytes : Bytes) (time : Nat) :
    rounds (V := V) bytes (Nat.pair 0 time + 2) = .time time := by
  simp only [rounds, Nat.unpair_pair]

omit [Machine V] in
theorem rounds_turn (bytes : Bytes) (role : Role) (n : Nat) :
    ∃ m ≥ n, rounds (V := V) bytes m = .turn role := by
  obtain ⟨code, is⟩ : ∃ code, ∀ k, rounds (V := V) bytes (Nat.pair code k + 2) = .turn role := by
    cases role with
    | reader => exact ⟨1, fun k => by simp only [rounds, Nat.unpair_pair]⟩
    | pump who =>
      cases who with
      | observer => exact ⟨2, fun k => by simp only [rounds, Nat.unpair_pair]⟩
      | client => exact ⟨3, fun k => by simp only [rounds, Nat.unpair_pair]⟩
    | evaluation number => exact ⟨number + 4, fun k => by simp only [rounds, Nat.unpair_pair]⟩
  refine ⟨Nat.pair code n + 2, ?_, is n⟩
  have := Nat.right_le_pair code n
  omega

/-- Such a run of a session with a debuggee. -/
def Run.ofBytes (bytes : Bytes) : Run (.ofSession : Handler Debuggee) where
  state := states .ofSession (Service.start (Session.start {} {} {})) (rounds bytes)
  act := rounds bytes
  start := ⟨Session.start {} {} {}, rfl, rfl⟩
  next _ := rfl

theorem Run.ofBytes_fair (bytes : Bytes) : (Run.ofBytes bytes).Fair := by
  constructor
  · exact fun role n _ => rounds_turn bytes role n
  · intro t n
    refine ⟨Nat.pair 0 (max t n) + 2, ?_, max t n, Nat.le_max_left t n, rounds_time bytes _⟩
    have := Nat.right_le_pair 0 (max t n)
    omega

/-- Two requests with something else in between, of which nothing can be made. -/
def twoRequests : Bytes :=
  encode "\x7b\"seq\":1,\"type\":\"request\",\"command\":\"evaluate\"\x7d" ++
    encode "\x7b\"seq\":2" ++
    encode "\x7b\"seq\":3,\"type\":\"request\",\"command\":\"threads\"\x7d"

end Service

end DebugSession
