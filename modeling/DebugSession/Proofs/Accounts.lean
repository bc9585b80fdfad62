import DebugSession.Proofs.Services
import DebugSession.Proofs.Streams
/-!
An account of what a server has made of the stream from its client: the messages that were read,
the requests among them that are still being answered, and what was sent in return.
-/

namespace DebugSession

open Protocol Framing

variable {V α β σ : Type}

/-! ## What a computation gives -/

/-- What a computation can come to, whatever happens while it waits. -/
inductive Step.Gives : Step σ α → α → Prop
  | done (a : α) (s : σ) : Gives (done a s) a
  | wait (deadline : Option Nat) (ready : σ → Bool) (s : σ) {resume : σ → Step σ α}
    {a : α} (now : σ) (later : (resume now).Gives a) : Gives (wait deadline ready s resume) a

def Task.Gives (x : Task σ α) (a : α) : Prop := ∃ s, (x s).Gives a

theorem Step.Gives.of_bind {x : Step σ α} {f : α → σ → Step σ β} {b : β} (h : (x.bind f).Gives b) :
    ∃ a s, x.Gives a ∧ (f a s).Gives b := by
  induction x with
  | done a s => exact ⟨a, s, .done a s, h⟩
  | wait deadline ready s resume ih =>
    cases h with
    | wait _ _ _ now later =>
      obtain ⟨a, s', gives, rest⟩ := ih now later
      exact ⟨a, s', .wait _ _ _ now gives, rest⟩

/-! ## Replies -/

/-- What a client is sent at a time. -/
inductive Segment where
  | events (es : List Event)
  | reply (m : RequestMessage) (r : Reply)

namespace Segment

/-- The events of a reply come after the response. -/
def messages : Segment → List Outgoing
  | events es => es.map .event
  | reply _ r => .response r.response :: r.events.map .event

/-- The request that is answered. -/
def request? : Segment → Option RequestMessage
  | events _ => none
  | reply m _ => some m

/-- The requests that were answered, in the order of the replies. -/
def replied (segments : List Segment) : List RequestMessage := segments.filterMap request?

theorem replied_events (segments : List Segment) (es : List Event) :
    replied (segments ++ [events es]) = replied segments := by simp [replied, request?]

theorem replied_reply (segments : List Segment) (m : RequestMessage) (r : Reply) :
    replied (segments ++ [reply m r]) = replied segments ++ [m] := by simp [replied, request?]

end Segment

def Protocol.RequestMessage.isEvaluation (m : RequestMessage) : Bool := m.command = "evaluate"

namespace Work

/-- Whether a task has a request to answer. -/
def answers : Work V → Bool
  | .evaluate _ _ | .answer _ _ | .answering _ _ | .send _ _ => true
  | _ => false

/-- Whether a task is the reader and reads on in the end. -/
def reads : Work V → Bool
  | .read => true
  | .answer _ asker | .answering asker _ | .send _ asker => asker = .reader
  | _ => false

theorem reads_of_answers {w : Work V} (answers : w.answers = true) (reader : w.role = .reader) :
    w.reads = true := by
  have known : ∀ asker : Asker, asker.role = .reader → decide (asker = .reader) = true := by
    intro asker role
    cases asker with
    | reader => rfl
    | evaluation number => cases role
  cases w with
  | evaluate m number => cases reader
  | answer m asker => exact known asker reader
  | answering asker rest => exact known asker reader
  | send r asker => exact known asker reader
  | _ => cases answers

variable [Machine V]

/-- A task answers a request: it will send what comes of handling it. -/
def About (h : Handler V) (m : RequestMessage) : Work V → Prop
  | .evaluate m' _ | .answer m' _ => m' = m
  | .answering _ rest => ∀ s r, (rest.resume s).Gives r → (h.respond m).Gives r
  | .send r _ => (h.respond m).Gives r
  | _ => False

/-- The reader answers all but evaluations. -/
def Answers (h : Handler V) (w : Work V) (m : RequestMessage) : Prop :=
  w.About h m ∧ (w.role = .reader ↔ m.isEvaluation = false)

end Work

section

variable [Machine V] {h : Handler V} {w w' : Work V} {tasks tasks' others next : List (Work V)}
  {asked : List RequestMessage} {segments : List Segment} {m : RequestMessage}
  {begun : List (Work V × RequestMessage)}

/-- Every request that was read has been answered, or a task answers it. -/
structure Tally (h : Handler V) (tasks : List (Work V)) (asked : List RequestMessage)
    (segments : List Segment) (begun : List (Work V × RequestMessage)) : Prop where
  tasks : (tasks.filter Work.answers).Perm (begun.map Prod.fst)
  answers : ∀ p ∈ begun, p.1.Answers h p.2
  evaluations : (asked.filter fun m => m.isEvaluation).Perm
    ((Segment.replied segments ++ begun.map Prod.snd).filter fun m => m.isEvaluation)
  others : (asked.filter fun m => !m.isEvaluation) =
    (Segment.replied segments ++ begun.map Prod.snd).filter fun m => !m.isEvaluation
  given : ∀ m r, .reply m r ∈ segments → (h.respond m).Gives r

namespace Tally

theorem perm (tally : Tally h tasks asked segments begun) (same : tasks'.Perm tasks) :
    Tally h tasks' asked segments begun :=
  { tally with tasks := (same.filter _).trans tally.tasks }

/-- Tasks that answer nothing come and go. -/
theorem aside (tally : Tally h (w :: others) asked segments begun) (apart : w.answers = false)
    (apart' : ∀ v ∈ next, v.answers = false) : Tally h (next ++ others) asked segments begun := by
  refine { tally with tasks := ?_ }
  have none : next.filter Work.answers = [] := by simpa [List.filter_eq_nil_iff] using apart'
  have before := tally.tasks
  rw [List.filter_cons_of_neg (by simp [apart])] at before
  rwa [List.filter_append, none, List.nil_append]

theorem told (tally : Tally h tasks asked segments begun) (es : List Event) :
    Tally h tasks asked (segments ++ [.events es]) begun := by
  refine ⟨tally.tasks, tally.answers, ?_, ?_, ?_⟩
  · rw [Segment.replied_events]
    exact tally.evaluations
  · rw [Segment.replied_events]
    exact tally.others
  · intro m r mem
    exact tally.given m r (by simpa using mem)

/-- A request that was begun, among the others. -/
private theorem parts (tally : Tally h (w :: others) asked segments begun)
    (answers : w.answers = true) :
    ∃ m front back, begun = front ++ (w, m) :: back ∧
      (others.filter Work.answers).Perm ((front ++ back).map Prod.fst) := by
  have before := tally.tasks
  rw [List.filter_cons_of_pos answers] at before
  obtain ⟨p, mem, rfl⟩ := List.mem_map.1 (before.mem_iff.1 List.mem_cons_self)
  obtain ⟨front, back, rfl⟩ := List.append_of_mem mem
  refine ⟨p.2, front, back, rfl, ?_⟩
  rw [List.map_append, List.map_cons] at before
  rw [List.map_append]
  exact (before.trans List.perm_middle).cons_inv

/-- A task that goes on with an answer. -/
theorem continues (tally : Tally h (w :: others) asked segments begun) (answers : w.answers = true)
    (answers' : w'.answers = true) (about : ∀ m, w.Answers h m → w'.Answers h m) :
    ∃ begun, Tally h (w' :: others) asked segments begun := by
  obtain ⟨m, front, back, rfl, rest⟩ := tally.parts answers
  have same : (front ++ (w', m) :: back).map Prod.snd = (front ++ (w, m) :: back).map Prod.snd := by
    simp
  refine ⟨front ++ (w', m) :: back, ?_, ?_, ?_, ?_, tally.given⟩
  · rw [List.filter_cons_of_pos answers', List.map_append, List.map_cons]
    rw [List.map_append] at rest
    exact (rest.cons w').trans List.perm_middle.symm
  · intro p mem
    rcases List.mem_append.1 mem with mem | mem
    · exact tally.answers p (List.mem_append_left _ mem)
    · rcases List.mem_cons.1 mem with rfl | mem
      · exact about m (tally.answers (w, m) (List.mem_append_right _ List.mem_cons_self))
      · exact tally.answers p (List.mem_append_right _ (List.mem_cons_of_mem _ mem))
  · rw [same]
    exact tally.evaluations
  · rw [same]
    exact tally.others

/-- A task begins to answer a request. -/
theorem begins (tally : Tally h tasks asked segments begun) (answers : w.answers = true)
    (about : w.Answers h m) :
    Tally h (w :: tasks) (asked ++ [m]) segments (begun ++ [(w, m)]) := by
  refine ⟨?_, ?_, ?_, ?_, tally.given⟩
  · rw [List.filter_cons_of_pos answers, List.map_append]
    exact (tally.tasks.cons w).trans (List.perm_append_singleton w _).symm
  · intro p mem
    rcases List.mem_append.1 mem with mem | mem
    · exact tally.answers p mem
    · obtain rfl := List.mem_singleton.1 mem
      exact about
  · rw [List.map_append, ← List.append_assoc, List.filter_append, List.filter_append]
    exact tally.evaluations.append_right _
  · rw [List.map_append, ← List.append_assoc, List.filter_append, List.filter_append, tally.others]
    rfl

/-- A task sends its reply. No other one has its role. -/
theorem sends {r : Reply} {asker : Asker}
    (tally : Tally h (.send r asker :: others) asked segments begun)
    (alone : ∀ v ∈ others, v.role ≠ asker.role) :
    ∃ m begun, Tally h others asked (segments ++ [.reply m r]) begun := by
  obtain ⟨m, front, back, rfl, rest⟩ := tally.parts rfl
  have answers := tally.answers (.send r asker, m) (List.mem_append_right _ List.mem_cons_self)
  refine ⟨m, front ++ back, rest, ?_, ?_, ?_, ?_⟩
  · intro p mem
    refine tally.answers p ?_
    rw [List.mem_append, List.mem_cons]
    rcases List.mem_append.1 mem with mem | mem
    · exact .inl mem
    · exact .inr (.inr mem)
  · have moved : (Segment.replied segments ++
        (front ++ (.send r asker, m) :: back).map Prod.snd).Perm
        (Segment.replied segments ++ [m] ++ (front ++ back).map Prod.snd) := by
      rw [List.append_assoc, List.map_append, List.map_cons, List.map_append]
      exact List.perm_middle.append_left _
    rw [Segment.replied_reply]
    exact tally.evaluations.trans (moved.filter _)
  · rw [Segment.replied_reply, tally.others, List.append_assoc]
    simp only [List.filter_append, List.map_append, List.map_cons, List.filter_cons]
    by_cases evaluation : m.isEvaluation = true
    · simp [evaluation]
    · -- The reader alone answers such requests.
      have plain : m.isEvaluation = false := by simpa using evaluation
      have role : asker.role = .reader := answers.2.2 plain
      have others : ∀ p ∈ front ++ back, p.2.isEvaluation = true := by
        intro p mem
        have task : p.1 ∈ others := by
          have listed := rest.mem_iff.2 (List.mem_map_of_mem (f := Prod.fst) mem)
          exact (List.mem_filter.1 listed).1
        have known := tally.answers p (by
          rw [List.mem_append, List.mem_cons]
          rcases List.mem_append.1 mem with mem | mem
          · exact .inl mem
          · exact .inr (.inr mem))
        by_contra other
        refine alone _ task ?_
        rw [role]
        exact known.2.2 (by simpa using other)
      have none : ((front ++ back).map Prod.snd).filter (fun m => !m.isEvaluation) = [] := by
        rw [List.filter_eq_nil_iff]
        intro m' mem
        obtain ⟨p, listed, rfl⟩ := List.mem_map.1 mem
        simp [others p listed]
      rw [List.map_append, List.filter_append, List.append_eq_nil_iff] at none
      simp [plain, none]
  · intro m' r' mem
    rcases List.mem_append.1 mem with mem | mem
    · exact tally.given m' r' mem
    · obtain ⟨rfl, rfl⟩ := Segment.reply.inj (List.mem_singleton.1 mem)
      exact answers.1

end Tally

/-! ## The input -/

/-- No further message is read from what is left of a stream. -/
def Stopped (ended : Bool) (rest : Bytes) : Prop :=
  (ended = true ∨ Broken rest) ∧ (readAll rest).1 = []

omit [Machine V] in
theorem stopped_of_failed {ended : Bool} {rest : Bytes} {e : SessionError}
    (h : read ended rest = .failed e) : Stopped ended rest := by
  cases ended with
  | true => exact ⟨.inl rfl, by rw [readAll_of_failed h]⟩
  | false => exact ⟨.inr (.here h), by rw [readAll_of_failed (read_of_failed h)]⟩

omit [Machine V] in
theorem stopped_of_ended {ended : Bool} {rest : Bytes} (h : read ended rest = .ended) :
    Stopped ended rest := by
  cases ended with
  | true => exact ⟨.inl rfl, by rw [readAll_of_ended h]⟩
  | false => exact absurd h read_ne_ended

omit [Machine V] in
theorem Stopped.append {rest : Bytes} (h : Stopped false rest) (more : Bytes) :
    Stopped false (rest ++ more) := by
  have broken : Broken rest := h.1.resolve_left nofun
  exact ⟨.inr broken.append, by rw [broken.readAll_append, h.2]⟩

omit [Machine V] in
theorem Stopped.close {ended : Bool} {rest : Bytes} (h : Stopped ended rest) : Stopped true rest :=
  ⟨.inl rfl, h.2⟩

/-- What has been read of all that a client has sent, and what is left of it. -/
structure Intake (x : Service V) (c : Connection) (texts : List String) (rest : Bytes) : Prop where
  sent : Passes x.sent texts rest
  input : c.finished = false → c.input = rest ∧ c.ended = x.ended
  reading : c.finished = false →
    ∃ w ∈ x.server.tasks, w.role = .reader ∧ (w.reads = true ∨ Stopped x.ended rest)
  finished : c.finished = true →
    (∀ w ∈ x.server.tasks, w.role ≠ .reader) ∧ Stopped x.ended rest

namespace Intake

variable {x : Service V} {s' : Server V} {c c' : Connection} {texts : List String} {rest : Bytes}

omit [Machine V] in
theorem going (intake : Intake x c texts rest) (mem : w ∈ x.server.tasks)
    (role : w.role = .reader) : c.finished = false := by
  by_contra past
  exact (intake.finished (by simpa using past)).1 w mem role

omit [Machine V] in
/-- Other tasks leave it to the reader. -/
theorem aside (intake : Intake x c texts rest) (before : x.server.tasks.Perm (w :: others))
    (after : s'.tasks.Perm (next ++ others)) (role : w.role ≠ .reader)
    (roles : ∀ v ∈ next, v.role ≠ .reader) (input : c'.input = c.input) (ended : c'.ended = c.ended)
    (finished : c'.finished = c.finished) : Intake { x with server := s' } c' texts rest := by
  refine ⟨intake.sent, ?_, ?_, ?_⟩
  · rw [input, ended, finished]
    exact intake.input
  · intro going
    rw [finished] at going
    obtain ⟨v, mem, reader, reads⟩ := intake.reading going
    refine ⟨v, after.mem_iff.2 (List.mem_append_right _ ?_), reader, reads⟩
    rcases List.mem_cons.1 (before.mem_iff.1 mem) with rfl | mem
    · exact absurd reader role
    · exact mem
  · intro past
    rw [finished] at past
    refine ⟨?_, (intake.finished past).2⟩
    intro v mem
    rcases List.mem_append.1 (after.mem_iff.1 mem) with mem | mem
    · exact roles v mem
    · exact (intake.finished past).1 v (before.mem_iff.2 (List.mem_cons_of_mem _ mem))

omit [Machine V] in
/-- The reader goes on, with what is left now. -/
theorem goesOn {texts' : List String} {rest' : Bytes} (sent : Passes x.sent texts' rest')
    (after : s'.tasks.Perm (next ++ others)) (mem : w' ∈ next) (role : w'.role = .reader)
    (reads : w'.reads = true ∨ Stopped x.ended rest') (input : c'.input = rest')
    (ended : c'.ended = x.ended) (going : c'.finished = false) :
    Intake { x with server := s' } c' texts' rest' := by
  refine ⟨sent, fun _ => ⟨input, ended⟩, ?_, ?_⟩
  · intro _
    exact ⟨w', after.mem_iff.2 (List.mem_append_left _ mem), role, reads⟩
  · intro past
    rw [going] at past
    cases past

end Intake

/-! ## Accounts -/

/-- All that was read and sent is accounted for. -/
structure Account (h : Handler V) (x : Service V) (c : Connection) (texts : List String)
    (rest : Bytes) (segments : List Segment) (begun : List (Work V × RequestMessage)) : Prop where
  connection : x.server.connection = some c
  hears : c.deaf = false
  output : c.output = Connection.numbered (segments.flatMap Segment.messages)
  intake : Intake x c texts rest
  tally : Tally h x.server.tasks (texts.filterMap Server.request?) segments begun

/-- There is an account of what a service has done. -/
abbrev Service.Accounted (h : Handler V) (x : Service V) : Prop :=
  ∃ c texts rest segments begun, Account h x c texts rest segments begun

namespace Account

open Service (Accounted)

variable {x : Service V} {s' : Server V} {c : Connection} {texts : List String} {rest : Bytes}

theorem accounted (account : Account h x c texts rest segments begun) : Accounted h x :=
  ⟨c, texts, rest, segments, begun, account⟩

/-- What the server has become, where the client has got nothing new. -/
private theorem same_client {f : Connection → Connection}
    (account : Account h x c texts rest segments begun)
    (turned : Server.Turned h w others x.server s')
    (client : (x.server.outcome h w).client = f) : s'.connection = some (f c) := by
  rw [turned.connection, account.connection, client]
  rfl

/-- A task goes on with an answer. -/
theorem continues (account : Account h x c texts rest segments begun)
    (turned : Server.Turned h w others x.server s')
    (next : (x.server.outcome h w).next = [w']) (client : (x.server.outcome h w).client = id)
    (answers : w.answers = true) (answers' : w'.answers = true) (role : w'.role = w.role)
    (about : ∀ m, w.About h m → w'.About h m) :
    Accounted h { x with server := s' } := by
  have after := turned.after
  rw [next] at after
  have mem : w ∈ x.server.tasks := turned.before.mem_iff.2 List.mem_cons_self
  obtain ⟨begun, tally⟩ := (account.tally.perm turned.before.symm).continues answers answers' (by
    intro m known
    refine ⟨about m known.1, ?_⟩
    rw [role]
    exact known.2)
  refine ⟨c, texts, rest, segments, begun, account.same_client turned client, account.hears,
    account.output, ?_, tally.perm after⟩
  by_cases reader : w.role = .reader
  · have going := account.intake.going mem reader
    obtain ⟨input, ended⟩ := account.intake.input going
    have reads : w'.reads = true := Work.reads_of_answers answers' (role.trans reader)
    exact .goesOn account.intake.sent after List.mem_cons_self (role.trans reader) (.inl reads)
      input ended going
  · refine account.intake.aside turned.before after reader ?_ rfl rfl rfl
    intro v mem
    rw [List.mem_singleton.1 mem, role]
    exact reader

/-- What comes of an answer goes on with it. -/
theorem answers (account : Account h x c texts rest segments begun)
    (turned : Server.Turned h w others x.server s') {asker : Asker} {y : Step (Session V) Reply}
    (outcome : x.server.outcome h w = .ofAnswer asker y) (answers : w.answers = true)
    (role : w.role = asker.role)
    (gives : ∀ m, w.About h m → ∀ r, y.Gives r → (h.respond m).Gives r) :
    Accounted h { x with server := s' } := by
  have client : (x.server.outcome h w).client = id := by
    rw [outcome]
    exact Outcome.ofAnswer_client asker y
  cases y with
  | wait deadline ready session resume =>
    have next : (x.server.outcome h w).next = [.answering asker ⟨deadline, ready, resume⟩] := by
      rw [outcome]
      rfl
    exact account.continues turned next client answers rfl role.symm fun m about s r later =>
      gives m about r (.wait _ _ _ s later)
  | done r session =>
    have next : (x.server.outcome h w).next = [.send r asker] := by
      rw [outcome]
      rfl
    exact account.continues turned next client answers rfl role.symm fun m about =>
      gives m about r (.done r session)

/-- The pump has told of events. -/
theorem pumps (account : Account h x c texts rest segments begun)
    (turned : Server.Turned h w others x.server s') {y : Step (Session V) Bool}
    (outcome : x.server.outcome h w = .ofPump y) (apart : w.answers = false)
    (role : w.role ≠ .reader) :
    Accounted h { x with server := s' } := by
  obtain ⟨session, client⟩ : ∃ session : Session V, (x.server.outcome h w).client =
      fun c => c.posts (session.pending.map Outgoing.event) := by
    rw [outcome]
    exact ⟨_, rfl⟩
  have next : ∀ v ∈ (x.server.outcome h w).next, v.answers = false ∧ v.role ≠ .reader := by
    rw [outcome]
    intro v mem
    cases y with
    | wait deadline ready session resume =>
      obtain rfl := List.mem_singleton.1 mem
      exact ⟨rfl, nofun⟩
    | done isOver session =>
      cases isOver with
      | true => cases mem
      | false =>
        obtain rfl := List.mem_singleton.1 mem
        exact ⟨rfl, nofun⟩
  have posts := Connection.posts_eq account.hears account.output
    (session.pending.map Outgoing.event)
  have tally := (account.tally.perm turned.before.symm).aside apart fun v mem => (next v mem).1
  refine ⟨_, texts, rest, segments ++ [.events session.pending], begun,
    account.same_client turned client, ?_, ?_, ?_, (tally.perm turned.after).told _⟩
  · rw [posts]
    exact account.hears
  · rw [posts]
    simp [Segment.messages]
  · have roles := fun v mem => (next v mem).2
    refine account.intake.aside turned.before turned.after role roles ?_ ?_ ?_
    all_goals rw [posts]

/-- A task sends its reply. -/
theorem sends (account : Account h x c texts rest segments begun)
    (staffed : Service.Staffed x.server) {r : Reply} {asker : Asker}
    (turned : Server.Turned h (.send r asker) others x.server s') :
    Accounted h { x with server := s' } := by
  have mem : .send r asker ∈ x.server.tasks := turned.before.mem_iff.2 List.mem_cons_self
  obtain ⟨m, begun, tally⟩ :=
    (account.tally.perm turned.before.symm).sends (staffed.alone turned.before)
  have posts := Connection.posts_eq account.hears account.output (Segment.reply m r).messages
  have connection : s'.connection = some (c.posts (Segment.reply m r).messages) :=
    account.same_client turned rfl
  rw [posts] at connection
  refine ⟨_, texts, rest, segments ++ [.reply m r], begun, connection, account.hears, by simp, ?_,
    ?_⟩
  · cases asker with
    | reader =>
      have going := account.intake.going mem rfl
      obtain ⟨input, ended⟩ := account.intake.input going
      have next : Work.read ∈ [(Work.read : Work V)] := List.mem_cons_self
      exact .goesOn account.intake.sent turned.after next rfl (.inl rfl) input ended going
    | evaluation number =>
      exact account.intake.aside turned.before turned.after nofun nofun rfl rfl rfl
  · refine Tally.perm ?_ turned.after
    cases asker with
    | reader => exact { tally with tasks := tally.tasks }
    | evaluation number => exact tally

/-- What has come to an end of the reading goes on so. -/
private theorem stopped (account : Account h x c texts rest segments begun)
    (staffed : Service.Staffed x.server) (mem : w ∈ x.server.tasks) (reader : w.role = .reader)
    (ends : w.reads = false) : Stopped x.ended rest := by
  obtain ⟨v, mem', reader', reads⟩ := account.intake.reading (account.intake.going mem reader)
  obtain rfl := staffed.unique mem mem' (reader.trans reader'.symm)
  rcases reads with reads | stopped
  · rw [ends] at reads
    cases reads
  · exact stopped

/-- The reader has come to where it reads no more. -/
private theorem stops (account : Account h x c texts rest segments begun)
    (turned : Server.Turned h w others x.server s')
    (next : (x.server.outcome h w).next = [w']) (error : Option SessionError → Option SessionError)
    (client : (x.server.outcome h w).client = fun c => { c with error := error c.error })
    (reader : w.role = .reader) (apart : w.answers = false) (reader' : w'.role = .reader)
    (apart' : w'.answers = false) (stopped : Stopped x.ended rest) :
    Accounted h { x with server := s' } := by
  have mem : w ∈ x.server.tasks := turned.before.mem_iff.2 List.mem_cons_self
  have after := turned.after
  rw [next] at after
  have going := account.intake.going mem reader
  obtain ⟨input, ended⟩ := account.intake.input going
  have tally := (account.tally.perm turned.before.symm).aside apart fun v (mem : v ∈ [w']) =>
    (List.mem_singleton.1 mem) ▸ apart'
  exact ⟨_, texts, rest, segments, begun, account.same_client turned client, account.hears,
    account.output,
    .goesOn account.intake.sent after List.mem_cons_self reader' (.inr stopped) input ended going,
    tally.perm after⟩

/-- The end of a session takes its time. -/
private theorem closes (account : Account h x c texts rest segments begun)
    (turned : Server.Turned h w others x.server s') {y : Step (Session V) Unit}
    (next : (x.server.outcome h w).next = (Outcome.ofClosing y).next)
    (error : Option SessionError → Option SessionError)
    (client : (x.server.outcome h w).client = fun c => { c with error := error c.error })
    (reader : w.role = .reader) (apart : w.answers = false) (stopped : Stopped x.ended rest) :
    Accounted h { x with server := s' } := by
  cases y with
  | wait deadline ready session resume =>
    exact account.stops turned next error client reader apart rfl rfl stopped
  | done _ session => exact account.stops turned next error client reader apart rfl rfl stopped

private theorem stopsReading (account : Account h x c texts rest segments begun)
    (turned : Server.Turned h .read others x.server s') {error : Option SessionError}
    (outcome : x.server.outcome h .read = Server.readOutcome.stopped x.server error)
    (stopped : Stopped x.ended rest) :
    Accounted h { x with server := s' } := by
  have client : (x.server.outcome h .read).client = fun c => { c with error } := by
    rw [outcome]
    rfl
  by_cases past : x.server.session.cancelled = true
  · have next : (x.server.outcome h .read).next = [.join] := by
      rw [outcome]
      simp [Server.readOutcome.stopped, past]
    exact account.stops turned next (fun _ => error) client rfl rfl rfl rfl stopped
  · have next : (x.server.outcome h .read).next =
        (Outcome.ofClosing (Session.disconnect false x.server.session)).next := by
      rw [outcome]
      simp [Server.readOutcome.stopped, past]
    exact account.closes turned next (fun _ => error) client rfl rfl stopped

/-- The reader takes a message; a request is then answered. -/
private theorem takes (account : Account h x c texts rest segments begun)
    (turned : Server.Turned h .read others x.server s') {text : String} {later : Bytes}
    (found : Framing.read x.ended rest = .message text later)
    (outcome : x.server.outcome h .read =
      { Outcome.ofText x.server.evaluations x.server.session text with
        client := fun c => { c with input := later } }) :
    Accounted h { x with server := s' } := by
  have mem : .read ∈ x.server.tasks := turned.before.mem_iff.2 List.mem_cons_self
  have going := account.intake.going mem rfl
  obtain ⟨-, ended⟩ := account.intake.input going
  have sent := account.intake.sent.concat (read_message found)
  have client : (x.server.outcome h .read).client = fun c => { c with input := later } := by
    rw [outcome]
  have connection := account.same_client turned client
  have before := account.tally.perm turned.before.symm
  have reads : ∀ v ∈ [(.read : Work V)], v.answers = false := fun v mem =>
    List.mem_singleton.1 mem ▸ rfl
  have after := turned.after
  rw [outcome] at after
  unfold Outcome.ofText at after
  have requests : (texts ++ [text]).filterMap Server.request? =
      texts.filterMap Server.request? ++ (Server.request? text).toList := by
    cases known : Server.request? text <;> simp [known]
  cases known : Server.request? text with
  | none =>
    rw [known] at after requests
    rw [Option.toList_none, List.append_nil] at requests
    refine ⟨_, texts ++ [text], later, segments, begun, connection, account.hears, account.output,
      ?_, ?_⟩
    · exact .goesOn sent after List.mem_cons_self rfl (.inl rfl) rfl ended going
    · rw [requests]
      exact (before.aside rfl reads).perm after
  | some m =>
    rw [known] at after requests
    rw [Option.toList_some] at requests
    by_cases evaluation : m.command = "evaluate"
    · simp only [if_pos evaluation] at after
      have answers : (Work.evaluate m x.server.evaluations).Answers h m :=
        ⟨rfl, by simp [Work.role, RequestMessage.isEvaluation, evaluation]⟩
      have tally := ((before.aside rfl reads).begins rfl answers).perm (after.trans (.swap ..))
      rw [← requests] at tally
      exact ⟨_, texts ++ [text], later, segments, _, connection, account.hears, account.output,
        .goesOn sent after List.mem_cons_self rfl (.inl rfl) rfl ended going, tally⟩
    · simp only [if_neg evaluation] at after
      have answers : (Work.answer m .reader).Answers h m :=
        ⟨rfl, by simp [Work.role, Asker.role, RequestMessage.isEvaluation, evaluation]⟩
      have none : ∀ v ∈ ([] : List (Work V)), v.answers = false := nofun
      have tally := ((before.aside rfl none).begins rfl answers).perm after
      rw [← requests] at tally
      exact ⟨_, texts ++ [text], later, segments, _, connection, account.hears, account.output,
        .goesOn sent after List.mem_cons_self rfl (.inl rfl) rfl ended going, tally⟩

/-- The reader takes a message if there is one. -/
private theorem reads (account : Account h x c texts rest segments begun)
    (turned : Server.Turned h .read others x.server s') :
    Accounted h { x with server := s' } := by
  have mem : .read ∈ x.server.tasks := turned.before.mem_iff.2 List.mem_cons_self
  have going := account.intake.going mem rfl
  obtain ⟨input, ended⟩ := account.intake.input going
  have reading : x.server.reading = Framing.read x.ended rest := by
    simp [Server.reading, account.connection, Connection.reading, input, ended]
  cases found : Framing.read x.ended rest with
  | message text later =>
    exact account.takes turned found (by
      simp [Server.outcome, Server.readOutcome, reading, found])
  | failed e =>
    have outcome : x.server.outcome h .read = Server.readOutcome.stopped x.server (some e) := by
      simp [Server.outcome, Server.readOutcome, reading, found]
    exact account.stopsReading turned outcome (stopped_of_failed found)
  | ended =>
    have outcome : x.server.outcome h .read = Server.readOutcome.stopped x.server none := by
      simp [Server.outcome, Server.readOutcome, reading, found]
    exact account.stopsReading turned outcome (stopped_of_ended found)
  | incomplete =>
    have outcome : x.server.outcome h .read =
        { next := [.read], session := x.server.session } := by
      simp [Server.outcome, Server.readOutcome, reading, found]
    have after := turned.after
    rw [outcome] at after
    have client : (x.server.outcome h .read).client = id := by rw [outcome]
    have apart : ∀ v ∈ [(.read : Work V)], v.answers = false := fun v mem =>
      List.mem_singleton.1 mem ▸ rfl
    have tally := (account.tally.perm turned.before.symm).aside rfl apart
    exact ⟨c, texts, rest, segments, begun, account.same_client turned client, account.hears,
      account.output, .goesOn account.intake.sent after List.mem_cons_self rfl (.inl rfl) input
        ended going, tally.perm after⟩

/-- A turn keeps the account. -/
theorem turned (account : Account h x c texts rest segments begun)
    (staffed : Service.Staffed x.server) (turned : Server.Turned h w others x.server s') :
    Accounted h { x with server := s' } := by
  have mem : w ∈ x.server.tasks := turned.before.mem_iff.2 List.mem_cons_self
  cases w with
  | pump who => exact account.pumps turned rfl rfl nofun
  | pumping who paused => exact account.pumps turned rfl rfl nofun
  | read => exact account.reads turned
  | evaluate m number => exact account.continues turned rfl rfl rfl rfl rfl fun _ same => same
  | answer m asker =>
    refine account.answers turned rfl rfl rfl ?_
    rintro _ rfl r gives
    exact ⟨_, gives⟩
  | answering asker paused =>
    exact account.answers turned rfl rfl rfl fun m about r gives => about _ r gives
  | send r asker => exact account.sends staffed turned
  | closing paused =>
    have stopped := account.stopped staffed mem rfl rfl
    have client : (x.server.outcome h (.closing paused)).client = id :=
      Outcome.ofClosing_client _
    exact account.closes turned rfl id client rfl rfl stopped
  | join =>
    have stopped := account.stopped staffed mem rfl rfl
    have alone := staffed.alone turned.before
    have none : ∀ v ∈ ([] : List (Work V)), v.answers = false := nofun
    have tally := (account.tally.perm turned.before.symm).aside rfl none
    refine ⟨_, texts, rest, segments, begun, account.same_client turned rfl, account.hears,
      account.output, ⟨account.intake.sent, nofun, nofun, fun _ => ⟨?_, stopped⟩⟩,
      tally.perm turned.after⟩
    exact fun v mem => alone v (turned.after.mem_iff.1 mem)

/-- Where no task has had a turn and the client has done nothing, the account stays. -/
private theorem stood (account : Account h x c texts rest segments begun)
    (became : Server.Became x.server s' []) (connection : s'.connection = x.server.connection) :
    Account h { x with server := s' } c texts rest segments begun := by
  refine ⟨connection.trans account.connection, account.hears, account.output,
    ⟨account.intake.sent, account.intake.input, ?_, ?_⟩, account.tally.perm became.tasks⟩
  · intro going
    obtain ⟨v, mem, reader, reads⟩ := account.intake.reading going
    exact ⟨v, became.tasks.mem_iff.2 mem, reader, reads⟩
  · intro past
    obtain ⟨gone, stopped⟩ := account.intake.finished past
    exact ⟨fun v mem => gone v (became.tasks.mem_iff.1 mem), stopped⟩

private theorem receives (account : Account h x c texts rest segments begun)
    (more : x.ended = false) (bytes : Bytes) :
    Accounted h { x with server := (x.server.receive bytes).2, sent := x.sent ++ bytes } := by
  have stopped : Stopped x.ended rest → Stopped x.ended (rest ++ bytes) := by
    rw [more]
    exact fun stopped => stopped.append bytes
  have sent : Passes (x.sent ++ bytes) texts (rest ++ bytes) := account.intake.sent.append
  by_cases past : c.finished = true
  · have deaf : (x.server.receive bytes).2 = x.server := by
      simp [Server.receive, account.connection, Connection.isOpen, past]
    rw [deaf]
    obtain ⟨gone, done⟩ := account.intake.finished past
    refine ⟨c, texts, rest ++ bytes, segments, begun, account.connection, account.hears,
      account.output,
      ⟨sent, ?_, ?_, fun _ => ⟨gone, stopped done⟩⟩, account.tally⟩
    all_goals
      intro going
      rw [past] at going
      cases going
  · have going : c.finished = false := by simpa using past
    obtain ⟨input, ended⟩ := account.intake.input going
    have took : (x.server.receive bytes).2 =
        (x.server.modifyConnection fun c => { c with input := c.input ++ bytes }).wake := by
      simp [Server.receive, account.connection, Connection.isOpen, going, ended, more]
    have became := (Server.stood_modify (s := x.server)
      fun c => { c with input := c.input ++ bytes }).became
    rw [took]
    refine ⟨{ c with input := c.input ++ bytes }, texts, rest ++ bytes, segments, begun, ?_,
      account.hears, account.output,
      ⟨sent, fun _ => ⟨by rw [input], ended⟩, fun _ => ?_, fun past' => absurd past' past⟩,
      account.tally.perm became.tasks⟩
    · simp [Server.modifyConnection, account.connection]
    · obtain ⟨v, mem, reader, reads⟩ := account.intake.reading going
      exact ⟨v, became.tasks.mem_iff.2 mem, reader, reads.imp_right stopped⟩

private theorem closed (account : Account h x c texts rest segments begun) :
    Accounted h { x with server := x.server.endInput, ended := true } := by
  have became := (Server.stood_modify (s := x.server) fun c => { c with ended := true }).became
  refine ⟨{ c with ended := true }, texts, rest, segments, begun, ?_, account.hears, account.output,
    ⟨account.intake.sent, fun going => ⟨(account.intake.input going).1, rfl⟩, ?_, ?_⟩,
    account.tally.perm became.tasks⟩
  · simp [Server.endInput, Server.modifyConnection, account.connection]
  · intro going
    obtain ⟨v, mem, reader, reads⟩ := account.intake.reading going
    exact ⟨v, became.tasks.mem_iff.2 mem, reader, reads.imp_right Stopped.close⟩
  · intro past
    obtain ⟨gone, stopped⟩ := account.intake.finished past
    exact ⟨fun v mem => gone v (became.tasks.mem_iff.1 mem), stopped.close⟩

/-- Whatever happens, there is an account of it. -/
theorem after (account : Account h x c texts rest segments begun)
    (staffed : Service.Staffed x.server) (a : Service.Act V) :
    Accounted h (x.after h a) := by
  cases a with
  | turn role =>
    rcases Service.turn_cases (h := h) staffed role with ⟨w, others, -, -, turned⟩ | same
    · exact account.turned staffed turned
    · rw [same]
      exact account.accounted
  | send bytes =>
    by_cases ended : x.ended = true
    · simp only [Service.after, if_pos ended]
      exact account.accounted
    · simp only [Service.after, if_neg ended]
      exact account.receives (by simpa using ended) bytes
  | close => exact account.closed
  | time time =>
    have same := Server.stood_wake (Ambient.advance time x.server.session)
    exact (account.stood same.became rfl).accounted
  | debuggee machine =>
    have same : Discreet x.server.session { x.server.session with machine } := ⟨rfl, id⟩
    exact (account.stood (Server.stood_wake same).became rfl).accounted
  | settings settings =>
    exact (account.stood (Server.stood_configure settings).became
      (Server.configure_connection settings)).accounted

theorem start (session : Session V) :
    Account h (Service.start session) {} [] [] [] [] := by
  refine ⟨rfl, rfl, rfl, ⟨.nil [], fun _ => ⟨rfl, rfl⟩, fun _ => ?_, nofun⟩, ?_⟩
  · exact ⟨.read, List.mem_cons_of_mem _ List.mem_cons_self, rfl, .inl rfl⟩
  · exact ⟨.refl _, nofun, .refl _, rfl, nofun⟩

end Account

end

end DebugSession
