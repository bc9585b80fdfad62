import DebugSession.Proofs.Answering
import Mathlib.Data.List.Nodup
/-!
Computations that do not wait for each other in vain. Each asks for some things only, of those that
one at a time can have, and leaves alone whoever has asked for others. While others do the same, it
waits for calls, which end by themselves, or for something that comes when the session is over.
-/

namespace DebugSession

/-! ## The line -/

def Shared.isEvents : Shared → Bool
  | .events => true
  | _ => false

namespace Line

/-- Who comes later has a greater number. -/
def Ordered (l : Line) : Prop := (l.entries.map Prod.snd).Pairwise (· < ·)

/-- Those who ask for such things as `own` holds of. -/
def part (own : Shared → Bool) (l : Line) : List (Shared × Nat) := l.entries.filter fun e => own e.1

variable {l l' : Line} {own own' : Shared → Bool} {what : Shared} {number : Nat}

theorem Ordered.lt_nextNumber (h : l.Ordered) : ∀ e ∈ l.entries, e.2 < l.nextNumber := by
  rcases List.eq_nil_or_concat l.entries with none | ⟨front, last, same⟩
  · simp [none]
  · unfold Ordered at h
    simp only [same, List.concat_eq_append, List.map_append, List.pairwise_append, List.mem_map,
      List.map_cons, List.map_nil, List.mem_singleton] at h
    have next : l.nextNumber = last.2 + 1 := by simp [nextNumber, same]
    intro e he
    rw [same, List.concat_eq_append, List.mem_append, List.mem_singleton] at he
    rw [next]
    rcases he with he | rfl
    · have := h.2.2 e.2 ⟨e, he, rfl⟩ last.2 rfl
      omega
    · omega

theorem Ordered.join (h : l.Ordered) : (l.join what).2.Ordered := by
  unfold Ordered Line.join
  rw [List.map_append, List.pairwise_append]
  refine ⟨h, List.pairwise_singleton .., ?_⟩
  intro n hn m hm
  obtain ⟨e, he, rfl⟩ := List.mem_map.1 hn
  obtain rfl := List.mem_singleton.1 hm
  exact h.lt_nextNumber e he

theorem Ordered.leave (h : l.Ordered) : (l.leave number).Ordered :=
  List.Pairwise.sublist (List.filter_sublist.map Prod.snd) h

/-- A number stands for one place in the line. -/
theorem Ordered.unique (h : l.Ordered) {e e' : Shared × Nat} (he : e ∈ l.entries)
    (he' : e' ∈ l.entries) (same : e.2 = e'.2) : e = e' := by
  have distinct : (l.entries.map Prod.snd).Nodup := h.imp Nat.ne_of_lt
  exact List.inj_on_of_nodup_map distinct he he' same

theorem part_join : (l.join what).2.part own =
    l.part own ++ if own what then [(what, (l.join what).1)] else [] := by
  unfold part join
  rw [List.filter_append]
  congr 1
  by_cases mine : own what = true <;> simp [mine]

theorem part_leave : (l.leave number).part own = (l.part own).filter fun e => e.2 ≠ number := by
  unfold part leave
  simp only [List.filter_filter, Bool.and_comm]

/-- Who leaves the line does not move those who ask for other things. -/
theorem Ordered.part_leave_of_ne (h : l.Ordered) (mem : (what, number) ∈ l.entries)
    (other : own what = false) : (l.leave number).part own = l.part own := by
  rw [part_leave, List.filter_eq_self]
  intro e he
  obtain ⟨there, mine⟩ := List.mem_filter.1 he
  refine decide_eq_true fun same => ?_
  obtain rfl := h.unique there mem same
  rw [other] at mine
  cases mine

theorem ne_of_free (free : l.part own = []) (mine : own what = true) {e : Shared × Nat}
    (he : e ∈ l.entries) : e.1 ≠ what := by
  rintro rfl
  have there : e ∈ l.part own := List.mem_filter.2 ⟨he, mine⟩
  rw [free] at there
  cases there

theorem part_of_part (less : ∀ x, own' x = true → own x = true)
    (h : l'.part own = l.part own) : l'.part own' = l.part own' := by
  have within : ∀ l : Line, l.part own' = (l.part own).filter fun e => own' e.1 := by
    intro l
    unfold part
    rw [List.filter_filter]
    refine List.filter_congr fun e _ => ?_
    by_cases mine : own' e.1 = true
    · simp [mine, less _ mine]
    · simp [mine]
  rw [within, within, h]

end Line

/-! ## Waiting -/

variable {V α β ε ε' : Type} {own : Shared → Bool} {due : Session V → Prop}

/-- What a computation may do that asks for such things as `own` holds of. -/
structure Civil (own : Shared → Bool) (s s' : Session V) : Prop where
  ordered : s'.line.Ordered
  others : s'.line.part (fun x => !own x) = s.line.part fun x => !own x
  past : s.cancelled = true → s'.cancelled = true

/-- What others may do to it while it waits. -/
structure Undisturbed (own : Shared → Bool) (s now : Session V) : Prop where
  ordered : now.line.Ordered
  part : now.line.part own = s.line.part own

theorem Civil.trans {s s' s'' : Session V} (h : Civil own s s') (h' : Civil own s' s'') :
    Civil own s s'' := ⟨h'.ordered, h'.others.trans h.others, h'.past ∘ h.past⟩

theorem Civil.undisturbed {own' : Shared → Bool} {s s' : Session V} (h : Civil own s s')
    (apart : ∀ x, own' x = true → own x = false) : Undisturbed own' s s' :=
  ⟨h.ordered, Line.part_of_part (fun x mine => by simp [apart x mine]) h.others⟩

/-- Who begins to ask for something leaves the others alone. -/
theorem Civil.enter {s : Session V} {what : Shared} {number : Nat} {line : Line}
    (ordered : s.line.Ordered) (free : s.line.part own = []) (mine : own what = true)
    (joined : s.line.join what = (number, line)) :
    Civil own s { s with line } ∧ line.part own = [(what, number)] := by
  have parts : ∀ own : Shared → Bool, (s.line.join what).2.part own =
      s.line.part own ++ if own what then [(what, (s.line.join what).1)] else [] :=
    fun _ => Line.part_join
  have entered := parts own
  have others := parts fun x => !own x
  have ordered' : (s.line.join what).2.Ordered := ordered.join
  rw [joined] at entered others ordered'
  refine ⟨⟨ordered', ?_, id⟩, ?_⟩
  · simpa [mine] using others
  · simpa [mine, free] using entered

/-- So does who asks no longer. -/
theorem Civil.leave {s : Session V} {what : Shared} {number : Nat} (ordered : s.line.Ordered)
    (mine : own what = true) (has : s.line.part own = [(what, number)]) :
    Civil own s { s with line := s.line.leave number } ∧ (s.line.leave number).part own = [] := by
  have mem : (what, number) ∈ s.line.entries := by
    have there : (what, number) ∈ s.line.part own := by simp [has]
    exact (List.mem_filter.1 there).1
  refine ⟨⟨ordered.leave, ordered.part_leave_of_ne mem (by simp [mine]), id⟩, ?_⟩
  simp [Line.part_leave, has]

/-- What leaves the line as it is, and does not undo the end of the session. -/
structure Discreet (s s' : Session V) : Prop where
  line : s'.line = s.line
  past : s.cancelled = true → s'.cancelled = true

instance : Composes (Discreet (V := V)) where
  refl _ := ⟨rfl, id⟩
  trans h h' := ⟨h'.line.trans h.line, h'.past ∘ h.past⟩

instance : Ambient (Discreet (V := V)) where
  advance _ _ := ⟨rfl, id⟩
  cancel _ := ⟨rfl, fun _ => rfl⟩

instance [Machine V] : Announces (Discreet (V := V)) where
  call _ := Session.allows_of_parts (fun _ => ⟨rfl, id⟩) (fun _ => ⟨rfl, id⟩) fun _ _ => ⟨rfl, id⟩
  aside same := by
    simp only [Session.heeded, Prod.mk.injEq] at same
    obtain ⟨⟨-, -, gone, line, -⟩, -⟩ := same
    exact ⟨line, fun past => gone.trans past⟩
  started _ _ _ := ⟨rfl, id⟩
  died _ _ := ⟨rfl, id⟩
  announce _ _ := ⟨rfl, id⟩

theorem Discreet.civil {s s' : Session V} (h : Discreet s s') (ordered : s.line.Ordered) :
    Civil own s s' := ⟨h.line ▸ ordered, by rw [h.line], h.past⟩

namespace Step

/-- A computation that waits until a deadline, or else for what is there when the session is `due`,
and in the end has seen to it that `Q`. -/
def Timely (own : Shared → Bool) (due : Session V → Prop) (Q : α → Session V → Prop) :
    Step (Session V) α → Session V → Prop
  | done a s', s => Civil own s s' ∧ Q a s'
  | wait time ready s' resume, s =>
    Civil own s s' ∧ (∀ now, due now → (∀ t ∈ time, t ≤ now.clock) → ready now = true) ∧
      ∀ now, Undisturbed own s' now → (resume now).Timely own due Q now

variable {Q : α → Session V → Prop} {x : Step (Session V) α} {s s' : Session V}

theorem Timely.after (first : Civil own s s') (h : x.Timely own due Q s') :
    x.Timely own due Q s := by
  cases x with
  | done a s'' => exact ⟨first.trans h.1, h.2⟩
  | wait time ready s'' resume => exact ⟨first.trans h.1, h.2⟩

theorem Timely.bind {Q' : β → Session V → Prop} {f : α → Session V → Step (Session V) β}
    (h : x.Timely own due Q s)
    (rest : ∀ a s', s'.line.Ordered → Q a s' → (f a s').Timely own due Q' s') :
    (x.bind f).Timely own due Q' s := by
  induction x generalizing s with
  | done a s' => exact (rest a s' h.1.ordered h.2).after h.1
  | wait time ready s' resume ih => exact ⟨h.1, h.2.1, fun now same => ih now (h.2.2 now same)⟩

theorem Timely.mono {Q' : α → Session V → Prop} (h : x.Timely own due Q s)
    (more : ∀ a s', Q a s' → Q' a s') : x.Timely own due Q' s := by
  induction x generalizing s with
  | done a s' => exact ⟨h.1, more a s' h.2⟩
  | wait time ready s' resume ih => exact ⟨h.1, h.2.1, fun now same => ih now (h.2.2 now same)⟩

/-- What never stands in line waits for calls only. -/
theorem Moves.timely (h : x.Moves Discreet s) (ordered : s.line.Ordered)
    {part : List (Shared × Nat)} (mine : s.line.part own = part) :
    x.Timely own due (fun _ s' => s'.line.part own = part) s := by
  induction x generalizing s with
  | done a s' =>
    have same : s'.line = s.line := h.line
    exact ⟨Discreet.civil h ordered, (congrArg (Line.part own) same).trans mine⟩
  | wait time ready s' resume ih =>
    obtain ⟨first, waits, resumes⟩ := h
    refine ⟨first.civil ordered, ?_, ?_⟩
    · intro now _ reached
      cases time with
      | some t => exact waits now (reached t rfl)
      | none =>
        -- Such a wait would let the line change.
        have same := (waits s' ⟨(.lines, 0) :: s'.line.entries⟩).line
        have longer := congrArg (fun l => l.entries.length) same
        simp at longer
    · intro now undisturbed
      refine ih now (resumes now) undisturbed.ordered ?_
      rw [undisturbed.part, first.line, mine]

end Step

/-- A computation that, where nobody asks for its things, waits as it should and leaves it so. -/
structure Task.Timely (own : Shared → Bool) (due : Session V → Prop) (x : Task (Session V) α) :
    Prop where
  step : ∀ s, s.line.Ordered → s.line.part own = [] →
    (x s).Timely own due (fun _ s' => s'.line.part own = []) s

/-- The same of a computation that may fail. -/
def Punctual (own : Shared → Bool) (due : Session V → Prop)
    (x : ExceptT ε (Task (Session V)) α) : Prop := Task.Timely own due x.run

namespace Task.Timely

theorem of_moves {x : Task (Session V) α} (h : Moves Discreet x) : Timely own due x :=
  ⟨fun s ordered free => (h.step s).timely ordered free⟩

theorem pure (a : α) : Timely own due (pure a : Task (Session V) α) := of_moves (.pure a)

theorem bind {x : Task (Session V) α} {f : α → Task (Session V) β} (h : Timely own due x)
    (rest : ∀ a, Timely own due (f a)) : Timely own due (x >>= f) :=
  ⟨fun s ordered free => (h.step s ordered free).bind fun a s' ordered free =>
    (rest a).step s' ordered free⟩

/-- Where nobody has asked for a thing before, it can be had at once. -/
theorem exclusively {what : Shared} {x : Task (Session V) α} (mine : own what = true)
    (h : Moves Discreet x) : Timely own due (Session.exclusively what x) := by
  refine ⟨?_⟩
  intro s ordered free
  obtain ⟨number, line, joined⟩ : ∃ number line, s.line.join what = (number, line) := ⟨_, _, rfl⟩
  obtain ⟨entry, entered⟩ := Civil.enter ordered free mine joined
  have first : line.isFirst what number = true := by
    have := Line.isFirst_join fun e he => Line.ne_of_free free mine he
    rwa [joined] at this
  have awaited : Task.await (fun s => s.line.isFirst what number) { s with line } =
      .done () { s with line } := if_pos first
  have parts : Session.exclusively what x s = (Task.await
      (fun s' => s'.line.isFirst what (s.line.join what).1)
      { s with line := (s.line.join what).2 }).bind fun _ s' => (x s').bind fun a s' =>
        .done a { s' with line := s'.line.leave (s.line.join what).1 } := rfl
  rw [parts, joined]
  dsimp only
  rw [awaited, Step.bind]
  refine Step.Timely.after entry (((h.step _).timely entry.ordered entered).bind ?_)
  intro a s' ordered' has
  exact Civil.leave ordered' mine has

end Task.Timely

namespace Punctual

theorem of_stirs {x : ExceptT ε (Task (Session V)) α} (h : Stirs Discreet x) : Punctual own due x :=
  .of_moves h

theorem bind {x : ExceptT ε (Task (Session V)) α} {f : α → ExceptT ε (Task (Session V)) β}
    (h : Punctual own due x) (rest : ∀ a, Punctual own due (f a)) :
    Punctual own due (x >>= f) := by
  unfold Punctual
  rw [ExceptT.run_bind]
  refine Task.Timely.bind h ?_
  intro r
  cases r with
  | ok a => exact rest a
  | error e => exact .pure _

theorem adapt (wrap : ε' → ε) {x : ExceptT ε' (Task (Session V)) α} (h : Punctual own due x) :
    Punctual own due (ExceptT.adapt wrap x) := by
  unfold Punctual ExceptT.adapt
  rw [ExceptT.run_mk, map_eq_pure_bind]
  exact Task.Timely.bind h fun _ => .pure _

theorem quietly {x : Task (Session V) α} (h : Task.Timely own due x) :
    Punctual own due (DebugSession.quietly x : ExceptT ε (Task (Session V)) α) := by
  unfold Punctual DebugSession.quietly
  rw [ExceptT.run_lift, map_eq_pure_bind]
  exact h.bind fun _ => .pure _

theorem exclusively {what : Shared} {x : Action V α} (mine : own what = true)
    (h : Stirs Discreet x) : Punctual own due (Action.exclusively what x) :=
  Task.Timely.exclusively mine h

end Punctual

namespace Session

variable [Machine V]

/-! ## Requests -/

/-- What requests may ask for: all but the events. -/
def forRequests (what : Shared) : Bool := !what.isEvents

private theorem removeBreakpoints_timely :
    Task.Timely forRequests due (removeBreakpoints : Task (Session V) _) :=
  .bind (.exclusively rfl giveUpLines_moves) fun gone =>
    .bind (.of_moves (deleteGivenUp_moves gone)) fun _ =>
      .bind (.exclusively rfl giveUpFields_moves) fun gone =>
        .bind (.of_moves (deleteGivenUp_moves gone)) fun _ =>
          .exclusively rfl removeExceptionRequest_moves

private theorem allResumed_discreet (s : Session V) : Discreet s (allResumed s) :=
  allResumed_changes s

private theorem dispose_discreet : Task.Moves Discreet (dispose : Task (Session V) _) :=
  .bind (Heeds.call _) fun _ => .bind (.modify Ambient.cancel) fun _ => .pure _

/-- A session that is ended is over. -/
theorem disconnect_timely (terminate : Bool) {s : Session V} (ordered : s.line.Ordered)
    (free : s.line.part forRequests = []) :
    (disconnect terminate s).Timely forRequests due
      (fun _ s' => s'.line.part forRequests = [] ∧ s'.cancelled = true) s := by
  have parts : disconnect terminate = (do
      dropAllSteps
      removeBreakpoints
      modify allResumed
      if terminate then dispose else tryCall .resumeAll : Task (Session V) _) >>= fun _ =>
        modify cancel := by
    cases terminate <;> simp [disconnect, bind_assoc]
  have first : Task.Timely forRequests due (do
      dropAllSteps
      removeBreakpoints
      modify allResumed
      if terminate then dispose else tryCall .resumeAll : Task (Session V) _) := by
    refine .bind (.of_moves dropAllSteps_moves) fun _ => .bind removeBreakpoints_timely fun _ =>
      .bind (.of_moves (.modify allResumed_discreet)) fun _ => ?_
    split
    · exact .of_moves dispose_discreet
    · exact .of_moves (Heeds.call _)
  rw [parts]
  refine (first.step s ordered free).bind ?_
  intro _ s' ordered' free'
  exact ⟨⟨ordered', rfl, fun _ => rfl⟩, free', rfl⟩

omit [Machine V] in
private theorem asResult_punctual {x : Action V α} (f : α → Result)
    (h : Punctual forRequests due x) :
    Punctual forRequests due (ExceptT.adapt Failure.error (do return f (← x))) :=
  .adapt _ (h.bind fun _ => .of_stirs (.pure _))

/-- Answers do not wait for each other in vain. -/
theorem performAny_punctual (r : Request) :
    Punctual forRequests due (performAny r : Attempt V _) := by
  by_cases stands : r.standsInLine = true
  · cases r with
    | setBreakpoints source wanted modified =>
      exact asResult_punctual _ (.bind (.exclusively rfl (reconcileLines_stirs _ _ _)) fun _ =>
        .of_stirs (.pure _))
    | setExceptionBreakpoints filters =>
      exact asResult_punctual _ (.exclusively rfl (renewExceptionRequest_stirs _ _))
    | setDataBreakpoints wanted =>
      exact asResult_punctual _ (.bind (.exclusively rfl (reconcileFields_stirs _)) fun _ =>
        .of_stirs (.pure _))
    | getBreakpoints =>
      have listed : Task.Timely forRequests due (listBreakpoints : Task (Session V) _) :=
        .bind (.exclusively rfl (.bind .get fun _ => .pure _)) fun _ =>
          .bind (.exclusively rfl (.bind .get fun _ => .pure _)) fun _ => .pure _
      exact asResult_punctual _ (.quietly listed)
    | disconnect terminate =>
      have ended : Task.Timely forRequests due (disconnect terminate : Task (Session V) _) :=
        ⟨fun s ordered free => (disconnect_timely terminate ordered free).mono fun _ _ h => h.1⟩
      exact asResult_punctual _ (.quietly ended)
    | _ => exact absurd stands (by simp [Request.standsInLine])
  · refine .of_stirs (performAny_stirs r ?_ (fun h => absurd h stands) fun _ _ => ⟨rfl, id⟩)
    rintro terminate rfl
    exact stands rfl

theorem handle_punctual (m : Protocol.RequestMessage) :
    Punctual forRequests due (handle m : Attempt V _) := by
  unfold handle
  refine .bind (.adapt _ (.of_stirs (.liftExcept _))) fun r => performAny_punctual r

/-! ## Evaluations -/

private theorem standsInLine_of_evaluate {m : Protocol.RequestMessage} {r : Request}
    (evaluation : m.command = "evaluate") (known : Request.ofMessage m = .ok r) :
    r.standsInLine = false := by
  simp only [Request.ofMessage, evaluation] at known
  cases arguments : Request.arguments Protocol.EvaluateArguments m with
  | error e =>
    rw [arguments] at known
    cases known
  | ok a =>
    rw [arguments] at known
    cases known
    rfl

/-- An evaluation never stands in line. -/
theorem handle_discreet {m : Protocol.RequestMessage} (evaluation : m.command = "evaluate") :
    Stirs Discreet (handle m : Attempt V _) := by
  simp only [handle]
  cases known : Request.ofMessage m with
  | error e => exact Task.Moves.pure _
  | ok r =>
    have apart := standsInLine_of_evaluate evaluation known
    refine performAny_stirs r ?_ (fun h => ?_) fun _ _ => ⟨rfl, id⟩
    · rintro terminate rfl
      cases apart
    · rw [apart] at h
      cases h

/-! ## Events -/

omit [Machine V] in
private theorem terminate_discreet (s : Session V) : Discreet s (terminate s) := by
  unfold terminate
  split
  · exact Composes.refl s
  · exact ⟨rfl, fun _ => rfl⟩

/-- Who waits for an event does so until the session is over. -/
private theorem eventLine_timely :
    Task.Timely Shared.isEvents (fun s => s.cancelled = true) (do
      let number ← standInLine .events
      Task.await fun s => s.cancelled || (s.line.isFirst .events number && hasEvent s)
      leaveLine number : Task (Session V) _) := by
  refine ⟨?_⟩
  intro s ordered free
  obtain ⟨number, line, joined⟩ : ∃ number line, s.line.join .events = (number, line) :=
    ⟨_, _, rfl⟩
  obtain ⟨entry, entered⟩ := Civil.enter ordered free rfl joined
  have parts : (do
      let number ← standInLine .events
      Task.await fun s => s.cancelled || (s.line.isFirst .events number && hasEvent s)
      leaveLine number : Task (Session V) _) s = (Task.await
        (fun s' => s'.cancelled || (s'.line.isFirst .events (s.line.join .events).1 && hasEvent s'))
        { s with line := (s.line.join .events).2 }).bind fun _ s' =>
          .done () { s' with line := s'.line.leave (s.line.join .events).1 } := rfl
  rw [parts, joined]
  unfold Task.await
  split
  · exact Step.Timely.after entry (Civil.leave entry.ordered rfl entered)
  · refine ⟨entry, ?_, ?_⟩
    · intro now past _
      simp [past]
    · intro now undisturbed
      exact Civil.leave undisturbed.ordered rfl (undisturbed.part.trans entered)

omit [Machine V] in
private theorem quietly_bind (x : Task (Session V) α) (f : α → Task (Session V) β) :
    (quietly (x >>= f) : ExceptT ε (Task (Session V)) β) =
      quietly x >>= fun a => quietly (f a) := by
  apply ExceptT.ext
  simp [quietly, ExceptT.run_lift]

private theorem nextEvent_punctual :
    Punctual Shared.isEvents (fun s => s.cancelled = true) (nextEvent : Remote V _) := by
  have same : (nextEvent : Remote V _) = (do
      if (← get).cancelled then return none
      awaitEvent
      quietly (do
        let number ← standInLine .events
        Task.await fun s => s.cancelled || (s.line.isFirst .events number && hasEvent s)
        leaveLine number)
      if (← get).cancelled then return none
      quietly takeEvent) := by
    simp only [nextEvent, quietly_bind, bind_assoc]
  rw [same]
  refine .bind (.of_stirs .get) fun s => ?_
  split
  · exact .of_stirs (.pure _)
  · refine .bind (.of_stirs awaitEvent_stirs) fun _ => .bind (.quietly eventLine_timely) fun _ =>
      .bind (.of_stirs .get) fun s => ?_
    split
    · exact .of_stirs (.pure _)
    · exact .of_stirs (.quietly takeEvent_moves)

/-- The pump waits for events, until the session is over. -/
theorem pump_timely : Task.Timely Shared.isEvents (fun s => s.cancelled = true)
    (pump : Task (Session V) _) := by
  unfold pump
  refine .bind nextEvent_punctual ?_
  intro r
  split
  · exact .of_moves (pumpEvent_moves _ terminate_discreet)
  · exact .of_moves (.bind (.modify terminate_discreet) fun _ => .pure _)

/-- There is nothing more to wait for when the session is over. -/
theorem pump_over {s : Session V} (past : s.cancelled = true) : pump s = .done true s := by
  have none : (nextEvent : Remote V _).run s = .done (.ok none) s := by
    have parts : (nextEvent : Remote V _).run s = (if s.cancelled then pure none else do
      awaitEvent
      let number ← quietly (standInLine .events)
      quietly (Task.await fun s => s.cancelled || (s.line.isFirst .events number && hasEvent s))
      quietly (leaveLine number)
      if (← get).cancelled then return none
      quietly takeEvent : Remote V _).run s := rfl
    rw [parts, if_pos past]
    rfl
  have bound : ∀ f : Except RemoteError (Option VmEvent) → Task (Session V) Bool,
      (ExceptT.run nextEvent >>= f) s = f (.ok .none) s := by
    intro f
    show (((nextEvent : Remote V _).run s).bind f) = _
    rw [none]
    rfl
  unfold pump
  rw [bound]
  show Step.done true (terminate s) = _
  rw [terminate, if_pos past]

end Session
end DebugSession
