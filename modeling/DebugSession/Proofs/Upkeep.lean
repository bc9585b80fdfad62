import DebugSession.Proofs.Abiding
import DebugSession.Proofs.Reconcile
import DebugSession.Proofs.Turnover
/-!
Requests for breakpoints where hits are counted while they wait. What stays keeps its number and
the hits that were counted, whenever that was, and what is new has a number given out meanwhile and
no hits. Whenever a request waits, each event request that is noted belongs to what it is noted for.
-/

namespace DebugSession

namespace Installed

def hits (i : Installed) : UInt32 := i.installation.hits

def withHits (hits : UInt32) : Installed → Installed
  | breakpoint b => .breakpoint { b with installation := { b.installation with hits } }
  | watchpoint w => .watchpoint { w with installation := { w.installation with hits } }

@[simp] theorem hits_withHits (i : Installed) (n : UInt32) : (i.withHits n).hits = n := by
  cases i <;> rfl

@[simp] theorem id_withHits (i : Installed) (n : UInt32) : (i.withHits n).id = i.id := by
  cases i <;> rfl

theorem place_withHits (i : Installed) (n : UInt32) : (i.withHits n).place = i.place := by
  cases i <;> rfl

@[simp] theorem withHits_withHits (i : Installed) (m n : UInt32) :
    (i.withHits m).withHits n = i.withHits n := by
  cases i <;> rfl

theorem withHits_hits (i : Installed) : i.withHits i.hits = i := by
  cases i <;> rfl

theorem hit_eq (i : Installed) : i.hit.2 = i.withHits (i.hits + 1) := by
  cases i <;> rfl

end Installed

namespace Breakpoints

variable {b b₁ b' : Breakpoints} {began : Nat} {p : Place} {i j : Installed}
  {new : Option Installed}

/-- The same is kept everywhere, but for hits, and the same numbers have been given. -/
structure Similar (b b' : Breakpoints) : Prop where
  kept : ∀ p, ∃ hits, b'.at? p = (b.at? p).map (Installed.withHits hits)
  issued : b'.issued = b.issued

/-- What is kept as it was. -/
private theorem map_withHits (kept? : Option Installed) :
    kept? = kept?.map (Installed.withHits (kept?.elim 0 Installed.hits)) := by
  cases kept? with
  | none => rfl
  | some i => exact congrArg some i.withHits_hits.symm

theorem Similar.of_at (kept : b'.at? = b.at?) (issued : b'.issued = b.issued) :
    Similar b b' :=
  ⟨fun p => ⟨_, (congrFun kept p).trans (map_withHits _)⟩, issued⟩

theorem Similar.trans (h : Similar b b₁) (h' : Similar b₁ b') : Similar b b' := by
  refine ⟨fun p => ?_, h'.issued.trans h.issued⟩
  obtain ⟨m, first⟩ := h.kept p
  obtain ⟨n, second⟩ := h'.kept p
  refine ⟨n, ?_⟩
  rw [second, first, Option.map_map]
  cases b.at? p <;> simp

theorem Similar.vacant (h : Similar b b') (there : b.at? p = none) : b'.at? p = none := by
  obtain ⟨n, kept⟩ := h.kept p
  rw [kept, there]
  rfl

theorem Similar.found (h : Similar b b') (there : b.at? p = some i) :
    ∃ n, b'.at? p = some (i.withHits n) := by
  obtain ⟨n, kept⟩ := h.kept p
  exact ⟨n, by rw [kept, there]; rfl⟩

/-- The same, where the same is noted of event requests as well. -/
structure Alike (b b' : Breakpoints) : Prop extends Similar b b' where
  owners : b'.owners = b.owners
  exceptionRequest : b'.exceptionRequest = b.exceptionRequest

theorem Alike.of_eq (same : b' = b) : Alike b b' := by
  subst same
  exact ⟨.of_at rfl rfl, rfl, rfl⟩

theorem Alike.trans (h : Alike b b₁) (h' : Alike b₁ b') : Alike b b' :=
  ⟨h.toSimilar.trans h'.toSimilar, h'.owners.trans h.owners,
    h'.exceptionRequest.trans h.exceptionRequest⟩

/-- Something new that was not hit yet, under a number that was given after the first `began`. -/
def Fresh (began : Nat) (b : Breakpoints) (i : Installed) : Prop :=
  i.hits = 0 ∧ ∃ count, began ≤ count ∧ count < b.issued ∧ i.id = numberAfter count

/-- What is kept was kept there before with its number and its hits, or is new. -/
structure Continues (began : Nat) (b b' : Breakpoints) : Prop where
  issued : b.issued ≤ b'.issued
  kept : ∀ p i, b'.at? p = some i →
    (∃ j, b.at? p = some j ∧ j.id = i.id ∧ j.hits = i.hits) ∨ b'.Fresh began i

theorem Fresh.mono (h : b.Fresh began i) (id : j.id = i.id) (hits : j.hits = i.hits)
    (issued : b.issued ≤ b'.issued) : b'.Fresh began j := by
  obtain ⟨unhit, count, after, given, number⟩ := h
  exact ⟨hits.trans unhit, count, after, Nat.lt_of_lt_of_le given issued, id.trans number⟩

theorem Continues.of_at (kept : b'.at? = b.at?) (issued : b.issued ≤ b'.issued) :
    Continues began b b' :=
  ⟨issued, fun _ i there => .inl ⟨i, kept ▸ there, rfl, rfl⟩⟩

theorem Continues.trans (h : Continues began b b₁) (h' : Continues began b₁ b') :
    Continues began b b' := by
  refine ⟨Nat.le_trans h.issued h'.issued, fun p i there => ?_⟩
  rcases h'.kept p i there with ⟨j, there, id, hits⟩ | fresh
  · rcases h.kept p j there with ⟨k, there, id', hits'⟩ | fresh
    · exact .inl ⟨k, there, id'.trans id, hits'.trans hits⟩
    · exact .inr (fresh.mono id.symm hits.symm h'.issued)
  · exact .inr fresh

/-- Something other is kept at a place; nothing else is changed. -/
structure Puts (b b' : Breakpoints) (p : Place) (new : Option Installed) : Prop
    extends Swap b b' p new where
  issued : b'.issued = b.issued
  leaving : b'.leaving = b.leaving

theorem Puts.again {new' : Option Installed} (h : Puts b b₁ p new) (h' : Puts b₁ b' p new') :
    Puts b b' p new' :=
  ⟨h.toSwap.again h'.toSwap, h'.issued.trans h.issued, h'.leaving.trans h.leaving⟩

theorem puts_breakpoint (b : Breakpoints) (bp : Breakpoint) :
    b.Puts (b.putBreakpoint bp) (.line bp.source bp.line) (some (.breakpoint bp)) :=
  ⟨b.swap_putBreakpoint bp, rfl, rfl⟩

theorem puts_watchpoint (b : Breakpoints) (wp : Watchpoint) :
    b.Puts (b.putWatchpoint wp) (.field wp.className wp.fieldName) (some (.watchpoint wp)) :=
  ⟨b.swap_putWatchpoint wp, rfl, rfl⟩

private theorem puts_put (left : b.leaving = []) (i : Installed) :
    b.Puts (b.put i) i.place (some i) := by
  have stays : ¬ b.leaving.any (·.id = i.id) = true := by simp [left]
  unfold put
  rw [if_neg stays]
  cases i with
  | breakpoint bp => exact b.puts_breakpoint bp
  | watchpoint wp => exact b.puts_watchpoint wp

theorem puts_hit (left : b.leaving = []) (i : Installed) :
    b.Puts (b.hit i).2 i.place (some (i.withHits (i.hits + 1))) := by
  show b.Puts (b.put i.hit.2) i.place _
  rw [i.hit_eq, ← i.place_withHits (i.hits + 1)]
  exact puts_put left _

/-- Hits may be counted at one place. -/
theorem Puts.alike {n : UInt32} (h : Puts b b' p (some (i.withHits n)))
    (there : b.at? p = some i) : Alike b b' := by
  refine ⟨⟨fun p' => ?_, h.issued⟩, h.owners, h.exceptionRequest⟩
  by_cases here : p' = p
  · subst here
    exact ⟨n, by rw [h.at_self, there]; rfl⟩
  · exact ⟨_, (h.at_ne here).trans (map_withHits _)⟩

/-- What is dropped, revised or new does not concern what is kept elsewhere. -/
theorem Puts.continues (h : Puts b b' p new)
    (here : ∀ i, new = some i →
      (∃ j, b.at? p = some j ∧ j.id = i.id ∧ j.hits = i.hits) ∨ b.Fresh began i) :
    Continues began b b' := by
  refine ⟨Nat.le_of_eq h.issued.symm, fun p' i there => ?_⟩
  rcases h.put_or_kept there with ⟨rfl, put⟩ | ⟨-, kept⟩
  · exact (here i put).imp_right fun fresh => fresh.mono rfl rfl (Nat.le_of_eq h.issued.symm)
  · exact .inl ⟨i, kept, rfl, rfl⟩

end Breakpoints

/-- Where it does not matter which requests stand without being noted, one that is not noted may
be deleted. -/
theorem Balanced.forsake {live : RequestId → Option EventRequest} {loose : List RequestId}
    {b : Breakpoints} {r : RequestId} (h : Balanced live (fun _ => True) loose b)
    (unnoted : b.owners.get? r = none) (other : b.exceptionRequest ≠ some r) :
    Balanced (Function.update live r none) (fun _ => True) loose b where
  keyed := h.keyed
  single := h.single
  matched := by
    intro p i stored r' mem
    have away : r' ≠ r := by
      rintro rfl
      cases unnoted.symm.trans (h.noted p i stored r' mem)
    rw [Function.update_of_ne away]
    exact h.matched p i stored r' mem
  noted := h.noted
  kept := h.kept
  free := h.free
  standing := by
    intro r' o found
    have away : r' ≠ r := by
      rintro rfl
      cases unnoted.symm.trans found
    rw [Function.update_of_ne away]
    exact h.standing r' o found
  covered _ _ _ _ := .inr trivial
  remembered := by
    intro r' remembered
    have away : r' ≠ r := by
      rintro rfl
      exact other remembered
    rw [Function.update_of_ne away]
    exact h.remembered r' remembered
  sole _ _ _ _ := .inr trivial
  distinct := h.distinct

namespace Session

variable {V α : Type} [Machine V] [Ledger V] {began : Nat} {loose : List RequestId}
  {s s₁ s' : Session V}

/-- Event requests are counted on where they are noted for, but for the loose ones. Nothing that
was given up is still installed, and no step is under way. -/
structure Upkept (began : Nat) (loose : List RequestId) (s : Session V) : Prop where
  sound : Ledger.Sound s.machine
  books : Balanced (Ledger.live s.machine) (fun _ => True) loose s.breakpoints
  given : began ≤ s.breakpoints.issued
  left : s.breakpoints.leaving = []
  idle : s.steps = {}

theorem Upkept.since (upkept : s.Upkept 0 loose) (given : began ≤ s.breakpoints.issued) :
    s.Upkept began loose := { upkept with given }

theorem Upkept.fromStart (upkept : s.Upkept began loose) : s.Upkept 0 loose :=
  { upkept with given := Nat.zero_le _ }

/-- Hits may be counted; else the breakpoints and all event requests are left alone. -/
structure Spares (s s' : Session V) : Prop where
  live : Ledger.live s'.machine = Ledger.live s.machine
  alike : s.breakpoints.Alike s'.breakpoints

theorem Spares.trans (h : Spares s s₁) (h' : Spares s₁ s') : Spares s s' :=
  ⟨h'.live.trans h.live, h.alike.trans h'.alike⟩

/-- A request for breakpoints that began when so many numbers had been given changes them in order,
while hits may be counted. -/
def upkeep (began : Nat) : Terms (Session V) where
  standing := Upkept began []
  others := Spares
  own s s' := s.breakpoints.Continues began s'.breakpoints

instance : Composes (upkeep (V := V) began).own where
  refl _ := .of_at rfl (Nat.le_refl _)
  trans := Breakpoints.Continues.trans

/-! ## Calls -/

/-- A call has come to an end. Hits may have been counted while it took its time. -/
structure Called (began : Nat) (c : Call) (s : Session V) (r : Except RemoteError c.Reply)
    (s' : Session V) : Prop where
  sound : Ledger.Sound s'.machine
  effect : c.Effect r (Ledger.live s.machine) (Ledger.live s'.machine)
  alike : s.breakpoints.Alike s'.breakpoints
  books : Balanced (Ledger.live s.machine) (fun _ => True) [] s'.breakpoints
  given : began ≤ s'.breakpoints.issued
  left : s'.breakpoints.leaving = []
  idle : s'.steps = {}

theorem Called.upkept {c : Call} {r : Except RemoteError c.Reply} (h : Called began c s r s')
    (same : Ledger.live s'.machine = Ledger.live s.machine) : s'.Upkept began [] :=
  ⟨h.sound, same ▸ h.books, h.given, h.left, h.idle⟩

private theorem called_failed {c : Call} {e : RemoteError} (upkept : s'.Upkept began [])
    (spares : Spares s s') : Called began c s (.error e) s' where
  sound := upkept.sound
  effect := by
    rw [spares.live]
    exact .error
  alike := spares.alike
  books := spares.live ▸ upkept.books
  given := upkept.given
  left := upkept.left
  idle := upkept.idle

private theorem complete_abides (c : Call) (lost : Bool) (upkept : s'.Upkept began [])
    (spares : Spares s s') :
    Task.Abides (upkeep began) (complete c lost) s' (Called began c s) := by
  unfold complete
  split
  · exact .pure (called_failed upkept spares)
  · have effect := Ledger.effect c s'.machine upkept.sound
    exact ⟨.of_at rfl (Nat.le_refl _), Ledger.sound_perform c _ upkept.sound, spares.live ▸ effect,
      spares.alike, spares.live ▸ upkept.books, upkept.given, upkept.left, upkept.idle⟩

private theorem answerAfter_abides (c : Call) (delay : Nat) (lost : Bool)
    (upkept : s.Upkept began []) :
    Task.Abides (upkeep began) (answerAfter c delay lost) s (Called began c s) := by
  have rest : ∀ now : Session V, now.Upkept began [] → Spares s now →
      Task.Abides (upkeep began)
        (if s.waitLimit < delay then pure (.error (.timeout s.timeout)) else complete c lost)
        now (Called began c s) := by
    intro now upkept spares
    split
    · exact .pure (called_failed upkept spares)
    · exact complete_abides c lost upkept spares
  unfold answerAfter
  refine .get_bind ?_
  dsimp only
  split
  · have slept : Task.Abides (upkeep began) (Task.sleep (s.clock + min delay s.waitLimit)
        fun s' => s'.cancelled || s.clock + min delay s.waitLimit ≤ s'.clock) s
        fun _ now => now.Upkept began [] ∧ Spares s now :=
      .sleep upkept fun now stands spares => ⟨stands, spares⟩
    refine slept.bind fun _ now ⟨upkept, spares⟩ => .get_bind ?_
    split
    · exact .pure (called_failed upkept spares)
    · exact rest now upkept spares
  · exact rest s upkept ⟨rfl, .of_eq rfl⟩

private theorem issue_abides (c : Call) (upkept : s.Upkept began []) :
    Task.Abides (upkeep began) (issue c) s (Called began c s) := by
  have same := Ledger.live_submit c s.machine upkept.sound
  have submitted : ({ s with machine := (Machine.submit c s.machine).2 } : Session V).Upkept
      began [] :=
    ⟨Ledger.sound_submit c _ upkept.sound, same.symm ▸ upkept.books, upkept.given, upkept.left,
      upkept.idle⟩
  unfold issue
  refine .modifyGet_bind (.of_at rfl (Nat.le_refl _)) ?_
  have back : ∀ r s', Called began c { s with machine := (Machine.submit c s.machine).2 } r s' →
      Called began c s r s' := fun r s' h =>
    ⟨h.sound, same ▸ h.effect, h.alike, same ▸ h.books, h.given, h.left, h.idle⟩
  split
  · have spares : Spares s { s with machine := (Machine.submit c s.machine).2 } :=
      ⟨same, .of_eq rfl⟩
    exact .pure (called_failed submitted spares)
  · exact (answerAfter_abides c _ _ submitted).mono back

/-- A call keeps to the terms, whatever it comes to. -/
theorem tryCall_abides (c : Call) (upkept : s.Upkept began []) :
    Task.Abides (upkeep began) (tryCall c) s (Called began c s) := by
  have noted : ∀ r s₁, Called began c s r s₁ → Task.Abides (upkeep began) (do
      modify (note c r)
      return r) s₁ (Called began c s) := by
    intro r s₁ called
    refine .modify_bind (.of_at rfl (Nat.le_refl _)) (.pure ?_)
    exact ⟨called.sound, called.effect, called.alike, called.books, called.given, called.left,
      called.idle⟩
  have asked : Task.Abides (upkeep began) (ask c) s (Called began c s) := by
    unfold ask
    refine (issue_abides c upkept).bind fun r s₁ called => ?_
    split
    · refine .modify_bind (.of_at rfl (Nat.le_refl _)) (.pure ?_)
      exact ⟨called.sound, called.effect, called.alike, called.books, called.given, called.left,
        called.idle⟩
    · exact .pure called
  unfold tryCall
  refine .get_bind ?_
  split
  · have spares : Spares s s := ⟨rfl, .of_eq rfl⟩
    exact Task.Abides.bind (.pure (called_failed upkept spares)) noted
  · exact asked.bind noted

/-! ## Event requests -/

/-- What is loose is deleted. It is not noted any more when the call for that is made, so that
nothing is counted while the call takes its time. -/
theorem deleteLoose_abides {rs : List RequestId} (upkept : s.Upkept began rs)
    (single : rs.length ≤ 1) :
    Task.Abides (upkeep began) (deleteRequests rs) s fun _ s' =>
      s'.Upkept began [] ∧ s.breakpoints.Similar s'.breakpoints := by
  rcases rs with _ | ⟨r, _ | ⟨second, rest⟩⟩
  · exact .pure ⟨upkept, .of_at rfl rfl⟩
  · have free := upkept.books.free r (List.mem_singleton_self r)
    have books := upkept.books.delete free (fun _ _ => rfl) (fun _ => id) (.inr trivial)
    have none_left : [r].filter (· ≠ r) = [] := by simp
    rw [none_left] at books
    let unnoted : Session V :=
      modifyBreakpoints (fun b => { b with owners := b.owners.erase r }) s
    have upkept : unnoted.Upkept began [] :=
      ⟨upkept.sound, books, upkept.given, upkept.left, upkept.idle⟩
    refine .modify_bind (.of_at rfl (Nat.le_refl _)) ?_
    refine (tryCall_abides (.deleteRequest r) upkept).bind fun answer s₁ called => .pure ⟨?_, ?_⟩
    · have gone : s₁.breakpoints.owners.get? r = none := by
        rw [called.alike.owners]
        simp [unnoted, modifyBreakpoints, Table.get?_erase]
      have other : s₁.breakpoints.exceptionRequest ≠ some r := by
        rw [called.alike.exceptionRequest]
        exact free.other
      cases answer with
      | error e => exact called.upkept called.effect
      | ok _ =>
        have deleted : Ledger.live s₁.machine = Function.update (Ledger.live s.machine) r none :=
          called.effect
        refine ⟨called.sound, ?_, called.given, called.left, called.idle⟩
        rw [deleted]
        exact called.books.forsake gone other
    · have first : s.breakpoints.Similar unnoted.breakpoints := .of_at rfl rfl
      exact first.trans called.alike.toSimilar
  · rw [List.length_cons, List.length_cons] at single
    omega

/-- What an attempt to install what asks for `q?` leaves: perhaps a loose request, which is noted
and will be counted on. -/
structure Planted (began : Nat) (o : Owner) (q? : Option EventRequest) (s : Session V)
    (change : Installation → Installation) (rs : List RequestId) (s' : Session V) : Prop where
  upkept : s'.Upkept began rs
  single : rs.length ≤ 1
  similar : s.breakpoints.Similar s'.breakpoints
  requests : ∀ i, (change i).requests = i.requests ++ rs
  options : ∀ i, (change i).options = i.options
  hits : ∀ i, (change i).hits = i.hits
  noted : ∀ r ∈ rs, s'.breakpoints.owners.get? r = some o ∧ Ledger.live s'.machine r = q?

/-- An attempt that fails leaves nothing loose. -/
def Implants (began : Nat) (o : Owner) (q? : Option EventRequest) (s : Session V) :
    Except SessionError (Installation → Installation) → Session V → Prop
  | .ok change, s' => ∃ rs, Planted began o q? s change rs s'
  | .error _, s' => s'.Upkept began []

/-- Nothing is asked of the debuggee, and a text says why. -/
theorem planted_nothing {o : Owner} {q? : Option EventRequest} (text : String)
    (upkept : s'.Upkept began []) (similar : s.breakpoints.Similar s'.breakpoints) :
    Planted began o q? s (fun i => { i with message := some text }) [] s' where
  upkept := upkept
  single := Nat.zero_le 1
  similar := similar
  requests _ := (List.append_nil _).symm
  options _ := rfl
  hits _ := rfl
  noted := by simp

/-- The request is noted in the move in which it is created. -/
theorem plant_honours {q : EventRequest} (placed : q.isPlaced = true) (o : Owner)
    (upkept : s.Upkept began []) :
    Honours (upkeep began) (plant o q) s (Implants began o (some q) s) := by
  have rest : ∀ outcome s₁,
      Implants began o (some q) s (.ok (noteOutcome outcome)) (setOwner o outcome s₁) →
      (upkeep began).own s₁ (setOwner o outcome s₁) →
      Honours (upkeep began) (do
        modify (setOwner o outcome)
        return noteOutcome outcome : Action V _) s₁ (Implants began o (some q) s) :=
    fun outcome s₁ planted own => .modify_bind own (.pure planted)
  unfold plant installRequest
  rw [bind_assoc]
  refine .attempt_bind (tryCall_abides (.createRequest q) upkept) fun answer s₁ called => ?_
  cases answer with
  | ok id =>
    obtain ⟨unused, created⟩ := called.effect
    have books := called.books.create unused placed o
    rw [← created] at books
    refine rest (.ok id) s₁ ⟨[id], ?_⟩ (.of_at rfl (Nat.le_refl _))
    refine ⟨⟨called.sound, books, called.given, called.left, called.idle⟩, by simp,
      .trans called.alike.toSimilar (.of_at rfl rfl), fun i => rfl, fun i => rfl, fun i => rfl, ?_⟩
    intro r mem
    rw [List.mem_singleton.1 mem]
    have stands : Ledger.live s₁.machine id = some q := by rw [created, Function.update_self]
    exact ⟨by simp [setOwner, modifyBreakpoints, Table.get?_insert], stands⟩
  | error e =>
    have kept : s₁.Upkept began [] := called.upkept called.effect
    dsimp only
    split
    · exact .throw kept
    · exact rest (.error e.message) s₁ ⟨[], planted_nothing _ kept called.alike.toSimilar⟩
        (.of_at rfl (Nat.le_refl _))

/-! ## One place -/

/-- What is kept at a place under a number, by its installation. -/
structure Family (p : Place) (o : Owner) (make : Installation → Installed) : Prop where
  place : o.place = p
  owner : ∀ i, (make i).owner = o
  requests : ∀ i, (make i).requests = i.requests
  withHits : ∀ i n, (make i).withHits n = make { i with hits := n }
  asks : ∀ i i', i'.options = i.options → (make i').request? = (make i).request?

section

variable {p : Place} {o : Owner} {make : Installation → Installed} {i i₀ : Installation}
  {b : Breakpoints}

omit [Machine V] [Ledger V] in
theorem Family.hits (h : Family p o make) (i : Installation) : (make i).hits = i.hits := by
  have same : (make i).withHits i.hits = make i := h.withHits i i.hits
  rw [← same, Installed.hits_withHits]

theorem Family.id (h : Family p o make) (i : Installation) : (make i).id = o.id := by
  rw [← Installed.owner_id, h.owner]

/-- While hits are counted there, the rest of an installation stays. -/
theorem Family.found {b' : Breakpoints} (h : Family p o make)
    (similar : Breakpoints.Similar b b') (there : b.at? p = some (make i)) :
    ∃ n, b'.at? p = some (make { i with hits := n }) := by
  obtain ⟨n, there'⟩ := similar.found there
  exact ⟨n, by rw [there', h.withHits]⟩

/-- What was placed is counted on from the move on in which it is stored. -/
private theorem Planted.stored {change : Installation → Installation} {rs : List RequestId}
    (h : Family p o make) (planted : Planted began o (make i).request? s change rs s')
    (put : s'.breakpoints.Puts b p (some (make (change i₀))))
    (options : i₀.options = i.options) (bare : i₀.requests = [])
    (vacant : ∀ j, s'.breakpoints.at? p = some j → j.requests = []) :
    (modifyBreakpoints (fun _ => b) s').Upkept began [] := by
  have counted : (make (change i₀)).requests = rs := by
    rw [h.requests, planted.requests, bare, List.nil_append]
  have asked : (make (change i₀)).request? = (make i).request? :=
    h.asks i _ ((planted.options i₀).trans options)
  have keyed : (make (change i₀)).place = p := (congrArg Owner.place (h.owner _)).trans h.place
  have books := planted.upkept.books.fill keyed counted planted.single
    (fun r mem => asked ▸ (planted.noted r mem).2)
    (fun r mem => (h.owner (change i₀)).symm ▸ (planted.noted r mem).1) vacant put.toSwap
  exact ⟨planted.upkept.sound, books, put.issued.symm ▸ planted.upkept.given,
    put.leaving.trans planted.upkept.left, planted.upkept.idle⟩

/-- What is kept at a place, and was perhaps revised, is installed anew. `amend` changes the
installation there as it then is, so that no hit is lost. -/
private theorem reinstall_honours {amend : (Installation → Installation) → Session V → Session V}
    {place : Action V (Installation → Installation)} (h : Family p o make)
    (amends : ∀ f (s : Session V) i, s.breakpoints.at? p = some (make i) →
      ∃ b, amend f s = modifyBreakpoints (fun _ => b) s ∧
        s.breakpoints.Puts b p (some (make (f i))))
    (revised : s.breakpoints.Puts b p (some (make i)))
    (placing : ∀ s : Session V, s.Upkept began [] →
      Honours (upkeep began) place s (Implants began o (make i).request? s))
    (upkept : s.Upkept began []) (stored : s.breakpoints.at? p = some (make i₀))
    {rs : List RequestId} (requests : i₀.requests = rs) :
    Honours (upkeep began) (reinstall amend rs place) (modifyBreakpoints (fun _ => b) s)
      fun _ s' => s'.Upkept began [] := by
  have amended : ∀ f (s : Session V) i, s.breakpoints.at? p = some (make i) →
      (f i).hits = i.hits → (upkeep began).own s (amend f s) := by
    intro f s i there hits
    obtain ⟨b, same, put⟩ := amends f s i there
    rw [same]
    refine put.continues ?_
    rintro _ ⟨⟩
    exact .inl ⟨_, there, (h.id _).trans (h.id _).symm, by rw [h.hits, h.hits, hits]⟩
  unfold reinstall
  refine .modify_bind (amended _ _ i revised.at_self rfl) ?_
  obtain ⟨b₀, same, cleared⟩ := amends (fun i => { i with requests := [] })
    (modifyBreakpoints (fun _ => b) s) i revised.at_self
  have put : s.breakpoints.Puts b₀ p (some (make { i with requests := [] })) :=
    revised.again cleared
  rw [same]
  have loosened : (modifyBreakpoints (fun _ => b₀) s).Upkept began rs := by
    have books := upkept.books.release stored (some (make { i with requests := [] }))
      (by rintro _ ⟨⟩; exact ⟨(h.owner _).trans (h.owner _).symm, h.requests _⟩) put.toSwap
    rw [h.requests, requests] at books
    exact ⟨upkept.sound, books, put.issued.symm ▸ upkept.given, put.leaving.trans upkept.left,
      upkept.idle⟩
  have single : rs.length ≤ 1 := by
    rw [← requests, ← h.requests]
    exact upkept.books.single p _ stored
  -- Hits may have been counted there by the time the old request is deleted, and again by the time
  -- the new one is made; `change` goes by what is there then.
  refine .quietly_bind (deleteLoose_abides loosened single) fun _ s₁ ⟨upkept₁, similar₁⟩ => ?_
  obtain ⟨n, there₁⟩ := h.found similar₁ put.at_self
  refine (placing s₁ upkept₁).andThen (fun change s₂ ⟨rs, planted⟩ => ?_) fun _ _ kept => kept
  obtain ⟨m, there₂⟩ := h.found planted.similar there₁
  refine .of_modify (amended change s₂ _ there₂ (planted.hits _)) ?_
  obtain ⟨b', same, put'⟩ := amends change s₂ _ there₂
  rw [same]
  refine planted.stored h put' rfl rfl ?_
  intro j there
  obtain rfl := Option.some.inj (there₂.symm.trans there)
  exact h.requests _

/-- Something new is stored where nothing is kept. -/
private theorem create_honours {place : Action V (Installation → Installation)}
    (h : Family p o make)
    (placing : Honours (upkeep began) place s (Implants began o (make i).request? s))
    (bare : i.requests = []) (unhit : i.hits = 0) (vacant : s.breakpoints.at? p = none)
    {count : Nat} (after : began ≤ count) (given : count < s.breakpoints.issued)
    (number : o.id = numberAfter count) {put : Installation → Breakpoints → Breakpoints}
    (puts : ∀ i b, Breakpoints.Puts b (put i b) p (some (make i))) :
    Honours (upkeep began) (do
      let change ← place
      modify (modifyBreakpoints (put (change i)))) s fun _ s' => s'.Upkept began [] := by
  refine placing.andThen (fun change s₁ ⟨rs, planted⟩ => ?_) fun _ _ kept => kept
  have stored := puts (change i) s₁.breakpoints
  have still := planted.similar.vacant vacant
  refine .of_modify (stored.continues ?_) (planted.stored h stored rfl bare ?_)
  · rintro _ ⟨⟩
    refine .inr ⟨?_, count, after, planted.similar.issued.symm ▸ given, (h.id _).trans number⟩
    rw [h.hits, planted.hits, unhit]
  · intro j there
    rw [still] at there
    cases there

/-- What is kept at a place is dropped, and what it counted on deleted. -/
private theorem drop_abides {i : Installed} (upkept : s.Upkept began [])
    (stored : s.breakpoints.at? p = some i) {drop : Breakpoints → Breakpoints}
    (dropped : s.breakpoints.Puts (drop s.breakpoints) p none) {rest : Task (Session V) Unit}
    (rest_abides : ∀ s' : Session V, s'.Upkept began [] →
      Task.Abides (upkeep began) rest s' fun _ s' => s'.Upkept began []) :
    Task.Abides (upkeep began) (do
      modify (modifyBreakpoints drop)
      deleteRequests i.requests
      rest) s fun _ s' => s'.Upkept began [] := by
  refine .modify_bind (dropped.continues (by rintro _ ⟨⟩)) ?_
  have books := upkept.books.release stored none (by rintro _ ⟨⟩) dropped.toSwap
  have loosened : (modifyBreakpoints drop s).Upkept began i.requests :=
    ⟨upkept.sound, books, dropped.issued.symm ▸ upkept.given, dropped.leaving.trans upkept.left,
      upkept.idle⟩
  exact (deleteLoose_abides loosened (upkept.books.single p i stored)).bind
    fun _ s₁ ⟨kept, _⟩ => rest_abides s₁ kept

end

/-! ## Lines -/

omit [Machine V] [Ledger V] in
private theorem family_breakpoint (bp : Breakpoint) :
    Family (.line bp.source bp.line) (.breakpoint bp.source bp.line bp.id)
      fun i => .breakpoint { bp with installation := i } where
  place := rfl
  owner _ := rfl
  requests _ := rfl
  withHits _ _ := rfl
  asks _ _ same := Installed.request?_breakpoint (congrArg _ same)

omit [Machine V] [Ledger V] in
private theorem amendBreakpoint_puts {s : Session V} (bp : Breakpoint)
    (f : Installation → Installation)
    (there : s.breakpoints.at? (.line bp.source bp.line) = some (.breakpoint bp)) :
    ∃ b, amendBreakpoint bp.source bp.line f s = modifyBreakpoints (fun _ => b) s ∧
      s.breakpoints.Puts b (.line bp.source bp.line)
        (some (.breakpoint { bp with installation := f bp.installation })) := by
  obtain ⟨b, same, swap⟩ := amendBreakpoint_swap bp f there
  have kept : (amendBreakpoint bp.source bp.line f s).breakpoints.issued = s.breakpoints.issued ∧
      (amendBreakpoint bp.source bp.line f s).breakpoints.leaving = s.breakpoints.leaving := by
    unfold amendBreakpoint
    split <;> exact ⟨rfl, rfl⟩
  rw [same] at kept
  exact ⟨b, same, swap, kept.1, kept.2⟩

private theorem placeBreakpoint_honours (bp : Breakpoint) (upkept : s.Upkept began []) :
    Honours (upkeep began) (placeBreakpoint bp) s
      (Implants began (.breakpoint bp.source bp.line bp.id)
        (Installed.breakpoint bp).request? s) := by
  cases known : bp.location with
  | none =>
    rw [placeBreakpoint_unlocated known]
    exact .pure ⟨[], planted_nothing _ upkept (.of_at rfl rfl)⟩
  | some l =>
    rw [placeBreakpoint_located known, Installed.request?_located known]
    exact plant_honours rfl _ upkept

private theorem reviseBreakpoint_honours {bp : Breakpoint} (spec : BreakpointSpec)
    (upkept : s.Upkept began [])
    (stored : s.breakpoints.at? (.line bp.source bp.line) = some (.breakpoint bp)) :
    Honours (upkeep began) (reviseBreakpoint bp spec) s fun _ s' => s'.Upkept began [] := by
  have put := s.breakpoints.puts_breakpoint
    { bp with installation := BreakpointSpec.revise spec bp.installation }
  unfold reviseBreakpoint
  refine .modify_bind (put.continues ?_) ?_
  · rintro _ ⟨⟩
    exact .inl ⟨_, stored, rfl, rfl⟩
  · split
    · exact reinstall_honours (family_breakpoint bp)
        (fun f s i there => amendBreakpoint_puts { bp with installation := i } f there) put
        (fun s upkept => placeBreakpoint_honours _ upkept) upkept stored rfl
    · rename_i unchanged
      have books := upkept.books.revise stored (.breakpoint
        { bp with installation := BreakpointSpec.revise spec bp.installation }) rfl rfl
        (fun counted => Installed.request?_breakpoint (kept_condition unchanged counted)) put.toSwap
      exact .pure ⟨upkept.sound, books, upkept.given, upkept.left, upkept.idle⟩

private theorem reviseAll_honours (source : String) (visited : List UInt32)
    (specs : List BreakpointSpec) (upkept : s.Upkept began []) :
    Honours (upkeep began) (reviseAll source visited specs) s fun _ s' => s'.Upkept began [] := by
  induction specs generalizing visited s with
  | nil => exact .pure upkept
  | cons spec rest ih =>
    unfold reviseAll
    refine .get_bind ?_
    dsimp only
    split
    · rename_i bp found
      obtain ⟨-, -, stored⟩ := upkept.books.breakpoint_stored found
      split
      · exact (reviseBreakpoint_honours spec upkept stored).bind fun _ s₁ kept => ih _ kept
      · exact ih _ upkept
    · exact ih _ upkept

private theorem removeLines_abides (source : String) (lines : List UInt32)
    (upkept : s.Upkept began []) :
    Task.Abides (upkeep began) (removeLines source lines) s fun _ s' => s'.Upkept began [] := by
  induction lines generalizing s with
  | nil => exact .pure upkept
  | cons line rest ih =>
    unfold removeLines
    refine .get_bind ?_
    dsimp only
    split
    · exact ih upkept
    · rename_i bp found
      have stored := Breakpoints.at?_eq_breakpoint.2 found
      have dropped : s.breakpoints.Puts (s.breakpoints.dropBreakpoint source line)
          (.line source line) none := ⟨Breakpoints.swap_dropBreakpoint _ _ _, rfl, rfl⟩
      exact drop_abides upkept stored dropped fun _ kept => ih kept

private theorem createBreakpoint_honours {source : String} {spec : BreakpointSpec}
    (upkept : s.Upkept began []) (vacant : s.breakpoints.breakpoint? source spec.line = none) :
    Honours (upkeep began) (createBreakpoint source spec) s fun _ s' => s'.Upkept began [] := by
  unfold createBreakpoint takeBreakpointId
  obtain ⟨options, message⟩ := spec.options
  refine .get_bind (.modifyGet_bind (.of_at rfl (Nat.le_succ _)) ?_)
  have numbered : ({ s with breakpoints := s.breakpoints.takeId.2 } : Session V).Upkept began [] :=
    ⟨upkept.sound, upkept.books.congr rfl rfl rfl rfl, Nat.le_succ_of_le upkept.given, upkept.left,
      upkept.idle⟩
  have none_there : s.breakpoints.at? (.line source spec.line) = none := by
    simp [Breakpoints.at?, vacant]
  let bp : Breakpoint :=
    { id := s.breakpoints.takeId.1, source, line := spec.line, column := spec.column
      location := s.providers.lookup.bind fun l => l.resolveBreakpoint source spec.line spec.column
      installation := { options, message } }
  exact create_honours (family_breakpoint bp) (placeBreakpoint_honours bp numbered) rfl rfl
    none_there upkept.given (Nat.lt_succ_self _) rfl
    fun i b => b.puts_breakpoint { bp with installation := i }

private theorem createMissing_honours (source : String) (specs : List BreakpointSpec)
    (upkept : s.Upkept began []) :
    Honours (upkeep began) (createMissing source specs) s fun _ s' => s'.Upkept began [] := by
  induction specs generalizing s with
  | nil => exact .pure upkept
  | cons spec rest ih =>
    unfold createMissing
    refine .get_bind ?_
    dsimp only
    split
    · rename_i vacant
      exact (createBreakpoint_honours upkept (Option.isNone_iff_eq_none.1 vacant)).bind
        fun _ s₁ kept => ih kept
    · exact ih upkept

private theorem bringInLine_honours (source : String) (specs : List BreakpointSpec)
    (upkept : s.Upkept began []) :
    Honours (upkeep began) (bringInLine source specs) s fun _ s' => s'.Upkept began [] := by
  refine (reviseAll_honours source [] specs upkept).bind fun _ s₁ upkept => .get_bind ?_
  refine .quietly_bind (removeLines_abides source _ upkept) fun _ s₂ upkept => ?_
  exact (createMissing_honours source specs upkept).bind fun _ s₃ upkept => .get_bind (.pure upkept)

theorem setBreakpoints_honours (source : String) (specs : List BreakpointSpec) (modified : Bool)
    (upkept : s.Upkept began []) :
    Honours (upkeep began) (setBreakpoints source specs modified) s
      fun _ s' => s'.Upkept began [] := by
  have reconciled : ∀ now : Session V, now.Upkept began [] →
      Honours (upkeep began) (reconcileLines source specs modified) now
        fun _ s' => s'.Upkept began [] := by
    intro now upkept
    cases modified with
    | true =>
      rw [reconcileLines_modified]
      refine .quietly_bind (.get_bind (removeLines_abides source _ upkept)) fun _ s₁ upkept => ?_
      exact bringInLine_honours source specs upkept
    | false =>
      rw [reconcileLines_unmodified]
      exact bringInLine_honours source specs upkept
  exact Task.Abides.exclusively (fun _ _ => .of_at rfl (Nat.le_refl _))
    ⟨upkept.sound, upkept.books, upkept.given, upkept.left, upkept.idle⟩ reconciled
    fun _ _ upkept => ⟨upkept.sound, upkept.books, upkept.given, upkept.left, upkept.idle⟩

/-! ## Fields -/

omit [Machine V] [Ledger V] in
private theorem family_watchpoint (wp : Watchpoint) :
    Family (.field wp.className wp.fieldName) (.watchpoint wp.className wp.fieldName wp.id)
      fun i => .watchpoint { wp with installation := i } where
  place := rfl
  owner _ := rfl
  requests _ := rfl
  withHits _ _ := rfl
  asks _ _ same := Installed.request?_watchpoint (congrArg _ same)

omit [Machine V] [Ledger V] in
private theorem amendWatchpoint_puts {s : Session V} (wp : Watchpoint)
    (f : Installation → Installation)
    (there : s.breakpoints.at? (.field wp.className wp.fieldName) = some (.watchpoint wp)) :
    ∃ b, amendWatchpoint (wp.className, wp.fieldName) f s = modifyBreakpoints (fun _ => b) s ∧
      s.breakpoints.Puts b (.field wp.className wp.fieldName)
        (some (.watchpoint { wp with installation := f wp.installation })) := by
  obtain ⟨b, same, swap⟩ := amendWatchpoint_swap wp f there
  have kept : (amendWatchpoint (wp.className, wp.fieldName) f s).breakpoints.issued =
        s.breakpoints.issued ∧
      (amendWatchpoint (wp.className, wp.fieldName) f s).breakpoints.leaving =
        s.breakpoints.leaving := by
    unfold amendWatchpoint
    split <;> exact ⟨rfl, rfl⟩
  rw [same] at kept
  exact ⟨b, same, swap, kept.1, kept.2⟩

private theorem placeWatchpoint_honours (wp : Watchpoint) (upkept : s.Upkept began []) :
    Honours (upkeep began) (placeWatchpoint wp) s
      (Implants began (.watchpoint wp.className wp.fieldName wp.id)
        (Installed.watchpoint wp).request? s) := by
  rw [placeWatchpoint_eq]
  exact plant_honours rfl _ upkept

private theorem reviseWatchpoint_honours {wp : Watchpoint} (spec : WatchpointSpec)
    (upkept : s.Upkept began []) (key : spec.key = (wp.className, wp.fieldName))
    (stored : s.breakpoints.at? (.field wp.className wp.fieldName) = some (.watchpoint wp)) :
    Honours (upkeep began) (reviseWatchpoint wp spec) s fun _ s' => s'.Upkept began [] := by
  have put := s.breakpoints.puts_watchpoint
    { wp with installation := WatchpointSpec.revise spec wp.installation }
  unfold reviseWatchpoint
  rw [key]
  refine .modify_bind (put.continues ?_) ?_
  · rintro _ ⟨⟩
    exact .inl ⟨_, stored, rfl, rfl⟩
  · split
    · exact reinstall_honours (family_watchpoint wp)
        (fun f s i there => amendWatchpoint_puts { wp with installation := i } f there) put
        (fun s upkept => placeWatchpoint_honours _ upkept) upkept stored rfl
    · rename_i unchanged
      have books := upkept.books.revise stored (.watchpoint
        { wp with installation := WatchpointSpec.revise spec wp.installation }) rfl rfl
        (fun counted => Installed.request?_watchpoint (kept_condition unchanged counted)) put.toSwap
      exact .pure ⟨upkept.sound, books, upkept.given, upkept.left, upkept.idle⟩

private theorem reviseWatchpoints_honours (kept : List (String × String))
    (specs : List WatchpointSpec) (upkept : s.Upkept began []) :
    Honours (upkeep began) (reviseWatchpoints kept specs) s fun _ s' => s'.Upkept began [] := by
  induction specs generalizing kept s with
  | nil => exact .pure upkept
  | cons spec rest ih =>
    unfold reviseWatchpoints
    refine .get_bind ?_
    split
    · rename_i wp found
      obtain ⟨key, stored⟩ := upkept.books.watchpoint_stored found
      split
      · split
        · exact (reviseWatchpoint_honours spec upkept key stored).bind
            fun _ s₁ upkept => ih _ upkept
        · exact ih _ upkept
      · exact ih _ upkept
    · exact ih _ upkept

private theorem removeFields_abides (keys : List (String × String)) (upkept : s.Upkept began []) :
    Task.Abides (upkeep began) (removeFields keys) s fun _ s' => s'.Upkept began [] := by
  induction keys generalizing s with
  | nil => exact .pure upkept
  | cons key rest ih =>
    unfold removeFields
    refine .get_bind ?_
    dsimp only
    split
    · exact ih upkept
    · rename_i wp found
      have stored := Breakpoints.at?_eq_watchpoint.2 found
      have dropped : s.breakpoints.Puts (s.breakpoints.dropWatchpoint key)
          (.field key.1 key.2) none := ⟨Breakpoints.swap_dropWatchpoint _ _ _, rfl, rfl⟩
      exact drop_abides upkept stored dropped fun _ kept => ih kept

private theorem declaresField_honours (spec : WatchpointSpec) (upkept : s.Upkept began []) :
    Honours (upkeep began) (declaresField spec) s fun _ s' =>
      s'.Upkept began [] ∧ s.breakpoints.Similar s'.breakpoints := by
  unfold declaresField
  refine .attempt_bind (tryCall_abides (.referenceType spec.className) upkept)
    fun answer s₁ called => ?_
  have kept : s₁.Upkept began [] := called.upkept called.effect
  have similar := called.alike.toSimilar
  cases answer with
  | ok t =>
    dsimp only
    split <;> exact .pure ⟨kept, similar⟩
  | error e =>
    dsimp only
    split
    · exact .throw ⟨kept, similar⟩
    · exact .pure ⟨kept, similar⟩

private theorem createWatchpoint_honours {spec : WatchpointSpec} (upkept : s.Upkept began [])
    (vacant : s.breakpoints.watchpoint? spec.key = none) :
    Honours (upkeep began) (createWatchpoint spec) s fun _ s' => s'.Upkept began [] := by
  unfold createWatchpoint takeBreakpointId
  obtain ⟨options, message⟩ := spec.options
  refine .modifyGet_bind (.of_at rfl (Nat.le_succ _)) ?_
  have numbered : ({ s with breakpoints := s.breakpoints.takeId.2 } : Session V).Upkept began [] :=
    ⟨upkept.sound, upkept.books.congr rfl rfl rfl rfl, Nat.le_succ_of_le upkept.given, upkept.left,
      upkept.idle⟩
  have none_there : s.breakpoints.at? (.field spec.className spec.fieldName) = none := by
    have vacant : s.breakpoints.watchpoint? (spec.className, spec.fieldName) = none := vacant
    simp [Breakpoints.at?, vacant]
  let wp : Watchpoint :=
    { id := s.breakpoints.takeId.1, className := spec.className, fieldName := spec.fieldName
      access := spec.access, installation := { options, message } }
  -- Wherever its change comes from, the watchpoint is stored where there still is none.
  have creates : ∀ s₁ : Session V, Breakpoints.Similar s.breakpoints.takeId.2 s₁.breakpoints →
      ∀ place : Action V (Installation → Installation), Honours (upkeep began) place s₁
        (Implants began (.watchpoint wp.className wp.fieldName wp.id)
          (Installed.watchpoint wp).request? s₁) →
      Honours (upkeep began) (do
        let change ← place
        modify (modifyBreakpoints fun b =>
          b.putWatchpoint { wp with installation := change wp.installation })) s₁
        fun _ s' => s'.Upkept began [] := by
    intro s₁ similar place placing
    have given : s.breakpoints.issued < s₁.breakpoints.issued := by
      rw [similar.issued]
      exact Nat.lt_succ_self _
    exact create_honours (family_watchpoint wp) placing rfl rfl (similar.vacant none_there)
      upkept.given given rfl fun i b => b.puts_watchpoint { wp with installation := i }
  refine (declaresField_honours spec numbered).andThen (fun declared s₁ looked => ?_)
    fun _ _ looked => looked.1
  obtain ⟨kept, similar⟩ := looked
  cases declared with
  | ok _ => exact creates s₁ similar _ (placeWatchpoint_honours wp kept)
  | error text =>
    exact creates s₁ similar _ (.pure ⟨[], planted_nothing text kept (.of_at rfl rfl)⟩)

private theorem createMissingWatchpoints_honours (specs : List WatchpointSpec)
    (upkept : s.Upkept began []) :
    Honours (upkeep began) (createMissingWatchpoints specs) s fun _ s' => s'.Upkept began [] := by
  induction specs generalizing s with
  | nil => exact .pure upkept
  | cons spec rest ih =>
    have more : ∀ (o : Option Watchpoint) (s : Session V), s.Upkept began [] →
        Honours (upkeep began) (do return o :: (← createMissingWatchpoints rest) : Action V _) s
          fun _ s' => s'.Upkept began [] :=
      fun o s upkept => (ih upkept).bind fun _ _ upkept => .pure upkept
    unfold createMissingWatchpoints takeBreakpointId
    refine .get_bind ?_
    split
    · split
      · exact more _ s upkept
      · refine .modifyGet_bind (.of_at rfl (Nat.le_succ _)) (more _ _ ?_)
        exact ⟨upkept.sound, upkept.books.congr rfl rfl rfl rfl, Nat.le_succ_of_le upkept.given,
          upkept.left, upkept.idle⟩
    · rename_i vacant
      exact (createWatchpoint_honours upkept vacant).bind fun _ s₁ upkept => more _ s₁ upkept

theorem setWatchpoints_honours (specs : List WatchpointSpec) (upkept : s.Upkept began []) :
    Honours (upkeep began) (setWatchpoints specs) s fun _ s' => s'.Upkept began [] := by
  have reconciled : ∀ now : Session V, now.Upkept began [] →
      Honours (upkeep began) (reconcileFields specs) now fun _ s' => s'.Upkept began [] := by
    intro now upkept
    unfold reconcileFields
    refine (reviseWatchpoints_honours [] specs upkept).bind fun _ s₁ upkept => .get_bind ?_
    refine .quietly_bind (removeFields_abides _ upkept) fun _ s₂ upkept => ?_
    exact (createMissingWatchpoints_honours specs upkept).bind
      fun _ s₃ upkept => .get_bind (.pure upkept)
  exact Task.Abides.exclusively (fun _ _ => .of_at rfl (Nat.le_refl _))
    ⟨upkept.sound, upkept.books, upkept.given, upkept.left, upkept.idle⟩ reconciled
    fun _ _ upkept => ⟨upkept.sound, upkept.books, upkept.given, upkept.left, upkept.idle⟩

end Session
end DebugSession
