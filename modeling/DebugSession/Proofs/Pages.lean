import DebugSession.Proofs.Paging
import Mathlib.Algebra.Order.Floor.Div
import Mathlib.Data.Multiset.AddSub
/-!
Reading a list a page at a time, where some of the pages fail. The pages are slices of one size that
follow each other. One after the other, they are read up to the first that fails; side by side, all
of them are read, and only the loss of the debuggee keeps what was read from being listed.
-/

namespace DebugSession

variable {V α β ι ε : Type} {R : Session V → Session V → Prop}
  {tally : Session V → Multiset ι} {noted later : Multiset ι}

/-! ## What is noted on the way -/

/-- Nothing is added to a tally. -/
def Untold (tally : Session V → Multiset ι) (s s' : Session V) : Prop := tally s' = tally s

instance : Composes (Untold tally) where
  refl _ := rfl
  trans h h' := Eq.trans h' h

namespace Step

/-- As long as others move as `R` allows, a computation adds `noted` to a tally, in one or in
several of its moves, and nothing else. -/
def Notes (R : Session V → Session V → Prop) (tally : Session V → Multiset ι) :
    Step (Session V) α → Multiset ι → Session V → Prop
  | done _ s', noted, s => tally s' = tally s + noted
  | wait _ _ s' resume, noted, s => ∃ first rest, noted = first + rest ∧
      tally s' = tally s + first ∧ ∀ now, R s' now → (resume now).Notes R tally rest now

theorem Notes.after {x : Step (Session V) α} {s s' : Session V} (added : tally s' = tally s + noted)
    (h : x.Notes R tally later s') : x.Notes R tally (noted + later) s := by
  cases x with
  | done a s'' =>
    have more : tally s'' = tally s' + later := h
    rw [added, add_assoc] at more
    exact more
  | wait time ready s'' resume =>
    obtain ⟨first, rest, rfl, more, goes⟩ := h
    rw [added, add_assoc] at more
    exact ⟨noted + first, rest, (add_assoc ..).symm, more, goes⟩

theorem Notes.bind [Composes R] {P : α → Session V → Prop} {x : Step (Session V) α}
    {f : α → Session V → Step (Session V) β} {s : Session V} (comes : x.Yields R P s)
    (h : x.Notes R tally noted s)
    (rest : ∀ a s', R s s' → P a s' → (f a s').Notes R tally later s') :
    (x.bind f).Notes R tally (noted + later) s := by
  induction x generalizing noted s with
  | done a s' => exact (rest a s' comes.1 comes.2).after h
  | wait time ready s' resume ih =>
    obtain ⟨first, others, rfl, added, goes⟩ := h
    refine ⟨first, others + later, add_assoc .., added, fun now moved => ?_⟩
    refine ih now (comes.2 now moved) (goes now moved) fun a s'' more holds => ?_
    exact rest a s'' (Composes.trans (Composes.trans comes.1 moved) more) holds

theorem Notes.map [Composes R] {P : α → Session V → Prop} {x : Step (Session V) α} (f : α → β)
    {s : Session V} (comes : x.Yields R P s) (h : x.Notes R tally noted s) :
    (x.bind fun a s => .done (f a) s).Notes R tally noted s := by
  rw [← add_zero noted]
  exact h.bind comes fun a s' _ _ => (add_zero _).symm

private theorem notes_alongside [Composes R] {time : Option Nat} {ready : Session V → Bool}
    {resume : Session V → Step (Session V) α}
    {go : Session V → (Session V → Step (Session V) β) → Step (Session V) (α × β)}
    {waiting : Session V} {P : α → Session V → Prop} {Q : β → Session V → Prop}
    (comes : ∀ now, R waiting now → (resume now).Yields R P now)
    (resumes : ∀ now, R waiting now → (resume now).Notes R tally noted now)
    (goes : ∀ now y later, R waiting now → (∀ s, R now s → (y s).Yields R Q s) →
      (∀ s, R now s → (y s).Notes R tally later s) → (go now y).Notes R tally (noted + later) now)
    {y : Step (Session V) β} {s : Session V} (since : R waiting s) (along : y.Yields R Q s)
    (h : y.Notes R tally later s) :
    (alongside time ready resume go y).Notes R tally (noted + later) s := by
  induction y generalizing later s with
  | done b s' =>
    refine ⟨later, noted, add_comm .., h, fun now moved => ?_⟩
    have reached := Composes.trans (Composes.trans since along.1) moved
    exact (resumes now reached).map (fun a => (a, b)) (comes now reached)
  | wait time' ready' s' resume' ih =>
    obtain ⟨first, rest, rfl, added, others⟩ := h
    refine ⟨first, noted + rest, add_left_comm .., added, fun now moved => ?_⟩
    have reached := Composes.trans (Composes.trans since along.1) moved
    simp only
    split
    · refine goes now _ rest reached (fun s more => ⟨Composes.refl s, fun now' further => ?_⟩)
        fun s more => ⟨0, rest, (zero_add _).symm, (add_zero _).symm, fun now' further => ?_⟩
      · exact along.2 now' (Composes.trans (Composes.trans moved more) further)
      · exact others now' (Composes.trans (Composes.trans moved more) further)
    · exact ih now reached (along.2 now moved) (others now moved)

/-- Two computations side by side note what each of them notes. -/
theorem Notes.both [Composes R] {P : α → Session V → Prop} {Q : β → Session V → Prop}
    {x : Step (Session V) α} {y : Session V → Step (Session V) β} {s : Session V}
    (comes : x.Yields R P s) (along : ∀ s', R s s' → (y s').Yields R Q s')
    (hx : x.Notes R tally noted s) (hy : ∀ s', R s s' → (y s').Notes R tally later s') :
    (x.both y).Notes R tally (noted + later) s := by
  induction x generalizing noted later s y with
  | done a s' =>
    exact ((hy s' comes.1).map (fun b => (a, b)) (along s' comes.1)).after hx
  | wait time ready s' resume ih =>
    obtain ⟨first, rest, rfl, added, resumes⟩ := hx
    rw [add_assoc]
    refine Notes.after added (notes_alongside comes.2 resumes ?_ (Composes.refl s')
      (along s' comes.1) (hy s' comes.1))
    exact fun now y later reached along h =>
      ih now (comes.2 now reached) along (resumes now reached) h

/-- What is done first adds nothing to the tally. -/
theorem Notes.following {x : Step (Session V) α} {f : α → Session V → Step (Session V) β}
    {s : Session V} (quiet : x.Moves (Untold tally) s)
    (h : ∀ a s', (f a s').Notes R tally noted s') : (x.bind f).Notes R tally noted s := by
  induction x generalizing s with
  | done a s' =>
    rw [← zero_add noted]
    exact (h a s').after (Eq.trans quiet (add_zero _).symm)
  | wait time ready s' resume ih =>
    have same : tally s' = tally s := quiet.1
    exact ⟨0, noted, (zero_add _).symm, same.trans (add_zero _).symm, fun now _ =>
      ih now (quiet.2.2 now)⟩

theorem Notes.run {advance : Nat → Session V → Session V} (passes : ∀ time s, R s (advance time s))
    [Composes R] (untimed : ∀ time s, tally (advance time s) = tally s) {x : Step (Session V) α}
    {s : Session V} (h : x.Notes R tally noted s) : tally (x.run advance).2 = tally s + noted := by
  induction x generalizing noted s with
  | done a s' => exact h
  | wait time ready s' resume ih =>
    obtain ⟨first, rest, rfl, added, goes⟩ := h
    rw [← add_assoc, ← added]
    cases time with
    | none => exact ih s' (goes s' (Composes.refl s'))
    | some t =>
      rw [← untimed t s']
      exact ih _ (goes _ (passes t s'))

end Step

namespace Task

/-- The same of a computation that begins in a state `s`. -/
def Notes (R : Session V → Session V → Prop) (tally : Session V → Multiset ι)
    (x : Task (Session V) α) (noted : Multiset ι) (s : Session V) : Prop :=
  (x s).Notes R tally noted s

variable {s : Session V}

theorem Notes.pure (a : α) (s : Session V) :
    Notes R tally (pure a : Task (Session V) α) 0 s := (add_zero _).symm

theorem Notes.bind [Composes R] {P : α → Session V → Prop} {x : Task (Session V) α}
    {f : α → Task (Session V) β} (comes : Yields R x s P) (h : Notes R tally x noted s)
    (rest : ∀ a s', R s s' → P a s' → Notes R tally (f a) later s') :
    Notes R tally (x >>= f) (noted + later) s :=
  Step.Notes.bind comes h rest

theorem Notes.map [Composes R] {P : α → Session V → Prop} {x : Task (Session V) α} (f : α → β)
    (comes : Yields R x s P) (h : Notes R tally x noted s) :
    Notes R tally (do return f (← x)) noted s :=
  Step.Notes.map f comes h

/-- Computations side by side note what each of them notes. -/
theorem Notes.all [Composes R] {f : α → Task (Session V) β} {result : α → β} {key : α → ι}
    {items : List α}
    (comes : ∀ a ∈ items, ∀ s', R s s' → Yields R (f a) s' fun b _ => b = result a)
    (h : ∀ a ∈ items, ∀ s', R s s' → Notes R tally (f a) {key a} s') :
    Notes R tally (Task.all (items.map f)) ↑(items.map key) s := by
  induction items generalizing s with
  | nil => exact .pure [] s
  | cons a rest ih =>
    obtain ⟨first, others⟩ := List.forall_mem_cons.1 h
    obtain ⟨comesFirst, comesOthers⟩ := List.forall_mem_cons.1 comes
    have along : ∀ s', R s s' → Yields R (Task.all (rest.map f)) s' _ := fun s' moved =>
      .all fun b mem s'' more => comesOthers b mem s'' (Composes.trans moved more)
    have noting : ∀ s', R s s' → Notes R tally (Task.all (rest.map f)) ↑(rest.map key) s' :=
      fun s' moved => ih (fun b mem s'' more => comesOthers b mem s'' (Composes.trans moved more))
        fun b mem s'' more => others b mem s'' (Composes.trans moved more)
    have paired : Notes R tally (both (f a) (Task.all (rest.map f)))
        ({key a} + ↑(rest.map key)) s :=
      Step.Notes.both (comesFirst s (Composes.refl s)) along (first s (Composes.refl s)) noting
    have counted : (↑((a :: rest).map key) : Multiset ι) = {key a} + ↑(rest.map key) := rfl
    rw [counted]
    exact paired.map (fun r => r.1 :: r.2) (.both (comesFirst s (Composes.refl s)) along)

/-- What a computation has noted when nobody else was under way. -/
theorem Notes.ends [Composes R] (passes : ∀ time s, R s (Session.advance time s))
    (untimed : ∀ time s, tally (Session.advance time s) = tally s) {x : Task (Session V) α}
    (h : Notes R tally x noted s) : Ends x s fun _ s' => tally s' = tally s + noted :=
  Step.Notes.run passes untimed h

end Task

/-! ## What may fail -/

section

variable [Composes R] {s : Session V} {x : ExceptT ε (Task (Session V)) α}
  {f : α → ExceptT ε (Task (Session V)) β}

theorem notes_bind_ok {a : α} (comes : Produces R x s fun r _ => r = .ok a)
    (h : Task.Notes R tally x.run noted s)
    (rest : ∀ s', R s s' → Task.Notes R tally (f a).run later s') :
    Task.Notes R tally (x >>= f).run (noted + later) s := by
  rw [ExceptT.run_bind]
  refine .bind comes h ?_
  rintro r s' moved rfl
  exact rest s' moved

theorem notes_return {P : Except ε α → Session V → Prop} (g : α → β) (comes : Produces R x s P)
    (h : Task.Notes R tally x.run noted s) :
    Task.Notes R tally (do return g (← x)).run noted s := by
  rw [ExceptT.run_bind, ← add_zero noted]
  refine .bind comes h ?_
  intro r s' moved holds
  cases r with
  | ok a => exact .pure _ s'
  | error e => exact .pure _ s'

theorem notes_quietly_bind {P : α → Session V → Prop} {x : Task (Session V) α}
    {f : α → ExceptT ε (Task (Session V)) β} (comes : Task.Yields R x s P)
    (h : Task.Notes R tally x noted s)
    (rest : ∀ a s', R s s' → P a s' → Task.Notes R tally (f a).run later s') :
    Task.Notes R tally (quietly x >>= f).run (noted + later) s := by
  unfold quietly
  rw [ExceptT.run_bind, ExceptT.run_lift, map_eq_pure_bind, bind_assoc]
  refine .bind comes h fun a s' moved holds => ?_
  rw [pure_bind]
  exact rest a s' moved holds

theorem notes_bind_error {e : ε} (comes : Produces R x s fun r _ => r = .error e)
    (h : Task.Notes R tally x.run noted s) : Task.Notes R tally (x >>= f).run noted s := by
  rw [ExceptT.run_bind, ← add_zero noted]
  refine .bind comes h ?_
  rintro r s' moved rfl
  exact .pure _ s'

end

namespace Session

/-! ## Slices -/

theorem ceilDiv_of_pos {length size : Nat} (some : 0 < length) (positive : 0 < size) :
    length ⌈/⌉ size = (length - size) ⌈/⌉ size + 1 := by
  rw [Nat.ceilDiv_eq_add_pred_div, Nat.ceilDiv_eq_add_pred_div]
  rcases Nat.lt_or_ge length size with short | long
  · rw [Nat.sub_eq_zero_of_le short.le, Nat.div_eq_of_lt (by omega : 0 + size - 1 < size)]
    exact Nat.div_eq_of_lt_le (by omega) (by omega)
  · have whole : length + size - 1 = length - size + size - 1 + size := by omega
    rw [whole, Nat.add_div_right _ positive]

/-- Pages are slices of one size, one behind the other, as many as it takes. -/
theorem pages_eq (size : Nat) (items : List α) :
    pages size items = (List.range (items.length ⌈/⌉ max 1 size)).map fun i =>
      (items.drop (i * max 1 size)).take (max 1 size) := by
  have positive : 0 < max 1 size := by omega
  induction items using pages.induct size with
  | case1 items empty =>
    rw [List.isEmpty_iff.1 empty, pages, if_pos List.isEmpty_nil, List.length_nil, zero_ceilDiv]
    rfl
  | case2 items some ih =>
    have filled : 0 < items.length := by
      simpa [List.isEmpty_iff, List.length_pos_iff] using some
    rw [pages, if_neg some, ih, ceilDiv_of_pos filled positive, List.length_drop,
      List.range_succ_eq_map, List.map_cons, List.map_map]
    congr 1
    · simp
    · refine List.map_congr_left fun i _ => ?_
      rw [Function.comp_apply, List.drop_drop, Nat.succ_mul, Nat.add_comm]

/-! ## One after the other -/

variable {fetch : List α → Remote V (List β)} {answer : List α → Except RemoteError (List β)}
  {key : List α → ι} {items : List α} {parts : List (List α)} {s : Session V}

/-- The pages up to the first one that fails. -/
def attempted (answer : List α → Except RemoteError (List β)) : List (List α) → List (List α)
  | [] => []
  | page :: rest => page :: bif (answer page).isOk then attempted answer rest else []

/-- A fetch of pages that answers each of them on its own, whatever others do meanwhile as far as
`R` allows it, and that notes each of them once. -/
structure Fetches (R : Session V → Session V → Prop) (tally : Session V → Multiset ι)
    (fetch : List α → Remote V (List β)) (answer : List α → Except RemoteError (List β))
    (key : List α → ι) (parts : List (List α)) (s : Session V) : Prop where
  answers : ∀ page ∈ parts, ∀ s', R s s' → Produces R (fetch page) s' fun r _ => r = answer page
  notes : ∀ page ∈ parts, ∀ s', R s s' → Task.Notes R tally (fetch page).run {key page} s'

variable [Composes R]

theorem Fetches.tail {page : List α} {s' : Session V}
    (h : Fetches R tally fetch answer key (page :: parts) s) (moved : R s s') :
    Fetches R tally fetch answer key parts s' where
  answers page mem s'' more :=
    h.answers page (List.mem_cons_of_mem _ mem) s'' (Composes.trans moved more)
  notes page mem s'' more :=
    h.notes page (List.mem_cons_of_mem _ mem) s'' (Composes.trans moved more)

private theorem mapM_fetches (h : Fetches R tally fetch answer key parts s) :
    Produces R (parts.mapM fetch) s (fun r _ => r = parts.mapM answer) ∧
      Task.Notes R tally (parts.mapM fetch).run ↑((attempted answer parts).map key) s := by
  induction parts generalizing s with
  | nil => exact ⟨.pure rfl, .pure _ s⟩
  | cons page rest ih =>
    have first := h.answers page List.mem_cons_self s (Composes.refl s)
    have noted := h.notes page List.mem_cons_self s (Composes.refl s)
    rw [List.mapM_cons, List.mapM_cons, attempted]
    cases answered : answer page with
    | error e =>
      rw [answered] at first
      exact ⟨first.bind_error, notes_bind_error first noted⟩
    | ok values =>
      rw [answered] at first
      have others : ∀ s', R s s' →
          Produces R (rest.mapM fetch) s' (fun r _ => r = rest.mapM answer) ∧
            Task.Notes R tally (rest.mapM fetch).run ↑((attempted answer rest).map key) s' :=
        fun s' moved => ih (h.tail moved)
      constructor
      · refine first.bind_ok fun s' moved => ?_
        refine (others s' moved).1.bind ?_ ?_
        · rintro lists s'' - brought
          refine .pure ?_
          rw [← brought]
          rfl
        · rintro e s'' failed
          show _ = (rest.mapM answer >>= fun lists => pure (values :: lists))
          rw [← failed]
          rfl
      · show Task.Notes R tally (fetch page >>= fun values => do
            return values :: (← rest.mapM fetch)).run
          ({key page} + ↑((attempted answer rest).map key)) s
        refine notes_bind_ok first noted fun s' moved => ?_
        exact notes_return (fun lists => values :: lists) (others s' moved).1 (others s' moved).2

omit [Composes R] in
/-- What a page adds to what is listed: if it failed, nothing. -/
def listed (answer : List α → Except RemoteError (List β)) (page : List α) : List β :=
  (answer page).toOption.getD []

theorem mapM_of_answered (h : ∀ page ∈ parts, (answer page).isOk = true) :
    parts.mapM answer = .ok (parts.map (listed answer)) ∧ attempted answer parts = parts := by
  induction parts with
  | nil => exact ⟨rfl, rfl⟩
  | cons page rest ih =>
    obtain ⟨first, others⟩ := List.forall_mem_cons.1 h
    obtain ⟨brought, all⟩ := ih others
    rw [List.mapM_cons, brought, attempted, first, all]
    unfold listed
    cases answered : answer page with
    | ok values => exact ⟨by simp [answered, Except.toOption]; rfl, rfl⟩
    | error e => rw [answered] at first; cases first

/-- The first page that fails is the last one that is fetched, and its error counts for all. -/
theorem mapM_of_failed (h : ¬ ∀ page ∈ parts, (answer page).isOk = true) :
    ∃ before page after e, parts = before ++ page :: after ∧
      (∀ b ∈ before, (answer b).isOk = true) ∧ answer page = .error e ∧
        parts.mapM answer = .error e ∧ attempted answer parts = before ++ [page] := by
  induction parts with
  | nil => exact absurd (List.forall_mem_nil _) h
  | cons page rest ih =>
    rw [List.mapM_cons, attempted]
    cases answered : answer page with
    | error e =>
      exact ⟨[], page, rest, e, rfl, List.forall_mem_nil _, answered, rfl, rfl⟩
    | ok values =>
      have others : ¬ ∀ page ∈ rest, (answer page).isOk = true := by
        intro all
        exact h (List.forall_mem_cons.2 ⟨by rw [answered]; rfl, all⟩)
      obtain ⟨before, failing, after, e, rfl, fine, failed, brought, asked⟩ := ih others
      rw [brought, asked]
      refine ⟨page :: before, failing, after, e, rfl, ?_, failed, rfl, rfl⟩
      exact List.forall_mem_cons.2 ⟨by rw [answered]; rfl, fine⟩

/-! ## Side by side -/

/-- The error of the first page that has found the debuggee gone. -/
def FirstLoss (answer : List α → Except RemoteError (List β)) (parts : List (List α))
    (e : RemoteError) : Prop :=
  ∃ before page after, parts = before ++ page :: after ∧ answer page = .error e ∧
    e.isDisconnect = true ∧ ∀ b ∈ before, ∀ e', answer b = .error e' → e'.isDisconnect = false

variable {page : List α} {rest : List (List α)} {e e' : RemoteError}

theorem firstLoss_cons_of_lost (answered : answer page = .error e')
    (lost : e'.isDisconnect = true) :
    FirstLoss answer (page :: rest) e ↔ e' = e := by
  constructor
  · rintro ⟨before, failing, after, parted, failed, -, fine⟩
    rcases before with _ | ⟨first, before⟩
    · obtain ⟨rfl, -⟩ := List.cons.inj parted
      exact Except.error.inj (answered.symm.trans failed)
    · obtain ⟨rfl, -⟩ := List.cons.inj parted
      have kept := fine page List.mem_cons_self e' answered
      rw [lost] at kept
      cases kept
  · rintro rfl
    exact ⟨[], page, rest, rfl, answered, lost, List.forall_mem_nil _⟩

theorem firstLoss_cons_of_kept
    (kept : ∀ e', answer page = .error e' → e'.isDisconnect = false) :
    FirstLoss answer (page :: rest) e ↔ FirstLoss answer rest e := by
  constructor
  · rintro ⟨before, failing, after, parted, failed, lost, fine⟩
    rcases before with _ | ⟨first, before⟩
    · obtain ⟨rfl, -⟩ := List.cons.inj parted
      rw [kept e failed] at lost
      cases lost
    · obtain ⟨-, rfl⟩ := List.cons.inj parted
      exact ⟨before, failing, after, rfl, failed, lost, (List.forall_mem_cons.1 fine).2⟩
  · rintro ⟨before, failing, after, rfl, failed, lost, fine⟩
    exact ⟨page :: before, failing, after, rfl, failed, lost, List.forall_mem_cons.2 ⟨kept, fine⟩⟩

/-- What was read side by side is given up only if a page has found the debuggee gone. -/
theorem gather_error_iff : gather (parts.map answer) = .error e ↔ FirstLoss answer parts e := by
  induction parts with
  | nil => simp [gather, FirstLoss]
  | cons page rest ih =>
    rw [List.map_cons]
    cases answered : answer page with
    | ok values =>
      rw [firstLoss_cons_of_kept (by simp [answered]), ← ih, gather]
      cases gather (rest.map answer) <;> simp [Except.map]
    | error e' =>
      rw [gather]
      by_cases lost : e'.isDisconnect = true
      · rw [if_pos lost, firstLoss_cons_of_lost answered lost, Except.error.injEq]
      · have kept : ∀ other, answer page = .error other → other.isDisconnect = false := by
          rintro other same
          rw [answered, Except.error.injEq] at same
          simpa [same] using lost
        rw [if_neg lost, firstLoss_cons_of_kept kept, ih]

theorem flatten_of_gather {values : List β} (h : gather (parts.map answer) = .ok values) :
    values = parts.flatMap (listed answer) := by
  induction parts generalizing values with
  | nil => exact (Except.ok.inj h).symm
  | cons page rest ih =>
    rw [List.map_cons] at h
    rw [List.flatMap_cons, listed]
    cases answered : answer page with
    | error e =>
      rw [answered, gather] at h
      split at h
      · cases h
      · exact ih h
    | ok first =>
      rw [answered, gather] at h
      cases others : gather (rest.map answer) with
      | error e => rw [others] at h; cases h
      | ok more =>
        rw [others] at h
        rw [← ih others]
        exact (Except.ok.inj h).symm

/-! ## Pages that fail -/

/-- The pages that are fetched. -/
def fetched (mode : CallMode) (answer : List α → Except RemoteError (List β))
    (parts : List (List α)) : List (List α) :=
  match mode with
  | .synchronous => attempted answer parts
  | .pipelined => parts

/-- What is made of the answers to all pages. -/
def combined (mode : CallMode) (answer : List α → Except RemoteError (List β))
    (parts : List (List α)) : Except RemoteError (List β) :=
  match mode with
  | .synchronous => (parts.mapM answer).map List.flatten
  | .pipelined => gather (parts.map answer)

theorem fetchPaged_combined {policy : FetchPolicy}
    (h : Fetches R tally fetch answer key (pages policy.pageSize items) s) :
    Produces R (fetchPaged policy items fetch) s
        (fun r _ => r = combined policy.mode answer (pages policy.pageSize items)) ∧
      Task.Notes R tally (fetchPaged policy items fetch).run
        ↑((fetched policy.mode answer (pages policy.pageSize items)).map key) s := by
  unfold fetchPaged
  dsimp only
  cases policy.mode with
  | synchronous =>
    obtain ⟨brought, noted⟩ := mapM_fetches h
    refine ⟨brought.bind ?_ ?_, notes_return List.flatten brought noted⟩
    · rintro lists s' - same
      refine .pure ?_
      rw [combined, ← same]
      rfl
    · rintro e s' same
      rw [combined, ← same]
      rfl
  | pipelined =>
    have side : Task.Yields R (Task.all ((pages policy.pageSize items).map fun page =>
        (fetch page).run)) s fun results _ => results = (pages policy.pageSize items).map answer :=
      .all h.answers
    have noted := Task.Notes.all h.answers h.notes
    constructor
    · refine .quietly_bind side ?_
      rintro _ s' - rfl
      rw [combined]
      cases gather ((pages policy.pageSize items).map answer) with
      | ok values => exact .pure rfl
      | error e => exact .throw rfl
    · rw [fetched, ← add_zero (Multiset.ofList _)]
      refine notes_quietly_bind side noted fun results s' _ _ => ?_
      split
      · exact .pure _ s'
      · exact .pure _ s'

/-! ## The fields of an object -/

/-- The calls that were made. -/
def callTally (s : Session V) : Multiset Call := ↑(s.calls.map Exchange.call)

omit [Composes R] in
/-- A call is noted once, whatever has become of it and whatever others do meanwhile. -/
theorem tryCall_notes [Machine V] (c : Call) (s : Session V) :
    Task.Notes R callTally (tryCall c) {c} s := by
  have issued : Task.Moves (Untold callTally) (issue c : Task (Session V) _) :=
    issue_moves (fun _ => rfl) fun _ => rfl
  have asked : Task.Moves (Untold callTally) (ask c : Task (Session V) _) := by
    unfold ask
    refine .bind issued fun r => ?_
    split
    · exact .bind (.modify fun _ => rfl) fun _ => .pure _
    · exact .bind (.pure _) fun _ => .pure _
  have counted : ∀ (r : Except RemoteError c.Reply) (s' : Session V),
      callTally (note c r s') = callTally s' + {c} := by
    intro r s'
    simp [callTally, note, ← Multiset.coe_add, ← Multiset.coe_singleton]
  unfold tryCall
  show Step.Notes R callTally ((if s.cancelled then _ else _ : Task (Session V) _) s) _ s
  split
  · exact counted _ s
  · exact .following (asked.step s) fun r s' => counted r s'

/-- The values of fields of an object are read so. -/
theorem fetches_fieldValues (known : List FrameProxy) {s : Session Debuggee}
    (responsive : s.Responsive) (id : ObjectId) (parts : List (List Field)) :
    Fetches (Peruses known) callTally (fun page => call (.fieldValues id page))
      (fun page => (s.machine.fieldValues id page).1) (.fieldValues id) parts s where
  answers page _ s' moved := by
    refine (lookup_produces rfl (moved.responsive responsive)).mono ?_
    rintro r _ rfl
    exact moved.machine.same.reply (c := .fieldValues id page) rfl
  notes page _ s' _ := tryCall_notes _ s'

/-! ## Pages and what is made of them -/

/-- Pages are slices of one size that follow each other. If all are answered, the answers are
brought in order. Otherwise, one after the other, the error of the first page that fails is all
there is, and no later page is fetched; side by side, all pages are fetched, and what was answered
is brought unless one of them has found the debuggee gone. -/
theorem fetchPaged_exact {policy : FetchPolicy}
    (h : Fetches R tally fetch answer key (pages policy.pageSize items) s) :
    let size := max 1 policy.pageSize
    let parts := pages policy.pageSize items
    (parts = (List.range (items.length ⌈/⌉ size)).map (fun i => (items.drop (i * size)).take size) ∧
      parts.flatten = items ∧ ∀ page ∈ parts, page.length ≤ size) ∧
    ∃ r asked, Produces R (fetchPaged policy items fetch) s (fun r' _ => r' = r) ∧
      Task.Notes R tally (fetchPaged policy items fetch).run ↑(asked.map key) s ∧
      ((∀ page ∈ parts, (answer page).isOk = true) →
        r = .ok (parts.flatMap (listed answer)) ∧ asked = parts) ∧
      (policy.mode = .synchronous → (¬ ∀ page ∈ parts, (answer page).isOk = true) →
        ∃ before page after e, parts = before ++ page :: after ∧
          (∀ b ∈ before, (answer b).isOk = true) ∧ answer page = .error e ∧
            r = .error e ∧ asked = before ++ [page]) ∧
      (policy.mode = .pipelined → asked = parts ∧ (∀ e, r = .error e ↔ FirstLoss answer parts e) ∧
        ∀ values, r = .ok values → values = parts.flatMap (listed answer)) := by
  intro size parts
  refine ⟨⟨pages_eq .., pages_flatten .., fun page mem => ?_⟩,
    combined policy.mode answer parts, fetched policy.mode answer parts,
    (fetchPaged_combined h).1, (fetchPaged_combined h).2, fun answered => ?_,
    fun mode failed => ?_, fun mode => ?_⟩
  · rw [show parts = _ from pages_eq ..] at mem
    obtain ⟨i, -, rfl⟩ := List.mem_map.1 mem
    exact List.length_take_le ..
  · obtain ⟨brought, all⟩ := mapM_of_answered answered
    cases policy.mode with
    | synchronous =>
      rw [combined, fetched, brought, all, List.flatMap_def]
      exact ⟨rfl, rfl⟩
    | pipelined =>
      refine ⟨?_, rfl⟩
      cases result : combined .pipelined answer parts with
      | ok values => rw [flatten_of_gather result]
      | error e =>
        obtain ⟨before, page, after, parted, failed, -⟩ := gather_error_iff.1 result
        have fine := answered page (by rw [parted]; simp)
        rw [failed] at fine
        cases fine
  · obtain ⟨before, page, after, e, parted, fine, error, brought, asked⟩ := mapM_of_failed failed
    refine ⟨before, page, after, e, parted, fine, error, ?_, ?_⟩
    · rw [mode, combined, brought]
      rfl
    · rw [mode, fetched, asked]
  · rw [mode]
    exact ⟨rfl, fun e => gather_error_iff, fun values => flatten_of_gather⟩

/-- An object with five fields, the third of which cannot be read. -/
def shape : Debuggee :=
  let type := "com.example.Shape"
  let values := [("a", 0), ("b", 1), ("c", 2), ("d", 3), ("e", 4)].foldl
    (fun (values : Table (String × String) Value) v => values.insert (type, v.1) (.int v.2)) {}
  { ({} : Debuggee).addObject { reference := ⟨40, type, .plain⟩, fields := values } with
    failingFieldReads := ["c"] }

/-- Of three pages that are read side by side the second one is left out. -/
theorem fetchPaged_exact_shape :
    let field (name : String) : Field :=
      { name, declaringType := "com.example.Shape", signature := "I" }
    let fields := ["a", "b", "c", "d", "e"].map field
    Settles (fetchPaged ⟨2, .pipelined⟩ fields fun page => call (.fieldValues 40 page))
      (start shape {} {}) fun r s' => r = .ok [.int 0, .int 1, .int 4] ∧
        callTally s' = ↑([[field "a", field "b"], [field "c", field "d"], [field "e"]].map
          (Call.fieldValues 40)) := by
  intro field fields
  let policy : FetchPolicy := ⟨2, .pipelined⟩
  let parts := pages policy.pageSize fields
  have responsive : (start shape {} {}).Responsive := by decide +kernel
  have sliced : parts =
      [[field "a", field "b"], [field "c", field "d"], [field "e"]] := by decide +kernel
  have fetches := fetches_fieldValues [] responsive 40 parts
  obtain ⟨-, r, asked, brought, noted, -, -, together⟩ := fetchPaged_exact fetches
  obtain ⟨rfl, lost, listed⟩ := together rfl
  have kept : ∀ page ∈ parts, (shape.fieldValues 40 page).1 ≠ .error .disconnected := by
    decide +kernel
  have found : r = .ok [.int 0, .int 1, .int 4] := by
    cases r with
    | ok values =>
      rw [listed values rfl]
      decide +kernel
    | error e =>
      obtain ⟨before, page, after, parted, failed, gone, -⟩ := (lost e).1 rfl
      obtain rfl := (RemoteError.isDisconnect_iff e).1 gone
      have read : page ∈ parts := by
        rw [show parts = _ from parted]
        simp
      exact absurd failed (kept page read)
  refine (Task.Ends.and (brought.settles Peruses.advance)
    (noted.ends Peruses.advance fun _ _ => rfl)).mono ?_
  rintro r' s' ⟨⟨-, rfl⟩, counted⟩
  refine ⟨found, counted.trans ?_⟩
  show callTally (start shape {} {}) + ↑(parts.map (Call.fieldValues 40)) = _
  rw [sliced]
  exact zero_add _

end Session
end DebugSession
