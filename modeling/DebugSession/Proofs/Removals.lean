import DebugSession.Proofs.Maintenance
import DebugSession.Proofs.Meanwhile
/-!
Requests on the debuggee while breakpoints are brought in line. What is not wanted any more goes
before anything new comes, so that at no moment two requests stand for one place, unless one of them
could not be deleted.
-/

namespace DebugSession

/-- Whether a request can be one for what is kept at a place. -/
def Place.Suits : Place → EventRequest → Prop
  | .line _ _, .breakpoint _ _ _ _ => True
  | .field className fieldName, .watchpoint className' fieldName' _ _ =>
    className' = className ∧ fieldName' = fieldName
  | _, _ => False

theorem Installed.suits {i : Installed} {q : EventRequest} (asked : i.request? = some q) :
    i.place.Suits q := by
  cases i with
  | breakpoint b =>
    obtain ⟨l, -, rfl⟩ := Option.map_eq_some_iff.1 asked
    trivial
  | watchpoint w =>
    obtain rfl := Option.some.inj asked
    exact ⟨rfl, rfl⟩

namespace Session

variable {V : Type} {began s s₁ : Session V} {p : Place} {i : Installed} {r : RequestId}

/-- The place for which a request was installed: as it is noted, or as it was when the work `began`
that is deleting it. -/
def place? (began s : Session V) (r : RequestId) : Option Place :=
  (s.breakpoints.owners.get? r <|> began.breakpoints.owners.get? r).map Owner.place

theorem place?_of_owner {o : Owner} (noted : s.breakpoints.owners.get? r = some o) :
    place? began s r = some o.place := by
  simp [place?, noted]

/-- What is kept at a place counts on requests that were noted for the place when the work
`began`. -/
def Since (began s : Session V) (p : Place) : Prop :=
  ∀ i, s.breakpoints.at? p = some i → ∀ r ∈ i.requests,
    (began.breakpoints.owners.get? r).map Owner.place = some p

theorem Since.congr (h : Since began s p) (same : s₁.breakpoints.at? p = s.breakpoints.at? p) :
    Since began s₁ p := by
  intro i there
  exact h i (same ▸ there)

theorem since_vacant (vacant : s.breakpoints.at? p = none) : Since began s p := by
  intro i there
  cases vacant.symm.trans there

variable [Machine V] [Ledger V]

/-- A request for a breakpoint or watchpoint that stands on the debuggee, and that was not tried in
vain to delete. -/
structure Standing (s : Session V) (r : RequestId) (q : EventRequest) : Prop where
  live : Ledger.live s.machine r = some q
  placed : q.isPlaced = true
  kept : ¬ s.DeleteFailed r

/-- No two requests stand for one place, but for failed deletions. -/
structure Sparse (began s : Session V) : Prop where
  placed : ∀ r q, s.Standing r q → ∃ p, place? began s r = some p ∧ p.Suits q
  sole : ∀ r r' q q' p, s.Standing r q → s.Standing r' q' → place? began s r = some p →
    place? began s r' = some p → r' = r

theorem Booked.since (h : s.Booked []) (p : Place) : Since s s p := by
  intro i there r mem
  rw [h.books.noted p i there r mem]
  exact congrArg some (h.books.keyed p i there)

/-- A standing request that is not loose is counted on where it is noted for. -/
private theorem Booked.counted {loose : List RequestId} (h : s.Booked loose) {q : EventRequest}
    (stands : s.Standing r q) (fixed : r ∉ loose) :
    ∃ i, s.breakpoints.owners.get? r = some i.owner ∧ s.breakpoints.at? i.place = some i ∧
      r ∈ i.requests ∧ i.place.Suits q := by
  obtain ⟨o, noted⟩ := Option.isSome_iff_exists.1
    ((h.books.covered r q stands.live stands.placed).resolve_right stands.kept)
  obtain ⟨i, there, rfl, mem⟩ := (h.books.kept r o noted).resolve_left fixed
  refine ⟨i, noted, there, mem, i.suits ?_⟩
  rw [← h.books.matched _ i there r mem, stands.live]

theorem Booked.sparse (h : s.Booked []) (began : Session V) : Sparse began s := by
  constructor
  · intro r q stands
    obtain ⟨i, noted, -, -, suits⟩ := h.counted stands List.not_mem_nil
    exact ⟨i.place, place?_of_owner noted, suits⟩
  · intro r r' q q' p stands stands' placed placed'
    obtain ⟨i, noted, there, mem, -⟩ := h.counted stands List.not_mem_nil
    obtain ⟨i', noted', there', mem', -⟩ := h.counted stands' List.not_mem_nil
    have here := Option.some.inj ((place?_of_owner noted).symm.trans placed)
    have here' := Option.some.inj ((place?_of_owner noted').symm.trans placed')
    rw [show i.owner.place = i.place from rfl] at here
    rw [show i'.owner.place = i'.place from rfl] at here'
    rw [here] at there
    rw [here'] at there'
    obtain rfl := Option.some.inj (there.symm.trans there')
    exact h.books.sole_request there mem mem'

/-- While the one request that is loose is being deleted, nothing else stands for its place. -/
private theorem Booked.sparse_deleting (h : s.Booked [r])
    (vacant : ∀ i, s.breakpoints.at? p = some i → i.requests = [])
    (noted : (began.breakpoints.owners.get? r).map Owner.place = some p)
    (suits : ∀ q, Ledger.live s.machine r = some q → p.Suits q)
    (live : Ledger.live s₁.machine = Ledger.live s.machine) (calls : s₁.calls = s.calls)
    (erased : s₁.breakpoints.owners = s.breakpoints.owners.erase r) : Sparse began s₁ := by
  have stood : ∀ r' q, s₁.Standing r' q → s.Standing r' q := by
    rintro r' q ⟨stands, placed, kept⟩
    exact ⟨live ▸ stands, placed, by rwa [DeleteFailed, ← calls]⟩
  have self : place? began s₁ r = some p := by
    rw [place?, erased, Table.get?_erase, if_pos rfl, Option.orElse_eq_orElse,
      Option.orElse_eq_or, Option.none_or, noted]
  have others : ∀ r' q, s.Standing r' q → r' ≠ r → ∃ i, place? began s₁ r' = some i.place ∧
      s.breakpoints.at? i.place = some i ∧ r' ∈ i.requests ∧ i.place.Suits q := by
    intro r' q stands away
    obtain ⟨i, noted, there, mem, suits⟩ := h.counted stands (by simpa using away)
    refine ⟨i, place?_of_owner ?_, there, mem, suits⟩
    rw [erased, Table.get?_erase, if_neg away, noted]
  have elsewhere : ∀ r' q, s.Standing r' q → r' ≠ r → place? began s₁ r' ≠ some p := by
    intro r' q stands away placed
    obtain ⟨i, here, there, mem, -⟩ := others r' q stands away
    obtain rfl := Option.some.inj (here.symm.trans placed)
    rw [vacant i there] at mem
    cases mem
  constructor
  · intro r' q stands
    by_cases away : r' = r
    · subst away
      exact ⟨p, self, suits q (stood _ q stands).live⟩
    · obtain ⟨i, here, -, -, suits⟩ := others r' q (stood r' q stands) away
      exact ⟨i.place, here, suits⟩
  · intro r₁ r₂ q₁ q₂ p' stands₁ stands₂ placed₁ placed₂
    by_cases away₁ : r₁ = r
    · subst away₁
      obtain rfl := Option.some.inj (self.symm.trans placed₁)
      by_contra away₂
      exact elsewhere r₂ q₂ (stood r₂ q₂ stands₂) away₂ placed₂
    by_cases away₂ : r₂ = r
    · subst away₂
      obtain rfl := Option.some.inj (self.symm.trans placed₂)
      exact absurd placed₁ (elsewhere r₁ q₁ (stood r₁ q₁ stands₁) away₁)
    obtain ⟨i, here, there, mem, -⟩ := others r₁ q₁ (stood r₁ q₁ stands₁) away₁
    obtain ⟨i', here', there', mem', -⟩ := others r₂ q₂ (stood r₂ q₂ stands₂) away₂
    have same : i'.place = i.place :=
      Option.some.inj (here'.symm.trans (placed₂.trans (placed₁.symm.trans here)))
    rw [same] at there'
    obtain rfl := Option.some.inj (there.symm.trans there')
    exact h.books.sole_request there mem mem'

/-! ## Single calls -/

private theorem Booked.submitted {loose : List RequestId} (h : s.Booked loose) (c : Call) :
    ({ s with machine := (Machine.submit c s.machine).2 } : Session V).Booked loose where
  sound := Ledger.sound_submit c s.machine h.sound
  books := by
    rw [Ledger.live_submit c s.machine h.sound]
    exact h.books

/-- While nothing is loose, whatever is asked of the debuggee finds it so. -/
private theorem tryCall_sparse (h : s.Booked []) (began : Session V) (c : Call) :
    Task.Meanwhile (tryCall c) s (Sparse began) :=
  tryCall_meanwhile ((h.submitted c).sparse began)

/-- Where nothing counts on a request any more, it can be deleted. -/
private theorem deleteRequests_sparse {rs : List RequestId} (h : s.Booked rs)
    (single : rs.length ≤ 1) (vacant : ∀ i, s.breakpoints.at? p = some i → i.requests = [])
    (noted : ∀ r ∈ rs, (began.breakpoints.owners.get? r).map Owner.place = some p)
    (suits : ∀ r ∈ rs, ∀ q, Ledger.live s.machine r = some q → p.Suits q) :
    Task.Meanwhile (deleteRequests rs) s (Sparse began) := by
  rcases rs with _ | ⟨r, _ | ⟨r', rest⟩⟩
  · trivial
  · unfold deleteRequests
    simp only [Task.meanwhile_bind, Task.meanwhile_modify, Task.ends_modify, true_and]
    refine ⟨tryCall_meanwhile ?_, Task.ends_of_forall fun _ _ => trivial⟩
    exact h.sparse_deleting vacant (noted r (List.mem_singleton_self r))
      (suits r (List.mem_singleton_self r)) (Ledger.live_submit _ _ h.sound) rfl rfl
  · simp at single

/-- What was kept at a place gives way to something without requests. -/
private theorem release_sparse (h : s.Booked []) (stored : s.breakpoints.at? p = some i)
    (since : Since began s p) {b : Breakpoints} {new : Option Installed}
    (bare : ∀ j, new = some j → j.owner = i.owner ∧ j.requests = [])
    (swapped : s.breakpoints.Swap b p new) :
    Task.Meanwhile (deleteRequests i.requests) (modifyBreakpoints (fun _ => b) s)
      (Sparse began) := by
  have books := h.books.release stored new bare swapped
  have released : (modifyBreakpoints (fun _ => b) s).Booked i.requests := ⟨h.sound, books⟩
  refine deleteRequests_sparse released (h.books.single p i stored) (fun j there => ?_)
    (since i stored) fun r mem q live => ?_
  · exact (bare j (swapped.at_self.symm.trans there)).2
  · have live : Ledger.live s.machine r = some q := live
    rw [h.books.matched p i stored r mem] at live
    exact h.books.keyed p i stored ▸ i.suits live

private theorem installRequest_sparse (h : s.Booked []) (began : Session V) (q : EventRequest) :
    Meanwhile (installRequest q) s (Sparse began) := by
  refine Meanwhile.last ((meanwhile_attempt _).2 (tryCall_sparse h began _)) fun r s' => ?_
  split
  · trivial
  · split <;> trivial

/-- What is kept at a place, and was perhaps revised, is installed anew. `make` is what is kept
there by its installation, and `amend` changes that installation. -/
private theorem reinstall_sparse {o : Owner} (make : Installation → Installed)
    {amend : (Installation → Installation) → Session V → Session V}
    {place : Action V (Installation → Installation)}
    (owner : ∀ i, (make i).owner = o) (requests : ∀ i, (make i).requests = i.requests)
    (amends : ∀ f s i, s.breakpoints.at? p = some (make i) →
      ∃ b, amend f s = modifyBreakpoints (fun _ => b) s ∧
        s.breakpoints.Swap b p (some (make (f i))))
    {i : Installation} (placing : ∀ s, s.Booked [] → Meanwhile place s (Sparse began))
    (h : s.Booked []) {j : Installed} (stored : s.breakpoints.at? p = some j)
    (since : Since began s p) (same_owner : j.owner = o) (same_requests : j.requests = i.requests)
    {b : Breakpoints} (revised : s.breakpoints.Swap b p (some (make i))) :
    Meanwhile (reinstall amend i.requests place) (modifyBreakpoints (fun _ => b) s)
      (Sparse began) := by
  obtain ⟨b₀, same, swapped⟩ := amends (fun i => { i with requests := [] })
    (modifyBreakpoints (fun _ => b) s) i revised.at_self
  have swapped : s.breakpoints.Swap b₀ p (some (make { i with requests := [] })) :=
    revised.again swapped
  have bare : ∀ k, some (make { i with requests := [] }) = some k →
      k.owner = j.owner ∧ k.requests = [] := by
    rintro k ⟨⟩
    exact ⟨(owner _).trans same_owner.symm, requests _⟩
  have emptied : (modifyBreakpoints (fun _ => b₀) s).Booked j.requests :=
    ⟨h.sound, h.books.release stored _ bare swapped⟩
  have released := release_sparse h stored since bare swapped
  rw [same_requests] at emptied released
  unfold reinstall
  rw [meanwhile_modify_bind, same.trans (rfl : _ = modifyBreakpoints (fun _ => b₀) s)]
  refine released.andThen (deleteLoose_ends emptied) ?_
  rintro _ s₁ ⟨booked, -⟩
  exact (placing s₁ booked).last fun _ _ => trivial

/-! ## Lines -/

section

variable {source : String} {line : UInt32}

omit [Machine V] [Ledger V] in
private theorem since_line (h : Since began s (.line source line))
    (same : s₁.breakpoints.breakpoint? source line = s.breakpoints.breakpoint? source line) :
    Since began s₁ (.line source line) :=
  h.congr (congrArg (Option.map Installed.breakpoint) same)

private theorem placeBreakpoint_sparse (h : s.Booked []) (began : Session V) (bp : Breakpoint) :
    Meanwhile (placeBreakpoint bp) s (Sparse began) := by
  unfold placeBreakpoint
  split
  · trivial
  · exact (installRequest_sparse h began _).last fun _ _ => trivial

private theorem reviseBreakpoint_sparse {bp : Breakpoint} (spec : BreakpointSpec)
    (h : s.Booked [])
    (stored : s.breakpoints.at? (.line bp.source bp.line) = some (.breakpoint bp))
    (since : Since began s (.line bp.source bp.line)) :
    Meanwhile (reviseBreakpoint bp spec) s (Sparse began) := by
  unfold reviseBreakpoint
  rw [meanwhile_modify_bind]
  split
  · exact reinstall_sparse (o := .breakpoint bp.source bp.line bp.id)
      (fun i => .breakpoint { bp with installation := i }) (fun _ => rfl) (fun _ => rfl)
      (fun f s i there => amendBreakpoint_swap { bp with installation := i } f there)
      (i := BreakpointSpec.revise spec bp.installation)
      (fun s booked => placeBreakpoint_sparse booked began _) h stored since rfl rfl
      (Breakpoints.swap_putBreakpoint s.breakpoints _)
  · trivial

private theorem reviseAll_sparse (visited : List UInt32) (specs : List BreakpointSpec)
    (h : s.Booked []) (since : ∀ line, line ∉ visited → Since began s (.line source line)) :
    Meanwhile (reviseAll source visited specs) s (Sparse began) := by
  induction specs generalizing visited s with
  | nil => trivial
  | cons spec rest ih =>
    have skips : Meanwhile (reviseAll source (spec.line :: visited) rest) s (Sparse began) :=
      ih _ h fun line new => since line (List.not_mem_of_not_mem_cons new)
    unfold reviseAll
    rw [meanwhile_get_bind]
    split
    · rename_i bp found
      split
      · rename_i unseen
        have unseen : spec.line ∉ visited := by simpa using unseen
        obtain ⟨rfl, line, stored⟩ := h.books.breakpoint_stored found
        have since_here := since spec.line unseen
        rw [line] at since_here
        refine (reviseBreakpoint_sparse spec h stored since_here).andThen
          (Task.Ends.and (reviseBreakpoint_settles spec h stored)
            (reviseBreakpoint_works bp spec s)) ?_
        rintro _ s₁ ⟨booked, xs, -, -, new, refiled, -⟩
        refine ih _ booked fun line' away => ?_
        obtain ⟨other, unvisited⟩ := not_or.1 (mt List.mem_cons.2 away)
        refine since_line (since line' unvisited) ?_
        rw [refiled.lines, ← line, Function.update_of_ne other]
      · exact skips
    · exact skips

private theorem removeLines_sparse (lines : List UInt32) (distinct : lines.Nodup)
    (h : s.Booked []) (since : ∀ line ∈ lines, Since began s (.line source line)) :
    Task.Meanwhile (removeLines source lines) s (Sparse began) := by
  induction lines generalizing s with
  | nil => trivial
  | cons line rest ih =>
    obtain ⟨new, others⟩ := List.nodup_cons.1 distinct
    have later : ∀ line' ∈ rest, Since began s (.line source line') :=
      fun line' mem => since line' (List.mem_cons_of_mem line mem)
    unfold removeLines
    simp only [Task.meanwhile_bind, Task.meanwhile_get, Task.ends_get, true_and]
    split
    · exact ih others h later
    · rename_i bp found
      have stored := Breakpoints.at?_eq_breakpoint.2 found
      have swapped := Breakpoints.swap_dropBreakpoint s.breakpoints source line
      have dropped : (modifyBreakpoints (fun b => b.dropBreakpoint source line) s).Booked
          bp.installation.requests :=
        ⟨h.sound, h.books.release stored none (by rintro j ⟨⟩) swapped⟩
      simp only [Task.meanwhile_bind, Task.meanwhile_modify, Task.ends_modify, true_and]
      refine ⟨release_sparse h stored (since line List.mem_cons_self) (by rintro j ⟨⟩) swapped,
        (deleteLoose_ends dropped).mono ?_⟩
      rintro _ s₁ ⟨booked, owners, same⟩
      refine ih others booked fun line' mem => since_line (later line' mem) ?_
      have away : line' ≠ line := by
        rintro rfl
        exact new mem
      rw [same]
      exact (congrFun (Breakpoints.breakpoint?_drop s.breakpoints source line) line').trans
        (Function.update_of_ne away ..)

private theorem createBreakpoint_sparse (h : s.Booked []) (began : Session V)
    (spec : BreakpointSpec) : Meanwhile (createBreakpoint source spec) s (Sparse began) := by
  unfold createBreakpoint takeBreakpointId
  rw [meanwhile_get_bind]
  dsimp only
  rw [meanwhile_modifyGet_bind]
  have numbered : ({ s with breakpoints := s.breakpoints.takeId.2 } : Session V).Booked [] :=
    ⟨h.sound, h.books.congr rfl rfl rfl rfl⟩
  exact (placeBreakpoint_sparse numbered began _).last fun _ _ => trivial

private theorem createMissing_sparse (h : s.Booked []) (began : Session V)
    (specs : List BreakpointSpec) : Meanwhile (createMissing source specs) s (Sparse began) := by
  induction specs generalizing s with
  | nil => trivial
  | cons spec rest ih =>
    unfold createMissing
    rw [meanwhile_get_bind]
    split
    · rename_i vacant
      exact (createBreakpoint_sparse h began spec).andThen
        (createBreakpoint_settles h (Option.isNone_iff_eq_none.1 vacant))
        fun _ s₁ booked => ih booked
    · exact ih h

private theorem bringInLine_sparse (source : String) (specs : List BreakpointSpec)
    (h : s.Booked []) (filed : s.breakpoints.Filed)
    (since : ∀ line, Since began s (.line source line)) :
    Meanwhile (bringInLine source specs) s (Sparse began) := by
  have all : s.breakpoints.breakpoint? source =
      unvisited [] (s.breakpoints.breakpoint? source) := by
    funext line
    simp [unvisited]
  have revised := Task.Ends.and (reviseAll_settles source [] specs h)
    (reviseAll_works [] specs filed all)
  unfold bringInLine
  refine (reviseAll_sparse [] specs h fun line _ => since line).andThen revised ?_
  rintro _ s₁ ⟨booked, xs, worked, -, revised⟩
  rw [meanwhile_get_bind]
  -- What is removed was not asked for, so that it is still as it was.
  refine Task.Meanwhile.andThen (removeLines_sparse (unasked s₁.breakpoints source specs)
    (((worked.filed filed).nodup_lines source).filter _) booked fun line mem => ?_)
    (removeLines_ends source _ booked) ?_
  · exact since_line (since line) (revised.untouched line (.inr (mem_unasked.1 mem).2))
  · rintro _ s₂ booked
    exact (createMissing_sparse booked began specs).last fun _ _ => trivial

private theorem clearSource_sparse (source : String) (h : s.Booked [])
    (filed : s.breakpoints.Filed) (since : ∀ line, Since began s (.line source line)) :
    Task.Meanwhile (clearSource source) s (Sparse began) := by
  unfold clearSource
  simp only [Task.meanwhile_bind, Task.meanwhile_get, Task.ends_get, true_and]
  exact removeLines_sparse _ (filed.nodup_lines source) h fun line _ => since line

theorem setBreakpoints_sparse (source : String) (specs : List BreakpointSpec) (modified : Bool)
    (h : s.Booked []) (filed : s.breakpoints.Filed) :
    Meanwhile (setBreakpoints source specs modified) s (Sparse s) := by
  have booked := h.line (s.line.join .lines).2
  have since : ∀ line, Since s { s with line := (s.line.join .lines).2 } (.line source line) :=
    fun line => (h.since (.line source line)).congr rfl
  suffices reconciled : Meanwhile (reconcileLines source specs modified)
      { s with line := (s.line.join .lines).2 } (Sparse s) from
    Task.meanwhile_exclusively (booked.sparse s) reconciled
  cases modified with
  | false =>
    rw [reconcileLines_unmodified]
    exact bringInLine_sparse source specs booked filed since
  | true =>
    have cleared := Task.Ends.and (clearSource_works source (s := { s with
      line := (s.line.join .lines).2 }) filed) (clearSource_ends source booked)
    rw [reconcileLines_modified]
    refine Task.Meanwhile.andThen (clearSource_sparse source booked filed since) cleared ?_
    rintro _ s₁ ⟨⟨xs, worked, -, lines, -⟩, booked⟩
    refine bringInLine_sparse source specs booked (worked.filed filed) fun line => ?_
    refine since_vacant ?_
    rw [Breakpoints.at?, lines]
    rfl

end

/-! ## Fields -/

omit [Machine V] [Ledger V] in
private theorem since_field {key : String × String} (h : Since began s (.field key.1 key.2))
    (same : s₁.breakpoints.watchpoint? key = s.breakpoints.watchpoint? key) :
    Since began s₁ (.field key.1 key.2) :=
  h.congr (congrArg (Option.map Installed.watchpoint) same)

private theorem placeWatchpoint_sparse (h : s.Booked []) (began : Session V) (w : Watchpoint) :
    Meanwhile (placeWatchpoint w) s (Sparse began) :=
  (installRequest_sparse h began _).last fun _ _ => trivial

private theorem reviseWatchpoint_sparse {w : Watchpoint} (spec : WatchpointSpec) (h : s.Booked [])
    (key : spec.key = (w.className, w.fieldName))
    (stored : s.breakpoints.at? (.field w.className w.fieldName) = some (.watchpoint w))
    (since : Since began s (.field w.className w.fieldName)) :
    Meanwhile (reviseWatchpoint w spec) s (Sparse began) := by
  unfold reviseWatchpoint
  rw [meanwhile_modify_bind, key]
  split
  · exact reinstall_sparse (o := .watchpoint w.className w.fieldName w.id)
      (fun i => .watchpoint { w with installation := i }) (fun _ => rfl) (fun _ => rfl)
      (fun f s i there => amendWatchpoint_swap { w with installation := i } f there)
      (i := WatchpointSpec.revise spec w.installation)
      (fun s booked => placeWatchpoint_sparse booked began _) h stored since rfl rfl
      (Breakpoints.swap_putWatchpoint s.breakpoints _)
  · trivial

private theorem reviseWatchpoints_sparse (kept : List (String × String))
    (specs : List WatchpointSpec) (h : s.Booked [])
    (since : ∀ key, key ∉ kept → Since began s (.field key.1 key.2)) :
    Meanwhile (reviseWatchpoints kept specs) s (Sparse began) := by
  induction specs generalizing kept s with
  | nil => trivial
  | cons spec rest ih =>
    unfold reviseWatchpoints
    rw [meanwhile_get_bind]
    split
    · rename_i w found
      split
      · split
        · rename_i new
          have new : spec.key ∉ kept := by simpa using new
          obtain ⟨own, stored⟩ := h.books.watchpoint_stored found
          have keyed : w.key = spec.key := own.symm
          have since_here : Since began s (.field w.key.1 w.key.2) :=
            keyed ▸ since spec.key new
          refine (reviseWatchpoint_sparse spec h keyed.symm stored since_here).andThen
            (Task.Ends.and (reviseWatchpoint_settles spec h keyed.symm stored)
              (reviseWatchpoint_tends found keyed)) ?_
          rintro _ s₁ ⟨booked, xs, -, -, -, w', -, fields⟩
          refine ih _ booked fun key away => ?_
          obtain ⟨other, unkept⟩ := not_or.1 (mt List.mem_cons.2 away)
          refine since_field (since key unkept) ?_
          rw [fields, Function.update_of_ne other]
        · exact ih _ h fun key new => since key (List.not_mem_of_not_mem_cons new)
      · exact ih _ h since
    · exact ih _ h since

private theorem removeFields_sparse (keys : List (String × String)) (distinct : keys.Nodup)
    (h : s.Booked []) (since : ∀ key ∈ keys, Since began s (.field key.1 key.2)) :
    Task.Meanwhile (removeFields keys) s (Sparse began) := by
  induction keys generalizing s with
  | nil => trivial
  | cons key rest ih =>
    obtain ⟨new, others⟩ := List.nodup_cons.1 distinct
    have later : ∀ key' ∈ rest, Since began s (.field key'.1 key'.2) :=
      fun key' mem => since key' (List.mem_cons_of_mem key mem)
    unfold removeFields
    simp only [Task.meanwhile_bind, Task.meanwhile_get, Task.ends_get, true_and]
    split
    · exact ih others h later
    · rename_i w found
      have stored := Breakpoints.at?_eq_watchpoint.2 found
      have swapped := Breakpoints.swap_dropWatchpoint s.breakpoints key.1 key.2
      have dropped : (modifyBreakpoints (fun b => b.dropWatchpoint key) s).Booked
          w.installation.requests :=
        ⟨h.sound, h.books.release stored none (by rintro j ⟨⟩) swapped⟩
      simp only [Task.meanwhile_bind, Task.meanwhile_modify, Task.ends_modify, true_and]
      refine ⟨release_sparse h stored (since key List.mem_cons_self) (by rintro j ⟨⟩) swapped,
        (deleteLoose_ends dropped).mono ?_⟩
      rintro _ s₁ ⟨booked, owners, same⟩
      refine ih others booked fun key' mem => since_field (later key' mem) ?_
      have away : key' ≠ key := by
        rintro rfl
        exact new mem
      rw [same]
      exact (congrFun (Breakpoints.watchpoint?_drop s.breakpoints key) key').trans
        (Function.update_of_ne away ..)

private theorem declaresField_sparse (h : s.Booked []) (began : Session V)
    (spec : WatchpointSpec) : Meanwhile (declaresField spec) s (Sparse began) := by
  refine Meanwhile.last ((meanwhile_attempt _).2 (tryCall_sparse h began _)) fun r s' => ?_
  split <;> split <;> trivial

private theorem createWatchpoint_sparse (h : s.Booked []) (began : Session V)
    (spec : WatchpointSpec) : Meanwhile (createWatchpoint spec) s (Sparse began) := by
  unfold createWatchpoint takeBreakpointId
  dsimp only
  rw [meanwhile_modifyGet_bind]
  have numbered : ({ s with breakpoints := s.breakpoints.takeId.2 } : Session V).Booked [] :=
    ⟨h.sound, h.books.congr rfl rfl rfl rfl⟩
  refine (declaresField_sparse numbered began spec).andThen
    (declaresField_settles spec numbered) ?_
  rintro declared s₁ ⟨booked, -⟩
  split
  · exact (placeWatchpoint_sparse booked began _).last fun _ _ => trivial
  · trivial

private theorem createMissingWatchpoints_sparse (h : s.Booked []) (began : Session V)
    (specs : List WatchpointSpec) :
    Meanwhile (createMissingWatchpoints specs) s (Sparse began) := by
  induction specs generalizing s with
  | nil => trivial
  | cons spec rest ih =>
    unfold createMissingWatchpoints takeBreakpointId
    rw [meanwhile_get_bind]
    split
    · split
      · exact (ih h).last fun _ _ => trivial
      · rw [meanwhile_modifyGet_bind]
        exact Meanwhile.last (ih ⟨h.sound, h.books.congr rfl rfl rfl rfl⟩) fun _ _ => trivial
    · rename_i vacant
      exact (createWatchpoint_sparse h began spec).andThen (createWatchpoint_settles h vacant)
        fun _ s₁ booked => (ih booked).last fun _ _ => trivial

theorem setWatchpoints_sparse (specs : List WatchpointSpec) (h : s.Booked []) :
    Meanwhile (setWatchpoints specs) s (Sparse s) := by
  have booked := h.line (s.line.join .fields).2
  suffices reconciled : Meanwhile (reconcileFields specs)
      { s with line := (s.line.join .fields).2 } (Sparse s) from
    Task.meanwhile_exclusively (booked.sparse s) reconciled
  have since : ∀ key : String × String,
      Since s { s with line := (s.line.join .fields).2 } (.field key.1 key.2) :=
    fun key => (h.since (.field key.1 key.2)).congr rfl
  have all : s.breakpoints.watchpoint? = unkept [] s.breakpoints.watchpoint? := by
    funext key
    simp [unkept]
  unfold reconcileFields
  refine (reviseWatchpoints_sparse [] specs booked fun key _ => since key).andThen
    (Task.Ends.and (reviseWatchpoints_settles [] specs booked)
      (reviseWatchpoints_tends [] specs booked.watchpoint_keyed all)) ?_
  rintro kept s₁ ⟨booked, xs, tended, -, revisited⟩
  rw [meanwhile_get_bind]
  -- What is removed is not kept, so that it is still as it was.
  refine Task.Meanwhile.andThen (removeFields_sparse _
    ((tended.distinct h.books.distinct).filter _) booked fun key mem => ?_)
    (removeFields_ends _ booked) ?_
  · refine since_field (since key) (revisited.untouched key ?_)
    have gone : key ∉ kept := by simpa using (List.mem_filter.1 mem).2
    exact fun stays => gone ((revisited.kept key).2 (.inr stays))
  · rintro _ s₂ booked
    exact (createMissingWatchpoints_sparse booked s specs).last fun _ _ => trivial

end Session

end DebugSession
