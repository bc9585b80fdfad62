import DebugSession.Proofs.Places
/-!
The books of a session and the requests on its debuggee: what is noted of a request agrees with
where it is kept and with what stands on the debuggee. While breakpoints change there are loose
requests, which are noted but not, or no longer, kept anywhere.
-/

namespace DebugSession

namespace EventRequest

def isPlaced : EventRequest → Bool
  | breakpoint _ _ _ _ | watchpoint _ _ _ _ => true
  | _ => false

def isException : EventRequest → Bool
  | exception _ _ _ => true
  | _ => false

theorem not_isException_of_isPlaced {q : EventRequest} (h : q.isPlaced = true) :
    q.isException = false := by
  cases q <;> simp_all [isPlaced, isException]

end EventRequest

/-- No breakpoint that is kept counts on the request, nor is it the one for exceptions. -/
structure Breakpoints.Free (b : Breakpoints) (r : RequestId) : Prop where
  unkept : ∀ p i, b.at? p = some i → r ∉ i.requests
  other : b.exceptionRequest ≠ some r

namespace Breakpoints

theorem Free.ne_of_mem {b : Breakpoints} {r r' : RequestId} (isFree : b.Free r) {p : Place}
    {i : Installed} (stored : b.at? p = some i) (mem : r' ∈ i.requests) : r' ≠ r := by
  rintro rfl
  exact isFree.unkept p i stored mem

theorem Free.ne_of_remembered {b : Breakpoints} {r r' : RequestId} (isFree : b.Free r)
    (remembered : b.exceptionRequest = some r') : r' ≠ r := by
  rintro rfl
  exact isFree.other remembered

theorem mem_giveUpLines {b : Breakpoints} {r : RequestId} :
    r ∈ b.giveUpLines.1.flatMap Installed.requests ↔
      ∃ source number i, b.at? (.line source number) = some i ∧ r ∈ i.requests := by
  simp only [giveUpLines, List.mem_flatMap, List.mem_filterMap]
  constructor
  · rintro ⟨i, ⟨source, -, number, -, there⟩, mem⟩
    exact ⟨source, number, i, there, mem⟩
  · rintro ⟨source, number, i, there, mem⟩
    obtain ⟨bp, found, rfl⟩ := Option.map_eq_some_iff.1 there
    refine ⟨.breakpoint bp, ⟨source, ?_, number, ?_, there⟩, mem⟩
    · unfold breakpoint? ofSource at found
      cases table : b.sources.get? source with
      | none =>
        rw [table] at found
        cases found
      | some t => exact Table.mem_keys table
    · exact List.mem_map.2 ⟨(number, bp), List.mem_mergeSort.2 (Table.mem_of_get? found), rfl⟩

theorem mem_giveUpFields {b : Breakpoints} {className fieldName : String} {i : Installed}
    {r : RequestId} (there : b.at? (.field className fieldName) = some i) (mem : r ∈ i.requests) :
    r ∈ b.giveUpFields.1.flatMap Installed.requests := by
  obtain ⟨wp, found, rfl⟩ := Option.map_eq_some_iff.1 there
  exact List.mem_flatMap.2 ⟨_, List.mem_map.2 ⟨wp, Table.mem_values found, rfl⟩, mem⟩

end Breakpoints

/-- `live` are the requests on the debuggee, `failed` those that could not be deleted. -/
structure Balanced (live : RequestId → Option EventRequest) (failed : RequestId → Prop)
    (loose : List RequestId) (b : Breakpoints) : Prop where
  keyed : ∀ p i, b.at? p = some i → i.place = p
  single : ∀ p i, b.at? p = some i → i.requests.length ≤ 1
  matched : ∀ p i, b.at? p = some i → ∀ r ∈ i.requests, live r = i.request?
  noted : ∀ p i, b.at? p = some i → ∀ r ∈ i.requests, b.owners.get? r = some i.owner
  kept : ∀ r o, b.owners.get? r = some o →
    r ∈ loose ∨ ∃ i, b.at? o.place = some i ∧ i.owner = o ∧ r ∈ i.requests
  free : ∀ r ∈ loose, b.Free r
  standing : ∀ r o, b.owners.get? r = some o → ∃ q, live r = some q ∧ q.isPlaced = true
  covered : ∀ r q, live r = some q → q.isPlaced = true → (b.owners.get? r).isSome = true ∨ failed r
  remembered : ∀ r, b.exceptionRequest = some r → ∃ q, live r = some q ∧ q.isException = true
  sole : ∀ r q, live r = some q → q.isException = true → b.exceptionRequest = some r ∨ failed r
  distinct : b.watchpoints.keys.Nodup

namespace Balanced

open Breakpoints

variable {live live' : RequestId → Option EventRequest} {failed failed' : RequestId → Prop}
  {loose loose' : List RequestId} {b b' : Breakpoints} {p : Place} {i : Installed}

private theorem not_remembered (h : Balanced live failed loose b) {r : RequestId} {o : Owner}
    (noted : b.owners.get? r = some o) : b.exceptionRequest ≠ some r := by
  intro remembered
  obtain ⟨q, stands, placed⟩ := h.standing r o noted
  obtain ⟨q', stands', exception⟩ := h.remembered r remembered
  obtain rfl : q = q' := Option.some.inj (stands.symm.trans stands')
  rw [EventRequest.not_isException_of_isPlaced placed] at exception
  cases exception

/-- One request is counted on in one place. -/
theorem same_place (h : Balanced live failed loose b) {p' : Place} {j : Installed}
    {r : RequestId} (there : b.at? p = some i) (mem : r ∈ i.requests) (there' : b.at? p' = some j)
    (mem' : r ∈ j.requests) : p' = p := by
  have same : j.owner = i.owner :=
    Option.some.inj ((h.noted p' j there' r mem').symm.trans (h.noted p i there r mem))
  calc
    p' = j.place := (h.keyed p' j there').symm
    _ = i.place := congrArg Owner.place same
    _ = p := h.keyed p i there

/-- What is found on a line says itself that it is there. -/
theorem breakpoint_stored (h : Balanced live failed loose b) {source : String} {line : UInt32}
    {bp : Breakpoint} (found : b.breakpoint? source line = some bp) :
    source = bp.source ∧ line = bp.line ∧
      b.at? (.line bp.source bp.line) = some (.breakpoint bp) := by
  have stored := Breakpoints.at?_eq_breakpoint.2 found
  obtain ⟨rfl, rfl⟩ := Place.line.inj (h.keyed _ _ stored)
  exact ⟨rfl, rfl, stored⟩

/-- What is found on a field says itself that it is there. -/
theorem watchpoint_stored (h : Balanced live failed loose b) {key : String × String}
    {wp : Watchpoint} (found : b.watchpoint? key = some wp) :
    key = (wp.className, wp.fieldName) ∧
      b.at? (.field wp.className wp.fieldName) = some (.watchpoint wp) := by
  have stored := Breakpoints.at?_eq_watchpoint.2 found
  obtain ⟨className, fieldName⟩ := Place.field.inj (h.keyed _ _ stored)
  have own : key = (wp.className, wp.fieldName) := Prod.ext className.symm fieldName.symm
  rw [own] at stored
  exact ⟨own, stored⟩

/-- What is kept in a place counts on one request at the most. -/
theorem requests_eq (h : Balanced live failed loose b) (there : b.at? p = some i)
    {r : RequestId} (mem : r ∈ i.requests) : i.requests = [r] := by
  have single := h.single p i there
  rcases requests : i.requests with _ | ⟨first, _ | ⟨second, rest⟩⟩
  · rw [requests] at mem
    cases mem
  · rw [requests, List.mem_singleton] at mem
    rw [mem]
  · rw [requests, List.length_cons, List.length_cons] at single
    omega

theorem sole_request (h : Balanced live failed loose b) (there : b.at? p = some i)
    {r r' : RequestId} (mem : r ∈ i.requests) (mem' : r' ∈ i.requests) : r' = r := by
  rwa [h.requests_eq there mem, List.mem_singleton] at mem'

/-- While no request is loose, each that is noted is kept where it is noted for. -/
private theorem kept_there (h : Balanced live failed [] b) {r : RequestId} {o : Owner}
    (found : b.owners.get? r = some o) :
    ∃ i, b.at? o.place = some i ∧ i.owner = o ∧ r ∈ i.requests :=
  (h.kept r o found).resolve_left List.not_mem_nil

/-- Something other is kept at one place. What was loose or noted for that place is now loose or
kept there. -/
private theorem swap (h : Balanced live failed loose b) {new : Option Installed}
    (change : Swap b b' p new)
    (keyed : ∀ i, new = some i → i.place = p)
    (single : ∀ i, new = some i → i.requests.length ≤ 1)
    (matched : ∀ i, new = some i → ∀ r ∈ i.requests, live r = i.request?)
    (noted : ∀ i, new = some i → ∀ r ∈ i.requests, b.owners.get? r = some i.owner)
    (kept : ∀ r o, b.owners.get? r = some o → r ∈ loose ∨ o.place = p →
      r ∈ loose' ∨ ∃ i, new = some i ∧ i.owner = o ∧ r ∈ i.requests)
    (free : ∀ r ∈ loose', b.exceptionRequest ≠ some r ∧
      (∀ i, new = some i → r ∉ i.requests) ∧
      ∀ p', p' ≠ p → ∀ i, b.at? p' = some i → r ∉ i.requests) :
    Balanced live failed loose' b' where
  keyed := by
    intro p' i stored
    rcases change.put_or_kept stored with ⟨rfl, put⟩ | ⟨-, there⟩
    · exact keyed i put
    · exact h.keyed p' i there
  single := by
    intro p' i stored
    rcases change.put_or_kept stored with ⟨rfl, put⟩ | ⟨-, there⟩
    · exact single i put
    · exact h.single p' i there
  matched := by
    intro p' i stored
    rcases change.put_or_kept stored with ⟨rfl, put⟩ | ⟨-, there⟩
    · exact matched i put
    · exact h.matched p' i there
  noted := by
    intro p' i stored
    rw [change.owners]
    rcases change.put_or_kept stored with ⟨rfl, put⟩ | ⟨-, there⟩
    · exact noted i put
    · exact h.noted p' i there
  kept := by
    intro r o found
    rw [change.owners] at found
    by_cases here : o.place = p
    · rw [here, change.at_self]
      exact kept r o found (.inr here)
    · rw [change.at_ne here]
      rcases h.kept r o found with isLoose | there
      · rcases kept r o found (.inl isLoose) with isLoose | ⟨i, rfl, owner, -⟩
        · exact .inl isLoose
        · exact absurd (owner ▸ keyed i rfl) here
      · exact .inr there
  free := by
    intro r isLoose
    obtain ⟨other, notNew, notElsewhere⟩ := free r isLoose
    refine ⟨?_, change.exceptionRequest ▸ other⟩
    intro p' i stored
    rcases change.put_or_kept stored with ⟨rfl, put⟩ | ⟨away, there⟩
    · exact notNew i put
    · exact notElsewhere p' away i there
  standing := by rw [change.owners]; exact h.standing
  covered := by rw [change.owners]; exact h.covered
  remembered := by rw [change.exceptionRequest]; exact h.remembered
  sole := by rw [change.exceptionRequest]; exact h.sole
  distinct := change.distinct h.distinct

theorem revise (h : Balanced live failed [] b) (stored : b.at? p = some i) (i' : Installed)
    (owner : i'.owner = i.owner) (requests : i'.requests = i.requests)
    (asked : i.requests ≠ [] → i'.request? = i.request?)
    (change : Swap b b' p (some i')) : Balanced live failed [] b' := by
  refine h.swap change ?_ ?_ ?_ ?_ ?_ (fun r hr => by cases hr)
  · rintro _ ⟨⟩
    exact (congrArg Owner.place owner).trans (h.keyed p i stored)
  · rintro _ ⟨⟩
    exact requests ▸ h.single p i stored
  · rintro _ ⟨⟩ r mem
    rw [requests] at mem
    rw [asked (List.ne_nil_of_mem mem)]
    exact h.matched p i stored r mem
  · rintro _ ⟨⟩
    rw [requests, owner]
    exact h.noted p i stored
  · intro r o found here
    right
    rcases here with isLoose | rfl
    · cases isLoose
    · obtain ⟨j, there, same, mem⟩ := h.kept_there found
      obtain rfl : i = j := Option.some.inj (stored.symm.trans there)
      exact ⟨i', rfl, owner.trans same, requests ▸ mem⟩

theorem release (h : Balanced live failed [] b) (stored : b.at? p = some i)
    (new : Option Installed) (owner : ∀ j, new = some j → j.owner = i.owner ∧ j.requests = [])
    (change : Swap b b' p new) : Balanced live failed i.requests b' := by
  have noted := h.noted p i stored
  have bare : ∀ j, new = some j → ∀ r, r ∉ j.requests := by
    intro j same r hr
    rw [(owner j same).2] at hr
    cases hr
  refine h.swap change ?_ ?_ ?_ ?_ ?_ ?_
  · intro j same
    exact (congrArg Owner.place (owner j same).1).trans (h.keyed p i stored)
  · intro j same
    simp [(owner j same).2]
  · exact fun j same r hr => absurd hr (bare j same r)
  · exact fun j same r hr => absurd hr (bare j same r)
  · intro r o found here
    left
    rcases here with isLoose | rfl
    · cases isLoose
    · obtain ⟨j, there, -, mem⟩ := h.kept_there found
      obtain rfl : i = j := Option.some.inj (stored.symm.trans there)
      exact mem
  · intro r hr
    refine ⟨h.not_remembered (noted r hr), fun j same => bare j same r, ?_⟩
    · intro p' away j there mem
      exact away (h.same_place stored hr there mem)

/-- A place where nothing counts on a request gets something that counts on the loose ones. -/
theorem fill (h : Balanced live failed loose b) (keyed : i.place = p)
    (requests : i.requests = loose) (single : loose.length ≤ 1)
    (matched : ∀ r ∈ loose, live r = i.request?)
    (noted : ∀ r ∈ loose, b.owners.get? r = some i.owner)
    (vacant : ∀ j, b.at? p = some j → j.requests = [])
    (change : Swap b b' p (some i)) : Balanced live failed [] b' := by
  subst requests
  refine h.swap change ?_ ?_ ?_ ?_ ?_ (fun r hr => by cases hr)
  · rintro _ ⟨⟩
    exact keyed
  · rintro _ ⟨⟩
    exact single
  · rintro _ ⟨⟩
    exact matched
  · rintro _ ⟨⟩
    exact noted
  · intro r o found here
    right
    have isLoose : r ∈ i.requests := by
      rcases here with isLoose | rfl
      · exact isLoose
      · rcases h.kept r o found with isLoose | ⟨j, there, -, mem⟩
        · exact isLoose
        · rw [vacant j there] at mem
          cases mem
    exact ⟨i, rfl, Option.some.inj ((noted r isLoose).symm.trans found), isLoose⟩

theorem congr (h : Balanced live failed loose b) (stored : b'.at? = b.at?)
    (owners : b'.owners = b.owners) (exceptionRequest : b'.exceptionRequest = b.exceptionRequest)
    (watchpoints : b'.watchpoints = b.watchpoints) : Balanced live failed loose b' where
  keyed := by rw [stored]; exact h.keyed
  single := by rw [stored]; exact h.single
  matched := by rw [stored]; exact h.matched
  noted := by rw [stored, owners]; exact h.noted
  kept := by rw [stored, owners]; exact h.kept
  free r hr := ⟨by rw [stored]; exact (h.free r hr).unkept, by
    rw [exceptionRequest]; exact (h.free r hr).other⟩
  standing := by rw [owners]; exact h.standing
  covered := by rw [owners]; exact h.covered
  remembered := by rw [exceptionRequest]; exact h.remembered
  sole := by rw [exceptionRequest]; exact h.sole
  distinct := by rw [watchpoints]; exact h.distinct

theorem remember (h : Balanced live failed loose b) (still : ∀ r, failed r → failed' r) :
    Balanced live failed' loose b :=
  { h with
    covered := fun r q stands placed => (h.covered r q stands placed).imp_right (still r)
    sole := fun r q stands exception => (h.sole r q stands exception).imp_right (still r) }

/-- Of the requests on the debuggee, only those that are placed or for exceptions matter. -/
theorem renew (h : Balanced live failed loose b)
    (same : ∀ r q, q.isPlaced = true ∨ q.isException = true →
      (live' r = some q ↔ live r = some q))
    (still : ∀ r, failed r → failed' r) : Balanced live' failed' loose b where
  keyed := h.keyed
  single := h.single
  matched := by
    intro p i stored r mem
    obtain ⟨q, stands, placed⟩ := h.standing r _ (h.noted p i stored r mem)
    rw [(same r q (.inl placed)).2 stands, ← stands]
    exact h.matched p i stored r mem
  noted := h.noted
  kept := h.kept
  free := h.free
  standing := by
    intro r o found
    obtain ⟨q, stands, placed⟩ := h.standing r o found
    exact ⟨q, (same r q (.inl placed)).2 stands, placed⟩
  covered := by
    intro r q stands placed
    have stood := (same r q (.inl placed)).1 stands
    exact (h.covered r q stood placed).imp_right (still r)
  remembered := by
    intro r remembered
    obtain ⟨q, stands, exception⟩ := h.remembered r remembered
    exact ⟨q, (same r q (.inr exception)).2 stands, exception⟩
  sole := by
    intro r q stands exception
    have stood := (same r q (.inr exception)).1 stands
    exact (h.sole r q stood exception).imp_right (still r)
  distinct := h.distinct

/-- What is found by a request is kept at its place, unless it is given up. -/
theorem at?_of_installed {r : RequestId} (h : Balanced live failed [] b)
    (found : b.installed? r = some i) (stays : ¬ b.leaving.any (·.id = i.id) = true) :
    b.at? i.place = some i := by
  obtain ⟨o, -, leads⟩ := Option.bind_eq_some_iff.1 found
  rw [ofOwner?_eq, Option.orElse_eq_orElse, Option.orElse_eq_or] at leads
  rcases Option.or_eq_some_iff.1 leads with there | ⟨-, left⟩
  · obtain ⟨there, -⟩ := Option.filter_eq_some_iff.1 there
    rw [← h.keyed o.place i there] at there
    exact there
  · have mem := List.mem_of_find?_eq_some left
    exact absurd (List.any_eq_true.2 ⟨i, mem, decide_eq_true rfl⟩) stays

/-- A hit is counted where it belongs, or on what is given up. -/
theorem hit {r : RequestId} (h : Balanced live failed [] b) (found : b.installed? r = some i) :
    Balanced live failed [] (b.hit i).2 := by
  have unchanged : i.hit.2.owner = i.owner ∧ i.hit.2.requests = i.requests ∧
      i.hit.2.request? = i.request? := by
    cases i <;> exact ⟨rfl, rfl, rfl⟩
  obtain ⟨owner, requests, asked⟩ := unchanged
  unfold Breakpoints.hit
  simp only
  unfold put
  split
  · exact h.congr rfl rfl rfl rfl
  · rename_i stays
    have same : i.hit.2.id = i.id := by
      rw [← Installed.owner_id, owner, Installed.owner_id]
    rw [same] at stays
    have stored := h.at?_of_installed found stays
    refine h.revise stored i.hit.2 owner requests (fun _ => asked) ?_
    cases i with
    | breakpoint bp => exact swap_putBreakpoint b _
    | watchpoint wp => exact swap_putWatchpoint b _

/-- Other requests may count as loose, as long as the loose ones stay among them. -/
theorem loosen (h : Balanced live failed loose b) (subset : ∀ r ∈ loose, r ∈ loose')
    (free : ∀ r ∈ loose', b.Free r) : Balanced live failed loose' b :=
  { h with
    kept := fun r o found => (h.kept r o found).imp_left (subset r)
    free }

/-- What is kept in some of the places is given up, and what it counted on is loose. -/
theorem giveUp (h : Balanced live failed [] b) (stays : Place → Prop)
    (stored : ∀ p i, b'.at? p = some i ↔ stays p ∧ b.at? p = some i)
    (gone : ∀ r, r ∈ loose ↔ ∃ p i, ¬ stays p ∧ b.at? p = some i ∧ r ∈ i.requests)
    (owners : b'.owners = b.owners) (exceptionRequest : b'.exceptionRequest = b.exceptionRequest)
    (distinct : b'.watchpoints.keys.Nodup) : Balanced live failed loose b' where
  keyed p i there := h.keyed p i ((stored p i).1 there).2
  single p i there := h.single p i ((stored p i).1 there).2
  matched p i there := h.matched p i ((stored p i).1 there).2
  noted p i there := by
    rw [owners]
    exact h.noted p i ((stored p i).1 there).2
  kept := by
    intro r o found
    rw [owners] at found
    obtain ⟨i, there, same, mem⟩ := h.kept_there found
    by_cases stays_there : stays o.place
    · exact .inr ⟨i, (stored _ _).2 ⟨stays_there, there⟩, same, mem⟩
    · exact .inl ((gone r).2 ⟨o.place, i, stays_there, there, mem⟩)
  free := by
    intro r hr
    obtain ⟨p, i, left, there, mem⟩ := (gone r).1 hr
    refine ⟨?_, exceptionRequest ▸ h.not_remembered (h.noted p i there r mem)⟩
    intro p' j there' mem'
    obtain ⟨stays', there'⟩ := (stored p' j).1 there'
    have place : p' = p := h.same_place there mem there' mem'
    exact left (place ▸ stays')
  standing := by rw [owners]; exact h.standing
  covered := by rw [owners]; exact h.covered
  remembered := by rw [exceptionRequest]; exact h.remembered
  sole := by rw [exceptionRequest]; exact h.sole
  distinct := distinct

private theorem standing_after_deletion {r r' : RequestId} {q : EventRequest}
    (others : ∀ r', r' ≠ r → live' r' = live r') (tried : live' r = none ∨ failed' r)
    (stands : live' r' = some q) : failed' r' ∨ r' ≠ r ∧ live r' = some q := by
  by_cases same : r' = r
  · subst same
    rcases tried with gone | failure
    · rw [gone] at stands
      cases stands
    · exact .inl failure
  · rw [others r' same] at stands
    exact .inr ⟨same, stands⟩

private theorem standing_after_creation {r r' : RequestId} {q q' : EventRequest}
    (stands : Function.update live r (some q) r' = some q') :
    r' = r ∧ q' = q ∨ r' ≠ r ∧ live r' = some q' := by
  by_cases same : r' = r
  · rw [same, Function.update_self] at stands
    exact .inl ⟨same, (Option.some.inj stands).symm⟩
  · rw [Function.update_of_ne same] at stands
    exact .inr ⟨same, stands⟩

/-- What nothing counts on may go or come. -/
private theorem matched_beside (h : Balanced live failed loose b) {r : RequestId}
    (isFree : b.Free r) (others : ∀ r', r' ≠ r → live' r' = live r') :
    ∀ p i, b.at? p = some i → ∀ r' ∈ i.requests, live' r' = i.request? :=
  fun p i stored r' mem =>
    (others r' (isFree.ne_of_mem stored mem)).trans (h.matched p i stored r' mem)

private theorem remembered_beside (h : Balanced live failed loose b) {r : RequestId}
    (isFree : b.Free r) (others : ∀ r', r' ≠ r → live' r' = live r') :
    ∀ r', b.exceptionRequest = some r' → ∃ q, live' r' = some q ∧ q.isException = true := by
  intro r' remembered
  rw [others r' (isFree.ne_of_remembered remembered)]
  exact h.remembered r' remembered

private theorem unnoted_of_unused (h : Balanced live failed loose b) {r : RequestId}
    (unused : live r = none) : b.owners.get? r = none := by
  cases found : b.owners.get? r with
  | none => rfl
  | some o =>
    obtain ⟨q, stands, -⟩ := h.standing r o found
    rw [unused] at stands
    cases stands

private theorem free_of_unused (h : Balanced live failed loose b) {r : RequestId}
    (unused : live r = none) : b.Free r where
  unkept p i stored mem := by
    have noted := h.noted p i stored r mem
    rw [h.unnoted_of_unused unused] at noted
    cases noted
  other remembered := by
    obtain ⟨q, stands, -⟩ := h.remembered r remembered
    rw [unused] at stands
    cases stands

theorem delete {r : RequestId} (h : Balanced live failed loose b) (isFree : b.Free r)
    (others : ∀ r', r' ≠ r → live' r' = live r') (still : ∀ r', failed r' → failed' r')
    (tried : live' r = none ∨ failed' r) :
    Balanced live' failed' (loose.filter (· ≠ r)) { b with owners := b.owners.erase r } where
  keyed := h.keyed
  single := h.single
  matched := h.matched_beside isFree others
  noted := by
    intro p i stored r' mem
    rw [Table.get?_erase, if_neg (isFree.ne_of_mem stored mem)]
    exact h.noted p i stored r' mem
  kept := by
    intro r' o found
    rw [Table.get?_erase] at found
    split at found
    · cases found
    · rename_i away
      apply (h.kept r' o found).imp_left
      intro isLoose
      exact List.mem_filter.2 ⟨isLoose, by simpa using away⟩
  free r' hr' :=
    have there := h.free r' (List.mem_filter.1 hr').1
    ⟨there.unkept, there.other⟩
  standing := by
    intro r' o found
    rw [Table.get?_erase] at found
    split at found
    · cases found
    · rename_i away
      rw [others r' away]
      exact h.standing r' o found
  covered := by
    intro r' q stands placed
    rcases standing_after_deletion others tried stands with failure | ⟨away, stood⟩
    · exact .inr failure
    · rw [Table.get?_erase, if_neg away]
      exact (h.covered r' q stood placed).imp_right (still r')
  remembered := h.remembered_beside isFree others
  sole := by
    intro r' q stands exception
    rcases standing_after_deletion others tried stands with failure | ⟨-, stood⟩
    · exact .inr failure
    · exact (h.sole r' q stood exception).imp_right (still r')
  distinct := h.distinct

/-- A request with an unused number is created and noted; it is loose until something counts on
it. -/
theorem create {r : RequestId} {q : EventRequest} (h : Balanced live failed loose b)
    (unused : live r = none) (placed : q.isPlaced = true) (o : Owner) :
    Balanced (Function.update live r (some q)) failed (r :: loose)
      { b with owners := b.owners.insert r o } where
  keyed := h.keyed
  single := h.single
  matched := h.matched_beside (h.free_of_unused unused) fun _ away => Function.update_of_ne away ..
  noted := by
    intro p i stored r' mem
    rw [Table.get?_insert, if_neg ((h.free_of_unused unused).ne_of_mem stored mem)]
    exact h.noted p i stored r' mem
  kept := by
    intro r' o' found
    rw [Table.get?_insert] at found
    split at found
    · rename_i same
      exact .inl (same ▸ List.mem_cons_self)
    · exact (h.kept r' o' found).imp_left (List.mem_cons_of_mem r)
  free := by
    intro r' hr'
    have there : b.Free r' := by
      rcases List.mem_cons.1 hr' with rfl | hr'
      · exact h.free_of_unused unused
      · exact h.free r' hr'
    exact ⟨there.unkept, there.other⟩
  standing := by
    intro r' o' found
    rw [Table.get?_insert] at found
    split at found
    · rename_i same
      subst same
      exact ⟨q, Function.update_self .., placed⟩
    · rename_i away
      rw [Function.update_of_ne away]
      exact h.standing r' o' found
  covered := by
    intro r' q' stands placed'
    rw [Table.get?_insert]
    rcases standing_after_creation stands with ⟨same, -⟩ | ⟨away, stood⟩
    · simp [same]
    · rw [if_neg away]
      exact h.covered r' q' stood placed'
  remembered :=
    h.remembered_beside (h.free_of_unused unused) fun _ away => Function.update_of_ne away ..
  sole := by
    intro r' q' stands exception
    rcases standing_after_creation stands with ⟨-, rfl⟩ | ⟨-, stood⟩
    · rw [EventRequest.not_isException_of_isPlaced placed] at exception
      cases exception
    · exact h.sole r' q' stood exception
  distinct := h.distinct

theorem dropException {r : RequestId} (h : Balanced live failed [] b)
    (current : b.exceptionRequest = some r) (others : ∀ r', r' ≠ r → live' r' = live r')
    (still : ∀ r', failed r' → failed' r') (tried : live' r = none ∨ failed' r) :
    Balanced live' failed' [] { b with exceptionRequest := none } := by
  have away : ∀ r' o, b.owners.get? r' = some o → r' ≠ r := by
    rintro r' o noted rfl
    exact h.not_remembered noted current
  exact {
    keyed := h.keyed
    single := h.single
    matched := fun p i stored r' mem =>
      (others r' (away r' _ (h.noted p i stored r' mem))).trans (h.matched p i stored r' mem)
    noted := h.noted
    kept := h.kept
    free := fun r' hr' => by cases hr'
    standing := by
      intro r' o found
      rw [others r' (away r' o found)]
      exact h.standing r' o found
    covered := by
      intro r' q stands placed
      rcases standing_after_deletion others tried stands with failure | ⟨-, stood⟩
      · exact .inr failure
      · exact (h.covered r' q stood placed).imp_right (still r')
    remembered := fun r' hr' => by cases hr'
    sole := by
      intro r' q stands exception
      rcases standing_after_deletion others tried stands with failure | ⟨other, stood⟩
      · exact .inr failure
      · rcases h.sole r' q stood exception with remembered | failure
        · exact absurd (Option.some.inj (remembered.symm.trans current)) other
        · exact .inr (still r' failure)
    distinct := h.distinct }

theorem setException {r : RequestId} {q : EventRequest} (h : Balanced live failed [] b)
    (none_yet : b.exceptionRequest = none) (unused : live r = none)
    (exception : q.isException = true) :
    Balanced (Function.update live r (some q)) failed []
      { b with exceptionRequest := some r } where
  keyed := h.keyed
  single := h.single
  matched := h.matched_beside (h.free_of_unused unused) fun _ away => Function.update_of_ne away ..
  noted := h.noted
  kept := h.kept
  free r' hr' := by cases hr'
  standing := by
    intro r' o found
    have away : r' ≠ r := by
      rintro rfl
      rw [h.unnoted_of_unused unused] at found
      cases found
    rw [Function.update_of_ne away]
    exact h.standing r' o found
  covered := by
    intro r' q' stands placed
    rcases standing_after_creation stands with ⟨-, rfl⟩ | ⟨-, stood⟩
    · rw [EventRequest.not_isException_of_isPlaced placed] at exception
      cases exception
    · exact h.covered r' q' stood placed
  remembered := by
    rintro r' ⟨⟩
    exact ⟨q, Function.update_self .., exception⟩
  sole := by
    intro r' q' stands exception'
    rcases standing_after_creation stands with ⟨rfl, -⟩ | ⟨-, stood⟩
    · exact .inl rfl
    · rcases h.sole r' q' stood exception' with remembered | failure
      · rw [none_yet] at remembered
        cases remembered
      · exact .inr failure
  distinct := h.distinct

/-- Giving up what is kept on lines leaves what is kept on fields. -/
theorem giveUpLines (h : Balanced live failed [] b) :
    Balanced live failed (b.giveUpLines.1.flatMap Installed.requests) b.giveUpLines.2 := by
  refine h.giveUp (fun p => ∃ className fieldName, p = .field className fieldName) ?_ ?_ rfl rfl
    h.distinct
  · intro p i
    cases p with
    | line source number => simp [at?, breakpoint?, ofSource, Breakpoints.giveUpLines, Table.get?]
    | field className fieldName => simp [at?, watchpoint?, Breakpoints.giveUpLines]
  · intro r
    rw [mem_giveUpLines]
    constructor
    · rintro ⟨source, number, i, there, mem⟩
      exact ⟨.line source number, i, by simp, there, mem⟩
    · rintro ⟨p, i, left, there, mem⟩
      cases p with
      | field className fieldName => exact absurd ⟨className, fieldName, rfl⟩ left
      | line source number => exact ⟨source, number, i, there, mem⟩

theorem giveUpFields (h : Balanced live failed [] b) :
    Balanced live failed (b.giveUpFields.1.flatMap Installed.requests) b.giveUpFields.2 := by
  refine h.giveUp (fun p => ∃ source number, p = .line source number) ?_ ?_ rfl rfl List.nodup_nil
  · intro p i
    cases p with
    | line source number => simp [at?, breakpoint?, ofSource, Breakpoints.giveUpFields]
    | field className fieldName =>
      simp [at?, watchpoint?, Breakpoints.giveUpFields, Table.get?]
  · intro r
    constructor
    · intro given
      obtain ⟨_, left, mem⟩ := List.mem_flatMap.1 given
      obtain ⟨wp, there, rfl⟩ := List.mem_map.1 left
      obtain ⟨⟨key, _⟩, entry, rfl⟩ := List.mem_map.1 there
      have found := Table.get?_of_mem h.distinct entry
      exact ⟨.field key.1 key.2, _, by simp, Option.map_eq_some_iff.2 ⟨_, found, rfl⟩, mem⟩
    · rintro ⟨p, i, left, there, mem⟩
      cases p with
      | line source number => exact absurd ⟨source, number, rfl⟩ left
      | field className fieldName => exact mem_giveUpFields there mem

end Balanced
end DebugSession
