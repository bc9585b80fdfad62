import DebugSession.Proofs.Surveying
/-!
Reading an array a page at a time. Whatever the size of the pages, and whether or not they are read
side by side, the elements come in order, each of them once. So a part of an array is read as that
part of the whole.
-/

namespace DebugSession.Session

variable {α β : Type} {known : List FrameProxy} {s : Session Debuggee}

/-! ## Parts -/

theorem window_nil (start : Nat) (count : Option Nat) : window ([] : List α) start count = [] := by
  unfold window
  split
  · rw [List.drop_nil, List.take_nil]
  · rw [List.drop_nil]

theorem window_map (f : α → β) (items : List α) (start : Nat) (count : Option Nat) :
    window (items.map f) start count = (window items start count).map f := by
  unfold window
  split
  · rw [List.map_take, List.map_drop]
  · rw [List.map_drop]

theorem forall₂_window {R : α → β → Prop} {items : List α} {others : List β}
    (h : List.Forall₂ R items others) (start : Nat) (count : Option Nat) :
    List.Forall₂ R (window items start count) (window others start count) := by
  unfold window
  split
  · exact List.forall₂_take _ (List.forall₂_drop _ h)
  · exact List.forall₂_drop _ h

theorem mem_of_mem_window {items : List α} {start : Nat} {count : Option Nat} {a : α}
    (mem : a ∈ window items start count) : a ∈ items := by
  unfold window at mem
  split at mem
  · exact List.mem_of_mem_drop (List.mem_of_mem_take mem)
  · exact List.mem_of_mem_drop mem

private theorem window_drop (items : List α) (n start : Nat) (count : Option Nat) :
    window (items.drop n) start count = window items (n + start) count := by
  unfold window
  rw [List.drop_drop]

/-- Parts of one size that follow each other are the whole together. -/
theorem windows_flatten (items : List α) {size rounds : Nat} (positive : 0 < size)
    (enough : items.length ≤ rounds * size) :
    ((List.range rounds).map fun i => window items (i * size) (some size)).flatten = items := by
  induction rounds generalizing items with
  | zero =>
    rw [Nat.zero_mul] at enough
    exact (List.length_eq_zero_iff.1 (Nat.le_zero.1 enough)).symm
  | succ n ih =>
    have others : (items.drop size).length ≤ n * size := by
      rw [List.length_drop]
      rw [Nat.add_mul, Nat.one_mul] at enough
      omega
    have first : window items (0 * size) (some size) = items.take size := by
      obtain ⟨k, rfl⟩ := Nat.exists_eq_add_one.2 positive
      rw [Nat.zero_mul]
      rfl
    have rest : ((fun i => window items (i * size) (some size)) ∘ Nat.succ) =
        fun i => window (items.drop size) (i * size) (some size) := by
      funext i
      rw [window_drop, Nat.add_comm, ← Nat.succ_mul]
      rfl
    rw [List.range_succ_eq_map, List.map_cons, List.map_map, List.flatten_cons, first, rest,
      ih _ others]
    exact List.take_append_drop size items

private theorem windowLength_le (length start : Nat) (count : Option Nat) :
    windowLength length start count ≤ length - start := by
  rcases count with _ | _ | n
  · exact Nat.le_refl _
  · exact Nat.le_refl _
  · exact Nat.min_le_right ..

/-- A part as it is counted out beforehand. -/
private theorem window_eq_take (items : List α) (start : Nat) (count : Option Nat) :
    window items start count = (items.drop (min start items.length)).take
      (windowLength items.length (min start items.length) count) := by
  have clamped : items.drop (min start items.length) = items.drop start := by
    rcases Nat.le_total start items.length with within | beyond
    · rw [Nat.min_eq_left within]
    · rw [Nat.min_eq_right beyond, List.drop_length, List.drop_of_length_le beyond]
  have rest : items.length - min start items.length = (items.drop start).length := by
    rw [List.length_drop]
    omega
  unfold window windowLength
  rw [clamped, rest]
  rcases count with _ | _ | n
  · exact List.take_length.symm
  · exact List.take_length.symm
  · exact List.take_eq_take_min ..

private theorem filterMap_range' (items : List α) (start length : Nat) :
    (List.range' start length).filterMap (fun i => items[i]?) =
      (items.drop start).take length := by
  induction length generalizing start with
  | zero => rw [List.range'_zero, List.take_zero, List.filterMap_nil]
  | succ n ih =>
    rw [List.range'_succ, List.filterMap_cons, ih]
    by_cases within : start < items.length
    · rw [List.getElem?_eq_getElem within, List.drop_eq_getElem_cons within, List.take_succ_cons]
    · have beyond := Nat.le_of_not_lt within
      rw [List.getElem?_eq_none beyond, List.drop_of_length_le beyond,
        List.drop_of_length_le (Nat.le_succ_of_le beyond), List.take_nil, List.take_nil]

private theorem zipWith_range' (f : Nat → α → β) (items : List α) (start length : Nat) :
    List.zipWith f (List.range' start length) ((items.drop start).take length) =
      (List.range' start length).filterMap fun i => (items.mapIdx f)[i]? := by
  rw [filterMap_range']
  refine List.ext_getElem? fun i => ?_
  by_cases within : i < length
  · cases there : items[start + i]? <;> simp [List.getElem?_zipWith, within, there]
  · simp [within]

/-! ## Pages -/

theorem pages_flatten (size : Nat) (items : List α) : (pages size items).flatten = items := by
  induction items using pages.induct size with
  | case1 items empty =>
    rw [pages, if_pos empty]
    exact (List.isEmpty_iff.1 empty).symm
  | case2 items some ih =>
    rw [pages, if_neg some, List.flatten_cons, ih]
    exact List.take_append_drop ..

/-- The pages of a row of indices are rows themselves. -/
private theorem mem_pages_range' {size start length : Nat} {page : List Nat}
    (mem : page ∈ pages size (List.range' start length)) :
    ∃ first n, page = List.range' first n ∧ first + n ≤ start + length := by
  have within : page <:+: List.range' start length := by
    have listed := List.infix_of_mem_flatten mem
    rwa [pages_flatten] at listed
  obtain ⟨before, after, whole⟩ := within
  rw [List.append_assoc] at whole
  obtain ⟨k, inside, -, rest⟩ := List.range'_eq_append_iff.1 whole.symm
  obtain ⟨n, inside', row, -⟩ := List.range'_eq_append_iff.1 rest.symm
  exact ⟨start + k * 1, n, row, by omega⟩

private theorem gather_ok (values : List (List β)) :
    gather (values.map .ok) = .ok values.flatten := by
  induction values with
  | nil => rfl
  | cons page rest ih =>
    show (gather (rest.map .ok)).map (page ++ ·) = _
    rw [ih]
    rfl

/-- Where each page is answered, all of them are, in order. -/
theorem fetchPaged_produces {policy : FetchPolicy} {items : List α}
    {fetch : List α → Remote Debuggee (List β)} (values : List α → List β)
    (h : ∀ page ∈ pages policy.pageSize items, ∀ s', Peruses known s s' →
      Produces (Peruses known) (fetch page) s' fun r _ => r = .ok (values page)) :
    Produces (Peruses known) (fetchPaged policy items fetch) s fun r _ =>
      r = .ok ((pages policy.pageSize items).map values).flatten := by
  unfold fetchPaged
  dsimp only
  split
  · exact (Produces.mapM h).bind_ok fun _ _ => .pure rfl
  · have side : Task.Yields (Peruses known)
        (Task.all ((pages policy.pageSize items).map fun page => (fetch page).run)) s
        fun results _ => results = (pages policy.pageSize items).map fun page =>
          .ok (values page) := .all h
    refine .quietly_bind side ?_
    rintro _ s' - rfl
    have gathered : gather ((pages policy.pageSize items).map fun page => .ok (values page)) =
        .ok ((pages policy.pageSize items).map values).flatten := by
      rw [← gather_ok, List.map_map]
      rfl
    rw [gathered]
    exact .pure rfl

private theorem gather_error {e : RemoteError} (other : e.isDisconnect = false)
    (pages : List (List α)) :
    gather (pages.map fun _ => (.error e : Except RemoteError (List β))) = .ok [] := by
  induction pages with
  | nil => rfl
  | cons page rest ih =>
    show (if e.isDisconnect then .error e else gather (rest.map fun _ => .error e)) = _
    rw [other, if_neg Bool.false_ne_true, ih]

/-- Where no page is answered, nothing is brought: one after the other, the first page fails for
all, if there is one. -/
theorem fetchPaged_error {policy : FetchPolicy} {items : List α}
    {fetch : List α → Remote Debuggee (List β)} {e : RemoteError} (other : e.isDisconnect = false)
    (h : ∀ page ∈ pages policy.pageSize items, ∀ s', Peruses known s s' →
      Produces (Peruses known) (fetch page) s' fun r _ => r = .error e) :
    Produces (Peruses known) (fetchPaged policy items fetch) s fun r _ =>
      r = if policy.mode = .synchronous ∧ items ≠ [] then .error e else .ok [] := by
  unfold fetchPaged
  dsimp only
  cases policy.mode with
  | synchronous =>
    dsimp only
    cases items with
    | nil =>
      rw [pages, if_pos (by rfl), if_neg (by simp)]
      exact .pure rfl
    | cons a rest =>
      rw [pages, if_neg (by simp)] at h ⊢
      rw [List.mapM_cons, if_pos (by simp)]
      have first := h _ List.mem_cons_self s (Composes.refl s)
      exact (first.bind_error).bind_error
  | pipelined =>
    have side : Task.Yields (Peruses known)
        (Task.all ((pages policy.pageSize items).map fun page => (fetch page).run)) s
        fun results _ => results = (pages policy.pageSize items).map fun _ => .error e := .all h
    refine .quietly_bind side ?_
    rintro _ s' - rfl
    rw [gather_error other, if_neg nofun]
    exact .pure rfl

/-! ## Elements -/

theorem lookup_produces {c : Call} (asks : c.isLookup = true) (responsive : s.Responsive) :
    Produces (Peruses known) (call c) s fun r _ => r = (Debuggee.perform c s.machine).1 :=
  (tryCall_yields (Call.isQuery_of_isLookup asks) s).mono fun _ _ heard =>
    heard.lookup asks responsive

private theorem listElements_produces {o : ObjectRef} {component : String}
    (kind : o.kind = .array component) {h : HeapObject}
    (there : s.machine.objects.get? o.id = some h) (responsive : s.Responsive) (start : Nat)
    (count : Option Nat) (policy : FetchPolicy) (parent : Option String) :
    Produces (Peruses known) (listElements o start count policy parent) s fun r _ =>
      r = .ok (window (h.elements.mapIdx fun i value =>
        Variable.ofElement i value component parent) start count) := by
  let whole := h.elements.mapIdx fun i value => Variable.ofElement i value component parent
  have object : ∀ s', Peruses known s s' → s'.machine.object o.id = .ok h := by
    intro s' moved
    unfold Debuggee.object
    rw [moved.machine.same.objects, there]
  have length : Produces (Peruses known) (call (.arrayLength o.id)) s fun r _ =>
      r = .ok h.elements.length := by
    refine (lookup_produces rfl responsive).mono ?_
    rintro r s' rfl
    simp only [Debuggee.perform, Debuggee.answer, object s (Composes.refl s)]
    rfl
  unfold listElements
  rw [kind]
  dsimp only
  refine length.bind_ok fun s₁ moved => ?_
  refine (fetchPaged_produces (fun page => page.filterMap fun i => whole[i]?) ?_).mono ?_
  · intro page mem s' more
    obtain ⟨first, n, rfl, inside⟩ := mem_pages_range' mem
    have counted := windowLength_le h.elements.length (min start h.elements.length) count
    have within : first + n ≤ h.elements.length := by omega
    cases n with
    | zero => exact .pure rfl
    | succ n =>
      have answered : Produces (Peruses known)
          (call (.arrayValues o.id first (List.range' first (n + 1)).length)) s' fun r _ =>
            r = .ok ((h.elements.drop first).take (n + 1)) := by
        have there' := Composes.trans moved more
        refine (lookup_produces rfl (there'.responsive responsive)).mono ?_
        rintro r s'' rfl
        rw [List.length_range']
        simp only [Debuggee.perform, Debuggee.answer, Debuggee.arrayValues, object s' there']
        exact if_neg (Nat.not_lt_of_le within)
      rw [← zipWith_range']
      exact answered.bind_ok fun _ _ => .pure rfl
  · rintro r s' rfl
    have same : whole.length = h.elements.length := List.length_mapIdx
    rw [← List.filterMap_flatten, pages_flatten, filterMap_range', window_eq_take, same]

/-- Only an array that the debuggee knows is listed. -/
private theorem array_of_listElements {o : ObjectRef} {start : Nat} {count : Option Nat}
    {policy : FetchPolicy} {parent : Option String} (responsive : s.Responsive)
    {found : List Variable}
    (listed : Settles (listElements o start count policy parent) s fun r _ => r = .ok found) :
    ∃ component h, o.kind = .array component ∧ s.machine.objects.get? o.id = some h := by
  unfold listElements at listed
  split at listed
  · rename_i component kind
    cases there : s.machine.objects.get? o.id with
    | some h => exact ⟨component, h, kind, rfl⟩
    | none =>
      have unknown : Produces (Peruses []) (call (.arrayLength o.id)) s fun r _ =>
          r = .error (.invalidObject o.id) := by
        refine (lookup_produces rfl responsive).mono ?_
        rintro r s' rfl
        simp only [Debuggee.perform, Debuggee.answer, Debuggee.object, there]
        rfl
      rw [settles_bind] at listed
      obtain ⟨⟨-, failed⟩, listed⟩ := Task.Ends.and (unknown.settles Peruses.advance) listed
      rw [failed] at listed
      cases listed
  · cases listed

/-- An array that is listed at all is listed element by element, whatever part of it is. -/
theorem listElements_found {o : ObjectRef} {start : Nat} {count : Option Nat}
    {policy : FetchPolicy} {parent : Option String} (responsive : s.Responsive)
    {found : List Variable}
    (listed : Settles (listElements o start count policy parent) s fun r _ => r = .ok found) :
    ∃ component, ∃ elements : List Value, ∀ start count,
      Settles (listElements o start count policy parent) s fun r _ =>
        r = .ok (window (elements.mapIdx fun i value =>
          Variable.ofElement i value component parent) start count) := by
  obtain ⟨component, h, kind, there⟩ := array_of_listElements responsive listed
  refine ⟨component, h.elements, fun start count => ?_⟩
  have produced : Produces (Peruses []) (listElements o start count policy parent) s _ :=
    listElements_produces kind there responsive start count policy parent
  exact (produced.settles Peruses.advance).2

/-- If an array is listed as a whole, any part of it is listed. -/
theorem listElements_window {o : ObjectRef} {policy : FetchPolicy} {parent : Option String}
    (responsive : s.Responsive) {found : List Variable}
    (listed : Settles (listElements o 0 none policy parent) s fun r _ => r = .ok found)
    (start : Nat) (count : Option Nat) :
    Settles (listElements o start count policy parent) s fun r _ =>
      r = .ok (window found start count) := by
  obtain ⟨component, elements, listing⟩ := listElements_found responsive listed
  obtain rfl := Except.ok.inj (listed.symm.trans (listing 0 none))
  exact listing start count

end DebugSession.Session
