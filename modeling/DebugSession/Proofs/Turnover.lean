import DebugSession.Proofs.Removals
/-!
What a request for breakpoints gives up, keeps and adds, and the calls for it. Whatever fails, each
request of what is given up is deleted once, and before anything is created for what is added.
-/

namespace DebugSession

/-- The request that a call creates. -/
def Call.created? : Call → Option EventRequest
  | .createRequest q => some q
  | _ => none

/-! ## What is wanted -/

/-- What a client asks for: breakpoints on lines of a source, or watchpoints. -/
inductive Wish where
  | lines (source : String) (specs : List BreakpointSpec) (modified : Bool)
  | fields (specs : List WatchpointSpec)

namespace Wish

/-- The places that are to be as the client asks for. -/
def Covers : Wish → Place → Prop
  | lines source _ _, .line source' _ => source' = source
  | fields _, .field _ _ => True
  | _, _ => False

/-- The places that are asked for. -/
def Names : Wish → Place → Prop
  | lines source specs _, .line source' line =>
    source' = source ∧ line ∈ specs.map BreakpointSpec.line
  | fields specs, .field className fieldName =>
    (className, fieldName) ∈ specs.map WatchpointSpec.key
  | _, _ => False

/-- What is installed stays if it is asked for, in a source that was not modified, and for the same
access. -/
def Keeps (b : Breakpoints) : Wish → Place → Prop
  | lines source specs modified, .line source' line =>
    source' = source ∧ modified = false ∧ (b.breakpoint? source line).isSome = true ∧
      line ∈ specs.map BreakpointSpec.line
  | fields specs, .field className fieldName =>
    ∃ w, b.watchpoint? (className, fieldName) = some w ∧
      ∃ spec ∈ specs, spec.key = (className, fieldName) ∧ spec.access = w.access
  | _, _ => False

/-- Everything else that is installed in such places is given up. -/
def Drops (b : Breakpoints) (w : Wish) (p : Place) : Prop :=
  w.Covers p ∧ (b.at? p).isSome = true ∧ ¬ w.Keeps b p

def Adds (b : Breakpoints) (w : Wish) (p : Place) : Prop := w.Names p ∧ ¬ w.Keeps b p

end Wish

/-- The requests that are created are those of what is installed in different places. -/
def Creates (b : Breakpoints) (P : Place → Prop) (calls : List Call) : Prop :=
  ∃ ps : List Place, ps.Nodup ∧ (∀ p ∈ ps, P p) ∧
    calls.filterMap Call.created? = ps.filterMap fun p => (b.at? p).bind Installed.request?

/-- The calls for a wish: what is given up is deleted before anything new is created. -/
structure Replaces (w : Wish) (b b' : Breakpoints) (calls : List Call) : Prop where
  deleted : ∀ p i, w.Drops b p → b.at? p = some i → ∀ r ∈ i.requests,
    calls.count (.deleteRequest r) = 1
  ordered : ∃ before after, calls = before ++ after ∧ (∀ r, .deleteRequest r ∉ after) ∧
    Creates b' (w.Keeps b) before ∧ Creates b' (w.Adds b) after

section

variable {α : Type} {l : List α} {f : α → List Call}

private theorem count_flatMap_of_nodup {x : α} {c : Call} (distinct : l.Nodup) (mem : x ∈ l)
    (others : ∀ y ∈ l, y ≠ x → c ∉ f y) : (l.flatMap f).count c = (f x).count c := by
  induction l with
  | nil => cases mem
  | cons y rest ih =>
    obtain ⟨new, distinct⟩ := List.nodup_cons.1 distinct
    rw [List.flatMap_cons, List.count_append]
    rcases List.mem_cons.1 mem with rfl | later
    · have nowhere : c ∉ rest.flatMap f := by
        intro again
        obtain ⟨y, mem', found⟩ := List.mem_flatMap.1 again
        refine others y (List.mem_cons_of_mem _ mem') ?_ found
        rintro rfl
        exact new mem'
      rw [List.count_eq_zero.2 nowhere, Nat.add_zero]
    · have away : y ≠ x := by
        rintro rfl
        exact new later
      rw [List.count_eq_zero.2 (others y List.mem_cons_self away), Nat.zero_add,
        ih distinct later fun z mem' => others z (List.mem_cons_of_mem _ mem')]

/-- Where some of the entries each create what is installed in a place of their own. -/
private theorem creates_flatMap {b : Breakpoints} {P : Place → Prop} (place : α → Place)
    (chosen : α → Bool)
    (distinct : l.Pairwise fun x y => chosen x = true → chosen y = true → place x ≠ place y)
    (holds : ∀ x ∈ l, chosen x = true → P (place x))
    (created : ∀ x ∈ l, (f x).filterMap Call.created? =
      if chosen x then ((b.at? (place x)).bind Installed.request?).toList else []) :
    Creates b P (l.flatMap f) := by
  refine ⟨(l.filter chosen).map place, ?_, ?_, ?_⟩
  · refine List.pairwise_map.2 (List.pairwise_filter.2 (distinct.imp fun apart here there => ?_))
    exact apart here there
  · intro p mem
    obtain ⟨x, mem', rfl⟩ := List.mem_map.1 mem
    obtain ⟨listed, here⟩ := List.mem_filter.1 mem'
    exact holds x listed here
  · clear distinct holds
    induction l with
    | nil => rfl
    | cons x rest ih =>
      obtain ⟨here, later⟩ := List.forall_mem_cons.1 created
      rw [List.flatMap_cons, List.filterMap_append, here, ih later]
      by_cases chosen_here : chosen x = true
      · rw [if_pos chosen_here, List.filter_cons_of_pos chosen_here, List.map_cons, List.filterMap_cons]
        cases (b.at? (place x)).bind Installed.request? <;> rfl
      · rw [if_neg chosen_here, List.filter_cons_of_neg chosen_here, List.nil_append]

private theorem created_removing (i : Installation) :
    i.removing.filterMap Call.created? = [] := by
  simp [Installation.removing, Call.created?]

/-- What is removed creates nothing. -/
private theorem created_flatMap_removing {β : Type} (there : α → Option β)
    (installation : β → Installation) (l : List α) :
    (l.flatMap fun a => (there a).elim [] fun x => (installation x).removing).filterMap
      Call.created? = [] := by
  rw [List.filterMap_eq_nil_iff]
  intro c mem
  obtain ⟨a, -, mem⟩ := List.mem_flatMap.1 mem
  cases found : there a with
  | none => simp [found] at mem
  | some x =>
    rw [found, Option.elim_some, Installation.removing] at mem
    obtain ⟨r, -, rfl⟩ := List.mem_map.1 mem
    rfl

private theorem mem_removing {i : Installation} {r : RequestId} :
    Call.deleteRequest r ∈ i.removing ↔ r ∈ i.requests := by
  simp [Installation.removing]

private theorem Creates.append {b : Breakpoints} {P : Place → Prop} {calls calls' : List Call}
    (h : Creates b P calls) (none_more : calls'.filterMap Call.created? = []) :
    Creates b P (calls ++ calls') := by
  obtain ⟨ps, distinct, holds, same⟩ := h
  exact ⟨ps, distinct, holds, by rw [List.filterMap_append, same, none_more, List.append_nil]⟩

end

theorem BreakpointSpec.distinct_leading (specs : List BreakpointSpec) :
    (leading specs).Pairwise fun spec other => spec.line ≠ other.line := by
  induction specs with
  | nil => exact .nil
  | cons spec rest ih =>
    refine List.pairwise_cons.2 ⟨fun other later => ?_, ih.filter _⟩
    have away : other.line ≠ spec.line := by simpa using (List.mem_filter.1 later).2
    exact away.symm

namespace Session

variable {V : Type} {began s s' : Session V}

/-! ## Lines -/

section

variable {source : String} {specs : List BreakpointSpec} {modified : Bool} {line : UInt32}

private theorem staying_eq_some {b : Breakpoints} {bp : Breakpoint} :
    staying b source modified line = some bp ↔
      modified = false ∧ b.breakpoint? source line = some bp := by
  cases modified <;> simp [staying]

private theorem mem_gone {b : Breakpoints} (there : (b.breakpoint? source line).isSome = true) :
    line ∈ gone b source specs modified ↔
      ¬ (modified = false ∧ line ∈ specs.map BreakpointSpec.line) := by
  cases modified with
  | true => simp [gone, Breakpoints.mem_lines, there]
  | false => simp [gone, mem_unasked, there]

private theorem gone_nodup {b : Breakpoints} (filed : b.Filed) :
    (gone b source specs modified).Nodup := by
  unfold gone
  split
  · exact filed.nodup_lines source
  · exact (filed.nodup_lines source).filter _

private theorem mem_revisions {kept : UInt32 → Option Breakpoint} {r : RequestId}
    (mem : .deleteRequest r ∈ revisions kept specs) :
    ∃ spec ∈ BreakpointSpec.leading specs, ∃ bp, kept spec.line = some bp ∧
      r ∈ bp.installation.requests := by
  obtain ⟨spec, leads, found⟩ := List.mem_flatMap.1 mem
  cases stays : kept spec.line with
  | none => simp [stays] at found
  | some bp =>
    refine ⟨spec, leads, bp, stays, ?_⟩
    simp only [stays, Option.elim_some, Breakpoint.revising] at found
    split at found
    · rcases List.mem_append.1 found with deleted | placed
      · exact mem_removing.1 deleted
      · simp [placing] at placed
    · cases found

private theorem created_placing (location : Option BreakpointLocation)
    (condition : Option String) : (placing location condition).filterMap Call.created? =
      (location.map fun l => breakpointRequest l condition).toList := by
  cases location <;> rfl

private theorem revisions_creates {xs : List Exchange} {answer : List Breakpoint}
    (h : Reconciled source (staying s.breakpoints source modified) specs answer xs s s') :
    Creates s'.breakpoints ((Wish.lines source specs modified).Keeps s.breakpoints)
      (revisions (staying s.breakpoints source modified) specs) := by
  let changed (spec : BreakpointSpec) : Bool :=
    (staying s.breakpoints source modified spec.line).any fun bp =>
      bp.installation.options.condition ≠ spec.options.1.condition && bp.installation.verified
  refine creates_flatMap (fun spec => .line source spec.line) changed ?_ ?_ ?_
  · refine (BreakpointSpec.distinct_leading specs).imp fun apart _ _ same => ?_
    exact apart (Place.line.inj same).2
  · intro spec leads here
    have here : changed spec = true := here
    cases stays : staying s.breakpoints source modified spec.line with
    | none => simp [changed, stays] at here
    | some bp =>
      obtain ⟨unmodified, there⟩ := staying_eq_some.1 stays
      exact ⟨rfl, unmodified, by rw [there]; rfl,
        List.mem_map_of_mem (BreakpointSpec.mem_of_leading leads)⟩
  · intro spec leads
    cases stays : staying s.breakpoints source modified spec.line with
    | none => simp [changed, stays]
    | some bp =>
      obtain ⟨new, there, revised⟩ := h.revised spec leads bp stays
      have asked : (s'.breakpoints.at? (.line source spec.line)).bind Installed.request? =
          bp.location.map fun l => breakpointRequest l spec.options.1.condition := by
        rw [Breakpoints.at?, there, revised.same, ← revised.options]
        rfl
      rw [asked, ← created_placing]
      simp only [changed, stays, Option.any_some, Option.elim_some, Breakpoint.revising]
      split
      · rw [List.filterMap_append, created_removing, List.nil_append]
      · rfl

private theorem additions_create {xs : List Exchange} {answer : List Breakpoint}
    (h : Reconciled source (staying s.breakpoints source modified) specs answer xs s s') :
    Creates s'.breakpoints ((Wish.lines source specs modified).Adds s.breakpoints)
      ((missing (staying s.breakpoints source modified) specs).flatMap fun spec =>
        spec.creating s.providers.lookup source) := by
  refine creates_flatMap (fun spec => .line source spec.line) (fun _ => true) ?_ ?_ ?_
  · refine ((BreakpointSpec.distinct_leading specs).filter _).imp fun apart _ _ same => ?_
    exact apart (Place.line.inj same).2
  · intro spec mem _
    obtain ⟨leads, vacant⟩ := List.mem_filter.1 mem
    refine ⟨⟨rfl, List.mem_map_of_mem (BreakpointSpec.mem_of_leading leads)⟩, ?_⟩
    rintro ⟨-, unmodified, there, -⟩
    obtain ⟨bp, found⟩ := Option.isSome_iff_exists.1 there
    rw [staying_eq_some.2 ⟨unmodified, found⟩] at vacant
    cases vacant
  · intro spec mem
    obtain ⟨k, found⟩ := List.mem_iff_getElem?.1 mem
    obtain ⟨bp, there, created⟩ := h.created k spec found
    have asked : (s'.breakpoints.at? (.line source spec.line)).bind Installed.request? =
        (spec.location s.providers.lookup source).map fun l =>
          breakpointRequest l spec.options.1.condition := by
      rw [Breakpoints.at?, there, created.same, ← created.options]
      rfl
    rw [asked, BreakpointSpec.creating, created_placing]
    rfl

private theorem plan_replaces {live : RequestId → Option EventRequest}
    {failed : RequestId → Prop} (books : Balanced live failed [] s.breakpoints)
    (filed : s.breakpoints.Filed) {xs : List Exchange} {answer : List Breakpoint}
    (h : Reconciled source (staying s.breakpoints source modified) specs answer xs s s') :
    Replaces (.lines source specs modified) s.breakpoints s'.breakpoints
      (plan s.breakpoints s.providers.lookup source specs modified) where
  deleted := by
    rintro (⟨source', line⟩ | _) i ⟨covered, installed, dropped⟩ stored r mem
    swap
    · exact covered.elim
    obtain rfl : source' = source := covered
    obtain ⟨bp, there, rfl⟩ := Option.map_eq_some_iff.1 stored
    have goes : line ∈ gone s.breakpoints source' specs modified := by
      refine (mem_gone (by rw [there]; rfl)).2 fun ⟨unmodified, asked⟩ => dropped ?_
      exact ⟨rfl, unmodified, by rw [there]; rfl, asked⟩
    have elsewhere : ∀ line' bp', s.breakpoints.breakpoint? source' line' = some bp' →
        r ∈ bp'.installation.requests → line' = line := by
      intro line' bp' there' mem'
      have stored' := Breakpoints.at?_eq_breakpoint.2 there'
      exact (Place.line.inj (books.same_place stored mem stored' mem')).2
    have kept : .deleteRequest r ∉ revisions (staying s.breakpoints source' modified) specs := by
      intro again
      obtain ⟨spec, leads, bp', stays, mem'⟩ := mem_revisions again
      obtain ⟨unmodified, there'⟩ := staying_eq_some.1 stays
      refine dropped ⟨rfl, unmodified, by rw [there]; rfl, ?_⟩
      rw [← elsewhere spec.line bp' there' mem']
      exact List.mem_map_of_mem (BreakpointSpec.mem_of_leading leads)
    have added : .deleteRequest r ∉ (missing (staying s.breakpoints source' modified) specs).flatMap
        fun spec => spec.creating s.providers.lookup source' := by
      simp [BreakpointSpec.creating, placing]
    have once : (removals (s.breakpoints.breakpoint? source')
        (gone s.breakpoints source' specs modified)).count (.deleteRequest r) = 1 := by
      rw [removals, count_flatMap_of_nodup (gone_nodup filed) goes, there]
      · have alone : bp.installation.requests = [r] := books.requests_eq stored mem
        simp [Installation.removing, alone]
      · intro line' _ away again
        cases there' : s.breakpoints.breakpoint? source' line' with
        | none => simp [there'] at again
        | some bp' =>
          rw [there'] at again
          exact away (elsewhere line' bp' there' (mem_removing.1 again))
    rw [plan, List.count_append, List.count_append, once, List.count_eq_zero.2 kept,
      List.count_eq_zero.2 added]
  ordered := by
    refine ⟨_, _, (List.append_assoc ..).symm, ?_, (revisions_creates h).append ?_,
      additions_create h⟩
    · simp [BreakpointSpec.creating, placing]
    · exact created_flatMap_removing (s.breakpoints.breakpoint? source) (·.installation) _

end

/-! ## Fields -/

section

variable {specs : List WatchpointSpec} {stale : List (String × String)}
  {es : List (WatchpointSpec × Supply)} {answers : List Watchpoint} {calls : List Call}

private theorem keeps_iff {b : Breakpoints} {key : String × String} :
    (Wish.fields specs).Keeps b (.field key.1 key.2) ↔ key ∈ keptKeys b.watchpoint? specs :=
  mem_keptKeys.symm

private theorem mem_rewatching {ks : List (WatchpointSpec × Watchpoint)} {r : RequestId}
    (mem : .deleteRequest r ∈ rewatching ks) : ∃ k ∈ ks, r ∈ k.2.installation.requests := by
  obtain ⟨k, listed, found⟩ := List.mem_flatMap.1 mem
  refine ⟨k, listed, ?_⟩
  rw [Watchpoint.revising] at found
  split at found
  · rcases List.mem_append.1 found with deleted | placed
    · exact mem_removing.1 deleted
    · simp at placed
  · cases found

private theorem mem_supply {supply : Supply} {spec : WatchpointSpec} {r : RequestId} :
    .deleteRequest r ∉ supply.calls spec := by
  cases supply with
  | created declared number => cases declared <;> simp [Supply.calls, WatchpointSpec.creating]
  | shared => exact List.not_mem_nil
  | refused number answer => exact List.not_mem_nil

private theorem rewatching_creates (h : Relisted specs stale es answers calls s s') :
    Creates s'.breakpoints ((Wish.fields specs).Keeps s.breakpoints)
      (rewatching (keepers s.breakpoints.watchpoint? specs)) := by
  refine creates_flatMap (fun k => .field k.1.key.1 k.1.key.2)
    (fun k => k.2.installation.options.condition ≠ k.1.options.1.condition &&
      k.2.installation.verified) ?_ ?_ ?_
  · have distinct := nodup_keptKeys s.breakpoints.watchpoint? specs
    refine (List.pairwise_map.1 distinct).imp fun apart _ _ same => apart ?_
    exact Prod.ext (Place.field.inj same).1 (Place.field.inj same).2
  · exact fun k mem _ => keeps_iff.2 (List.mem_map_of_mem mem)
  · rintro ⟨spec, w⟩ mem
    obtain ⟨w', there, continued⟩ := h.continued spec w mem
    have asked : (s'.breakpoints.at? (.field spec.key.1 spec.key.2)).bind Installed.request? =
        some (watchpointRequest (w.revised spec)) := by
      have stored := Breakpoints.at?_eq_watchpoint.2 there
      rw [stored, Option.bind_some, Installed.request?, continued.same, watchpointRequest,
        watchpointRequest, continued.options]
      rfl
    rw [asked, Watchpoint.revising]
    split
    · rw [List.filterMap_append, created_removing]
      rfl
    · rfl

private theorem supplies_create (h : Relisted specs stale es answers calls s s') :
    Creates s'.breakpoints ((Wish.fields specs).Adds s.breakpoints)
      (es.flatMap fun e => e.2.calls e.1) := by
  have created : ∀ e : WatchpointSpec × Supply, e.2.isDeclared = true → e.2.IsCreated :=
    fun e => Supply.isCreated_of_isDeclared
  refine creates_flatMap (fun e => .field e.1.key.1 e.1.key.2) (fun e => e.2.isDeclared) ?_ ?_ ?_
  · refine h.once.imp fun apart here here' same => apart (created _ here) (created _ here') ?_
    exact Prod.ext (Place.field.inj same).1 (Place.field.inj same).2
  · rintro ⟨spec, supply⟩ mem here
    obtain ⟨d, number, made⟩ := created _ here
    obtain ⟨w, -, told⟩ := h.suits _ mem
    rw [made] at told
    have listed : spec ∈ specs := by
      rw [← h.entries]
      exact List.mem_map_of_mem (f := Prod.fst) mem
    exact ⟨List.mem_map_of_mem listed, fun keeps => told.1 (keeps_iff.1 keeps)⟩
  · rintro ⟨spec, supply⟩ mem
    cases supply with
    | shared => rfl
    | refused number answer => rfl
    | created d number =>
      obtain ⟨w, there, -, made⟩ := h.suits _ mem
      have stored := Breakpoints.at?_eq_watchpoint.2 there
      have asked : (s'.breakpoints.at? (.field spec.key.1 spec.key.2)).bind
          Installed.request? = some spec.request := by
        rw [stored, Option.bind_some, Installed.request?, watchpointRequest, made.options,
          made.same]
        rfl
      rw [asked]
      cases d <;> rfl

private theorem relisted_replaces {live : RequestId → Option EventRequest}
    {failed : RequestId → Prop} (books : Balanced live failed [] s.breakpoints)
    (h : Relisted specs stale es answers calls s s') :
    Replaces (.fields specs) s.breakpoints s'.breakpoints calls where
  deleted := by
    rintro (_ | ⟨className, fieldName⟩) i ⟨covered, installed, dropped⟩ stored r mem
    · exact covered.elim
    obtain ⟨w, there, rfl⟩ := Option.map_eq_some_iff.1 stored
    have dropped : (className, fieldName) ∉ keptKeys s.breakpoints.watchpoint? specs :=
      fun keeps => dropped (keeps_iff.2 keeps)
    have goes : (className, fieldName) ∈ stale := (h.stale _).2 ⟨by rw [there]; rfl, dropped⟩
    have elsewhere : ∀ key w', s.breakpoints.watchpoint? key = some w' →
        r ∈ w'.installation.requests → key = (className, fieldName) := by
      intro key w' there' mem'
      have stored' := Breakpoints.at?_eq_watchpoint.2 there'
      obtain ⟨same, same'⟩ := Place.field.inj (books.same_place stored mem stored' mem')
      exact Prod.ext same same'
    have kept : .deleteRequest r ∉ rewatching (keepers s.breakpoints.watchpoint? specs) := by
      intro again
      obtain ⟨⟨spec, w'⟩, listed, mem'⟩ := mem_rewatching again
      have same := elsewhere spec.key w' (mem_keepers listed).2.1 mem'
      exact dropped (same ▸ List.mem_map_of_mem (f := fun k => k.1.key) listed)
    have added : .deleteRequest r ∉ es.flatMap fun e => e.2.calls e.1 := by
      simp [mem_supply]
    have once : (unwatching s.breakpoints.watchpoint? stale).count (.deleteRequest r) = 1 := by
      rw [unwatching, count_flatMap_of_nodup h.distinct goes, there]
      · have alone : w.installation.requests = [r] := books.requests_eq stored mem
        simp [Installation.removing, alone]
      · intro key _ away again
        cases there' : s.breakpoints.watchpoint? key with
        | none => simp [there'] at again
        | some w' =>
          rw [there'] at again
          exact away (elsewhere key w' there' (mem_removing.1 again))
    rw [h.calls, List.count_append, List.count_append, once, List.count_eq_zero.2 kept,
      List.count_eq_zero.2 added]
  ordered := by
    refine ⟨_, _, h.calls.trans (List.append_assoc ..).symm, ?_,
      (rewatching_creates h).append ?_, supplies_create h⟩
    · simp [mem_supply]
    · exact created_flatMap_removing s.breakpoints.watchpoint? (·.installation) _

end

/-! ## Whatever fails -/

variable {α : Type} [Machine V] [Ledger V]

/-- A wish is granted by calls that delete before they create, unless the debuggee is lost; and at
no moment two requests stand for one place, unless one of them could not be deleted. -/
structure Granted (w : Wish) (x : Action V α) (s : Session V) : Prop where
  sparse : Meanwhile x s (Sparse s)
  sparse_after : Settles x s fun _ s' => Sparse s s'
  calls : Settles x s fun r s' => ∃ xs, s'.calls = s.calls ++ xs ∧
    match r with
    | .ok _ => Replaces w s.breakpoints s'.breakpoints (xs.map Exchange.call)
    | .error e => e = .vmTerminated ∧ ∃ x ∈ xs, x.IsLost

/-- Whichever calls fail, what a client does not want any more goes before anything new comes. -/
theorem removals_before_additions (h : Maintained s) :
    (∀ source specs modified,
      Granted (.lines source specs modified) (setBreakpoints source specs modified) s) ∧
    ∀ specs, Granted (.fields specs) (setWatchpoints specs) s := by
  have booked := h.booked
  refine ⟨fun source specs modified => ⟨?_, ?_, ?_⟩, fun specs => ⟨?_, ?_, ?_⟩⟩
  · exact setBreakpoints_sparse source specs modified booked h.managed.filed
  · exact (setBreakpoints_settles source specs modified booked).mono
      fun _ _ booked' => booked'.sparse s
  · refine (setBreakpoints_works source specs modified h.managed.filed).mono fun r s' carried => ?_
    cases r with
    | ok answer =>
      obtain ⟨xs, worked, planned, reconciled⟩ := carried
      exact ⟨xs, worked.calls, planned ▸ plan_replaces booked.books h.managed.filed reconciled⟩
    | error e =>
      obtain ⟨xs, worked, lost⟩ := carried
      exact ⟨xs, worked.calls, lost⟩
  · exact setWatchpoints_sparse specs booked
  · exact (setWatchpoints_settles specs booked).mono fun _ _ booked' => booked'.sparse s
  · refine (setWatchpoints_tends specs booked.watchpoint_keyed booked.books.distinct).mono
      fun r s' tends => ?_
    cases r with
    | ok answers =>
      obtain ⟨xs, tended, stale, es, relisted⟩ := tends
      exact ⟨xs, tended.calls, relisted_replaces booked.books relisted⟩
    | error e =>
      obtain ⟨xs, tended, lost⟩ := tends
      exact ⟨xs, tended.calls, lost⟩

def twoLines : Providers where
  lookup := some (.known [⟨"A.java", 7, none, ⟨"A", none, none, 7, []⟩⟩,
    ⟨"A.java", 9, none, ⟨"A", none, none, 9, []⟩⟩] [])

/-- What is not wanted any more cannot be deleted, and after that the new one is created. -/
theorem removals_before_additions_after_failure :
    let s := (start reluctant {} twoLines).afterOperation (.setLines "A.java" [{ line := 7 }] false)
    let s' := s.afterOperation (.setLines "A.java" [{ line := 9 }] false)
    s'.calls = s.calls ++ [⟨.deleteRequest 1, some (.timeout 5)⟩,
        ⟨.createRequest (.breakpoint "A" none 9 none), none⟩] ∧
      Granted (.lines "A.java" [{ line := 9 }] false)
        (setBreakpoints "A.java" [{ line := 9 }] false) s := by
  have began : Maintained (start reluctant {} twoLines) :=
    .start _ {} _ (by intro r request found; cases found) fun _ => rfl
  exact ⟨by decide +kernel, (removals_before_additions (began.operation _)).1 _ _ _⟩

end Session

end DebugSession
