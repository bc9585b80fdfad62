import DebugSession.Proofs.Phases
import DebugSession.Proofs.Revisions
import Mathlib.Data.List.Basic
/-!
The lines of a source after a request for breakpoints on them. Each line is dealt with once, by the
first entry for it: what stays is revised, what is not asked for goes, and what is new comes last.
-/

namespace DebugSession.Session

variable {V : Type} {source : String} {s s₁ s' : Session V} {xs xs' : List Exchange}

/-! ## Lines, one after the other -/

/-- The calls for what stays on some lines. -/
def revisions (kept : UInt32 → Option Breakpoint) (specs : List BreakpointSpec) : List Call :=
  (BreakpointSpec.leading specs).flatMap fun spec =>
    (kept spec.line).elim [] fun bp => bp.revising spec

/-- The calls that remove what is on some lines. -/
def removals (there : UInt32 → Option Breakpoint) (lines : List UInt32) : List Call :=
  lines.flatMap fun line => (there line).elim [] fun bp => bp.installation.removing

/-- The first entries for the lines on which nothing stays. -/
def missing (kept : UInt32 → Option Breakpoint) (specs : List BreakpointSpec) :
    List BreakpointSpec :=
  (BreakpointSpec.leading specs).filter fun spec => (kept spec.line).isNone

theorem exists_missing {kept : UInt32 → Option Breakpoint} {specs : List BreakpointSpec}
    {spec : BreakpointSpec} (leads : spec ∈ BreakpointSpec.leading specs)
    (vacant : kept spec.line = none) : ∃ k : Nat, (missing kept specs)[k]? = some spec :=
  List.mem_iff_getElem?.1 (List.mem_filter.2 ⟨leads, by rw [vacant]; rfl⟩)

private theorem flatMap_filter (l : List BreakpointSpec) (p : BreakpointSpec → Bool)
    (f : BreakpointSpec → List Call) :
    (l.filter p).flatMap f = l.flatMap fun spec => if p spec then f spec else [] := by
  induction l with
  | nil => rfl
  | cons spec rest ih => by_cases h : p spec <;> simp [h, ih]

private theorem revisions_cons (kept : UInt32 → Option Breakpoint) (spec : BreakpointSpec)
    (rest : List BreakpointSpec) :
    revisions kept (spec :: rest) = (kept spec.line).elim [] (fun bp => bp.revising spec) ++
      revisions (Function.update kept spec.line none) rest := by
  rw [revisions, BreakpointSpec.leading, List.flatMap_cons, flatMap_filter, revisions]
  congr 2
  funext other
  rw [Function.update_apply]
  by_cases same : other.line = spec.line <;> simp [same]

private theorem missing_cons_of_some {kept : UInt32 → Option Breakpoint} {spec : BreakpointSpec}
    {bp : Breakpoint} (h : kept spec.line = some bp) (rest : List BreakpointSpec) :
    missing kept (spec :: rest) = missing kept rest := by
  rw [missing, BreakpointSpec.leading, List.filter_cons_of_neg (by simp [h]), List.filter_filter,
    missing]
  congr 1
  funext other
  by_cases same : other.line = spec.line <;> simp [same, h]

private theorem missing_update (kept : UInt32 → Option Breakpoint) (line : UInt32)
    (bp : Breakpoint) (specs : List BreakpointSpec) :
    missing (Function.update kept line (some bp)) specs =
      (missing kept specs).filter fun spec => spec.line ≠ line := by
  rw [missing, missing, List.filter_filter]
  congr 1
  funext spec
  rw [Function.update_apply]
  by_cases same : spec.line = line <;> simp [same]

private theorem missing_cons_of_none {kept : UInt32 → Option Breakpoint} {spec : BreakpointSpec}
    (h : kept spec.line = none) (rest : List BreakpointSpec) :
    missing kept (spec :: rest) =
      spec :: (missing kept rest).filter fun other => other.line ≠ spec.line := by
  rw [missing, BreakpointSpec.leading, List.filter_cons_of_pos (by simp [h]), missing,
    List.filter_comm]

/-- What stays of some lines, when others were visited before. -/
def unvisited (visited : List UInt32) (there : UInt32 → Option Breakpoint) (line : UInt32) :
    Option Breakpoint :=
  if visited.contains line then none else there line

private theorem unvisited_cons (visited : List UInt32) (there : UInt32 → Option Breakpoint)
    (line : UInt32) :
    unvisited (line :: visited) there = Function.update (unvisited visited there) line none := by
  funext line'
  rw [Function.update_apply]
  by_cases same : line' = line <;> simp [unvisited, same]

private theorem unvisited_update (visited : List UInt32) (there : UInt32 → Option Breakpoint)
    (line : UInt32) (new : Option Breakpoint) :
    unvisited (line :: visited) (Function.update there line new) =
      Function.update (unvisited visited there) line none := by
  funext line'
  rw [Function.update_apply, unvisited, unvisited, Function.update_apply]
  by_cases same : line' = line <;> simp [same]

/-- What stays is revised by the first entry for its line, and all else is left alone. -/
structure RevisedAll (source : String) (kept : UInt32 → Option Breakpoint)
    (specs : List BreakpointSpec) (xs : List Exchange) (s s' : Session V) : Prop where
  untouched : ∀ line, kept line = none ∨ line ∉ specs.map BreakpointSpec.line →
    s'.breakpoints.breakpoint? source line = s.breakpoints.breakpoint? source line
  revised : ∀ spec ∈ BreakpointSpec.leading specs, ∀ old, kept spec.line = some old →
    ∃ new, s'.breakpoints.breakpoint? source spec.line = some new ∧ old.Revised spec xs new
  issued : s'.breakpoints.issued = s.breakpoints.issued

section

variable {kept : UInt32 → Option Breakpoint} {spec : BreakpointSpec} {rest : List BreakpointSpec}

private theorem RevisedAll.skip (h : RevisedAll source kept rest xs s s')
    (nothing : kept spec.line = none) : RevisedAll source kept (spec :: rest) xs s s' where
  untouched line aside := h.untouched line (aside.imp_right (List.not_mem_of_not_mem_cons ·))
  revised other leads old stays := by
    rcases List.mem_cons.1 leads with rfl | later
    · rw [nothing] at stays
      cases stays
    · exact h.revised other (List.mem_filter.1 later).1 old stays
  issued := h.issued

private theorem RevisedAll.cons {old new : Breakpoint} (stays : kept spec.line = some old)
    (first : Refiled source spec.line (some new) s s₁) (revised : old.Revised spec xs new)
    (h : RevisedAll source (Function.update kept spec.line none) rest xs' s₁ s') :
    RevisedAll source kept (spec :: rest) (xs ++ xs') s s' where
  untouched line aside := by
    have away : line ≠ spec.line := by
      rintro rfl
      rcases aside with nothing | unasked
      · rw [stays] at nothing
        cases nothing
      · exact unasked List.mem_cons_self
    have aside' := aside.imp_right (List.not_mem_of_not_mem_cons ·)
    rw [← Function.update_of_ne away none kept] at aside'
    rw [h.untouched line aside', first.lines, Function.update_of_ne away]
  revised other leads old' stays' := by
    rcases List.mem_cons.1 leads with rfl | later
    · obtain rfl := Option.some.inj (stays.symm.trans stays')
      refine ⟨new, ?_, revised.more (List.subset_append_left _ _)⟩
      rw [h.untouched _ (.inl (Function.update_self ..)), first.lines, Function.update_self]
    · obtain ⟨leads, away⟩ := List.mem_filter.1 later
      have away : other.line ≠ spec.line := by simpa using away
      rw [← Function.update_of_ne away none kept] at stays'
      obtain ⟨new', there, revised'⟩ := h.revised other leads old' stays'
      exact ⟨new', there, revised'.more (List.subset_append_right _ _)⟩
  issued := h.issued.trans first.issued

end

private theorem removals_update {lines : List UInt32} {line : UInt32} (away : line ∉ lines)
    (there : UInt32 → Option Breakpoint) (new : Option Breakpoint) :
    removals (Function.update there line new) lines = removals there lines := by
  apply List.flatMap_congr
  intro line' mem
  have other : line' ≠ line := by
    rintro rfl
    exact away mem
  rw [Function.update_of_ne other]

/-- On the lines on which nothing was, there are new breakpoints with the next numbers. -/
structure CreatedAll (source : String) (specs : List BreakpointSpec) (xs : List Exchange)
    (s s' : Session V) : Prop where
  untouched : ∀ line, (s.breakpoints.breakpoint? source line).isSome = true ∨
      line ∉ specs.map BreakpointSpec.line →
    s'.breakpoints.breakpoint? source line = s.breakpoints.breakpoint? source line
  created : ∀ k spec, (missing (s.breakpoints.breakpoint? source) specs)[k]? = some spec →
    ∃ bp, s'.breakpoints.breakpoint? source spec.line = some bp ∧
      bp.Created s.providers.lookup source spec (numberAfter (s.breakpoints.issued + k)) xs
  issued : s'.breakpoints.issued =
    s.breakpoints.issued + (missing (s.breakpoints.breakpoint? source) specs).length

section

variable {spec : BreakpointSpec} {rest : List BreakpointSpec}

private theorem CreatedAll.skip {bp : Breakpoint} (h : CreatedAll source rest xs s s')
    (there : s.breakpoints.breakpoint? source spec.line = some bp) :
    CreatedAll source (spec :: rest) xs s s' := by
  have same := missing_cons_of_some there rest
  refine ⟨?_, ?_, ?_⟩
  · intro line aside
    exact h.untouched line (aside.imp_right (List.not_mem_of_not_mem_cons ·))
  · rw [same]
    exact h.created
  · rw [same]
    exact h.issued

private theorem missing_later {bp : Breakpoint}
    (lines : s₁.breakpoints.breakpoint? source =
      Function.update (s.breakpoints.breakpoint? source) spec.line (some bp))
    (vacant : s.breakpoints.breakpoint? source spec.line = none) :
    missing (s.breakpoints.breakpoint? source) (spec :: rest) =
      spec :: missing (s₁.breakpoints.breakpoint? source) rest := by
  rw [missing_cons_of_none vacant, lines, missing_update]

private theorem CreatedAll.cons {bp : Breakpoint}
    (vacant : s.breakpoints.breakpoint? source spec.line = none)
    (worked : Worked source xs s s₁)
    (lines : s₁.breakpoints.breakpoint? source =
      Function.update (s.breakpoints.breakpoint? source) spec.line (some bp))
    (issued : s₁.breakpoints.issued = s.breakpoints.issued + 1)
    (created : bp.Created s.providers.lookup source spec (numberAfter s.breakpoints.issued) xs)
    (h : CreatedAll source rest xs' s₁ s') :
    CreatedAll source (spec :: rest) (xs ++ xs') s s' where
  untouched line aside := by
    have away : line ≠ spec.line := by
      rintro rfl
      simp [vacant] at aside
    have same : s₁.breakpoints.breakpoint? source line =
        s.breakpoints.breakpoint? source line := by rw [lines, Function.update_of_ne away]
    rw [← same] at aside ⊢
    exact h.untouched line (aside.imp_right (List.not_mem_of_not_mem_cons ·))
  created k other there := by
    rw [missing_later lines vacant] at there
    cases k with
    | zero =>
      obtain rfl : spec = other := by simpa using there
      have here : s₁.breakpoints.breakpoint? source spec.line = some bp := by
        rw [lines, Function.update_self]
      refine ⟨bp, ?_, created.more (List.subset_append_left _ _)⟩
      rw [h.untouched _ (.inl (by rw [here]; rfl)), here]
    | succ k =>
      obtain ⟨bp', there', created'⟩ := h.created k other (by simpa using there)
      rw [issued, worked.providers, Nat.add_right_comm, Nat.add_assoc] at created'
      exact ⟨bp', there', created'.more (List.subset_append_right _ _)⟩
  issued := by
    rw [h.issued, issued, missing_later lines vacant, List.length_cons]
    omega

private theorem CreatedAll.isSome {specs : List BreakpointSpec}
    (h : CreatedAll source specs xs s s')
    (asked : ∀ line, (s.breakpoints.breakpoint? source line).isSome = true →
      line ∈ specs.map BreakpointSpec.line) (line : UInt32) :
    (s'.breakpoints.breakpoint? source line).isSome = true ↔
      line ∈ specs.map BreakpointSpec.line := by
  constructor
  · intro there
    by_contra unasked
    rw [h.untouched line (.inr unasked)] at there
    exact unasked (asked line there)
  · intro mem
    obtain ⟨spec, leads, rfl⟩ := BreakpointSpec.exists_leading mem
    cases there : s.breakpoints.breakpoint? source spec.line with
    | some old => rw [h.untouched _ (.inl (by rw [there]; rfl)), there, Option.isSome_some]
    | none =>
      obtain ⟨k, found⟩ := exists_missing leads there
      obtain ⟨bp, stored, -⟩ := h.created k spec found
      rw [stored, Option.isSome_some]

end

/-! ## Loops over lines -/

section

variable [Machine V]

theorem reviseAll_works (visited : List UInt32) (specs : List BreakpointSpec)
    {kept : UInt32 → Option Breakpoint} (filed : s.breakpoints.Filed)
    (known : kept = unvisited visited (s.breakpoints.breakpoint? source)) :
    Settles (reviseAll source visited specs) s
      (Carried source (revisions kept specs) s fun _ xs => RevisedAll source kept specs xs s) := by
  -- `kept` loses each line that is visited, so that the first entry for a line is the only one.
  induction specs generalizing visited kept s with
  | nil => exact ⟨[], worked_refl source s, rfl, fun _ _ => rfl, nofun, rfl⟩
  | cons spec rest ih =>
    have skips : kept spec.line = none → Settles (reviseAll source (spec.line :: visited) rest) s
        (Carried source (revisions kept (spec :: rest)) s
          fun _ xs => RevisedAll source kept (spec :: rest) xs s) := by
      intro nothing
      have same : Function.update kept spec.line none = kept := by
        rw [← nothing, Function.update_eq_self]
      rw [revisions_cons, nothing, same]
      refine (ih (spec.line :: visited) filed ?_).mono fun _ _ carried =>
        carried.mono fun _ _ _ all => all.skip nothing
      rw [unvisited_cons, ← known, same]
    unfold reviseAll
    rw [settles_bind, settles_get]
    dsimp only
    split
    · rename_i bp found
      split
      · rename_i unseen
        have stays : kept spec.line = some bp := by
          simpa [known, unvisited, found] using unseen
        obtain ⟨rfl, line⟩ := filed.keyed _ _ _ found
        have first := reviseBreakpoint_works bp spec s
        rw [line] at first
        rw [revisions_cons, stays]
        refine carried_bind first ?_
        rintro _ xs s₁ worked ⟨new, refiled, revised⟩
        refine (ih (spec.line :: visited) (worked.filed filed) ?_).mono fun _ _ carried =>
          carried.mono fun _ _ _ all => all.cons stays refiled revised
        rw [refiled.lines, unvisited_update, known]
      · rename_i seen
        have seen : visited.contains spec.line = true := by simpa using seen
        exact skips (by rw [known, unvisited, if_pos seen])
    · rename_i vacant
      exact skips (by simp [known, unvisited, vacant])

private theorem removeLines_works (lines : List UInt32) (distinct : lines.Nodup) (s : Session V) :
    Task.Ends (removeLines source lines) s fun _ s' =>
      ∃ xs, Worked source xs s s' ∧
        xs.map Exchange.call = removals (s.breakpoints.breakpoint? source) lines ∧
        (∀ line, s'.breakpoints.breakpoint? source line =
          if line ∈ lines then none else s.breakpoints.breakpoint? source line) ∧
        s'.breakpoints.issued = s.breakpoints.issued := by
  induction lines generalizing s with
  | nil => exact ⟨[], worked_refl source s, rfl, fun _ => rfl, rfl⟩
  | cons line rest ih =>
    obtain ⟨new, others⟩ := List.nodup_cons.1 distinct
    unfold removeLines
    rw [Task.ends_bind, Task.ends_get]
    dsimp only
    split
    · rename_i vacant
      apply (ih others s).mono
      rintro _ s' ⟨xs, worked, planned, left, issued⟩
      refine ⟨xs, worked, ?_, ?_, issued⟩
      · rw [planned, removals, removals, List.flatMap_cons, vacant]
        rfl
      · intro line'
        rw [left]
        by_cases same : line' = line <;> simp [same, vacant]
    · rename_i bp found
      simp only [Task.ends_bind, Task.ends_modify]
      apply (deleteRequests_works source bp.installation.requests _).mono
      rintro _ s₁ ⟨xs, worked, deleted, owners, same⟩
      have lines : s₁.breakpoints.breakpoint? source =
          Function.update (s.breakpoints.breakpoint? source) line none := by
        rw [same]
        exact Breakpoints.breakpoint?_drop s.breakpoints source line
      apply (ih others s₁).mono
      rintro _ s' ⟨xs', worked', planned, left, issued⟩
      refine ⟨xs ++ xs', (worked_drop s source line).trans (worked.trans worked'), ?_, ?_, ?_⟩
      · rw [List.map_append, deleted, planned, lines, removals_update new]
        simp [removals, found, Installation.removing]
      · intro line'
        rw [left, lines, Function.update_apply]
        by_cases same : line' = line <;> simp [same]
      · exact issued.trans (by rw [same]; rfl)

private theorem createMissing_works (specs : List BreakpointSpec) (s : Session V) :
    Settles (createMissing source specs) s
      (Carried source ((missing (s.breakpoints.breakpoint? source) specs).flatMap fun spec =>
          spec.creating s.providers.lookup source) s
        fun _ xs => CreatedAll source specs xs s) := by
  induction specs generalizing s with
  | nil => exact ⟨[], worked_refl source s, rfl, fun _ _ => rfl, nofun, rfl⟩
  | cons spec rest ih =>
    unfold createMissing
    rw [settles_bind, settles_get]
    dsimp only
    split
    · rename_i vacant
      have vacant := Option.isNone_iff_eq_none.1 vacant
      rw [missing_cons_of_none vacant, List.flatMap_cons]
      refine carried_bind (createBreakpoint_works spec s) ?_
      rintro _ xs s₁ worked ⟨issued, bp, lines, created⟩
      rw [← missing_update _ _ bp, ← lines, ← worked.providers]
      exact (ih s₁).mono fun _ _ carried => carried.mono fun _ _ _ all =>
        all.cons vacant worked lines issued created
    · rename_i stays
      obtain ⟨bp, found⟩ := Option.ne_none_iff_exists'.1 (by simpa using stays)
      rw [missing_cons_of_some found]
      exact (ih s).mono fun _ _ carried => carried.mono fun _ _ _ all => all.skip found

end

/-! ## A whole source -/

/-- The lines of a source are those that are asked for, where `kept` has stayed. -/
structure Reconciled (source : String) (kept : UInt32 → Option Breakpoint)
    (specs : List BreakpointSpec) (answer : List Breakpoint) (xs : List Exchange)
    (s s' : Session V) : Prop where
  answer : answer.map some =
    specs.map fun spec => s'.breakpoints.breakpoint? source spec.line
  lines : ∀ line, (s'.breakpoints.breakpoint? source line).isSome = true ↔
    line ∈ specs.map BreakpointSpec.line
  revised : ∀ spec ∈ BreakpointSpec.leading specs, ∀ old, kept spec.line = some old →
    ∃ new, s'.breakpoints.breakpoint? source spec.line = some new ∧ old.Revised spec xs new
  created : ∀ k spec, (missing kept specs)[k]? = some spec →
    ∃ bp, s'.breakpoints.breakpoint? source spec.line = some bp ∧
      bp.Created s.providers.lookup source spec (numberAfter (s.breakpoints.issued + k)) xs
  issued : s'.breakpoints.issued = s.breakpoints.issued + (missing kept specs).length

/-- The lines of a source that are not asked for any more. -/
def unasked (b : Breakpoints) (source : String) (specs : List BreakpointSpec) : List UInt32 :=
  (b.lines source).filter fun line => !(specs.map BreakpointSpec.line).contains line

theorem mem_unasked {b : Breakpoints} {specs : List BreakpointSpec} {line : UInt32} :
    line ∈ unasked b source specs ↔ (b.breakpoint? source line).isSome = true ∧
      line ∉ specs.map BreakpointSpec.line := by
  rw [unasked, List.mem_filter, Breakpoints.mem_lines, Bool.not_eq_true', List.contains_eq_mem,
    decide_eq_false_iff_not]

private theorem RevisedAll.isSome {specs : List BreakpointSpec}
    (h : RevisedAll source (s.breakpoints.breakpoint? source) specs xs s s') (line : UInt32) :
    (s'.breakpoints.breakpoint? source line).isSome =
      (s.breakpoints.breakpoint? source line).isSome := by
  by_cases aside : s.breakpoints.breakpoint? source line = none ∨
    line ∉ specs.map BreakpointSpec.line
  · rw [h.untouched line aside]
  · obtain ⟨there, asked⟩ := not_or.1 aside
    obtain ⟨spec, leads, rfl⟩ := BreakpointSpec.exists_leading (not_not.1 asked)
    obtain ⟨old, stays⟩ := Option.ne_none_iff_exists'.1 there
    obtain ⟨new, there', -⟩ := h.revised spec leads old stays
    rw [stays, there']
    rfl

private theorem map_some_filterMap {f : BreakpointSpec → Option Breakpoint}
    {specs : List BreakpointSpec} (h : ∀ spec ∈ specs, (f spec).isSome = true) :
    (specs.filterMap f).map some = specs.map f := by
  induction specs with
  | nil => rfl
  | cons spec rest ih =>
    obtain ⟨here, others⟩ := List.forall_mem_cons.1 h
    obtain ⟨bp, found⟩ := Option.isSome_iff_exists.1 here
    rw [List.filterMap_cons_some found, List.map_cons, ih others, List.map_cons, found]

section

variable {specs : List BreakpointSpec} {s₂ : Session V}

/-- Nothing is left of what was kept on lines that are not asked for. -/
def Cleared (source : String) (specs : List BreakpointSpec) (s s' : Session V) : Prop :=
  ∀ line, s'.breakpoints.breakpoint? source line =
    if line ∈ specs.map BreakpointSpec.line then s.breakpoints.breakpoint? source line else none

private theorem missing_cleared (first : RevisedAll source (s.breakpoints.breakpoint? source) specs
    xs s s₁) (cleared : Cleared source specs s₁ s₂) :
    missing (s₂.breakpoints.breakpoint? source) specs =
      missing (s.breakpoints.breakpoint? source) specs := by
  apply List.filter_congr
  intro spec leads
  have asked : spec.line ∈ specs.map BreakpointSpec.line :=
    List.mem_map_of_mem (BreakpointSpec.mem_of_leading leads)
  have same := first.isSome spec.line
  rw [cleared, if_pos asked, ← Option.not_isSome, ← Option.not_isSome, same]

private theorem reconciled (first : RevisedAll source (s.breakpoints.breakpoint? source) specs
    xs s s₁) (cleared : Cleared source specs s₁ s₂)
    (issued : s₂.breakpoints.issued = s₁.breakpoints.issued)
    (providers : s₂.providers = s.providers) {xs₁ : List Exchange}
    (last : CreatedAll source specs xs' s₂ s') :
    Reconciled source (s.breakpoints.breakpoint? source) specs
      (specs.filterMap fun spec => s'.breakpoints.breakpoint? source spec.line)
      (xs ++ (xs₁ ++ xs')) s s' := by
  have same := missing_cleared first cleared
  have cleared' : ∀ line ∈ specs.map BreakpointSpec.line,
      s₂.breakpoints.breakpoint? source line = s₁.breakpoints.breakpoint? source line :=
    fun line asked => (cleared line).trans (if_pos asked)
  have revised : ∀ spec ∈ BreakpointSpec.leading specs, ∀ old,
      s.breakpoints.breakpoint? source spec.line = some old →
      ∃ new, s'.breakpoints.breakpoint? source spec.line = some new ∧
        old.Revised spec (xs ++ (xs₁ ++ xs')) new := by
    intro spec leads old there
    obtain ⟨new, there₁, revised⟩ := first.revised spec leads old there
    have there₂ := (cleared' spec.line
      (List.mem_map_of_mem (BreakpointSpec.mem_of_leading leads))).trans there₁
    refine ⟨new, ?_, revised.more (List.subset_append_left _ _)⟩
    rw [last.untouched _ (.inl (by rw [there₂]; rfl)), there₂]
  have created : ∀ k spec, (missing (s.breakpoints.breakpoint? source) specs)[k]? = some spec →
      ∃ bp, s'.breakpoints.breakpoint? source spec.line = some bp ∧
        bp.Created s.providers.lookup source spec (numberAfter (s.breakpoints.issued + k))
          (xs ++ (xs₁ ++ xs')) := by
    intro k spec there
    obtain ⟨bp, stored, created⟩ := last.created k spec (same ▸ there)
    rw [issued, first.issued, providers] at created
    refine ⟨bp, stored, created.more ?_⟩
    exact List.subset_append_of_subset_right _ (List.subset_append_right _ _)
  have lines : ∀ line, (s'.breakpoints.breakpoint? source line).isSome = true ↔
      line ∈ specs.map BreakpointSpec.line := by
    refine last.isSome fun line there => ?_
    by_contra unasked
    rw [cleared, if_neg unasked] at there
    cases there
  refine ⟨map_some_filterMap ?_, lines, revised, created, ?_⟩
  · exact fun spec mem => (lines spec.line).2 (List.mem_map_of_mem mem)
  · rw [last.issued, issued, first.issued, same]

end

variable [Machine V]

private theorem bringInLine_works (source : String) (specs : List BreakpointSpec)
    {s : Session V} (filed : s.breakpoints.Filed) :
    Settles (bringInLine source specs) s
      (Carried source
        (revisions (s.breakpoints.breakpoint? source) specs ++
          (removals (s.breakpoints.breakpoint? source) (unasked s.breakpoints source specs) ++
            (missing (s.breakpoints.breakpoint? source) specs).flatMap fun spec =>
              spec.creating s.providers.lookup source)) s
        fun answer xs =>
          Reconciled source (s.breakpoints.breakpoint? source) specs answer xs s) := by
  refine carried_bind (reviseAll_works [] specs filed (by funext line; simp [unvisited])) ?_
  rintro _ xs s₁ worked revised
  -- Revising moves nothing, so that what is removed next was known before it.
  have lines : unasked s₁.breakpoints source specs = unasked s.breakpoints source specs := by
    rw [unasked, unasked, filed.lines_congr (worked.filed filed) revised.isSome]
  have stale : removals (s.breakpoints.breakpoint? source) (unasked s.breakpoints source specs) =
      removals (s₁.breakpoints.breakpoint? source) (unasked s₁.breakpoints source specs) := by
    rw [lines]
    apply List.flatMap_congr
    intro line mem
    rw [revised.untouched line (.inr (mem_unasked.1 mem).2)]
  rw [settles_bind, settles_get, stale]
  have distinct := (worked.filed filed).nodup_lines source
  refine carried_bind (carried_quietly (removeLines_works (unasked s₁.breakpoints source specs)
    (distinct.filter _) s₁)) ?_
  rintro _ xs₁ s₂ worked' ⟨left, issued⟩
  have cleared : Cleared source specs s₁ s₂ := by
    intro line
    rw [left]
    by_cases asked : line ∈ specs.map BreakpointSpec.line
    · rw [if_neg fun mem => (mem_unasked.1 mem).2 asked, if_pos asked]
    · rw [if_neg asked, ite_eq_left_iff]
      intro vacant
      simpa [mem_unasked, asked] using vacant
  have providers := worked'.providers.trans worked.providers
  rw [← missing_cleared revised cleared, ← providers]
  refine carried_read (createMissing_works specs s₂) ?_
  rintro _ xs' s' - created
  exact reconciled revised cleared issued providers created

/-- What stays on the lines of a source that may have been modified. -/
def staying (b : Breakpoints) (source : String) (modified : Bool) (line : UInt32) :
    Option Breakpoint :=
  if modified then none else b.breakpoint? source line

/-- The lines of a source on which nothing stays. -/
def gone (b : Breakpoints) (source : String) (specs : List BreakpointSpec) (modified : Bool) :
    List UInt32 :=
  if modified then b.lines source else unasked b source specs

/-- All calls for a source, in order. -/
def plan (b : Breakpoints) (lookup : Option SourceLookup) (source : String)
    (specs : List BreakpointSpec) (modified : Bool) : List Call :=
  revisions (staying b source modified) specs ++
    (removals (b.breakpoint? source) (gone b source specs modified) ++
      (missing (staying b source modified) specs).flatMap fun spec => spec.creating lookup source)

theorem clearSource_works (source : String) {s : Session V}
    (filed : s.breakpoints.Filed) :
    Task.Ends (clearSource source) s fun _ s' =>
      ∃ xs, Worked source xs s s' ∧ xs.map Exchange.call =
        removals (s.breakpoints.breakpoint? source) (s.breakpoints.lines source) ∧
        s'.breakpoints.breakpoint? source = (fun _ => none) ∧
        s'.breakpoints.issued = s.breakpoints.issued := by
  unfold clearSource
  rw [Task.ends_bind, Task.ends_get]
  apply (removeLines_works _ (filed.nodup_lines source) s).mono
  rintro _ s' ⟨xs, worked, planned, left, issued⟩
  refine ⟨xs, worked, planned, ?_, issued⟩
  funext line
  rw [left, ite_eq_left_iff]
  intro vacant
  simpa [Breakpoints.mem_lines] using vacant

private theorem reconcileLines_works (source : String) (specs : List BreakpointSpec)
    (modified : Bool) {s : Session V} (filed : s.breakpoints.Filed) :
    Settles (reconcileLines source specs modified) s
      (Carried source (plan s.breakpoints s.providers.lookup source specs modified) s
        fun answer xs =>
          Reconciled source (staying s.breakpoints source modified) specs answer xs s) := by
  cases modified with
  | false =>
    rw [reconcileLines_unmodified]
    exact bringInLine_works source specs filed
  | true =>
    have bare : revisions (fun _ => none) specs = [] := by simp [revisions]
    have same : plan s.breakpoints s.providers.lookup source specs true =
        removals (s.breakpoints.breakpoint? source) (s.breakpoints.lines source) ++
          (missing (fun _ => none) specs).flatMap fun spec =>
            spec.creating s.providers.lookup source :=
      congrArg (· ++ _) bare
    rw [same, reconcileLines_modified]
    refine carried_bind (carried_quietly (clearSource_works source filed)) ?_
    rintro _ xs s₁ worked ⟨lines, issued⟩
    have none_left : unasked s₁.breakpoints source specs = [] := by
      apply List.eq_nil_iff_forall_not_mem.2
      intro line mem
      have there := (mem_unasked.1 mem).1
      rw [lines] at there
      cases there
    have rest := bringInLine_works source specs (worked.filed filed)
    rw [lines, bare, none_left, worked.providers] at rest
    refine rest.mono fun _ _ carried => carried.mono ?_
    rintro answer xs' - after
    refine ⟨after.answer, after.lines, ?_, ?_, issued ▸ after.issued⟩
    · intro spec _ old stays
      rw [staying, if_pos rfl] at stays
      cases stays
    · intro k spec there
      obtain ⟨bp, stored, created⟩ := after.created k spec there
      rw [worked.providers, issued] at created
      exact ⟨bp, stored, created.more (List.subset_append_right _ _)⟩

theorem setBreakpoints_works (source : String) (specs : List BreakpointSpec) (modified : Bool)
    {s : Session V} (filed : s.breakpoints.Filed) :
    Settles (setBreakpoints source specs modified) s
      (Carried source (plan s.breakpoints s.providers.lookup source specs modified) s
        fun answer xs =>
          Reconciled source (staying s.breakpoints source modified) specs answer xs s) := by
  unfold setBreakpoints
  rw [settles_exclusively]
  have done : Settles (reconcileLines source specs modified)
      { s with line := (s.line.join .lines).2 } _ :=
    reconcileLines_works source specs modified filed
  refine done.mono ?_
  intro r s' carried
  cases r with
  | ok answer =>
    obtain ⟨xs, worked, planned, after⟩ := carried
    exact ⟨xs, worked.in_line _, planned, after.answer, after.lines, after.revised,
      after.created, after.issued⟩
  | error e =>
    obtain ⟨xs, worked, lost⟩ := carried
    exact ⟨xs, worked.in_line _, lost⟩

end DebugSession.Session
