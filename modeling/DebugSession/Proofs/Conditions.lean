import DebugSession.Proofs.Tables
import DebugSession.Session.Breakpoints
import Mathlib.Data.Option.Basic
/-!
Hit conditions that are stored. They were read from texts, and what is read never divides by zero,
so every count can be checked against them, whatever is put, dropped or hit.
-/

namespace DebugSession

theorem HitCondition.ne_of_parse {text : String} {c : HitCondition} (h : parse text = .ok c) :
    c ≠ every 0 := by
  unfold parse at h
  dsimp only at h
  split at h
  · cases h
  · split at h
    · cases h
    · rename_i other
      exact Except.ok.inj h ▸ other

namespace Installation

variable {i i' : Installation}

/-- Any count can be checked against the hit condition, if there is one. -/
def Checkable (i : Installation) : Prop :=
  ∀ c ∈ i.options.hitCondition, ∀ count, c.isMet? count = some (c.isMet count)

theorem Checkable.congr (h : i.Checkable) (same : i'.options = i.options) : i'.Checkable := by
  unfold Checkable
  rw [same]
  exact h

/-- A hit condition that was read from a text. -/
private theorem checkable_of_read (text : Option String)
    (read : i.options.hitCondition = (readHitCondition text).1) : i.Checkable := by
  intro c stored count
  rw [read] at stored
  refine HitCondition.isMet?_eq_some_iff.2 ?_
  unfold readHitCondition at stored
  split at stored
  · cases stored
  · split at stored
    · rename_i parsed
      obtain rfl := Option.some.inj stored
      exact HitCondition.ne_of_parse parsed
    · cases stored

theorem checkable_of_line {spec : BreakpointSpec} (same : i.options = spec.options.1) :
    i.Checkable := by
  refine checkable_of_read spec.hitCondition ?_
  rw [same, BreakpointSpec.options]

theorem checkable_of_field {spec : WatchpointSpec} (same : i.options = spec.options.1) :
    i.Checkable := by
  refine checkable_of_read spec.hitCondition ?_
  rw [same, WatchpointSpec.options]

theorem checkable_reviseField (spec : WatchpointSpec) (i : Installation) :
    (Session.WatchpointSpec.revise spec i).Checkable := by
  refine checkable_of_read spec.hitCondition ?_
  rw [Session.WatchpointSpec.revise, WatchpointSpec.options]

end Installation

namespace Breakpoints

variable {b b' : Breakpoints}

/-- All that hits can be counted for. -/
def stored (b : Breakpoints) : List Installed :=
  (b.sources.values.flatMap Table.values).map .breakpoint ++ b.watchpoints.values.map .watchpoint ++
    b.leaving

/-- Any count can be checked against any hit condition. -/
def Checkable (b : Breakpoints) : Prop := ∀ i ∈ b.stored, i.installation.Checkable

theorem checkable_iff : b.Checkable ↔
    (∀ t ∈ b.sources.values, ∀ bp ∈ t.values, bp.installation.Checkable) ∧
      (∀ wp ∈ b.watchpoints.values, wp.installation.Checkable) ∧
      ∀ i ∈ b.leaving, i.installation.Checkable := by
  simp only [Checkable, stored, List.forall_mem_append, List.forall_mem_map, List.mem_flatMap,
    forall_exists_index, and_imp, and_assoc]
  refine and_congr_left' ?_
  exact ⟨fun h t mem bp mem' => h bp t mem mem', fun h bp t mem mem' => h t mem bp mem'⟩

theorem checkable_empty : Checkable {} := fun _ mem => absurd mem List.not_mem_nil

theorem Checkable.ofSource (h : b.Checkable) {source : String} {bp : Breakpoint}
    (there : bp ∈ (b.ofSource source).values) : bp.installation.Checkable := by
  unfold Breakpoints.ofSource at there
  cases found : b.sources.get? source with
  | none =>
    rw [found] at there
    cases there
  | some t =>
    rw [found] at there
    exact (checkable_iff.1 h).1 t (Table.mem_values found) bp there

theorem Checkable.breakpoint? (h : b.Checkable) {source : String} {line : UInt32} {bp : Breakpoint}
    (found : b.breakpoint? source line = some bp) : bp.installation.Checkable :=
  h.ofSource (Table.mem_values found)

theorem Checkable.watchpoint? (h : b.Checkable) {key : String × String} {wp : Watchpoint}
    (found : b.watchpoint? key = some wp) : wp.installation.Checkable :=
  (checkable_iff.1 h).2.1 wp (Table.mem_values found)

/-! ## Lines -/

private theorem checkable_insert (h : b.Checkable) {source : String} {t : Table UInt32 Breakpoint}
    (new : ∀ bp ∈ t.values, bp.installation.Checkable) :
    Checkable { b with sources := b.sources.insert source t } := by
  obtain ⟨lines, others⟩ := checkable_iff.1 h
  refine checkable_iff.2 ⟨fun t' mem => ?_, others⟩
  rcases Table.mem_values_insert mem with mem | rfl
  · exact lines t' mem
  · exact new

theorem Checkable.putBreakpoint (h : b.Checkable) {bp : Breakpoint}
    (new : bp.installation.Checkable) : (b.putBreakpoint bp).Checkable := by
  refine checkable_insert h fun other mem => ?_
  rcases Table.mem_values_insert mem with mem | rfl
  · exact h.ofSource mem
  · exact new

theorem Checkable.dropBreakpoint (h : b.Checkable) (source : String) (line : UInt32) :
    (b.dropBreakpoint source line).Checkable :=
  checkable_insert h fun _ mem => h.ofSource (Table.mem_values_erase mem)

/-! ## Fields -/

theorem Checkable.putWatchpoint (h : b.Checkable) {wp : Watchpoint}
    (new : wp.installation.Checkable) : (b.putWatchpoint wp).Checkable := by
  obtain ⟨lines, fields, leaving⟩ := checkable_iff.1 h
  refine checkable_iff.2 ⟨lines, fun other mem => ?_, leaving⟩
  rcases Table.mem_values_insert mem with mem | rfl
  · exact fields other mem
  · exact new

theorem Checkable.dropWatchpoint (h : b.Checkable) (key : String × String) :
    (b.dropWatchpoint key).Checkable := by
  obtain ⟨lines, fields, leaving⟩ := checkable_iff.1 h
  exact checkable_iff.2 ⟨lines, fun wp mem => fields wp (Table.mem_values_erase mem), leaving⟩

/-! ## All together -/

theorem Checkable.giveUpLines (h : b.Checkable) : b.giveUpLines.2.Checkable := by
  obtain ⟨-, fields, leaving⟩ := checkable_iff.1 h
  refine checkable_iff.2 ⟨fun _ mem => absurd mem List.not_mem_nil, fields,
    List.forall_mem_append.2 ⟨leaving, fun i mem => ?_⟩⟩
  obtain ⟨source, -, mem⟩ := List.mem_flatMap.1 mem
  obtain ⟨line, -, mapped⟩ := List.mem_filterMap.1 mem
  obtain ⟨bp, found, rfl⟩ := Option.map_eq_some_iff.1 mapped
  exact h.breakpoint? found

theorem Checkable.giveUpFields (h : b.Checkable) : b.giveUpFields.2.Checkable := by
  obtain ⟨lines, fields, leaving⟩ := checkable_iff.1 h
  refine checkable_iff.2 ⟨lines, fun _ mem => absurd mem List.not_mem_nil,
    List.forall_mem_append.2 ⟨leaving, fun i mem => ?_⟩⟩
  obtain ⟨wp, there, rfl⟩ := List.mem_map.1 mem
  exact fields wp there

theorem Checkable.forget (h : b.Checkable) (i : Installed) : (b.forget i).Checkable := by
  obtain ⟨lines, fields, leaving⟩ := checkable_iff.1 h
  exact checkable_iff.2 ⟨lines, fields, fun j mem => leaving j (List.mem_filter.1 mem).1⟩

private theorem hit_options (i : Installed) :
    i.hit.2.installation.options = i.installation.options := by
  cases i <;> rfl

/-- What is counted changes no options. -/
theorem Checkable.hit (h : b.Checkable) {i : Installed} (there : i.installation.Checkable) :
    (b.hit i).2.Checkable := by
  have counted : i.hit.2.installation.Checkable := there.congr (hit_options i)
  show (b.put i.hit.2).Checkable
  unfold Breakpoints.put
  split
  · obtain ⟨lines, fields, leaving⟩ := checkable_iff.1 h
    refine checkable_iff.2 ⟨lines, fields, fun j mem => ?_⟩
    obtain ⟨j', there, rfl⟩ := List.mem_map.1 mem
    split
    · exact counted
    · exact leaving j' there
  · split
    · rename_i same
      rw [same] at counted
      exact h.putBreakpoint counted
    · rename_i same
      rw [same] at counted
      exact h.putWatchpoint counted

theorem Checkable.installed (h : b.Checkable) {request : RequestId} {i : Installed}
    (found : b.installed? request = some i) : i.installation.Checkable := by
  obtain ⟨o, -, kept⟩ := Option.bind_eq_some_iff.1 found
  have left : ∀ id : UInt32, b.leaving.find? (fun j => j.id = id) = some i →
      i.installation.Checkable := fun id found =>
    (checkable_iff.1 h).2.2 i (List.mem_of_find?_eq_some found)
  cases o with
  | breakpoint source line id =>
    rcases (Option.orElse_eq_some _ _ _).1 kept with here | ⟨-, found⟩
    · obtain ⟨mapped, -⟩ := Option.filter_eq_some_iff.1 here
      obtain ⟨bp, there, rfl⟩ := Option.map_eq_some_iff.1 mapped
      exact h.breakpoint? there
    · exact left id found
  | watchpoint className fieldName id =>
    rcases (Option.orElse_eq_some _ _ _).1 kept with here | ⟨-, found⟩
    · obtain ⟨mapped, -⟩ := Option.filter_eq_some_iff.1 here
      obtain ⟨wp, there, rfl⟩ := Option.map_eq_some_iff.1 mapped
      exact h.watchpoint? there
    · exact left id found

end Breakpoints
end DebugSession
