import DebugSession.Breakpoint.Basic
import DebugSession.Proofs.Tables
import Mathlib.Logic.Function.Basic
/-!
Breakpoints on the lines of a source. Each is kept on its own line of its own source, whatever is
put, dropped or hit; and of several entries for one line only the first counts.
-/

namespace DebugSession

/-! ## Entries -/

namespace BreakpointSpec

/-- The first entry for each line, in order. -/
def leading : List BreakpointSpec → List BreakpointSpec
  | [] => []
  | spec :: rest => spec :: (leading rest).filter fun other => other.line ≠ spec.line

theorem mem_of_leading {specs : List BreakpointSpec} {spec : BreakpointSpec}
    (h : spec ∈ leading specs) : spec ∈ specs := by
  induction specs with
  | nil => exact h
  | cons first rest ih =>
    rcases List.mem_cons.1 h with rfl | later
    · exact List.mem_cons_self
    · exact List.mem_cons_of_mem _ (ih (List.mem_filter.1 later).1)

theorem exists_leading {specs : List BreakpointSpec} {line : UInt32}
    (h : line ∈ specs.map BreakpointSpec.line) : ∃ spec ∈ leading specs, spec.line = line := by
  induction specs with
  | nil => cases h
  | cons first rest ih =>
    by_cases here : first.line = line
    · exact ⟨first, List.mem_cons_self, here⟩
    · have later : line ∈ rest.map BreakpointSpec.line := by simpa [Ne.symm here] using h
      obtain ⟨spec, mem, rfl⟩ := ih later
      exact ⟨spec, List.mem_cons_of_mem _ (List.mem_filter.2 ⟨mem, by simpa using Ne.symm here⟩),
        rfl⟩

theorem find_leading {specs : List BreakpointSpec} {spec : BreakpointSpec}
    (h : spec ∈ leading specs) : specs.find? (fun other => other.line = spec.line) = some spec := by
  induction specs with
  | nil => cases h
  | cons first rest ih =>
    rcases List.mem_cons.1 h with rfl | later
    · simp
    · obtain ⟨leads, away⟩ := List.mem_filter.1 later
      have away : spec.line ≠ first.line := by simpa using away
      rw [List.find?_cons_of_neg (by simpa using away.symm)]
      exact ih leads

end BreakpointSpec

/-! ## Numbers -/

theorem toNat_numberAfter {count : Nat} (room : count + 1 < UInt32.size) :
    (numberAfter count).toNat = count + 1 := by
  rw [numberAfter, UInt32.toNat_ofNat']
  exact Nat.mod_eq_of_lt room

/-- Until they are used up, numbers that are given later are larger. -/
theorem numberAfter_lt {count later : Nat} (h : count < later) (room : later + 1 < UInt32.size) :
    numberAfter count < numberAfter later := by
  rw [UInt32.lt_iff_toNat_lt, toNat_numberAfter room, toNat_numberAfter (by omega)]
  omega

namespace Breakpoints

variable {b b' : Breakpoints}

/-! ## Places -/

theorem ofSource_insert (b : Breakpoints) (source source' : String) (t : Table UInt32 Breakpoint) :
    ofSource { b with sources := b.sources.insert source t } source' =
      if source' = source then t else b.ofSource source' := by
  simp only [ofSource, Table.get?_insert]
  split <;> rfl

theorem breakpoint?_put (b : Breakpoints) (bp : Breakpoint) :
    (b.putBreakpoint bp).breakpoint? bp.source =
      Function.update (b.breakpoint? bp.source) bp.line (some bp) := by
  funext line
  rw [Function.update_apply, breakpoint?, putBreakpoint, ofSource_insert, if_pos rfl,
    Table.get?_insert]
  rfl

theorem breakpoint?_drop (b : Breakpoints) (source : String) (line : UInt32) :
    (b.dropBreakpoint source line).breakpoint? source =
      Function.update (b.breakpoint? source) line none := by
  funext line'
  rw [Function.update_apply, breakpoint?, dropBreakpoint, ofSource_insert, if_pos rfl,
    Table.get?_erase]
  rfl

/-- A breakpoint is kept on its line of its source, and no line twice. -/
structure Filed (b : Breakpoints) : Prop where
  keyed : ∀ source line bp, b.breakpoint? source line = some bp →
    bp.source = source ∧ bp.line = line
  distinct : ∀ source, (b.ofSource source).keys.Nodup

theorem Filed.congr (h : b.Filed) (same : b'.sources = b.sources) : b'.Filed := by
  constructor
  · simp only [breakpoint?, ofSource, same]
    exact h.keyed
  · simp only [ofSource, same]
    exact h.distinct

theorem Filed.empty (h : b.sources = {}) : b.Filed := by
  constructor
  · intro source line bp found
    simp [breakpoint?, ofSource, h, Table.get?] at found
  · intro source
    simp [ofSource, h, Table.get?, Table.keys]

private theorem filed_insert (h : b.Filed) {source : String} {t : Table UInt32 Breakpoint}
    (keyed : ∀ line bp, t.get? line = some bp → bp.source = source ∧ bp.line = line)
    (distinct : t.keys.Nodup) : Filed { b with sources := b.sources.insert source t } := by
  constructor
  · intro source' line bp found
    rw [breakpoint?, ofSource_insert] at found
    split at found
    · rename_i same
      exact same ▸ keyed line bp found
    · exact h.keyed source' line bp found
  · intro source'
    rw [ofSource_insert]
    split
    · exact distinct
    · exact h.distinct source'

theorem Filed.put (h : b.Filed) (bp : Breakpoint) : (b.putBreakpoint bp).Filed := by
  refine filed_insert h ?_ (Table.nodup_insert (h.distinct _) _ _)
  intro line other found
  rw [Table.get?_insert] at found
  split at found
  · obtain rfl := Option.some.inj found
    exact ⟨rfl, by simp [*]⟩
  · exact h.keyed _ _ _ found

theorem Filed.drop (h : b.Filed) (source : String) (line : UInt32) :
    (b.dropBreakpoint source line).Filed := by
  refine filed_insert h ?_ (Table.nodup_erase (h.distinct _) _)
  intro line' bp found
  rw [Table.get?_erase] at found
  split at found
  · cases found
  · exact h.keyed _ _ _ found

theorem Filed.hit (h : b.Filed) (i : Installed) : (b.hit i).2.Filed := by
  simp only [Breakpoints.hit, Breakpoints.put]
  split
  · exact h.congr rfl
  · split
    · exact h.put _
    · exact h.congr rfl

theorem mem_lines {source : String} {line : UInt32} :
    line ∈ b.lines source ↔ (b.breakpoint? source line).isSome = true := by
  rw [breakpoint?, Table.isSome_get?, lines, Table.keys, Table.sortedBy,
    ((List.mergeSort_perm _ _).map _).mem_iff]

theorem Filed.nodup_lines (h : b.Filed) (source : String) : (b.lines source).Nodup :=
  ((List.mergeSort_perm _ _).map _).nodup_iff.2 (h.distinct source)

private theorem sorted_lines (b : Breakpoints) (source : String) :
    (b.lines source).Pairwise fun x y => x.toNat ≤ y.toNat := by
  rw [lines, List.pairwise_map]
  have sorted : ((b.ofSource source).sortedBy UInt32.toNat).Pairwise
      fun x y => decide (x.1.toNat ≤ y.1.toNat) = true :=
    List.pairwise_mergeSort (by simp; omega) (by simp; omega) _
  exact sorted.imp of_decide_eq_true

/-- Lines are listed in one order, whatever is kept on them. -/
theorem Filed.lines_congr (h : b.Filed) (h' : b'.Filed) {source : String}
    (same : ∀ line, (b'.breakpoint? source line).isSome = (b.breakpoint? source line).isSome) :
    b'.lines source = b.lines source := by
  have perm : (b'.lines source).Perm (b.lines source) :=
    (List.perm_ext_iff_of_nodup (h'.nodup_lines source) (h.nodup_lines source)).2
      fun line => by rw [mem_lines, mem_lines, same]
  exact perm.eq_of_pairwise (fun x y _ _ le le' => UInt32.toNat_inj.1 (Nat.le_antisymm le le'))
    (sorted_lines b' source) (sorted_lines b source)

end Breakpoints
end DebugSession
