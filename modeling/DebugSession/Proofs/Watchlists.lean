import DebugSession.Proofs.Tending
/-!
The watched fields after a request for watchpoints, whichever calls fail. Entries that ask for the
access for which their field is watched keep what is there, the rest of what is there goes, and each
of the other entries is given a number of its own: for a new watchpoint or for a refusal.
-/

namespace DebugSession

namespace Session

/-- The entries that keep what is watched of their fields, in order, each with what it keeps. -/
def keepers (there : String × String → Option Watchpoint) :
    List WatchpointSpec → List (WatchpointSpec × Watchpoint)
  | [] => []
  | spec :: rest =>
    match there spec.key with
    | none => keepers there rest
    | some w =>
      if w.access = spec.access then
        (spec, w) :: keepers (Function.update there spec.key none) rest
      else keepers there rest

/-- The fields of which something is kept. -/
def keptKeys (there : String × String → Option Watchpoint) (specs : List WatchpointSpec) :
    List (String × String) :=
  (keepers there specs).map fun p => p.1.key

section

variable {there : String × String → Option Watchpoint} {spec : WatchpointSpec}
  {rest specs : List WatchpointSpec}

theorem keepers_cons_of_keeps {w : Watchpoint} (stored : there spec.key = some w)
    (access : w.access = spec.access) :
    keepers there (spec :: rest) =
      (spec, w) :: keepers (Function.update there spec.key none) rest := by
  simp only [keepers, stored, if_pos access]

theorem keepers_cons_of_skips
    (nothing : ∀ w, there spec.key = some w → w.access ≠ spec.access) :
    keepers there (spec :: rest) = keepers there rest := by
  rw [keepers]
  cases stored : there spec.key with
  | none => rfl
  | some w => exact if_neg (nothing w stored)

theorem mem_keepers {p : WatchpointSpec × Watchpoint} (mem : p ∈ keepers there specs) :
    p.1 ∈ specs ∧ there p.1.key = some p.2 ∧ p.2.access = p.1.access := by
  induction specs generalizing there with
  | nil => cases mem
  | cons spec rest ih =>
    by_cases keeps : ∃ w, there spec.key = some w ∧ w.access = spec.access
    · obtain ⟨w, stored, access⟩ := keeps
      rw [keepers_cons_of_keeps stored access] at mem
      rcases List.mem_cons.1 mem with rfl | later
      · exact ⟨List.mem_cons_self, stored, access⟩
      · obtain ⟨listed, found, access'⟩ := ih later
        rw [Function.update_apply] at found
        split at found
        · cases found
        · exact ⟨List.mem_cons_of_mem _ listed, found, access'⟩
    · rw [keepers_cons_of_skips (by simpa using keeps)] at mem
      obtain ⟨listed, kept⟩ := ih mem
      exact ⟨List.mem_cons_of_mem _ listed, kept⟩

theorem stored_of_keptKeys {key : String × String} (mem : key ∈ keptKeys there specs) :
    ∃ spec w, (spec, w) ∈ keepers there specs ∧ spec.key = key := by
  obtain ⟨⟨spec, w⟩, kept, same⟩ := List.mem_map.1 mem
  exact ⟨spec, w, kept, same⟩

theorem nodup_keptKeys (there : String × String → Option Watchpoint)
    (specs : List WatchpointSpec) : (keptKeys there specs).Nodup := by
  induction specs generalizing there with
  | nil => exact List.nodup_nil
  | cons spec rest ih =>
    by_cases keeps : ∃ w, there spec.key = some w ∧ w.access = spec.access
    · obtain ⟨w, stored, access⟩ := keeps
      rw [keptKeys, keepers_cons_of_keeps stored access, List.map_cons]
      refine List.nodup_cons.2 ⟨fun again => ?_, ih _⟩
      obtain ⟨other, w', kept, same⟩ := stored_of_keptKeys again
      have found := (mem_keepers kept).2.1
      rw [same, Function.update_self] at found
      cases found
    · rw [keptKeys, keepers_cons_of_skips (by simpa using keeps)]
      exact ih there

/-- Of a field is kept what some entry asks for with the access for which it is watched. -/
theorem mem_keptKeys {key : String × String} : key ∈ keptKeys there specs ↔
    ∃ w, there key = some w ∧ ∃ spec ∈ specs, spec.key = key ∧ spec.access = w.access := by
  constructor
  · intro mem
    obtain ⟨spec, w, kept, rfl⟩ := stored_of_keptKeys mem
    obtain ⟨listed, stored, access⟩ := mem_keepers kept
    exact ⟨w, stored, spec, listed, rfl, access.symm⟩
  · rintro ⟨w, stored, spec, listed, rfl, access⟩
    -- An entry before this one may keep the field, which then is kept already.
    induction specs generalizing there with
    | nil => cases listed
    | cons first rest ih =>
      by_cases keeps : ∃ w, there first.key = some w ∧ w.access = first.access
      · obtain ⟨w', stored', access'⟩ := keeps
        rw [keptKeys, keepers_cons_of_keeps stored' access', List.map_cons, List.mem_cons]
        by_cases here : spec.key = first.key
        · exact .inl here
        · refine .inr (ih ?_ ?_)
          · rcases List.mem_cons.1 listed with rfl | later
            · exact absurd rfl here
            · exact later
          · rw [Function.update_of_ne here, stored]
      · rw [keptKeys, keepers_cons_of_skips (by simpa using keeps)]
        refine ih ?_ stored
        rcases List.mem_cons.1 listed with rfl | later
        · exact absurd ⟨w, stored, access.symm⟩ keeps
        · exact later

end

variable {V : Type} {s s₁ s' : Session V}

/-! ## What stays -/

/-- Entries have been gone through. The first one that keeps what is watched of a field revises it,
and all else is left alone. -/
structure Revisited (there : String × String → Option Watchpoint) (specs : List WatchpointSpec)
    (kept kept' : List (String × String)) (s s' : Session V) : Prop where
  issued : s'.breakpoints.issued = s.breakpoints.issued
  kept : ∀ key, key ∈ kept' ↔ key ∈ kept ∨ key ∈ keptKeys there specs
  continued : ∀ spec w, (spec, w) ∈ keepers there specs →
    ∃ w', s'.breakpoints.watchpoint? spec.key = some w' ∧ w.Continued spec w'
  untouched : ∀ key, key ∉ keptKeys there specs →
    s'.breakpoints.watchpoint? key = s.breakpoints.watchpoint? key

section

variable {there : String × String → Option Watchpoint} {spec : WatchpointSpec}
  {rest : List WatchpointSpec} {kept kept' : List (String × String)}

private theorem Revisited.cons {w w' : Watchpoint} (stored : there spec.key = some w)
    (access : w.access = spec.access) (continued : w.Continued spec w')
    (fields : s₁.breakpoints.watchpoint? =
      Function.update s.breakpoints.watchpoint? spec.key (some w'))
    (issued : s₁.breakpoints.issued = s.breakpoints.issued)
    (h : Revisited (Function.update there spec.key none) rest (spec.key :: kept) kept' s₁ s') :
    Revisited there (spec :: rest) kept kept' s s' := by
  have keys : keptKeys there (spec :: rest) =
      spec.key :: keptKeys (Function.update there spec.key none) rest := by
    rw [keptKeys, keepers_cons_of_keeps stored access]
    rfl
  have away : spec.key ∉ keptKeys (Function.update there spec.key none) rest := by
    have distinct := nodup_keptKeys there (spec :: rest)
    rw [keys] at distinct
    exact (List.nodup_cons.1 distinct).1
  refine ⟨h.issued.trans issued, fun key => ?_, fun other v mem => ?_, fun key unkept => ?_⟩
  · rw [h.kept, keys, List.mem_cons, List.mem_cons]
    tauto
  · rw [keepers_cons_of_keeps stored access] at mem
    rcases List.mem_cons.1 mem with same | later
    · obtain ⟨rfl, rfl⟩ := Prod.mk.inj same
      exact ⟨w', by rw [h.untouched _ away, fields, Function.update_self], continued⟩
    · exact h.continued other v later
  · rw [keys] at unkept
    obtain ⟨other, unkept⟩ := not_or.1 (mt List.mem_cons.2 unkept)
    rw [h.untouched key unkept, fields, Function.update_of_ne other]

private theorem Revisited.skip {kept₁ : List (String × String)}
    (h : Revisited there rest kept₁ kept' s s') (same : ∀ key, key ∈ kept₁ ↔ key ∈ kept)
    (nothing : ∀ w, there spec.key = some w → w.access ≠ spec.access) :
    Revisited there (spec :: rest) kept kept' s s' := by
  have keepers_eq : keepers there (spec :: rest) = keepers there rest :=
    keepers_cons_of_skips nothing
  have keys : keptKeys there (spec :: rest) = keptKeys there rest := by
    rw [keptKeys, keepers_eq, keptKeys]
  refine ⟨h.issued, fun key => ?_, keepers_eq ▸ h.continued, keys ▸ h.untouched⟩
  rw [h.kept, same, keys]

private theorem unkept_congr {kept₁ : List (String × String)}
    (same : ∀ key, key ∈ kept₁ ↔ key ∈ kept) :
    unkept kept₁ s.breakpoints.watchpoint? = unkept kept s.breakpoints.watchpoint? := by
  funext key
  simp only [unkept, same]

/-- Once something is kept of a field, nothing else is. -/
private theorem unkept_update {key : String × String} {w : Watchpoint}
    (fields : s₁.breakpoints.watchpoint? =
      Function.update s.breakpoints.watchpoint? key (some w)) :
    Function.update (unkept kept s.breakpoints.watchpoint?) key none =
      unkept (key :: kept) s₁.breakpoints.watchpoint? := by
  funext other
  by_cases here : other = key
  · simp [here, unkept]
  · simp [here, unkept, fields]

end

/-- The calls for what is kept of some fields. -/
def rewatching (ks : List (WatchpointSpec × Watchpoint)) : List Call :=
  ks.flatMap fun p => p.2.revising p.1

variable [Machine V]

theorem reviseWatchpoints_tends (kept : List (String × String))
    (specs : List WatchpointSpec) {there : String × String → Option Watchpoint}
    (keyed : s.breakpoints.Keyed) (known : there = unkept kept s.breakpoints.watchpoint?) :
    Settles (reviseWatchpoints kept specs) s (Tends s fun kept' xs s' =>
      xs.map Exchange.call = rewatching (keepers there specs) ∧
        Revisited there specs kept kept' s s') := by
  -- `there` loses each field of which something is kept, so that the first entry counts.
  induction specs generalizing kept there s with
  | nil =>
    have none_kept : keptKeys there [] = [] := rfl
    refine tends_pure ⟨rfl, rfl, ?_, ?_, fun _ _ => rfl⟩
    · simp [none_kept]
    · simp [keepers]
  | cons spec rest ih =>
    have skips : ∀ kept₁, (∀ key, key ∈ kept₁ ↔ key ∈ kept) →
        (∀ w, there spec.key = some w → w.access ≠ spec.access) →
        Settles (reviseWatchpoints kept₁ rest) s (Tends s fun kept' xs s' =>
          xs.map Exchange.call = rewatching (keepers there (spec :: rest)) ∧
            Revisited there (spec :: rest) kept kept' s s') := by
      intro kept₁ same nothing
      refine tends_mono (ih kept₁ keyed (known.trans (unkept_congr same).symm)) ?_
      rintro kept' xs s' - ⟨planned, revisited⟩
      rw [keepers_cons_of_skips nothing]
      exact ⟨planned, revisited.skip same nothing⟩
    unfold reviseWatchpoints
    rw [settles_bind, settles_get]
    dsimp only
    split
    · rename_i w found
      split
      · rename_i access
        split
        · rename_i new
          have new : spec.key ∉ kept := by simpa using new
          have stored : there spec.key = some w := by rw [known, unkept, if_neg new, found]
          have keyed' := keyed _ _ found
          refine tends_bind (reviseWatchpoint_tends found keyed') ?_
          rintro _ xs s₁ - ⟨planned, issued, w', continued, fields⟩
          have known₁ : Function.update there spec.key none =
              unkept (spec.key :: kept) s₁.breakpoints.watchpoint? :=
            known ▸ unkept_update fields
          have same : w'.key = w.key := by rw [continued.same]; rfl
          refine tends_mono (ih _ (keyed.update (same.trans keyed') fields) known₁) ?_
          rintro kept' xs' s' - ⟨planned', revisited⟩
          refine ⟨?_, revisited.cons stored access continued fields issued⟩
          rw [List.map_append, planned, planned', keepers_cons_of_keeps stored access]
          rfl
        · rename_i seen
          have seen : spec.key ∈ kept := by simpa using seen
          refine skips _ (fun key => ?_) (by simp [known, unkept, seen])
          rw [List.mem_cons, or_iff_right_of_imp]
          rintro rfl
          exact seen
      · rename_i other
        refine skips kept (fun _ => Iff.rfl) fun w' there => ?_
        rw [known, unkept] at there
        split at there
        · cases there
        · rwa [← Option.some.inj (found.symm.trans there)]
    · rename_i vacant
      exact skips kept (fun _ => Iff.rfl) (by simp [known, unkept, vacant])

/-! ## What goes -/

/-- The calls that remove what is watched of some fields. -/
def unwatching (there : String × String → Option Watchpoint) (keys : List (String × String)) :
    List Call :=
  keys.flatMap fun key => (there key).elim [] fun w => w.installation.removing

private theorem removeFields_tends (keys : List (String × String)) (distinct : keys.Nodup)
    (s : Session V) :
    Task.Ends (removeFields keys) s fun _ s' => ∃ xs, Tended xs s s' ∧
      xs.map Exchange.call = unwatching s.breakpoints.watchpoint? keys ∧
      (∀ key, s'.breakpoints.watchpoint? key =
        if key ∈ keys then none else s.breakpoints.watchpoint? key) ∧
      s'.breakpoints.issued = s.breakpoints.issued := by
  induction keys generalizing s with
  | nil => exact ⟨[], tended_refl s, rfl, fun _ => rfl, rfl⟩
  | cons first rest ih =>
    obtain ⟨new, others⟩ := List.nodup_cons.1 distinct
    unfold removeFields
    rw [Task.ends_bind, Task.ends_get]
    dsimp only
    split
    · rename_i vacant
      apply (ih others s).mono
      rintro _ s' ⟨xs, tended, planned, left, issued⟩
      refine ⟨xs, tended, ?_, fun key => ?_, issued⟩
      · rw [planned, unwatching, unwatching, List.flatMap_cons, vacant]
        rfl
      · rw [left]
        by_cases same : key = first <;> simp [same, vacant]
    · rename_i w found
      simp only [Task.ends_bind, Task.ends_modify]
      apply (deleteRequests_tended w.installation.requests _).mono
      rintro _ s₁ ⟨xs, tended, deleted, owners, same⟩
      have fields : s₁.breakpoints.watchpoint? =
          Function.update s.breakpoints.watchpoint? first none := by
        rw [same]
        exact Breakpoints.watchpoint?_drop s.breakpoints first
      apply (ih others s₁).mono
      rintro _ s' ⟨xs', tended', planned, left, issued⟩
      refine ⟨xs ++ xs', (tended_drop s first).trans (tended.trans tended'), ?_, fun key => ?_, ?_⟩
      · have later : unwatching s₁.breakpoints.watchpoint? rest =
            unwatching s.breakpoints.watchpoint? rest := by
          apply List.flatMap_congr
          intro key mem
          have other : key ≠ first := by
            rintro rfl
            exact new mem
          rw [fields, Function.update_of_ne other]
        rw [List.map_append, deleted, planned, later, unwatching, unwatching, List.flatMap_cons,
          found]
        rfl
      · rw [left, fields, Function.update_apply]
        by_cases same : key = first <;> simp [same]
      · exact issued.trans (by rw [same]; rfl)

end Session

/-! ## What is new -/

/-- What an entry is given. -/
inductive Supply where
  /-- Its field is watched as it asks for. -/
  | shared
  | created (declared : Bool) (number : Nat)
  /-- Its field is watched for another access. -/
  | refused (number : Nat) (answer : Watchpoint)

namespace Supply

def obstacle? : Supply → Option Watchpoint
  | refused _ answer => some answer
  | _ => none

/-- How many numbers had been given out before, if it is given one. -/
def number? : Supply → Option Nat
  | shared => none
  | created _ number | refused number _ => some number

def calls (spec : WatchpointSpec) : Supply → List Call
  | created declared _ => spec.creating declared
  | _ => []

def IsCreated (supply : Supply) : Prop := ∃ declared number, supply = created declared number

/-- It is given a new watchpoint of a field that there is. -/
def isDeclared : Supply → Bool
  | created declared _ => declared
  | _ => false

theorem isCreated_of_isDeclared {supply : Supply} (h : supply.isDeclared = true) :
    supply.IsCreated := by
  cases supply with
  | created declared number => exact ⟨declared, number, rfl⟩
  | shared => cases h
  | refused number answer => cases h

end Supply

namespace Session

variable {V : Type} {s s₁ s' : Session V}

/-- An entry with what it is given between two states. -/
structure Suits (s s' : Session V) (spec : WatchpointSpec) (supply : Supply) : Prop where
  stored : ∃ w, s'.breakpoints.watchpoint? spec.key = some w ∧
    match supply with
    | .shared => w.access = spec.access
    | .created _ number =>
      s.breakpoints.watchpoint? spec.key = none ∧ w.Made spec (numberAfter number)
    | .refused number answer =>
      w.access ≠ spec.access ∧ answer = conflicting spec w (numberAfter number)

/-- Entries with what they are given. What is watched stays, and numbers are given in order. -/
structure Supplied (es : List (WatchpointSpec × Supply)) (s s' : Session V) : Prop where
  untouched : ∀ key w, s.breakpoints.watchpoint? key = some w →
    s'.breakpoints.watchpoint? key = some w
  suits : ∀ e ∈ es, Suits s s' e.1 e.2
  created : ∀ key w, s.breakpoints.watchpoint? key = none →
    s'.breakpoints.watchpoint? key = some w → ∃ e ∈ es, e.1.key = key ∧ e.2.IsCreated
  numbers : ∀ e ∈ es, ∀ n ∈ e.2.number?, s.breakpoints.issued ≤ n ∧ n < s'.breakpoints.issued
  ordered : es.Pairwise fun e e' => ∀ n ∈ e.2.number?, ∀ n' ∈ e'.2.number?, n < n'
  once : es.Pairwise fun e e' => e.2.IsCreated → e'.2.IsCreated → e.1.key ≠ e'.1.key

section

variable {spec : WatchpointSpec} {supply : Supply} {es : List (WatchpointSpec × Supply)}

private theorem Suits.before (h : Suits s₁ s' spec supply)
    (grows : ∀ key w, s.breakpoints.watchpoint? key = some w →
      s₁.breakpoints.watchpoint? key = some w) : Suits s s' spec supply := by
  obtain ⟨w, stored, told⟩ := h.stored
  refine ⟨w, stored, ?_⟩
  cases supply with
  | shared => exact told
  | refused number answer => exact told
  | created declared number =>
    refine ⟨?_, told.2⟩
    cases before : s.breakpoints.watchpoint? spec.key with
    | none => rfl
    | some v => cases (grows _ v before).symm.trans told.1

/-- One more entry. -/
private theorem Supplied.cons (h : Supplied es s₁ s')
    (grows : ∀ key w, s.breakpoints.watchpoint? key = some w →
      s₁.breakpoints.watchpoint? key = some w)
    (only : ∀ key, s.breakpoints.watchpoint? key = none →
      (s₁.breakpoints.watchpoint? key).isSome = true → spec.key = key ∧ supply.IsCreated)
    (there : supply.IsCreated → (s₁.breakpoints.watchpoint? spec.key).isSome = true)
    (number : ∀ n ∈ supply.number?, n = s.breakpoints.issued ∧ n < s₁.breakpoints.issued)
    (issued : s.breakpoints.issued ≤ s₁.breakpoints.issued)
    (later : s₁.breakpoints.issued ≤ s'.breakpoints.issued) (suits : Suits s s' spec supply) :
    Supplied ((spec, supply) :: es) s s' where
  untouched key w stored := h.untouched key w (grows key w stored)
  suits e mem := by
    rcases List.mem_cons.1 mem with rfl | mem
    · exact suits
    · exact (h.suits e mem).before grows
  created key w vacant stored := by
    cases found : s₁.breakpoints.watchpoint? key with
    | some v =>
      obtain ⟨same, created⟩ := only key vacant (by rw [found]; rfl)
      exact ⟨_, List.mem_cons_self, same, created⟩
    | none =>
      obtain ⟨e, mem, same, created⟩ := h.created key w found stored
      exact ⟨e, List.mem_cons_of_mem _ mem, same, created⟩
  numbers e mem n given := by
    rcases List.mem_cons.1 mem with rfl | mem
    · obtain ⟨same, bound⟩ := number n given
      omega
    · have bounds := h.numbers e mem n given
      omega
  ordered := by
    refine List.pairwise_cons.2 ⟨fun e mem n given n' given' => ?_, h.ordered⟩
    have first := number n given
    have bounds := h.numbers e mem n' given'
    omega
  once := by
    refine List.pairwise_cons.2 ⟨fun e mem created created' same => ?_, h.once⟩
    obtain ⟨declared, n, made⟩ := created'
    obtain ⟨w, -, told⟩ := (h.suits e mem).stored
    rw [made, ← same] at told
    have taken := there created
    rw [told.1] at taken
    cases taken

private theorem Supplied.shared {w : Watchpoint} (h : Supplied es s s')
    (found : s.breakpoints.watchpoint? spec.key = some w) (access : w.access = spec.access)
    (later : s.breakpoints.issued ≤ s'.breakpoints.issued) :
    Supplied ((spec, .shared) :: es) s s' := by
  refine h.cons (fun _ _ => id) (fun key vacant there => ?_) ?_ nofun (Nat.le_refl _) later
    ⟨w, h.untouched _ w found, access⟩
  · rw [vacant] at there
    cases there
  · rintro ⟨declared, n, made⟩
    cases made

private theorem Supplied.refused {w : Watchpoint} (h : Supplied es s₁ s')
    (same : s₁.breakpoints.watchpoint? = s.breakpoints.watchpoint?)
    (issued : s₁.breakpoints.issued = s.breakpoints.issued + 1)
    (found : s.breakpoints.watchpoint? spec.key = some w) (other : w.access ≠ spec.access)
    (later : s₁.breakpoints.issued ≤ s'.breakpoints.issued) :
    Supplied ((spec, .refused s.breakpoints.issued
      (conflicting spec w (numberAfter s.breakpoints.issued))) :: es) s s' := by
  refine h.cons (fun _ _ => same ▸ id) (fun key vacant there => ?_) ?_ ?_
    (Nat.le.intro issued.symm) later ⟨w, h.untouched _ w (same ▸ found), other, rfl⟩
  · rw [same, vacant] at there
    cases there
  · rintro ⟨declared, n, made⟩
    cases made
  · rintro n ⟨⟩
    exact ⟨rfl, issued ▸ Nat.lt_succ_self _⟩

private theorem Supplied.made {w : Watchpoint} (h : Supplied es s₁ s') (declared : Bool)
    (vacant : s.breakpoints.watchpoint? spec.key = none)
    (made : w.Made spec (numberAfter s.breakpoints.issued))
    (fields : s₁.breakpoints.watchpoint? =
      Function.update s.breakpoints.watchpoint? spec.key (some w))
    (issued : s₁.breakpoints.issued = s.breakpoints.issued + 1)
    (later : s₁.breakpoints.issued ≤ s'.breakpoints.issued) :
    Supplied ((spec, .created declared s.breakpoints.issued) :: es) s s' := by
  have there : s₁.breakpoints.watchpoint? spec.key = some w := by
    rw [fields, Function.update_self]
  refine h.cons (fun key v stored => ?_) (fun key none found => ?_) (fun _ => ?_) ?_
    (Nat.le.intro issued.symm) later ⟨w, h.untouched _ w there, vacant, made⟩
  · have away : key ≠ spec.key := by
      rintro rfl
      cases vacant.symm.trans stored
    rw [fields, Function.update_of_ne away, stored]
  · by_cases here : key = spec.key
    · exact ⟨here.symm, declared, _, rfl⟩
    · rw [fields, Function.update_of_ne here, none] at found
      cases found
  · rw [there]
    rfl
  · rintro n ⟨⟩
    exact ⟨rfl, issued ▸ Nat.lt_succ_self _⟩

/-- Entries with what they are given, the answers that are in their way and the calls. -/
private structure Fills (specs : List WatchpointSpec) (obstacles : List (Option Watchpoint))
    (calls : List Call) (es : List (WatchpointSpec × Supply)) (s s' : Session V) : Prop where
  listed : es.map Prod.fst = specs
  obstacles : es.map (fun e => e.2.obstacle?) = obstacles
  calls : calls = es.flatMap fun e => e.2.calls e.1
  supplied : Supplied es s s'

private theorem Fills.cons {specs : List WatchpointSpec} {obstacles : List (Option Watchpoint)}
    {calls : List Call} (h : Fills specs obstacles calls es s₁ s')
    (supplied : Supplied ((spec, supply) :: es) s s') :
    Fills (spec :: specs) (supply.obstacle? :: obstacles) (supply.calls spec ++ calls)
      ((spec, supply) :: es) s s' where
  listed := by rw [List.map_cons, h.listed]
  obstacles := by rw [List.map_cons, h.obstacles]
  calls := by rw [List.flatMap_cons, h.calls]
  supplied := supplied

variable [Machine V]

private theorem createMissingWatchpoints_tends (specs : List WatchpointSpec) (s : Session V) :
    Settles (createMissingWatchpoints specs) s (Tends s fun obstacles xs s' =>
      ∃ es, Fills specs obstacles (xs.map Exchange.call) es s s') := by
  induction specs generalizing s with
  | nil =>
    refine tends_pure ⟨[], rfl, rfl, rfl, fun _ _ => id, by simp, fun key w vacant stored => ?_,
      by simp, .nil, .nil⟩
    cases vacant.symm.trans stored
  | cons spec rest ih =>
    unfold createMissingWatchpoints
    rw [settles_bind, settles_get]
    dsimp only
    split
    · rename_i w found
      split
      · rename_i access
        refine tends_bind (ih s) ?_
        rintro obstacles xs s' tended ⟨es, fills⟩
        have shared : Supplied _ s s' := fills.supplied.shared found access tended.issued
        exact tends_pure ⟨_, (List.append_nil xs).symm ▸ fills.cons shared⟩
      · rename_i other
        unfold takeBreakpointId
        rw [settles_bind, settles_quietly, Task.ends_modifyGet]
        refine Settles.mono (Q := Tends (modifyBreakpoints (fun b => b.takeId.2) s) _) ?_
          fun _ _ tends =>
            tends.after (tended_beside (List.append_nil _).symm rfl rfl (Nat.le_succ _))
        refine tends_bind (ih _) ?_
        rintro obstacles xs s' tended ⟨es, fills⟩
        have refused : Supplied _ s s' :=
          fills.supplied.refused rfl rfl found other tended.issued
        exact tends_pure ⟨_, (List.append_nil xs).symm ▸ fills.cons refused⟩
    · rename_i vacant
      refine tends_bind (createWatchpoint_tends spec s) ?_
      rintro _ xs s₁ - ⟨⟨declared, created⟩, issued, w, made, fields⟩
      refine tends_bind (ih s₁) ?_
      rintro obstacles xs' s' tended' ⟨es, fills⟩
      have filled :=
        fills.cons (fills.supplied.made declared vacant made fields issued tended'.issued)
      have calls : (xs ++ (xs' ++ [])).map Exchange.call =
          spec.creating declared ++ xs'.map Exchange.call := by simp [created]
      exact tends_pure ⟨_, calls ▸ filled⟩

end

/-! ## All entries -/

/-- What a request for watchpoints comes to. `stale` are the fields that are not watched any more or
are watched anew, and `es` says what is given to each entry. -/
structure Relisted (specs : List WatchpointSpec) (stale : List (String × String))
    (es : List (WatchpointSpec × Supply)) (answers : List Watchpoint) (calls : List Call)
    (s s' : Session V) : Prop where
  entries : es.map Prod.fst = specs
  calls : calls = rewatching (keepers s.breakpoints.watchpoint? specs) ++
    (unwatching s.breakpoints.watchpoint? stale ++ es.flatMap fun e => e.2.calls e.1)
  distinct : stale.Nodup
  stale : ∀ key, key ∈ stale ↔ (s.breakpoints.watchpoint? key).isSome = true ∧
    key ∉ keptKeys s.breakpoints.watchpoint? specs
  continued : ∀ spec w, (spec, w) ∈ keepers s.breakpoints.watchpoint? specs →
    ∃ w', s'.breakpoints.watchpoint? spec.key = some w' ∧ w.Continued spec w'
  suits : ∀ e ∈ es, ∃ w, s'.breakpoints.watchpoint? e.1.key = some w ∧
    match e.2 with
    | .shared => w.access = e.1.access
    | .created _ number => e.1.key ∉ keptKeys s.breakpoints.watchpoint? specs ∧
      w.Made e.1 (numberAfter number)
    | .refused number answer =>
      w.access ≠ e.1.access ∧ answer = conflicting e.1 w (numberAfter number)
  origin : ∀ key w, s'.breakpoints.watchpoint? key = some w →
    key ∈ keptKeys s.breakpoints.watchpoint? specs ∨
      ∃ e ∈ es, e.1.key = key ∧ e.2.IsCreated
  numbers : ∀ e ∈ es, ∀ n ∈ e.2.number?, s.breakpoints.issued ≤ n ∧ n < s'.breakpoints.issued
  ordered : es.Pairwise fun e e' => ∀ n ∈ e.2.number?, ∀ n' ∈ e'.2.number?, n < n'
  once : es.Pairwise fun e e' => e.2.IsCreated → e'.2.IsCreated → e.1.key ≠ e'.1.key
  answers : List.Forall₂
    (fun e a => (e.2.obstacle? <|> s'.breakpoints.watchpoint? e.1.key) = some a) es answers

private theorem forall₂_filterMap {f : WatchpointSpec × Supply → Option Watchpoint}
    {es : List (WatchpointSpec × Supply)} (there : ∀ e ∈ es, (f e).isSome = true) :
    List.Forall₂ (fun e a => f e = some a) es (es.filterMap f) := by
  induction es with
  | nil => exact .nil
  | cons e rest ih =>
    obtain ⟨here, others⟩ := List.forall_mem_cons.1 there
    obtain ⟨w, found⟩ := Option.isSome_iff_exists.1 here
    rw [List.filterMap_cons_some found]
    exact .cons found (ih others)

/-- What is there once entries were gone through and `stale` was removed: what is kept, revised. -/
private structure Thinned (specs : List WatchpointSpec) (stale : List (String × String))
    (s s' : Session V) : Prop where
  stale : ∀ key, key ∈ stale ↔ (s.breakpoints.watchpoint? key).isSome = true ∧
    key ∉ keptKeys s.breakpoints.watchpoint? specs
  vacant : ∀ key, key ∉ keptKeys s.breakpoints.watchpoint? specs →
    s'.breakpoints.watchpoint? key = none
  continued : ∀ spec w, (spec, w) ∈ keepers s.breakpoints.watchpoint? specs →
    ∃ w', s'.breakpoints.watchpoint? spec.key = some w' ∧ w.Continued spec w'
  issued : s'.breakpoints.issued = s.breakpoints.issued

private theorem thinned {specs : List WatchpointSpec} {kept stale : List (String × String)}
    (revisited : Revisited s.breakpoints.watchpoint? specs [] kept s s₁)
    (gone : stale = s₁.breakpoints.watchpoints.keys.filter fun key => !kept.contains key)
    (left : ∀ key, s'.breakpoints.watchpoint? key =
      if key ∈ stale then none else s₁.breakpoints.watchpoint? key)
    (issued : s'.breakpoints.issued = s₁.breakpoints.issued) : Thinned specs stale s s' := by
  have staying : ∀ key, key ∈ kept ↔ key ∈ keptKeys s.breakpoints.watchpoint? specs := by
    intro key
    simpa using revisited.kept key
  have unchanged : ∀ key, key ∉ kept →
      s₁.breakpoints.watchpoint? key = s.breakpoints.watchpoint? key :=
    fun key gone => revisited.untouched key (mt (staying key).2 gone)
  have mem_stale : ∀ key, key ∈ stale ↔ (s.breakpoints.watchpoint? key).isSome = true ∧
      key ∉ keptKeys s.breakpoints.watchpoint? specs := by
    intro key
    have known : key ∈ s₁.breakpoints.watchpoints.keys ↔
        (s₁.breakpoints.watchpoint? key).isSome = true := Table.isSome_get?.symm
    rw [gone, List.mem_filter, known, ← staying]
    by_cases stays : key ∈ kept
    · simp [stays]
    · rw [unchanged key stays]
      simp [stays]
  refine ⟨mem_stale, fun key gone => ?_, fun spec w mem => ?_, issued.trans revisited.issued⟩
  · rw [left, ite_eq_left_iff, mem_stale, revisited.untouched key gone]
    simp [gone]
  · obtain ⟨w', there, revised⟩ := revisited.continued spec w mem
    have stays : spec.key ∈ keptKeys s.breakpoints.watchpoint? specs := List.mem_map_of_mem mem
    refine ⟨w', ?_, revised⟩
    rw [left, if_neg fun gone => ((mem_stale _).1 gone).2 stays, there]

private theorem Thinned.unwatching {specs : List WatchpointSpec}
    {kept stale : List (String × String)} {s₂ : Session V} (h : Thinned specs stale s s₂)
    (revisited : Revisited s.breakpoints.watchpoint? specs [] kept s s₁) :
    unwatching s₁.breakpoints.watchpoint? stale = unwatching s.breakpoints.watchpoint? stale := by
  apply List.flatMap_congr
  intro key mem
  rw [revisited.untouched key ((h.stale key).1 mem).2]

private theorem Thinned.relisted {specs : List WatchpointSpec} {stale : List (String × String)}
    {obstacles : List (Option Watchpoint)} {calls : List Call}
    {es : List (WatchpointSpec × Supply)} (h : Thinned specs stale s s₁) (distinct : stale.Nodup)
    (fills : Fills specs obstacles calls es s₁ s') :
    Relisted specs stale es
      ((List.zip specs obstacles).filterMap fun (spec, obstacle) =>
        obstacle <|> s'.breakpoints.watchpoint? spec.key)
      (rewatching (keepers s.breakpoints.watchpoint? specs) ++
        (Session.unwatching s.breakpoints.watchpoint? stale ++ calls)) s s' := by
  obtain ⟨listed, rfl, rfl, supplied⟩ := fills
  have there : ∀ e ∈ es, ((e.2.obstacle?) <|> s'.breakpoints.watchpoint? e.1.key).isSome = true := by
    intro e mem
    obtain ⟨w, found, -⟩ := (supplied.suits e mem).stored
    cases e.2.obstacle? <;> simp [found]
  refine ⟨listed, rfl, distinct, h.stale, ?_, fun e mem => ?_, fun key w found => ?_, ?_,
    supplied.ordered, supplied.once, ?_⟩
  · intro spec w mem
    obtain ⟨w', found, revised⟩ := h.continued spec w mem
    exact ⟨w', supplied.untouched _ w' found, revised⟩
  · obtain ⟨w, found, told⟩ := (supplied.suits e mem).stored
    refine ⟨w, found, ?_⟩
    cases supply : e.2 with
    | shared => rwa [supply] at told
    | refused number answer => rwa [supply] at told
    | created declared number =>
      rw [supply] at told
      refine ⟨fun stays => ?_, told.2⟩
      obtain ⟨spec, w', kept, same⟩ := stored_of_keptKeys stays
      obtain ⟨w', found, -⟩ := h.continued spec w' kept
      rw [same, told.1] at found
      cases found
  · by_cases stays : key ∈ keptKeys s.breakpoints.watchpoint? specs
    · exact .inl stays
    · exact .inr (supplied.created key w (h.vacant key stays) found)
  · intro e mem n given
    rw [← h.issued]
    exact supplied.numbers e mem n given
  · rw [← listed, List.zip_map', List.filterMap_map]
    exact forall₂_filterMap there

variable [Machine V]

private theorem reconcileFields_tends (specs : List WatchpointSpec)
    (keyed : s.breakpoints.Keyed) (distinct : s.breakpoints.watchpoints.keys.Nodup) :
    Settles (reconcileFields specs) s (Tends s fun answers xs s' =>
      ∃ stale es, Relisted specs stale es answers (xs.map Exchange.call) s s') := by
  have all : s.breakpoints.watchpoint? = unkept [] s.breakpoints.watchpoint? := by
    funext key
    simp [unkept]
  unfold reconcileFields
  refine tends_bind (reviseWatchpoints_tends [] specs keyed all) ?_
  rintro kept xs s₁ tended ⟨planned, revisited⟩
  have distinct₁ := tended.distinct distinct
  obtain ⟨stale, gone⟩ : ∃ stale, stale =
    s₁.breakpoints.watchpoints.keys.filter fun key => !kept.contains key := ⟨_, rfl⟩
  rw [settles_bind, settles_get]
  dsimp only
  rw [← gone]
  refine tends_bind (tends_quietly (removeFields_tends stale (gone ▸ distinct₁.filter _) s₁)) ?_
  rintro _ xs₁ s₂ - ⟨planned₁, left, issued⟩
  refine tends_bind (createMissingWatchpoints_tends specs s₂) ?_
  rintro obstacles xs₂ s₃ - ⟨es, fills⟩
  have thin := thinned revisited gone left issued
  rw [settles_bind, settles_get]
  refine tends_pure ⟨stale, es, ?_⟩
  rw [List.append_nil, List.map_append, List.map_append, planned, planned₁,
    thin.unwatching revisited]
  exact thin.relisted (gone ▸ distinct₁.filter _) fills

/-- A request for watchpoints deals with each entry as `Relisted` says, whichever calls fail. -/
theorem setWatchpoints_tends (specs : List WatchpointSpec)
    (keyed : s.breakpoints.Keyed) (distinct : s.breakpoints.watchpoints.keys.Nodup) :
    Settles (setWatchpoints specs) s (Tends s fun answers xs s' =>
      ∃ stale es, Relisted specs stale es answers (xs.map Exchange.call) s s') := by
  unfold setWatchpoints
  rw [settles_exclusively]
  have reconciled := reconcileFields_tends (s := { s with line := (s.line.join .fields).2 })
    specs keyed distinct
  apply reconciled.mono
  rintro r s' tends
  cases r with
  | error e =>
    obtain ⟨xs, tended, lost⟩ := tends
    exact ⟨xs, tended.in_line _, lost⟩
  | ok answers =>
    obtain ⟨xs, tended, stale, es, h⟩ := tends
    exact ⟨xs, tended.in_line _, stale, es, h.entries, h.calls, h.distinct, h.stale, h.continued,
      h.suits, h.origin, h.numbers, h.ordered, h.once, h.answers⟩

end Session
end DebugSession
