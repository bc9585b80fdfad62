import DebugSession.Proofs.Maintenance
import DebugSession.Proofs.Rewatching
import Mathlib.Data.List.Pairwise
/-!
The answers to a request for data breakpoints. There is one for each entry, in order: entries that
name no field are told so, entries that ask for what is watched share one watchpoint, and all others
are refused, each under a number of its own.
-/

namespace DebugSession

namespace Text

variable {c : Char} {cs head rest : List Char}

/-- A text is cut at the first occurrence of a character. -/
theorem cut?_singleton : cut? [c] cs = some (head, rest) ↔ cs = head ++ c :: rest ∧ c ∉ head := by
  induction cs generalizing head with
  | nil => simp [cut?]
  | cons d cs ih =>
    by_cases here : d = c
    · subst here
      have cut : cut? [d] (d :: cs) = some ([], cs) := by simp [cut?, after?]
      rw [cut, Option.some.injEq, Prod.mk.injEq]
      constructor
      · rintro ⟨rfl, rfl⟩
        simp
      · rintro ⟨same, new⟩
        cases head with
        | nil => simpa using same
        | cons e head => simp_all
    · have cut : cut? [c] (d :: cs) = (cut? [c] cs).map fun parts => (d :: parts.1, parts.2) := by
        simp [cut?, after?, Ne.symm here]
      rw [cut, Option.map_eq_some_iff]
      constructor
      · rintro ⟨⟨head', rest'⟩, found, same⟩
        obtain ⟨rfl, rfl⟩ := Prod.mk.inj same
        obtain ⟨rfl, new⟩ := ih.1 found
        exact ⟨rfl, List.not_mem_cons_of_ne_of_not_mem (Ne.symm here) new⟩
      · rintro ⟨same, new⟩
        cases head with
        | nil => exact absurd (List.cons.inj same).1 here
        | cons e head' =>
          obtain ⟨rfl, rfl⟩ := List.cons.inj same
          exact ⟨(head', rest), ih.2 ⟨rfl, List.not_mem_of_not_mem_cons new⟩, rfl⟩

end Text

/-! ## Entries -/

namespace Protocol.DataBreakpoint

/-- What an entry names: the class in front of the first `#`, and the field behind it. -/
structure Names (b : DataBreakpoint) (className fieldName : String) : Prop where
  split : b.dataId.toList = className.toList ++ '#' :: fieldName.toList
  first : '#' ∉ className.toList
  classNamed : className ≠ ""
  fieldNamed : fieldName ≠ ""

/-- The access that an entry asks for; writes, if it asks for none that is known. -/
def access (b : DataBreakpoint) : AccessType := (b.accessType.bind AccessType.ofName?).getD .write

end Protocol.DataBreakpoint

theorem numberAfter_inj {count count' : Nat} (room : count + 1 < UInt32.size)
    (room' : count' + 1 < UInt32.size) (same : numberAfter count = numberAfter count') :
    count = count' := by
  have equal := congrArg UInt32.toNat same
  rw [toNat_numberAfter room, toNat_numberAfter room'] at equal
  omega

namespace WatchpointSpec

variable {b : Protocol.DataBreakpoint} {spec : WatchpointSpec}

theorem names_of_ofRequest? (h : ofRequest? b = some spec) :
    b.Names spec.className spec.fieldName ∧ spec.access = b.access := by
  obtain ⟨read, found, rfl⟩ := Option.map_eq_some_iff.1 h
  unfold ofDataId? at found
  split at found
  · cases found
  · rename_i className fieldName cut
    split at found
    · cases found
    · rename_i named
      obtain rfl := Option.some.inj found
      obtain ⟨split, first⟩ := Text.cut?_singleton.1 cut
      simp only [Bool.or_eq_true, List.isEmpty_iff, not_or] at named
      refine ⟨⟨?_, ?_, ?_, ?_⟩, rfl⟩
      · simpa using split
      · simpa using first
      · simpa using named.1
      · simpa using named.2

theorem exists_ofRequest? {className fieldName : String} (h : b.Names className fieldName) :
    ∃ spec, ofRequest? b = some spec ∧ spec.key = (className, fieldName) ∧
      spec.access = b.access := by
  have cut : Text.cut? ['#'] b.dataId.toList = some (className.toList, fieldName.toList) :=
    Text.cut?_singleton.2 ⟨h.split, h.first⟩
  have classNamed : className.toList.isEmpty = false := by simpa using h.classNamed
  have fieldNamed : fieldName.toList.isEmpty = false := by simpa using h.fieldNamed
  refine ⟨_, by simp [ofRequest?, ofDataId?, cut, classNamed, fieldNamed]; rfl, ?_, rfl⟩
  simp [key]

end WatchpointSpec

namespace Session

variable {V : Type} {s s' : Session V}

/-! ## Numbers behind the answers -/

section

variable {specs : List WatchpointSpec} {stale : List (String × String)}
  {es : List (WatchpointSpec × Supply)} {answers : List Watchpoint} {calls : List Call}

/-- No two entries are given one number. -/
private theorem Relisted.apart (h : Relisted specs stale es answers calls s s')
    {e e' : WatchpointSpec × Supply} (mem : e ∈ es) (mem' : e' ∈ es) (other : e ≠ e') {n : Nat}
    (given : e.2.number? = some n) : e'.2.number? ≠ some n := by
  let Apart (e e' : WatchpointSpec × Supply) : Prop :=
    ∀ n, e.2.number? = some n → e'.2.number? ≠ some n
  have symmetric : Std.Symm Apart := ⟨fun e e' apart n given given' => apart n given' given⟩
  have apart : es.Pairwise Apart := by
    refine h.ordered.imp fun less n given given' => ?_
    exact Nat.lt_irrefl n (less n given n given')
  exact apart.forall mem mem' other n given

/-- A refusal has the number that its entry was given. -/
private theorem Relisted.refusal (h : Relisted specs stale es answers calls s s')
    {e : WatchpointSpec × Supply} (mem : e ∈ es) (refused : e.2.obstacle?.isSome = true)
    {a : Watchpoint} (answer : (e.2.obstacle? <|> s'.breakpoints.watchpoint? e.1.key) = some a) :
    ∃ n, e.2.number? = some n ∧ s.breakpoints.issued ≤ n ∧ n < s'.breakpoints.issued ∧
      a.id = numberAfter n := by
  obtain ⟨w, -, told⟩ := h.suits e mem
  cases supply : e.2 with
  | refused number answer' =>
    rw [supply] at told answer
    obtain rfl : answer' = a := Option.some.inj answer
    have bounds := h.numbers e mem number (by rw [supply]; rfl)
    exact ⟨number, rfl, bounds.1, bounds.2, congrArg _ told.2⟩
  | created declared number =>
    rw [supply] at refused
    cases refused
  | shared =>
    rw [supply] at refused
    cases refused

/-- What answers an entry has a number that was given out. No refusal has the same one, unless the
entry itself is refused. -/
private theorem Relisted.number (h : Relisted specs stale es answers calls s s')
    (issued : s.breakpoints.issued ≤ s'.breakpoints.issued) (numbered : s.breakpoints.Numbered)
    {e : WatchpointSpec × Supply} (mem : e ∈ es) {a : Watchpoint}
    (answer : (e.2.obstacle? <|> s'.breakpoints.watchpoint? e.1.key) = some a) :
    ∃ count < s'.breakpoints.issued, a.id = numberAfter count ∧
      ∀ e' ∈ es, e'.2.obstacle?.isSome = true → e'.2.number? = some count →
        e.2.number? = some count := by
  by_cases refused : e.2.obstacle?.isSome = true
  · obtain ⟨n, given, -, bound, id⟩ := h.refusal mem refused answer
    exact ⟨n, bound, id, fun _ _ _ _ => given⟩
  · rw [Option.not_isSome_iff_eq_none.1 refused] at answer
    have stored : s'.breakpoints.watchpoint? e.1.key = some a := answer
    -- The watchpoint was there before, or an entry has created it.
    rcases h.origin _ a stored with kept | ⟨e', mem', same, declared, number, created⟩
    · obtain ⟨spec, old, keeper, same⟩ := stored_of_keptKeys kept
      obtain ⟨w', stored', continued⟩ := h.continued spec old keeper
      rw [same, stored] at stored'
      obtain rfl := Option.some.inj stored'
      obtain ⟨count, given, number⟩ := numbered _ old (mem_keepers keeper).2.1
      have id : a.id = old.id := by rw [continued.same]
      refine ⟨count, by omega, id.trans number, fun e' mem' _ same => ?_⟩
      have bound := (h.numbers e' mem' count same).1
      omega
    · obtain ⟨w', stored', made⟩ := h.suits e' mem'
      rw [same, stored] at stored'
      obtain rfl := Option.some.inj stored'
      rw [created] at made
      have given : e'.2.number? = some number := by rw [created]; rfl
      refine ⟨number, (h.numbers e' mem' number given).2, congrArg _ made.2.same,
        fun e₁ mem₁ refused same₁ => absurd same₁ (h.apart mem' mem₁ ?_ given)⟩
      rintro rfl
      rw [created] at refused
      cases refused

/-- Until numbers are used up, each refusal has one that nothing else has or ever had. -/
private theorem Relisted.fresh (h : Relisted specs stale es answers calls s s')
    (issued : s.breakpoints.issued ≤ s'.breakpoints.issued) (numbered : s.breakpoints.Numbered)
    (room : s'.breakpoints.issued < UInt32.size) :
    (es.zip answers).Pairwise (fun x y =>
      x.1.2.obstacle?.isSome = true ∨ y.1.2.obstacle?.isSome = true → x.2.id ≠ y.2.id) ∧
    ∀ x ∈ es.zip answers, x.1.2.obstacle?.isSome = true →
      ∀ count < s.breakpoints.issued, x.2.id ≠ numberAfter count := by
  obtain ⟨length, answered⟩ := List.forall₂_iff_zip.1 h.answers
  have listed : ∀ x ∈ es.zip answers, x.1 ∈ es := fun x mem => (List.of_mem_zip mem).1
  refine ⟨?_, fun x mem refused count given same => ?_⟩
  · have ordered : ((es.zip answers).map Prod.fst).Pairwise fun e e' =>
        ∀ n ∈ e.2.number?, ∀ n' ∈ e'.2.number?, n < n' := by
      rw [List.map_fst_zip (Nat.le_of_eq length)]
      exact h.ordered
    refine (List.pairwise_map.1 ordered).imp_of_mem fun {x y} mem mem' less refused same => ?_
    obtain ⟨count, bound, id, only⟩ := h.number issued numbered (listed x mem) (answered mem)
    obtain ⟨count', bound', id', only'⟩ := h.number issued numbered (listed y mem') (answered mem')
    obtain rfl : count = count' := numberAfter_inj (by omega) (by omega) (id ▸ id' ▸ same)
    rcases refused with refused | refused
    · obtain ⟨n, given, -, bound, id₁⟩ := h.refusal (listed x mem) refused (answered mem)
      obtain rfl : n = count := numberAfter_inj (by omega) (by omega) (id₁ ▸ id)
      exact Nat.lt_irrefl n (less n given n (only' _ (listed x mem) refused given))
    · obtain ⟨n, given, -, bound, id₁⟩ := h.refusal (listed y mem') refused (answered mem')
      obtain rfl : n = count := numberAfter_inj (by omega) (by omega) (id₁ ▸ id')
      exact Nat.lt_irrefl n (less n (only _ (listed y mem') refused given) n given)
  · obtain ⟨n, -, late, bound, id⟩ := h.refusal (listed x mem) refused (answered mem)
    have early : n = count := numberAfter_inj (by omega) (by omega) (id ▸ same)
    omega

/-- The field of an entry is watched, and for another access than the entry asks for. -/
def Contested (s' : Session V) (spec : WatchpointSpec) : Prop :=
  ∃ stored, s'.breakpoints.watchpoint? spec.key = some stored ∧ stored.access ≠ spec.access

/-- An entry is refused if its field is contested, and is answered by what is watched if not. -/
private theorem Relisted.answered (h : Relisted specs stale es answers calls s s')
    (keyed : s'.breakpoints.Keyed) {x : (WatchpointSpec × Supply) × Watchpoint}
    (mem : x ∈ es.zip answers) :
    x.2.key = x.1.1.key ∧ x.2.access = x.1.1.access ∧
      ((∃ stored, s'.breakpoints.watchpoint? x.1.1.key = some stored ∧
          stored.access = x.1.1.access ∧ x.2 = stored) ∨
        s'.Contested x.1.1 ∧ x.2.installation.verified = false ∧
          x.1.2.obstacle?.isSome = true) := by
  obtain ⟨⟨spec, supply⟩, a⟩ := x
  have answer : (supply.obstacle? <|> s'.breakpoints.watchpoint? spec.key) = some a :=
    (List.forall₂_iff_zip.1 h.answers).2 mem
  obtain ⟨w, stored, told⟩ := h.suits (spec, supply) (List.of_mem_zip mem).1
  dsimp only at stored told ⊢
  rw [stored] at answer
  have key := keyed _ _ stored
  cases supply with
  | shared =>
    obtain rfl : w = a := Option.some.inj answer
    exact ⟨key, told, .inl ⟨w, stored, told, rfl⟩⟩
  | created declared number =>
    obtain rfl : w = a := Option.some.inj answer
    have access : w.access = spec.access := by rw [told.2.same]; rfl
    exact ⟨key, access, .inl ⟨w, stored, access, rfl⟩⟩
  | refused number answer' =>
    obtain rfl : answer' = a := Option.some.inj answer
    obtain ⟨other, rfl⟩ := told
    exact ⟨rfl, rfl, .inr ⟨⟨w, stored, other⟩, rfl, rfl⟩⟩

private theorem Relisted.refused (h : Relisted specs stale es answers calls s s')
    (keyed : s'.breakpoints.Keyed) {x : (WatchpointSpec × Supply) × Watchpoint}
    (mem : x ∈ es.zip answers) (contested : s'.Contested x.1.1) :
    x.1.2.obstacle?.isSome = true := by
  obtain ⟨-, -, ⟨stored, there, access, -⟩ | ⟨-, -, refused⟩⟩ := h.answered keyed mem
  · obtain ⟨stored', there', other⟩ := contested
    obtain rfl := Option.some.inj (there.symm.trans there')
    exact absurd access other
  · exact refused

end

/-! ## Answers -/

/-- The field that an entry names is watched, and for another access than the entry asks for. -/
def Clashes (s' : Session V) (b : Protocol.DataBreakpoint) : Prop :=
  ∃ className fieldName stored, b.Names className fieldName ∧
    s'.breakpoints.watchpoint? (className, fieldName) = some stored ∧ stored.access ≠ b.access

private theorem contested_of_clashes {b : Protocol.DataBreakpoint} (clash : s'.Clashes b) :
    ∃ spec, WatchpointSpec.ofRequest? b = some spec ∧ s'.Contested spec := by
  obtain ⟨className, fieldName, stored, names, there, other⟩ := clash
  obtain ⟨spec, read, key, access⟩ := WatchpointSpec.exists_ofRequest? names
  exact ⟨spec, read, stored, key ▸ there, access ▸ other⟩

/-- What an entry is answered, by what is watched afterwards. -/
structure EntryAnswered (s' : Session V) (b : Protocol.DataBreakpoint) (a : Protocol.Breakpoint) :
    Prop where
  /-- An entry that names no field is told so, and no other. -/
  unnamed : a.id = none ∧ a.verified = false ↔ ¬ ∃ className fieldName, b.Names className fieldName
  /-- The others are shown a watchpoint on their field for the access they ask for: the one that is
  kept of the field if that is so watched, and one that is not verified if not. -/
  named : ∀ className fieldName, b.Names className fieldName → ∃ w stored : Watchpoint,
    a = w.describe ∧ w.className = className ∧ w.fieldName = fieldName ∧ w.access = b.access ∧
    s'.breakpoints.watchpoint? (className, fieldName) = some stored ∧
    (stored.access = b.access → w = stored) ∧
    (stored.access ≠ b.access → w.installation.verified = false)

/-- What a request for data breakpoints is answered. -/
structure Aligned (wanted : List Protocol.DataBreakpoint) (answers : List Protocol.Breakpoint)
    (s s' : Session V) : Prop where
  /-- There is one answer for each entry, in order. -/
  entries : List.Forall₂ (EntryAnswered s') wanted answers
  /-- Entries for one field that are verified show one watchpoint. -/
  sole : ∀ className fieldName, ∀ x ∈ wanted.zip answers, ∀ y ∈ wanted.zip answers,
    x.1.Names className fieldName → y.1.Names className fieldName →
    x.2.verified = true → y.2.verified = true → x.2 = y.2
  /-- Until numbers are used up, an entry that clashes with what is watched is given one that no
  other entry has, -/
  own : s'.breakpoints.issued < UInt32.size → (wanted.zip answers).Pairwise fun x y =>
    s'.Clashes x.1 ∨ s'.Clashes y.1 → x.2.id ≠ y.2.id
  /-- and that was never given before. -/
  fresh : s'.breakpoints.issued < UInt32.size → ∀ x ∈ wanted.zip answers, s'.Clashes x.1 →
    ∀ count < s.breakpoints.issued, x.2.id ≠ some (numberAfter count)

section

variable {wanted : List Protocol.DataBreakpoint} {found : List Watchpoint}

private theorem alignWatchpoints_unnamed {b : Protocol.DataBreakpoint}
    (unnamed : WatchpointSpec.ofRequest? b = none) (rest : List Protocol.DataBreakpoint)
    (found : List Watchpoint) : alignWatchpoints (b :: rest) found =
      invalidDataBreakpoint b :: alignWatchpoints rest found := by
  simp [alignWatchpoints, unnamed]

private theorem alignWatchpoints_named {b : Protocol.DataBreakpoint} {spec : WatchpointSpec}
    (named : WatchpointSpec.ofRequest? b = some spec) (rest : List Protocol.DataBreakpoint)
    (w : Watchpoint) (found : List Watchpoint) :
    alignWatchpoints (b :: rest) (w :: found) = w.describe :: alignWatchpoints rest found := by
  simp [alignWatchpoints, named]

/-- The answers to entries that name a field are what was found for them, in order, and the others
are told that they name none. -/
private theorem alignWatchpoints_settled
    (length : found.length = (wanted.filterMap WatchpointSpec.ofRequest?).length) :
    (alignWatchpoints wanted found).length = wanted.length ∧
    (∀ x ∈ wanted.zip (alignWatchpoints wanted found),
      WatchpointSpec.ofRequest? x.1 = none → x.2 = invalidDataBreakpoint x.1) ∧
    (wanted.zip (alignWatchpoints wanted found)).filterMap
        (fun x => (WatchpointSpec.ofRequest? x.1).map fun spec => (spec, x.2)) =
      ((wanted.filterMap WatchpointSpec.ofRequest?).zip found).map
        fun x => (x.1, x.2.describe) := by
  induction wanted generalizing found with
  | nil => simp [alignWatchpoints]
  | cons b rest ih =>
    cases named : WatchpointSpec.ofRequest? b with
    | none =>
      rw [List.filterMap_cons_none named] at length ⊢
      obtain ⟨same, unnamed, settled⟩ := ih length
      rw [alignWatchpoints_unnamed named, List.zip_cons_cons]
      refine ⟨by simp [same], List.forall_mem_cons.2 ⟨fun _ => rfl, unnamed⟩, ?_⟩
      rw [List.filterMap_cons_none (by simp [named]), settled]
    | some spec =>
      rw [List.filterMap_cons_some named] at length ⊢
      cases found with
      | nil => cases length
      | cons w found =>
        obtain ⟨same, unnamed, settled⟩ := ih (Nat.succ.inj length)
        rw [alignWatchpoints_named named, List.zip_cons_cons, List.zip_cons_cons]
        refine ⟨by simp [same], List.forall_mem_cons.2 ⟨fun none => ?_, unnamed⟩, ?_⟩
        · cases named.symm.trans none
        · rw [List.filterMap_cons_some (b := (spec, w.describe)) (by simp [named]), settled]
          rfl

end

section

variable {wanted : List Protocol.DataBreakpoint} {stale : List (String × String)}
  {es : List (WatchpointSpec × Supply)} {found : List Watchpoint} {calls : List Call}
  {x y : Protocol.DataBreakpoint × Protocol.Breakpoint}

private theorem Relisted.settled
    (h : Relisted (wanted.filterMap WatchpointSpec.ofRequest?) stale es found calls s s') :
    (alignWatchpoints wanted found).length = wanted.length ∧
    (∀ x ∈ wanted.zip (alignWatchpoints wanted found),
      WatchpointSpec.ofRequest? x.1 = none → x.2 = invalidDataBreakpoint x.1) ∧
    (wanted.zip (alignWatchpoints wanted found)).filterMap
        (fun x => (WatchpointSpec.ofRequest? x.1).map fun spec => (spec, x.2)) =
      (es.zip found).map fun y => (y.1.1, y.2.describe) := by
  have length := h.answers.length_eq
  rw [← List.length_map Prod.fst, h.entries] at length
  have settled := alignWatchpoints_settled length.symm
  rwa [← h.entries, List.zip_map_left, List.map_map] at settled

/-- An entry that names a field is answered by what was found for it. -/
private theorem Relisted.told
    (h : Relisted (wanted.filterMap WatchpointSpec.ofRequest?) stale es found calls s s')
    (mem : x ∈ wanted.zip (alignWatchpoints wanted found)) {spec : WatchpointSpec}
    (read : WatchpointSpec.ofRequest? x.1 = some spec) :
    ∃ y ∈ es.zip found, y.1.1 = spec ∧ x.2 = y.2.describe := by
  have listed : (spec, x.2) ∈ (es.zip found).map fun y => (y.1.1, y.2.describe) := by
    rw [← h.settled.2.2]
    exact List.mem_filterMap.2 ⟨x, mem, by simp [read]⟩
  obtain ⟨y, mem', same⟩ := List.mem_map.1 listed
  obtain ⟨rfl, shown⟩ := Prod.mk.inj same
  exact ⟨y, mem', rfl, shown.symm⟩

private theorem Relisted.entry
    (h : Relisted (wanted.filterMap WatchpointSpec.ofRequest?) stale es found calls s s')
    (keyed : s'.breakpoints.Keyed) (mem : x ∈ wanted.zip (alignWatchpoints wanted found)) :
    EntryAnswered s' x.1 x.2 := by
  cases read : WatchpointSpec.ofRequest? x.1 with
  | none =>
    have nameless : ∀ className fieldName, ¬ x.1.Names className fieldName := by
      intro className fieldName names
      obtain ⟨spec, read', -⟩ := WatchpointSpec.exists_ofRequest? names
      cases read.symm.trans read'
    rw [h.settled.2.1 x mem read]
    constructor
    · simp [nameless, invalidDataBreakpoint]
    · exact fun className fieldName names => absurd names (nameless className fieldName)
  | some spec =>
    obtain ⟨y, mem', rfl, shown⟩ := h.told mem read
    obtain ⟨key, access, answered⟩ := h.answered keyed mem'
    obtain ⟨names, asked⟩ := WatchpointSpec.names_of_ofRequest? read
    have access := access.trans asked
    rw [shown]
    constructor
    · have named : ∃ className fieldName, x.1.Names className fieldName := ⟨_, _, names⟩
      simp [Watchpoint.describe, named]
    · intro className fieldName names'
      obtain ⟨spec', read', same, -⟩ := WatchpointSpec.exists_ofRequest? names'
      obtain rfl := Option.some.inj (read.symm.trans read')
      obtain ⟨named, named'⟩ := Prod.mk.inj (key.trans same)
      rcases answered with ⟨stored, there, -, rfl⟩ | ⟨⟨stored, there, other⟩, refused, -⟩
      · rw [same] at there
        exact ⟨y.2, y.2, rfl, named, named', access, there, fun _ => rfl,
          fun other => absurd access other⟩
      · rw [same] at there
        rw [asked] at other
        exact ⟨y.2, stored, rfl, named, named', access, there, fun same => absurd same other,
          fun _ => refused⟩

/-- What is verified is what is kept of its field. -/
private theorem EntryAnswered.verified {className fieldName : String} (h : EntryAnswered s' x.1 x.2)
    (names : x.1.Names className fieldName) (verified : x.2.verified = true) :
    ∃ stored, s'.breakpoints.watchpoint? (className, fieldName) = some stored ∧
      x.2 = stored.describe := by
  obtain ⟨w, stored, shown, -, -, -, there, shares, refused⟩ := h.named className fieldName names
  refine ⟨stored, there, ?_⟩
  by_cases access : stored.access = x.1.access
  · rw [shown, shares access]
  · rw [shown] at verified
    exact absurd verified (by simp [Watchpoint.describe, refused access])

/-- Only what names a field has a number. -/
private theorem Relisted.named
    (h : Relisted (wanted.filterMap WatchpointSpec.ofRequest?) stale es found calls s s')
    (mem : x ∈ wanted.zip (alignWatchpoints wanted found)) :
    x.2.id.isSome = true ↔ ∃ spec, WatchpointSpec.ofRequest? x.1 = some spec := by
  cases read : WatchpointSpec.ofRequest? x.1 with
  | none => simp [h.settled.2.1 x mem read, invalidDataBreakpoint]
  | some spec =>
    obtain ⟨y, -, -, shown⟩ := h.told mem read
    simp [shown, Watchpoint.describe]

private theorem Relisted.own
    (h : Relisted (wanted.filterMap WatchpointSpec.ofRequest?) stale es found calls s s')
    (keyed : s'.breakpoints.Keyed) (issued : s.breakpoints.issued ≤ s'.breakpoints.issued)
    (numbered : s.breakpoints.Numbered) (room : s'.breakpoints.issued < UInt32.size) :
    (wanted.zip (alignWatchpoints wanted found)).Pairwise fun x y =>
      s'.Clashes x.1 ∨ s'.Clashes y.1 → x.2.id ≠ y.2.id := by
  have apart : ((es.zip found).map fun y => (y.1.1, y.2.describe)).Pairwise fun p q =>
      s'.Contested p.1 ∨ s'.Contested q.1 → p.2.id ≠ q.2.id := by
    refine List.pairwise_map.2 ((h.fresh issued numbered room).1.imp_of_mem ?_)
    intro x y mem mem' apart contested equal
    exact apart (contested.imp (h.refused keyed mem) (h.refused keyed mem'))
      (Option.some.inj equal)
  rw [← h.settled.2.2] at apart
  refine (List.pairwise_filterMap.1 apart).imp_of_mem ?_
  intro x y mem mem' apart clash equal
  have shares : x.2.id.isSome = y.2.id.isSome := congrArg Option.isSome equal
  rcases clash with clash | clash
  · obtain ⟨spec, read, contested⟩ := contested_of_clashes clash
    obtain ⟨spec', read'⟩ := (h.named mem').1 (shares ▸ (h.named mem).2 ⟨spec, read⟩)
    exact apart (spec, x.2) (by simp [read]) (spec', y.2) (by simp [read']) (.inl contested) equal
  · obtain ⟨spec', read', contested⟩ := contested_of_clashes clash
    obtain ⟨spec, read⟩ := (h.named mem).1 (shares ▸ (h.named mem').2 ⟨spec', read'⟩)
    exact apart (spec, x.2) (by simp [read]) (spec', y.2) (by simp [read']) (.inr contested) equal

private theorem Relisted.aligned
    (h : Relisted (wanted.filterMap WatchpointSpec.ofRequest?) stale es found calls s s')
    (keyed : s'.breakpoints.Keyed) (issued : s.breakpoints.issued ≤ s'.breakpoints.issued)
    (numbered : s.breakpoints.Numbered) :
    Aligned wanted (alignWatchpoints wanted found) s s' where
  entries := List.forall₂_iff_zip.2 ⟨h.settled.1.symm, fun mem => h.entry keyed mem⟩
  sole className fieldName x mem y mem' names names' verified verified' := by
    obtain ⟨stored, there, shown⟩ := (h.entry keyed mem).verified names verified
    obtain ⟨stored', there', shown'⟩ := (h.entry keyed mem').verified names' verified'
    obtain rfl := Option.some.inj (there.symm.trans there')
    rw [shown, shown']
  own := h.own keyed issued numbered
  fresh room x mem clash count given equal := by
    obtain ⟨spec, read, contested⟩ := contested_of_clashes clash
    obtain ⟨y, mem', rfl, shown⟩ := h.told mem read
    rw [shown] at equal
    exact (h.fresh issued numbered room).2 y mem' (h.refused keyed mem' contested) count given
      (Option.some.inj equal)

end

variable [Machine V] [Ledger V]

/-- A request for data breakpoints fails if the debuggee is lost, and is otherwise answered entry by
entry. -/
theorem requestWatchpoints_aligned (h : Maintained s) (wanted : List Protocol.DataBreakpoint) :
    Settles (requestWatchpoints wanted) s fun r s' => ∃ xs, s'.calls = s.calls ++ xs ∧
      match r with
      | .ok answers => Aligned wanted answers s s'
      | .error e => e = .vmTerminated ∧ ∃ x ∈ xs, x.IsLost := by
  have booked := h.booked
  unfold requestWatchpoints
  rw [settles_bind]
  refine Settles.mono (Task.Ends.and (setWatchpoints_settles _ booked)
    (setWatchpoints_tends _ booked.watchpoint_keyed booked.books.distinct)) ?_
  rintro r s' ⟨booked', tends⟩
  cases r with
  | error e =>
    obtain ⟨xs, tended, terminated, lost⟩ := tends
    exact ⟨xs, tended.calls, terminated, lost⟩
  | ok found =>
    obtain ⟨xs, tended, stale, es, relisted⟩ := tends
    exact ⟨xs, tended.calls, relisted.aligned booked'.watchpoint_keyed tended.issued h.numbered⟩

/-- A list of what a client wants that has entries without a field between the others. -/
def mixedEntries : List Protocol.DataBreakpoint :=
  [{ dataId := "A" }, { dataId := "A#f", accessType := some "write" },
    { dataId := "A#f", accessType := some "read" }, { dataId := "#f" },
    { dataId := "A#f", accessType := some "read" }, { dataId := "B#g" }, { dataId := "A#f" }]

/-- The field stays watched for the access that was asked for before, and the entries that name no
field leave the answers to the others where they belong. -/
theorem aligned_among_entries_without_field :
    let s := oneLoaded.afterOperation (.setFields [⟨"A", "f", .read, none, none⟩])
    let done := (requestWatchpoints mixedEntries).run.run advance s
    (done.1.toOption.map fun answers => answers.map fun b => (b.id, b.verified)) =
        some [(none, false), (some 2, false), (some 1, true), (none, false), (some 1, true),
          (some 3, false), (some 4, false)] ∧
      ∃ xs, done.2.calls = s.calls ++ xs ∧
        match done.1 with
        | .ok answers => Aligned mixedEntries answers s done.2
        | .error e => e = .vmTerminated ∧ ∃ x ∈ xs, x.IsLost := by
  have began : Maintained oneLoaded :=
    .start _ {} {} (by intro r request found; cases found) fun _ => rfl
  have aligned := requestWatchpoints_aligned (began.operation
    (.setFields [⟨"A", "f", .read, none, none⟩])) mixedEntries
  unfold Settles Task.Ends at aligned
  exact ⟨by decide +kernel, aligned⟩

end Session

end DebugSession
