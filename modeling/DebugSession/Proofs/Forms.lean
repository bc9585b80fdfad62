import DebugSession.Proofs.Keys
import DebugSession.Protocol.Forms
/-!
Forms that come to rest: whatever one of them reads, it writes in a way that it reads again, as the
same value.
-/

namespace DebugSession

namespace Json

variable {α β ρ : Type}

theorem canonical_eq_null {j : Json} : j.canonical = .null ↔ j = .null := by
  cases j <;> simp [canonical]

/-- What such a form has read it reads again, as the form writes it, and as it was with the keys
sorted. -/
class Stable (α : Type) [Format α] : Prop where
  again : ∀ {j} {a : α}, Format.read j = .ok a → Format.read (write a) = .ok a
  sorted : ∀ {j} {a : α}, Format.read j = .ok a → Format.read j.canonical = .ok a
  /-- Null is written only for what was read from it. -/
  filled : ∀ {j} {a : α}, Format.read j = .ok a → j ≠ .null → write a ≠ .null

/-! ## Values without parts -/

/-- A form that reads every value as it writes it, and reads nothing that has keys. -/
class Plain (α : Type) [Format α] : Prop where
  whole : ∀ a : α, Format.read (write a) = .ok a
  keyless : ∀ {j} {a : α}, Format.read j = .ok a → j.canonical = j
  filled : ∀ a : α, write a ≠ .null

instance [Format α] [Plain α] : Stable α where
  again _ := Plain.whole _
  sorted read := (Plain.keyless read).symm ▸ read
  filled _ _ := Plain.filled _

instance : Plain Bool where
  whole _ := rfl
  keyless {j a} read := by cases j <;> first | rfl | cases read
  filled _ := nofun

instance : Plain String where
  whole _ := rfl
  keyless {j a} read := by cases j <;> first | rfl | cases read
  filled _ := nofun

private theorem readWhole_ofInt {kind : String} {lo hi n : Int} (low : lo ≤ n) (high : n ≤ hi) :
    readWhole kind lo hi (ofInt n) = .ok n := by
  simp [readWhole, ofInt, low, high]

/-- Only numbers are read as such. -/
private theorem keyless_of_map {kind : String} {lo hi : Int} {f : Int → α} {j : Json} {a : α}
    (read : (readWhole kind lo hi j).map f = .ok a) : j.canonical = j := by
  cases j <;> first | rfl | cases read

instance : Plain Int64 where
  whole := readInt64_ofInt
  keyless := keyless_of_map
  filled _ := nofun

instance : Plain Int32 where
  whole n := by
    have low : Number.minSigned 32 ≤ n.toInt := by
      have := n.le_toInt
      have : (Number.minSigned 32 : Int) = -2 ^ 31 := by decide
      omega
    have high : n.toInt ≤ Number.maxSigned 32 := by
      have := n.toInt_lt
      have : (Number.maxSigned 32 : Int) = 2 ^ 31 - 1 := by decide
      omega
    change (readSigned "i32" 32 (ofInt n.toInt)).map Int32.ofInt = .ok n
    rw [readSigned, readWhole_ofInt low high, Except.map, Int32.ofInt_toInt]
  keyless := keyless_of_map
  filled _ := nofun

private theorem readUnsigned_ofNat {kind : String} {bits n : Nat}
    (high : n ≤ Number.maxUnsigned bits) : readUnsigned kind bits (ofNat n) = .ok n := by
  have low : (0 : Int) ≤ n := Int.natCast_nonneg n
  change (readWhole kind 0 (Number.maxUnsigned bits) (ofInt n)).map Int.toNat = .ok n
  rw [readWhole_ofInt low (Int.ofNat_le.2 high), Except.map, Int.toNat_natCast]

private theorem keyless_of_unsigned {kind : String} {bits : Nat} {f : Nat → α} {j : Json} {a : α}
    (read : (readUnsigned kind bits j).map f = .ok a) : j.canonical = j := by
  cases j <;> first | rfl | cases read

instance : Plain UInt32 where
  whole n := by
    have high : n.toNat ≤ Number.maxUnsigned 32 := by
      have := n.toNat_lt
      have : Number.maxUnsigned 32 = 2 ^ 32 - 1 := by decide
      omega
    change (readUnsigned "u32" 32 (ofNat n.toNat)).map Nat.toUInt32 = .ok n
    rw [readUnsigned_ofNat high, Except.map, Nat.toUInt32_eq, UInt32.ofNat_toNat]
  keyless := keyless_of_unsigned
  filled _ := nofun

instance : Plain UInt64 where
  whole n := by
    have high : n.toNat ≤ Number.maxUnsigned 64 := by
      have := n.toNat_lt
      have : Number.maxUnsigned 64 = 2 ^ 64 - 1 := by decide
      omega
    change (readUnsigned "usize" 64 (ofNat n.toNat)).map Nat.toUInt64 = .ok n
    rw [readUnsigned_ofNat high, Except.map, Nat.toUInt64_eq, UInt64.ofNat_toNat]
  keyless := keyless_of_unsigned
  filled _ := nofun

/-! ## Values of values -/

instance : Stable Json where
  again {j _} read := by
    cases read
    exact congrArg Except.ok (canonical_canonical j)
  sorted {j _} read := by
    cases read
    exact congrArg Except.ok (canonical_canonical j)
  filled read filled := by
    cases read
    exact fun empty => filled (canonical_eq_null.1 empty)

private theorem mapM_cons_eq_ok {f : Json → Except Mismatch α} {j : Json} {items : List Json}
    {all : List α} : (j :: items).mapM f = .ok all ↔
      ∃ a rest, f j = .ok a ∧ items.mapM f = .ok rest ∧ all = a :: rest := by
  rw [List.mapM_cons]
  cases first : f j with
  | error e => exact ⟨nofun, fun ⟨_, _, h, _⟩ => nomatch h⟩
  | ok a =>
    cases others : items.mapM f with
    | error e => exact ⟨nofun, fun ⟨_, _, _, h, _⟩ => nomatch h⟩
    | ok rest =>
      constructor
      · rintro ⟨⟩
        exact ⟨a, rest, rfl, rfl, rfl⟩
      · rintro ⟨_, _, ⟨⟩, ⟨⟩, rfl⟩
        rfl

/-- If each item is read after a change as before it, so are all. -/
private theorem mapM_map {f : Json → Except Mismatch α} {g : Json → Json} {items : List Json}
    {all : List α} (h : items.mapM f = .ok all) (same : ∀ {j a}, f j = .ok a → f (g j) = .ok a) :
    (items.map g).mapM f = .ok all := by
  induction items generalizing all with
  | nil => exact h
  | cons j rest ih =>
    obtain ⟨a, others, first, read, rfl⟩ := mapM_cons_eq_ok.1 h
    exact mapM_cons_eq_ok.2 ⟨a, others, same first, ih read, rfl⟩

private theorem mapM_write [Format α] [Stable α] {items : List Json} {all : List α}
    (h : items.mapM Format.read = .ok all) : (all.map write).mapM Format.read = .ok all := by
  induction items generalizing all with
  | nil =>
    cases h
    rfl
  | cons j rest ih =>
    obtain ⟨a, others, first, read, rfl⟩ := mapM_cons_eq_ok.1 h
    exact mapM_cons_eq_ok.2 ⟨a, others, Stable.again first, ih read, rfl⟩

instance [Format α] [Stable α] : Stable (List α) where
  again {j all} read := by
    cases j with
    | arr items => 
      have read : items.mapM Format.read = .ok all := read
      exact mapM_write read
    | null | bool _ | num _ | str _ | obj _ => cases read
  sorted {j all} read := by
    cases j with
    | arr items =>
      rw [canonical, canonicalItems_eq_map]
      have read : items.mapM Format.read = .ok all := read
      exact mapM_map read Stable.sorted
    | null | bool _ | num _ | str _ | obj _ => cases read
  filled _ _ := nofun

/-- Null is nothing, and whatever else is read is there. -/
private theorem readOption_eq_ok {read : Reader α} {j : Json} {a? : Option α} :
    readOption read j = .ok a? ↔
      j = .null ∧ a? = none ∨ j ≠ .null ∧ ∃ a, read j = .ok a ∧ a? = some a := by
  by_cases empty : j = .null
  · subst empty
    simp [readOption, eq_comm]
  · have other : readOption read j = (read j).map some := by
      cases j <;> first | rfl | exact absurd rfl empty
    rw [other]
    cases read j <;> simp [empty, Except.map, eq_comm]

instance [Format α] [Stable α] : Stable (Option α) where
  again {j a?} h := by
    rcases readOption_eq_ok.1 h with ⟨-, rfl⟩ | ⟨filled, a, read, rfl⟩
    · rfl
    · exact readOption_eq_ok.2
        (.inr ⟨Stable.filled (α := α) read filled, a, Stable.again read, rfl⟩)
  sorted {j a?} h := by
    rcases readOption_eq_ok.1 h with ⟨rfl, rfl⟩ | ⟨filled, a, read, rfl⟩
    · rfl
    · exact readOption_eq_ok.2
        (.inr ⟨fun empty => filled (canonical_eq_null.1 empty), a, Stable.sorted read, rfl⟩)
  filled {j a?} h filled := by
    rcases readOption_eq_ok.1 h with ⟨empty, -⟩ | ⟨-, a, read, rfl⟩
    · exact absurd empty filled
    · exact Stable.filled (α := α) read filled

/-! ## Fields -/

/-- What a record may hold in a field: what was read for it, or what it is without an entry. -/
inductive Field.Gives (f : Field α) (a : α) : Prop where
  | read {j : Json} (read : f.read j = .ok a)
  | absent (absent : f.absent = some a)
  | short (short : f.short = some a)

/-- What such a field gives it restores, and its values may have their keys sorted. -/
class Field.Stable (f : Field α) : Prop where
  sorted : ∀ {j a}, f.read j = .ok a → f.read j.canonical = .ok a
  again : ∀ {a}, f.Gives a → f.Restores a a

section

variable [Format α] [Stable α] {name : String}

instance : (Field.required name : Field α).Stable where
  sorted := Stable.sorted (α := α)
  again gives := by
    cases gives with
    | read read => exact Stable.again (α := α) read
    | absent h | short h => cases h

/-- A field without a value is left out, and so is missing. -/
private theorem again_optional {f : Field (Option α)} (reads : f.read = Format.read)
    (writes : f.write = Option.map Json.write) (absent : f.absent = some none)
    (short : f.short ≠ some none → f.short = none) {a? : Option α} (gives : f.Gives a?) :
    f.Restores a? a? := by
  rw [Field.Restores, writes]
  cases a? with
  | none => exact absent
  | some a =>
    show f.read (Json.write a) = _
    cases gives with
    | read read =>
      rw [reads] at read ⊢
      exact Stable.again (α := Option α) read
    | absent h => cases absent.symm.trans h
    | short h => cases (short (by simp [h])).symm.trans h

instance : (Field.optional name : Field (Option α)).Stable where
  sorted := Stable.sorted (α := Option α)
  again := again_optional rfl rfl rfl fun _ => rfl

instance : ({ (Field.optional name : Field (Option α)) with short := some none }).Stable where
  sorted := Stable.sorted (α := Option α)
  again := again_optional rfl rfl rfl fun other => absurd rfl other

instance : (Field.nullable name : Field (Option α)).Stable where
  sorted := Stable.sorted (α := Option α)
  again gives := by
    cases gives with
    | read read => exact Stable.again (α := Option α) read
    | absent h =>
      cases h
      rfl
    | short h => cases h

/-- A default is written, and so has to be among the values that are read. -/
private theorem stable_defaulting {default : α}
    (whole : Format.read (write default) = .ok default) :
    (Field.defaulting name default).Stable where
  sorted := Stable.sorted (α := α)
  again gives := by
    cases gives with
    | read read => exact Stable.again (α := α) read
    | absent h | short h =>
      cases h
      exact whole

instance [Plain α] {default : α} : (Field.defaulting name default).Stable :=
  stable_defaulting (Plain.whole default)

instance : (Field.defaulting name ([] : List α)).Stable := stable_defaulting rfl

instance : (Field.listed name : Field (List α)).Stable where
  sorted := Stable.sorted (α := List α)
  again {all} gives := by
    cases all with
    | nil => rfl
    | cons a rest =>
      cases gives with
      | read read => exact Stable.again (α := List α) read
      | absent h => cases h
      | short h => cases h

end

/-! ## Records -/

namespace Schema

class Stable (schema : Schema α) : Prop where
  sorts : schema.Sorts
  again : ∀ {row index a}, schema.build row index = .ok a → schema.Restores a a

instance : Schema.done.Stable where
  sorts := trivial
  again _ := trivial

private theorem gives_of_get {f : Field α} {row : Row} {index : Nat} {a : α}
    (h : get row index f = .ok a) : f.Gives a := by
  simp only [get] at h
  split at h
  · exact .read h
  · split at h
    · rename_i absent
      cases h
      exact .absent absent
    · cases h
  · split at h
    · rename_i short
      cases h
      exact .short short
    · cases h

instance {f : Field α} {rest : Schema β} [f.Stable] [rest.Stable] :
    (Schema.field f rest).Stable where
  sorts := ⟨Field.Stable.sorted, Stable.sorts⟩
  again {row index a} built := by
    obtain ⟨first, others⟩ := build_field_eq_ok.1 built
    exact ⟨Field.Stable.again (gives_of_get first), Stable.again others⟩

end Schema

/-- A record is stable if its fields are and have different names. -/
theorem stable_record {name : String} {schema : Schema α} {ofFields : α → ρ} {toFields : ρ → α}
    (distinct : schema.names.Nodup) [schema.Stable] (inverse : ∀ a, toFields (ofFields a) = a) :
    @Stable ρ (record name schema ofFields toFields) := by
  let _ : Format ρ := record name schema ofFields toFields
  have read_iff : ∀ {j r}, Format.read j = .ok r ↔
      ∃ a, schema.read name j = .ok a ∧ ofFields a = r := by
    intro j r
    show (schema.read name j).map ofFields = .ok r ↔ _
    cases schema.read name j <;> simp [Except.map]
  constructor
  case again =>
    intro j r h
    obtain ⟨a, read, rfl⟩ := read_iff.1 h
    obtain ⟨row, built⟩ := Schema.build_of_read read
    refine read_record distinct ?_
    rw [inverse]
    exact Schema.Stable.again built
  case sorted =>
    intro j r h
    obtain ⟨a, read, rfl⟩ := read_iff.1 h
    exact read_iff.2 ⟨a, Schema.read_canonical Schema.Stable.sorts read, rfl⟩
  case filled => exact fun _ _ => nofun

end Json

/-! ## What is sent between a client and a session -/

namespace Protocol

open Json (Stable stable_record Form)

instance : Stable Source := stable_record (by decide) fun _ => rfl
instance : Stable SourceBreakpoint := stable_record (by decide) fun _ => rfl
instance : Stable DataBreakpoint := stable_record (by decide) fun _ => rfl
instance : Stable Breakpoint := stable_record (by decide) fun _ => rfl
instance : Stable StackFrame := stable_record (by decide) fun _ => rfl
instance : Stable Thread := stable_record (by decide) fun _ => rfl
instance : Stable Scope := stable_record (by decide) fun _ => rfl
instance : Stable Variable := stable_record (by decide) fun _ => rfl
instance : Stable RequestMessage := stable_record (by decide) fun _ => rfl
instance : Stable ResponseMessage := stable_record (by decide) fun _ => rfl
instance : Stable EventMessage := stable_record (by decide) fun _ => rfl
instance : Stable InitializeArguments := stable_record (by decide) fun _ => rfl
instance : Stable SetBreakpointsArguments := stable_record (by decide) fun _ => rfl
instance : Stable SetExceptionBreakpointsArguments := stable_record (by decide) fun _ => rfl
instance : Stable DataBreakpointInfoArguments := stable_record (by decide) fun _ => rfl
instance : Stable SetDataBreakpointsArguments := stable_record (by decide) fun _ => rfl
instance : Stable ContinueArguments := stable_record (by decide) fun _ => rfl
instance : Stable StepArguments := stable_record (by decide) fun _ => rfl
instance : Stable PauseArguments := stable_record (by decide) fun _ => rfl
instance : Stable StackTraceArguments := stable_record (by decide) fun _ => rfl
instance : Stable ScopesArguments := stable_record (by decide) fun _ => rfl
instance : Stable VariablesArguments := stable_record (by decide) fun _ => rfl
instance : Stable SetVariableArguments := stable_record (by decide) fun _ => rfl
instance : Stable EvaluateArguments := stable_record (by decide) fun _ => rfl
instance : Stable StackFrameArguments := stable_record (by decide) fun _ => rfl
instance : Stable ThreadArguments := stable_record (by decide) fun _ => rfl
instance : Stable DisconnectArguments := stable_record (by decide) fun _ => rfl
instance : Stable ExceptionBreakpointsFilter := stable_record (by decide) fun _ => rfl
instance : Stable Capabilities := stable_record (by decide) fun _ => rfl
instance : Stable SetBreakpointsResponseBody := stable_record (by decide) fun _ => rfl
instance : Stable DataBreakpointInfoResponseBody := stable_record (by decide) fun _ => rfl
instance : Stable StackTraceResponseBody := stable_record (by decide) fun _ => rfl
instance : Stable ThreadsResponseBody := stable_record (by decide) fun _ => rfl
instance : Stable ScopesResponseBody := stable_record (by decide) fun _ => rfl
instance : Stable VariablesResponseBody := stable_record (by decide) fun _ => rfl
instance : Stable SetVariableResponseBody := stable_record (by decide) fun _ => rfl
instance : Stable EvaluateResponseBody := stable_record (by decide) fun _ => rfl
instance : Stable ContinueResponseBody := stable_record (by decide) fun _ => rfl
instance : Stable ExceptionInfoResponseBody := stable_record (by decide) fun _ => rfl
instance : Stable StoppedEventBody := stable_record (by decide) fun _ => rfl
instance : Stable OutputEventBody := stable_record (by decide) fun _ => rfl
instance : Stable ThreadEventBody := stable_record (by decide) fun _ => rfl
instance : Stable ContinuedEventBody := stable_record (by decide) fun _ => rfl
instance : Stable ExitedEventBody := stable_record (by decide) fun _ => rfl

/-- Each type by its own instance. -/
private theorem stable_of_mem {name : String} {form : Form} (listed : (name, form) ∈ forms) :
    @Stable form.Value form.format := by
  have all : ∀ entry ∈ forms, @Stable entry.2.Value entry.2.format := by
    simp only [forms, List.forall_mem_cons]
    repeat' apply And.intro
    all_goals first | infer_instance | exact nofun
  exact all _ listed

/-- Whatever JSON one of the types accepts, what is written of the value is accepted again, with its
keys sorted or not, as the same value, and is then written as it was. -/
theorem rewrite_write {name : String} {form : Form} (listed : (name, form) ∈ forms) {j : Json}
    {a : form.Value} (accepted : form.read j = .ok a) :
    form.read (form.write a) = .ok a ∧ form.read (form.write a).canonical = .ok a ∧
      form.rewrite (form.write a) = .ok (form.write a) ∧
      form.rewrite (form.write a).canonical = .ok (form.write a) := by
  have stable := stable_of_mem listed
  have again : form.read (form.write a) = .ok a := stable.again accepted
  have sorted : form.read (form.write a).canonical = .ok a := stable.sorted again
  refine ⟨again, sorted, ?_, ?_⟩
  · rw [Form.rewrite, again, Except.map]
  · rw [Form.rewrite, sorted, Except.map]

/-- A key that is not known, a null, and a list that is missing. -/
theorem rewrite_write_info :
    ∃ (j : Json) (a : DataBreakpointInfoResponseBody),
      Form.read ⟨DataBreakpointInfoResponseBody⟩ j = .ok a ∧
      Form.rewrite ⟨DataBreakpointInfoResponseBody⟩ j =
        .ok (.obj [("dataId", .null), ("description", .str "no field")]) ∧
      Form.rewrite ⟨DataBreakpointInfoResponseBody⟩
          (.obj [("dataId", .null), ("description", .str "no field")]) =
        .ok (.obj [("dataId", .null), ("description", .str "no field")]) := by
  let j : Json := .obj [("description", .str "no field"), ("hint", .bool true), ("dataId", .null)]
  have accepted : Form.read ⟨DataBreakpointInfoResponseBody⟩ j =
      .ok ⟨none, "no field", []⟩ := by rfl
  refine ⟨j, _, accepted, by rfl, ?_⟩
  exact (rewrite_write (List.mem_of_getElem? (i := 22) rfl) accepted).2.2.1

end Protocol

end DebugSession
