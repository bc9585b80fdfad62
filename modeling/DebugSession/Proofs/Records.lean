import DebugSession.Protocol.Message
/-!
A record is read as it was written, if that holds of its fields and they have different names.
-/

namespace DebugSession

open Protocol

namespace Json

variable {α β ρ : Type}

/-- What is written of a value, or left out, is read as such a value. -/
def Field.Restores (f : Field α) (a a' : α) : Prop :=
  match f.write a with
  | some j => f.read j = .ok a'
  | none => f.absent = some a'

namespace Schema

/-- The names of the fields, in order. -/
def names (schema : Schema α) : List String := schema.checks.map Prod.fst

def Restores {α : Type} : Schema α → α → α → Prop
  | .done, _, _ => True
  | .field f rest, (a, b), (a', b') => f.Restores a a' ∧ rest.Restores b b'

theorem names_field (f : Field α) (rest : Schema β) :
    (Schema.field f rest).names = f.name :: rest.names := rfl

theorem entries_names (schema : Schema α) (a : α) : ∀ e ∈ schema.entries a, e.1 ∈ schema.names := by
  induction schema with
  | done => exact nofun
  | field f rest ih =>
    intro e mem
    rw [names_field]
    simp only [entries] at mem
    split at mem
    · rcases List.mem_cons.1 mem with rfl | mem
      · exact List.mem_cons_self
      · exact List.mem_cons_of_mem _ (ih _ e mem)
    · exact List.mem_cons_of_mem _ (ih _ e mem)

/-- No entry is bad or repeated. -/
private theorem visit_entries {checks : List (String × Reader Unit)} (schema : Schema α)
    {seen : List String} {a a' : α}
    (known : ∀ c ∈ schema.checks, checks.find? (fun d => d.1 = c.1) = some c)
    (fresh : ∀ name ∈ seen, name ∉ schema.names) (distinct : schema.names.Nodup)
    (restores : schema.Restores a a') : visit checks seen (schema.entries a) = .ok () := by
  induction schema generalizing seen with
  | done => rfl
  | field f rest ih =>
    obtain ⟨restores, others⟩ := restores
    rw [names_field, List.nodup_cons] at distinct
    have known' : ∀ c ∈ rest.checks, checks.find? (fun d => d.1 = c.1) = some c :=
      fun c mem => known c (List.mem_cons_of_mem _ mem)
    simp only [entries]
    cases written : f.write a.1 with
    | none =>
      refine ih known' (fun name mem mem' => ?_) distinct.2 others
      exact fresh name mem (List.mem_cons_of_mem _ mem')
    | some j =>
      rw [Field.Restores, written] at restores
      have found := known _ List.mem_cons_self
      have new : seen.contains f.name = false := by
        simpa using fun mem => fresh _ mem List.mem_cons_self
      have rest : visit checks (f.name :: seen) (rest.entries a.2) = .ok () := by
        refine ih known' (fun name mem mem' => ?_) distinct.2 others
        rcases List.mem_cons.1 mem with rfl | mem
        · exact distinct.1 mem'
        · exact fresh name mem (List.mem_cons_of_mem _ mem')
      have suits : (f.read j).map (fun _ => ()) = .ok () := by
        rw [restores]
        rfl
      simp only [visit, found, new, suits]
      exact rest

/-- Every field finds its entry. -/
private theorem build_entries (schema : Schema α) {before : List (String × Json)} {a a' : α}
    (index : Nat) (fresh : ∀ e ∈ before, e.1 ∉ schema.names) (distinct : schema.names.Nodup)
    (restores : schema.Restores a a') :
    schema.build ⟨before ++ schema.entries a, none⟩ index = .ok a' := by
  induction schema generalizing before index with
  | done => rfl
  | field f rest ih =>
    obtain ⟨a, b⟩ := a
    obtain ⟨a', b'⟩ := a'
    obtain ⟨restores, others⟩ := restores
    rw [names_field, List.nodup_cons] at distinct
    have none : before.find? (fun e => e.1 = f.name) = none := by
      refine List.find?_eq_none.2 fun e mem same => ?_
      rw [decide_eq_true_eq] at same
      exact fresh e mem (same ▸ List.mem_cons_self)
    have apart : ∀ e ∈ before, e.1 ∉ rest.names := fun e mem mem' =>
      fresh e mem (List.mem_cons_of_mem _ mem')
    simp only [entries, build]
    cases written : f.write a with
    | none =>
      rw [Field.Restores, written] at restores
      have missing : (before ++ rest.entries b).find? (fun e => e.1 = f.name) = .none := by
        rw [List.find?_append, none, Option.none_or]
        refine List.find?_eq_none.2 fun e mem same => ?_
        rw [decide_eq_true_eq] at same
        exact distinct.1 (same ▸ rest.entries_names b e mem)
      have first : get ⟨before ++ rest.entries b, .none⟩ index f = .ok a' := by
        simp only [get, missing, restores]
      dsimp only
      rw [first, ih (index + 1) apart distinct.2 others]
      rfl
    | some j =>
      rw [Field.Restores, written] at restores
      have apart' : ∀ e ∈ before ++ [(f.name, j)], e.1 ∉ rest.names := by
        intro e mem
        rcases List.mem_append.1 mem with mem | mem
        · exact apart e mem
        · rw [List.mem_singleton.1 mem]
          exact distinct.1
      have later := ih (index + 1) apart' distinct.2 others
      rw [List.append_assoc, List.singleton_append] at later
      have found : (before ++ (f.name, j) :: rest.entries b).find? (fun e => e.1 = f.name) =
          some (f.name, j) := by
        rw [List.find?_append, none, Option.none_or]
        simp
      have first : get ⟨before ++ (f.name, j) :: rest.entries b, .none⟩ index f = .ok a' := by
        simp only [get, found]
        exact restores
      dsimp only
      rw [first, later]
      rfl

theorem read_entries (name : String) (schema : Schema α) {a a' : α}
    (distinct : schema.names.Nodup) (restores : schema.Restores a a') :
    schema.read name (.obj (schema.entries a)) = .ok a' := by
  have known : ∀ c ∈ schema.checks, schema.checks.find? (fun d => d.1 = c.1) = some c := by
    intro c mem
    obtain ⟨front, back, parts⟩ := List.append_of_mem mem
    refine List.find?_eq_some_iff_append.2 ⟨by simp, front, back, parts, fun d mem' => ?_⟩
    rw [names, parts, List.map_append, List.map_cons] at distinct
    have apart := (List.nodup_append.1 distinct).2.2 _ (List.mem_map_of_mem mem') _
      List.mem_cons_self
    simpa using apart
  have visited : visit schema.checks [] (schema.entries a) = .ok () :=
    visit_entries schema known nofun distinct restores
  have built : schema.build ⟨[] ++ schema.entries a, none⟩ 0 = .ok a' :=
    build_entries schema 0 nofun distinct restores
  simp only [Schema.read, visited]
  exact built

end Schema

theorem read_record {name : String} {schema : Schema α} {ofFields : α → ρ} {toFields : ρ → α}
    {r : ρ} {a : α} (distinct : schema.names.Nodup) (restores : schema.Restores (toFields r) a) :
    (record name schema ofFields toFields).read ((record name schema ofFields toFields).write r) =
      .ok (ofFields a) :=
  congrArg (Except.map ofFields) (schema.read_entries name distinct restores)

theorem readInt64_ofInt (n : Int64) : readInt64 (ofInt n.toInt) = .ok n := by
  have low : Number.minSigned 64 ≤ n.toInt := by
    have := n.le_toInt
    have : (Number.minSigned 64 : Int) = -2 ^ 63 := by decide
    omega
  have high : n.toInt ≤ Number.maxSigned 64 := by
    have := n.toInt_lt
    have : (Number.maxSigned 64 : Int) = 2 ^ 63 - 1 := by decide
    omega
  simp [readInt64, readSigned, readWhole, ofInt, low, high, Except.map]

/-- A value that may be missing is read, whatever it is. -/
private theorem optional_any (name : String) (j : Option Json) :
    ∃ j', (Field.optional name).Restores j j' := by
  cases j with
  | none => exact ⟨none, rfl⟩
  | some j => cases j <;> exact ⟨_, rfl⟩

private theorem optional_text (name : String) (text : Option String) :
    (Field.optional name).Restores text text := by
  cases text <;> rfl

end Json

/-! ## Messages to the client -/

namespace Protocol.Outgoing

/-- What the client reads is the message, with its number. -/
def ReadsAs (seq : Int64) (j : Json) : Outgoing → Prop
  | .response r => ∃ body, Json.Format.read j = .ok { r with seq, body }
  | .event e => ∃ body, Json.Format.read j = .ok { e.toMessage with seq, body }

theorem reads_toJson (seq : Int64) (o : Outgoing) : o.ReadsAs seq (o.toJson seq) := by
  cases o with
  | response r =>
    obtain ⟨body, restores⟩ := Json.optional_any "body" r.body
    exact ⟨body, Json.read_record
      (a := (seq, r.kind, r.requestSeq, r.success, r.command, r.message, body, ())) (by decide)
      ⟨Json.readInt64_ofInt seq, rfl, Json.readInt64_ofInt r.requestSeq, rfl, rfl,
        Json.optional_text "message" r.message, restores, trivial⟩⟩
  | event e =>
    obtain ⟨body, restores⟩ := Json.optional_any "body" e.body?
    exact ⟨body, Json.read_record (a := (seq, "event", e.name, body, ())) (by decide)
      ⟨Json.readInt64_ofInt seq, rfl, rfl, restores, trivial⟩⟩

end Protocol.Outgoing

end DebugSession
