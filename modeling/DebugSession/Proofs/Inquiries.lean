import DebugSession.Proofs.Showing
import DebugSession.Server.Handler
/-!
Answers to what a client asks about halted threads. Each is about one thread, and what it refers
to can be looked into.
-/

namespace DebugSession

variable {V α ε ε' : Type}

/-- What a client asks about a halted thread. -/
inductive Inquiry where
  | stackTrace (thread : ThreadId) (start levels : Nat)
  | scopes (frameId : Int64)
  | listVariables (reference : Int64) (start : Nat) (count : Option Nat)
  | setVariable (reference : Int64) (name value : String)
  | evaluate (expression : String) (frameId : Option Int64)
  deriving DecidableEq, Repr

namespace Inquiry

/-- The request that asks it. -/
def request : Inquiry → Request
  | stackTrace thread start levels => .stackTrace thread start levels
  | scopes frameId => .scopes frameId
  | listVariables reference start count => .listVariables reference start count
  | setVariable reference name value => .setVariable reference name value
  | evaluate expression frameId => .evaluate expression frameId

/-- The thread that it is about, as far as there is one. -/
def thread? (s : Session V) : Inquiry → Option ThreadId
  | stackTrace thread _ _ => some thread
  | scopes frameId => (s.resolve? frameId).map Pooled.owner
  | listVariables reference _ _ | setVariable reference _ _ =>
    (s.resolve? reference).map Pooled.owner
  | evaluate _ frameId => (frameId.bind s.resolve?).map Pooled.owner

variable [Machine V]

/-- The references in the answer. -/
def references : Inquiry → Attempt V (List Int64)
  | stackTrace thread start levels => do
    let body ← ExceptT.adapt Failure.error (Session.stackTrace thread start levels)
    return body.stackFrames.map (·.id)
  | scopes frameId => do
    let scopes ← quietly (Session.scopes frameId)
    return scopes.map (·.variablesReference)
  | listVariables reference start count => do
    let found ← ExceptT.adapt Failure.error (Session.listVariables reference start count)
    return found.map (·.variablesReference)
  | setVariable reference name value => do
    let body ← ExceptT.adapt Failure.error (Session.setVariable reference name value)
    return [body.variablesReference]
  | evaluate expression frameId => do
    let body ← Session.evaluate expression frameId
    return [body.variablesReference]

end Inquiry

namespace Session

/-- What every session keeps to. Halts are recorded by their threads, and handles are only for
threads that are halted, each for its own frames. -/
structure Tidy (s : Session V) : Prop where
  named : ∀ thread p, s.stopped.get? thread = some p → p.thread = thread
  recent : ∀ thread p, s.stopped.get? thread = some p → p.version ≤ s.suspensions
  sound : s.handles.Sound
  owned : ∀ handle e, s.handles.get? handle = some e → (s.stopped.get? e.owner).isSome = true
  placed : ∀ handle e, s.handles.get? handle = some e → e.object.BelongsTo e.owner

variable {s s' : Session V}

/-- What a client can look into is of a halted thread. -/
theorem Tidy.resolved (tidy : s.Tidy) {reference : Int64} {e : Pooled Container}
    (h : s.resolve? reference = some e) :
    (s.stopped.get? e.owner).isSome = true ∧ e.object.BelongsTo e.owner := by
  obtain ⟨handle, -, found⟩ := Option.bind_eq_some_iff.1 h
  exact ⟨tidy.owned handle e found, tidy.placed handle e found⟩

/-- The answer to an inquiry: about a halted thread, or without anything to look into. -/
def Answers (thread : Option ThreadId) (ns : List Int64) (s s' : Session V) : Prop :=
  (∃ a, thread = some a ∧ (s.stopped.get? a).isSome = true ∧ Presents a ns s s') ∨
    ns = [] ∧ Quiet s s'

theorem Answers.nothing (thread : Option ThreadId) (s : Session V) : Answers thread [] s s :=
  .inr ⟨rfl, Composes.refl s⟩

theorem referencesIn_mapError (references : α → List Int64) (wrap : ε → ε') (r : Except ε α) :
    referencesIn references (r.mapError wrap) = referencesIn references r := by
  cases r <;> rfl

private theorem answers_return {x : ExceptT ε (Task (Session V)) α}
    {references : α → List Int64} {thread : Option ThreadId}
    (h : Settles x s fun r s' => Answers thread (referencesIn references r) s s') :
    Settles (do return references (← x)) s fun r s' =>
      Answers thread (referencesIn id r) s s' :=
  h.andThen (fun _ _ holds => holds) fun _ _ holds => holds

/-! ## Frames and scopes -/

theorem stackTrace_settles (tidy : s.Tidy) (thread : ThreadId) (start levels : Nat) :
    Settles (stackTrace thread start levels) s fun r s' =>
      Answers (some thread) (referencesIn (fun b => b.stackFrames.map (·.id)) r) s s' := by
  unfold stackTrace
  rw [settles_bind, settles_get]
  dsimp only
  split
  · exact .nothing _ s
  · split
    · exact .nothing _ s
    · rename_i p halted
      have own : p.thread = thread := tidy.named thread p halted
      have known : (s.stopped.get? thread).isSome = true := by rw [halted]; rfl
      rw [settles_bind, settles_quietly]
      apply (describeFrames_ends p _ s).mono
      intro fs s' presents
      rw [own] at presents
      exact .inl ⟨thread, rfl, known, presents⟩

theorem scopes_ends (tidy : s.Tidy) (frameId : Int64) :
    Task.Ends (scopes frameId) s fun xs s' =>
      Answers ((s.resolve? frameId).map Pooled.owner) (xs.map (·.variablesReference)) s s' := by
  unfold scopes
  rw [Task.ends_bind, Task.ends_get]
  split
  · rename_i owner p found
    obtain ⟨halted, belongs⟩ := tidy.resolved found
    have own : p.thread = owner := belongs p rfl
    subst own
    have answers : ∀ ns s', Presents p.thread ns s s' →
        Answers ((s.resolve? frameId).map Pooled.owner) ns s s' := by
      intro ns s' presents
      exact .inl ⟨p.thread, by rw [found]; rfl, halted, presents⟩
    have locals : (Container.locals p).BelongsTo p.thread := by
      rintro _ ⟨⟩
      rfl
    refine .bind (addHandle_ends locals s) ?_
    intro n s' first
    split
    · split
      · rename_i f _ _
        have statics : (Container.statics p f.location.className).BelongsTo p.thread := by
          rintro _ ⟨⟩
          rfl
        refine .bind (addHandle_ends statics s') ?_
        intro m s'' second
        exact answers [n, m] s'' (first.trans second)
      · exact answers [n] s' first
    · exact answers [n] s' first
  · exact .nothing _ s

/-! ## Variables -/

variable [Machine V]

theorem listVariables_settles (tidy : s.Tidy) (reference : Int64) (start : Nat)
    (count : Option Nat) :
    Settles (listVariables reference start count) s fun r s' =>
      Answers ((s.resolve? reference).map Pooled.owner)
        (referencesIn (fun vs => vs.map (·.variablesReference)) r) s s' := by
  unfold listVariables
  rw [settles_bind, settles_get]
  dsimp only
  split
  · exact .nothing _ s
  · rename_i thread c found
    have halted := (tidy.resolved found).1
    have answers : ∀ ns s', Presents thread ns s s' →
        Answers ((s.resolve? reference).map Pooled.owner) ns s s' := by
      intro ns s' presents
      exact .inl ⟨thread, by rw [found]; rfl, halted, presents⟩
    have listed : Settles ((listContainer thread c start count s.settings.display).orFail
        listingFailed) s fun _ s' => Shown thread s s' :=
      keeps_settles (.orFail _ (listContainer_stirs thread c start count _)) s
    refine listed.andThen (fun vs s' asked => ?_) fun e s' asked =>
      answers [] s' (.of_shown asked)
    rw [settles_orFail]
    apply (describeVariables_settles thread _ vs s').mono
    intro r s'' presents
    rw [referencesIn_mapError]
    exact answers _ s'' (.after asked presents)

theorem setVariable_settles (tidy : s.Tidy) (reference : Int64) (name text : String) :
    Settles (setVariable reference name text) s fun r s' =>
      Answers ((s.resolve? reference).map Pooled.owner)
        (referencesIn (fun b => [b.variablesReference]) r) s s' := by
  unfold setVariable
  rw [settles_bind, settles_get]
  dsimp only
  split
  · exact .nothing _ s
  · rename_i thread c found
    have halted := (tidy.resolved found).1
    have answers : ∀ ns s', Presents thread ns s s' →
        Answers ((s.resolve? reference).map Pooled.owner) ns s s' := by
      intro ns s' presents
      exact .inl ⟨thread, by rw [found]; rfl, halted, presents⟩
    have failed : ∀ s', Shown thread s s' →
        Answers ((s.resolve? reference).map Pooled.owner) [] s s' :=
      fun s' asked => answers [] s' (.of_shown asked)
    have listed : Settles ((listContainer thread c 0 none s.settings.display).orFail
        assignmentFailed) s fun _ s' => Shown thread s s' :=
      keeps_settles (.orFail _ (listContainer_stirs thread c 0 none _)) s
    refine listed.andThen (fun vs s' asked => ?_) fun e s' asked => failed s' asked
    split
    · exact failed s' asked
    · rename_i v _
      have assigned : Settles (assign c v text) s' fun _ s'' => Shown thread s' s'' :=
        keeps_settles (assign_stirs c v text) s'
      refine assigned.andThen (fun value s₁ more => ?_) fun e s₁ more =>
        failed s₁ (Composes.trans asked more)
      have changed := Composes.trans asked more
      have described : Settles ((describeVariable thread s.settings.display
          { v with value }).orFail assignmentFailed) s₁ fun r s₂ =>
            Presents thread (referencesIn (fun x => [x.variablesReference]) r) s₁ s₂ := by
        rw [settles_orFail]
        simp only [referencesIn_mapError]
        exact describeVariable_settles thread _ _ s₁
      refine described.andThen ?_ ?_
      · intro shown s₂ presents
        exact answers _ s₂ (.after changed presents)
      · intro e s₂ presents
        exact failed s₂ (Composes.trans changed presents.shown)

/-! ## Expressions -/

theorem evaluate_settles (tidy : s.Tidy) (expression : String) (frameId : Option Int64) :
    Settles (evaluate expression frameId) s fun r s' =>
      Answers ((frameId.bind s.resolve?).map Pooled.owner)
        (referencesIn (fun b => [b.variablesReference]) r) s s' := by
  have site : Settles (ExceptT.adapt Failure.error (evaluationSite frameId)) s fun r s' =>
      s' = s ∧ ∀ e p, r = .ok (e, p) →
        ∃ owner, frameId.bind s.resolve? = some ⟨owner, .frame p⟩ := by
    rw [settles_adapt]
    refine (evaluationSite_settles frameId s).mono ?_
    rintro r s' ⟨same, found⟩
    cases r with
    | error e => exact ⟨same, nofun⟩
    | ok _ => exact ⟨same, fun e p same => found e p (by cases same; rfl)⟩
  rw [evaluate_eq]
  refine site.andThen ?_ ?_
  · rintro ⟨e, p⟩ s' ⟨same, sited⟩
    rw [same]
    obtain ⟨owner, found⟩ := sited e p rfl
    obtain ⟨n, -, there⟩ := Option.bind_eq_some_iff.1 found
    obtain ⟨halted, belongs⟩ := tidy.resolved there
    have own : p.thread = owner := belongs p rfl
    subst own
    have answers : ∀ ns s', Presents p.thread ns s s' →
        Answers ((frameId.bind s.resolve?).map Pooled.owner) ns s s' := by
      intro ns s' presents
      exact .inl ⟨p.thread, by rw [found]; rfl, halted, presents⟩
    have evaluated : Settles (evaluateInFrame e p expression) s fun _ s' =>
        Shown p.thread s s' := keeps_settles (evaluateInFrame_stirs e p expression) s
    refine evaluated.andThen (fun value s₁ asked => ?_) fun e s₁ asked =>
      answers [] s₁ (.of_shown asked)
    have described : Settles (ExceptT.adapt (fun e => .error (evaluationFailed e))
        (describeVariable p.thread s₁.settings.display
          (Variable.ofValue expression value "java.lang.Object")) : Attempt V _) s₁
        fun r s₂ => Presents p.thread (referencesIn (fun x => [x.variablesReference]) r) s₁ s₂ := by
      rw [settles_adapt]
      simp only [referencesIn_mapError]
      exact describeVariable_settles p.thread _ _ s₁
    rw [settles_bind, settles_get]
    refine described.andThen ?_ ?_
    · intro shown s₂ presents
      exact answers _ s₂ (.after asked presents)
    · intro e s₂ presents
      exact answers [] s₂ (.of_shown (Composes.trans asked presents.shown))
  · rintro e _ ⟨rfl, -⟩
    exact .nothing _ _

/-! ## Inquiries -/

theorem references_settles (tidy : s.Tidy) (q : Inquiry) :
    Settles q.references s fun r s' =>
      Answers (q.thread? s) (referencesIn id r) s s' := by
  cases q with
  | stackTrace thread start levels =>
    apply answers_return
    rw [settles_adapt]
    simp only [referencesIn_mapError]
    exact stackTrace_settles tidy thread start levels
  | scopes frameId =>
    apply answers_return
    rw [settles_quietly]
    exact scopes_ends tidy frameId
  | listVariables reference start count =>
    apply answers_return
    rw [settles_adapt]
    simp only [referencesIn_mapError]
    exact listVariables_settles tidy reference start count
  | setVariable reference name value =>
    apply answers_return
    rw [settles_adapt]
    simp only [referencesIn_mapError]
    exact setVariable_settles tidy reference name value
  | evaluate expression frameId =>
    exact answers_return (evaluate_settles tidy expression frameId)

/-- The session is left in the same state whether the whole answer or only its references are
looked at. -/
theorem settles_performAny_inquiry (q : Inquiry) (s : Session V) (Q : Session V → Prop) :
    Settles (performAny q.request) s (fun _ s' => Q s') ↔
      Settles q.references s fun _ s' => Q s' := by
  cases q <;> simp only [Inquiry.request, Inquiry.references, performAny, perform, settles_adapt,
    settles_return, settles_quietly]

end Session
end DebugSession
