import DebugSession.Proofs.Elements
import DebugSession.Proofs.Stability
/-!
Parts of listings. Whatever is listed, a part that a client asks for is that part of the whole, with
the same names, values, types and references, and no matter in which order they are asked for. Only
where an object is shown by properties that have names is any part the whole.
-/

namespace DebugSession

/-- Whether children have names of their own, rather than places in an array. -/
def LogicalStructure.hasProperties (shape : LogicalStructure) : Bool :=
  match shape.kind with
  | .elements _ => false
  | .properties _ => true

namespace Session

variable {α β : Type} {known : List FrameProxy} {thread : ThreadId} {s s' t : Session Debuggee}

/-! ## What is found of a part -/

/-- Whether an object is shown by properties that have names. -/
def showsProperties (s : Session Debuggee) : Container → Bool
  | .object o _ => s.settings.display.showLogicalStructure &&
      ((structure? o).run advance s).1.any LogicalStructure.hasProperties
  | _ => false

/-- What is shown of a container when a part of it is asked for: of properties, all. -/
def part (s : Session Debuggee) (c : Container) (whole : List α) (start : Nat)
    (count : Option Nat) : List α :=
  bif s.showsProperties c then whole else window whole start count

/-- Wherever a listing finds a whole, its parts are found; `fixed` listings only find the whole. -/
structure Cuts (known : List FrameProxy) (thread : ThreadId) (fixed : Bool)
    (x : Nat → Option Nat → Remote Debuggee (List Variable)) : Prop where
  found : ∀ s, Informed True known thread s → ∀ vs,
    Settles (x 0 none) s (fun r _ => r = .ok vs) → ∀ start count,
      Settles (x start count) s fun r _ => r = .ok (bif fixed then vs else window vs start count)

namespace Cuts

variable {fixed : Bool}

theorem whole (x : Remote Debuggee (List Variable)) : Cuts known thread true fun _ _ => x :=
  ⟨fun _ _ _ listed _ _ => listed⟩

theorem bind {x : Remote Debuggee β} {f : β → Nat → Option Nat → Remote Debuggee (List Variable)}
    (first : ∀ s, Informed True known thread s → Settles x s fun _ s' => Surveys known s s')
    (rest : ∀ b, Cuts known thread fixed (f b)) :
    Cuts known thread fixed fun start count => x >>= fun b => f b start count := by
  refine ⟨fun s informed vs listed start count => ?_⟩
  rw [settles_bind] at listed ⊢
  refine (Task.Ends.and (first s informed) listed).mono ?_
  rintro r s₁ ⟨moved, listed⟩
  cases r with
  | ok b => exact (rest b).found s₁ (informed.surveys moved) vs listed start count
  | error e => cases listed

theorem window (x : Remote Debuggee (List Variable)) :
    Cuts known thread false fun start count => do return Session.window (← x) start count := by
  refine ⟨fun s _ vs listed start count => ?_⟩
  obtain ⟨all, brought, same⟩ := settles_return_ok.1 listed
  exact settles_return_ok.2 ⟨all, brought, congrArg (Session.window · start count) same⟩

theorem nothing : Cuts known thread false fun _ _ => pure [] := by
  refine ⟨fun s _ vs listed start count => ?_⟩
  obtain rfl := Except.ok.inj listed
  exact congrArg Except.ok (window_nil start count).symm

theorem map (f : Variable → Variable) {x : Nat → Option Nat → Remote Debuggee (List Variable)}
    (h : Cuts known thread false x) :
    Cuts known thread false fun start count => do return (← x start count).map f := by
  refine ⟨fun s informed vs listed start count => ?_⟩
  obtain ⟨all, brought, rfl⟩ := settles_return_ok.1 listed
  exact settles_return_ok.2 ⟨_, h.found s informed all brought start count, (window_map ..).symm⟩

theorem elements (o : ObjectRef) (policy : FetchPolicy) (parent : Option String) :
    Cuts known thread false fun start count => listElements o start count policy parent :=
  ⟨fun _ informed _ listed => listElements_window (informed.responsive trivial) listed⟩

end Cuts

private theorem logicalChildren_cuts (scope : LogicalScope) (shape : LogicalStructure)
    (o : ObjectRef) (policy : FetchPolicy) (parent : Option String) :
    Cuts known thread shape.hasProperties fun start count =>
      logicalChildren scope shape o start count policy parent := by
  obtain ⟨typeName, kind, size⟩ := shape
  cases kind with
  | elements chain =>
    have evaluated : ∀ s, Informed True known thread s →
        Settles (evaluateChain scope (.object o) chain) s fun _ s' => Surveys known s s' :=
      fun s informed => ((evaluateChain_learns scope (.object o) chain).ends s informed).1
    refine .bind evaluated fun value => ?_
    cases value with
    | object array => exact .map _ (.elements array policy none)
    | _ => exact .nothing
  | properties children => exact .whole _

private theorem shown_cuts (shape : Option LogicalStructure) (o : ObjectRef)
    (parent : Option String) (settings : VariableSettings) (policy : FetchPolicy) :
    Cuts known thread (shape.any LogicalStructure.hasProperties) fun start count =>
      listShaped thread o parent start count settings policy shape := by
  unfold listShaped
  cases shape with
  | some shape =>
    have opened : ∀ s, Informed True known thread s →
        Settles (quietly (logicalScope thread) : Remote Debuggee _) s fun _ s' =>
          Surveys known s s' :=
      fun s informed => (settles_quietly _).2 (logicalScope_surveys informed)
    exact .bind opened fun scope => logicalChildren_cuts scope shape o policy parent
  | none =>
    dsimp only
    split
    · exact .elements o policy parent
    · exact .window _

/-- Whatever is listed of a container as a whole, its parts are listed as parts of it. -/
theorem listContainer_part (informed : Informed True known thread s) {c : Container}
    {vs : List Variable}
    (listed : Settles (listContainer thread c 0 none s.settings.display) s fun r _ => r = .ok vs)
    (start : Nat) (count : Option Nat) :
    Settles (listContainer thread c start count s.settings.display) s fun r _ =>
      r = .ok (s.part c vs start count) := by
  unfold listContainer at listed ⊢
  rw [settles_bind, settles_get] at listed ⊢
  cases c with
  | frame q => exact Cuts.nothing.found s informed vs listed start count
  | locals q => exact (Cuts.window (listScope q s.fetchPolicy)).found s informed vs listed start count
  | statics q typeName =>
    exact (Cuts.window (listStatics typeName s.fetchPolicy)).found s informed vs listed start count
  | object o parent =>
    dsimp only at listed ⊢
    unfold part showsProperties
    dsimp only
    cases logical : s.settings.display.showLogicalStructure with
    | false =>
      rw [listObject_plain logical] at listed ⊢
      rw [Bool.false_and]
      exact (shown_cuts none o parent _ _).found s informed vs listed start count
    | true =>
      rw [listObject_logical logical, settles_bind, settles_quietly] at listed ⊢
      rw [Bool.true_and]
      obtain ⟨moved, -⟩ := (structure?_looks o).finds.ends s informed
      exact (shown_cuts _ o parent _ _).found _ (informed.surveys moved) vs listed start count

/-- The parts of a listing are found as soon as the whole is. -/
theorem Finding.part {e : Pooled Container} {found : List Variable}
    (h : Finding e 0 none found s) (start : Nat) (count : Option Nat) :
    Finding e start count (s.part e.object found start count) s :=
  ⟨h.informed, listContainer_part h.informed h.found start count⟩

theorem Alike.showsProperties (alike : Alike s t) (here : Informed True known thread s)
    (there : Informed True known thread t) (c : Container) :
    t.showsProperties c = s.showsProperties c := by
  cases c with
  | object o parent =>
    unfold Session.showsProperties
    dsimp only
    rw [alike.settings, (structure?_looks o).finds.same trivial here there alike]
  | _ => rfl

theorem Alike.part (alike : Alike s t) (here : Informed True known thread s)
    (there : Informed True known thread t) (c : Container) (whole : List α) (start : Nat)
    (count : Option Nat) : t.part c whole start count = s.part c whole start count := by
  unfold Session.part
  rw [alike.showsProperties here there]

/-- What a client has been told of a whole, it has been told of its parts. -/
theorem Recalls.part {e : Pooled Container} {reference : Int64} {found : List Variable}
    {shown : List Protocol.Variable} (h : Recalls reference e found shown t) (start : Nat)
    (count : Option Nat) : Recalls reference e (t.part e.object found start count)
      (t.part e.object shown start count) t := by
  obtain ⟨s, later, each⟩ := h.told
  refine ⟨h.resolved, s, later, ?_⟩
  unfold Session.part
  cases t.showsProperties e.object with
  | true => exact each
  | false => exact forall₂_window each start count

/-! ## What is shown of a part -/

/-- A part of a listing, asked for before or after the whole, is shown as that part of the whole,
and parts that follow each other are the whole together; except that of properties, which have
names, any part is the whole. -/
theorem listVariables_parts (faithful : s.Faithful) (responsive : s.Responsive)
    {reference : Int64} {e : Pooled Container} (there : s.resolve? reference = some e)
    (current : s.Current e.owner) {start : Nat} {count : Option Nat}
    {r : Except SessionError (List Protocol.Variable)}
    (asked : Task.run advance (listVariables reference start count).run s = (r, s'))
    {ms : List Protocol.RequestMessage} (looks : ∀ m ∈ ms, m.LooksOnly)
    {whole : List Protocol.Variable}
    (listed : Task.run advance (listVariables reference 0 none).run (s'.afterMessages ms) =
      (.ok whole, t))
    {ms' : List Protocol.RequestMessage} (looks' : ∀ m ∈ ms', m.LooksOnly)
    (room : (t.afterMessages ms').HasRoom) :
    r = .ok (s.part e.object whole start count) ∧
      (∀ start count, (Task.run advance (listVariables reference start count).run
        (t.afterMessages ms')).1 = .ok (s.part e.object whole start count)) ∧
      (s.showsProperties e.object = false → ∀ size rounds, 0 < size →
        whole.length ≤ rounds * size → ∃ parts, List.Forall₂ (fun i part =>
          (Task.run advance (listVariables reference (i * size) (some size)).run
            (t.afterMessages ms')).1 = .ok part) (List.range rounds) parts ∧
          parts.flatten = whole) := by
  have room' : t.HasRoom := room_of_afterMessages looks' room
  have room'' : (s'.afterMessages ms).HasRoom := room_of_listing listed room'
  -- The session is ready for the whole, and for the parts that are asked for after that.
  have ready : Ready e.owner s := faithful.ready responsive current
  obtain ⟨ready₁, later₁, -⟩ := ready.listing there asked (room_of_afterMessages looks room'')
  obtain ⟨ready₂, later₂⟩ := ready₁.messages looks room''
  have there₂ := (later₁.trans later₂).resolve there
  obtain ⟨ready₃, later₃, told⟩ := ready₂.listing there₂ listed room'
  obtain ⟨-, later₄⟩ := ready₃.messages looks' room
  obtain ⟨found, finding, recalls⟩ := (told whole rfl).recalled later₃ later₄ there₂
  have since : Later e.owner s' (t.afterMessages ms') := (later₂.trans later₃).trans later₄
  have all : Later e.owner s (t.afterMessages ms') := later₁.trans since
  have same : ∀ start count, (t.afterMessages ms').part e.object whole start count =
      s.part e.object whole start count :=
    all.alike.part ready.informed all.informed e.object whole
  have shown : ∀ start count, (Task.run advance (listVariables reference start count).run
      (t.afterMessages ms')).1 = .ok (s.part e.object whole start count) := by
    intro start count
    rw [← same]
    exact (recalls.part start count).again (finding.part start count)
  refine ⟨?_, shown, fun unnamed size rounds positive enough => ?_⟩
  · -- Whatever the answer was, it would be the same now.
    obtain ⟨handle, -, held⟩ := Option.bind_eq_some_iff.1 there
    have before := (finding.part start count).alike held ready.informed all.alike.symm
    have repeats := listVariables_repeats there ready.informed ready.tidy.sound before
    simp only [Settles, Task.Ends, asked] at repeats
    have again := repeats (room_of_afterMessages looks room'') _ since recalls.resolved
      (finding.part start count)
    exact again.symm.trans (shown start count)
  · refine ⟨(List.range rounds).map fun i => window whole (i * size) (some size), ?_,
      windows_flatten whole positive enough⟩
    rw [List.forall₂_map_right_iff, List.forall₂_same]
    intro i _
    have part := shown (i * size) (some size)
    rwa [Session.part, unnamed] at part

/-- The client has seen the variables of the scope as well. -/
def openedSession (machine : Debuggee) : Session Debuggee :=
  (haltedSession machine).after (.message (messageOf "variables" [("variablesReference", 2)]))

theorem openedSession_faithful : (openedSession cities).Faithful :=
  .step _ faithful_cities nofun (by decide +kernel)

/-- The client asks for the second of two numbers first, then for both, and then for one after the
other. -/
theorem listVariables_parts_cities : ∃ r s' t whole,
    Task.run advance (listVariables 3 1 (some 1)).run (openedSession cities) = (r, s') ∧
      Task.run advance (listVariables 3 0 none).run (s'.afterMessages furtherLooks) =
        (.ok whole, t) ∧ whole.map (·.value) = ["3", "4"] ∧ r = .ok (whole.drop 1) ∧
      ∃ parts, List.Forall₂ (fun i part =>
        (Task.run advance (listVariables 3 (i * 1) (some 1)).run (t.afterMessages [])).1 =
          .ok part) (List.range 2) parts ∧ parts.flatten = whole := by
  let s : Session Debuggee := openedSession cities
  let first := Task.run advance (listVariables 3 1 (some 1)).run s
  let second := Task.run advance (listVariables 3 0 none).run (first.2.afterMessages furtherLooks)
  let element (name value : String) : Protocol.Variable := { name, value, typeName := some "int" }
  let whole := [element "[0]" "3", element "[1]" "4"]
  have shown : second.1 = .ok whole := by decide +kernel
  have listed : second = (.ok whole, second.2) := Prod.fst_eq_iff.1 shown
  have known : (s.resolve? 3).map (fun e => (e.owner, s.showsProperties e.object)) =
      some (1, false) := by decide +kernel
  obtain ⟨e, there, same⟩ := Option.map_eq_some_iff.1 known
  obtain ⟨owned, unnamed⟩ := Prod.mk.inj same
  have current : s.Current e.owner := by
    rw [owned]
    decide +kernel
  obtain ⟨asked, -, tiled⟩ := listVariables_parts openedSession_faithful (by decide +kernel) there
    current (Prod.mk.eta (p := first)).symm (by decide +kernel) listed (List.forall_mem_nil _)
    (by decide +kernel)
  refine ⟨first.1, first.2, second.2, whole, (Prod.mk.eta (p := first)).symm, listed, rfl, ?_, ?_⟩
  · rwa [part, unnamed] at asked
  · exact tiled unnamed 1 2 Nat.one_pos (Nat.le_refl 2)

/-- An entry of a map, with two properties. -/
def entry : Debuggee :=
  let entry : ObjectRef := ⟨10, "java.util.HashMap$Node", .plain⟩
  let machine := ({} : Debuggee).addType
      ⟨"java.util.HashMap$Node", none, ["java.util.Map$Entry"], false, []⟩
    |>.addObject { reference := entry }
    |>.setInvokeResult 10 "getKey" (.int 3) |>.setInvokeResult 10 "getValue" (.int 4)
  standingAt machine "entry" "Ljava/util/Map$Entry;" entry

/-- A client that asks for the second property is shown both. -/
theorem entry_shown_whole : ∃ whole,
    (Task.run advance (listVariables 3 0 none).run (openedSession entry)).1 = .ok whole ∧
      (Task.run advance (listVariables 3 1 (some 1)).run (openedSession entry)).1 ≠
        .ok (window whole 1 (some 1)) := by
  let property (name value call : String) : Protocol.Variable :=
    { name, value, typeName := some "int", evaluateName := some s!"entry.{call}()" }
  exact ⟨[property "key" "3" "getKey", property "value" "4" "getValue"], by decide +kernel,
    by decide +kernel⟩

end Session
end DebugSession
