import DebugSession.Proofs.Rebuild
/-!
What is said of breakpoints. A breakpoint whose place is known is told what is wrong with its hit
condition now. That the place of any other is not known is said only when it is created: a hit
condition that is refused later is told instead, and is told from then on. Main statement: just when
a request is answered with the same words as in a new session.
-/

namespace DebugSession

/-- The entry that counts for a line. -/
def BreakpointSpec.leading? (specs : List BreakpointSpec) (line : UInt32) :
    Option BreakpointSpec :=
  specs.find? (·.line = line)

namespace LineRequest

variable {source : String} {line : UInt32}

/-- The entries that have revised what is kept on a line of a source since it was created, the last
one first, where later requests come before earlier ones. -/
def revisersFrom (source : String) (line : UInt32) : List LineRequest → List BreakpointSpec
  | [] => []
  | r :: earlier =>
    if r.source ≠ source then revisersFrom source line earlier
    else
      match BreakpointSpec.leading? r.specs line with
      | none => []
      | some spec =>
        if r.modified || (BreakpointSpec.leading? (asked earlier.reverse source) line).isNone then
          []
        else spec :: revisersFrom source line earlier

/-- The entries that have revised what is kept on a line of a source since it was created, the last
one first. -/
def revisers (history : List LineRequest) (source : String) (line : UInt32) :
    List BreakpointSpec :=
  revisersFrom source line history.reverse

theorem revisers_concat (history : List LineRequest) (r : LineRequest) :
    revisers (history ++ [r]) source line =
      if r.source ≠ source then revisers history source line
      else
        match BreakpointSpec.leading? r.specs line with
        | none => []
        | some spec =>
          if r.modified || (BreakpointSpec.leading? (asked history source) line).isNone then []
          else spec :: revisers history source line := by
  rw [revisers, List.reverse_append, List.reverse_singleton, List.singleton_append, revisersFrom,
    List.reverse_reverse, revisers]

end LineRequest

/-! ## What is said -/

namespace Breakpoint

variable {bp bp' : Breakpoint} {warning : String}

/-- What is said of a breakpoint for which `lead` is asked and which `revisers` have revised. -/
def said (bp : Breakpoint) (lead : BreakpointSpec) (revisers : List BreakpointSpec) :
    Option String :=
  if bp.location.isSome then lead.options.2
  else some ((revisers.findSome? fun spec => spec.options.2).getD bp.unresolvedText)

theorem unresolvedText_congr (source : bp.source = bp'.source) (line : bp.line = bp'.line) :
    bp.unresolvedText = bp'.unresolvedText := by
  unfold unresolvedText
  rw [source, line]

/-- What is said once an entry has revised a breakpoint, if those are verified whose places are
known. -/
theorem said_revised (located : bp.installation.verified = bp.location.isSome)
    {lead spec : BreakpointSpec} {revisers : List BreakpointSpec}
    (told : bp.installation.message = bp.said lead revisers) :
    (Session.BreakpointSpec.revise spec bp.installation).message =
      bp.said spec (spec :: revisers) := by
  have message : (Session.BreakpointSpec.revise spec bp.installation).message =
      if spec.options.2.isSome || bp.installation.verified then spec.options.2
      else bp.installation.message := rfl
  rw [message, located, told]
  unfold said
  rw [List.findSome?_cons]
  cases bp.location <;> cases spec.options.2 <;> rfl

private theorem head?_append {a b : String} {c : Char} (first : a.toList.head? = some c) :
    (a ++ b).toList.head? = some c := by
  rw [String.toList_append, List.head?_append, first]
  rfl

/-- A warning never reads like the complaint of an unknown place. -/
theorem warning_ne_unresolvedText {spec : BreakpointSpec} (warned : spec.options.2 = some warning)
    (bp : Breakpoint) : warning ≠ bp.unresolvedText := by
  have unresolved : bp.unresolvedText.toList.head? = some 'U' := by
    have first : "Unable to resolve a class for ".toList.head? = some 'U' := by decide
    exact head?_append (head?_append (head?_append first))
  have refused : ∃ fault : HitCondition.Fault, fault.message = warning := by
    simp only [BreakpointSpec.options, readHitCondition] at warned
    split at warned
    · cases warned
    · split at warned
      · cases warned
      · exact ⟨_, Option.some.inj warned⟩
  obtain ⟨fault, rfl⟩ := refused
  intro same
  rw [← same] at unresolved
  cases fault with
  | malformed text =>
    have first : "Invalid hit condition: ".toList.head? = some 'I' := by decide
    cases unresolved.symm.trans (head?_append first)
  | zeroModulus => exact absurd unresolved (by decide)

/-- The same is said as of a new breakpoint if its place is known or no hit condition was refused
since it was created. -/
theorem said_eq_due_iff {lead : BreakpointSpec} {revisers : List BreakpointSpec} :
    bp.said lead revisers = bp.due lead.options.2 ↔
      bp.location.isSome = true ∨ ∀ spec ∈ revisers, spec.options.2 = none := by
  unfold said due
  by_cases located : bp.location.isSome = true
  · simp [located]
  · rw [if_neg located, if_neg located, Option.some.injEq, ← List.findSome?_eq_none_iff]
    cases refused : revisers.findSome? fun spec => spec.options.2 with
    | none => simp
    | some warning =>
      obtain ⟨spec, -, warned⟩ := List.exists_of_findSome?_eq_some refused
      simp [located, warning_ne_unresolvedText warned bp]

end Breakpoint

namespace Session

variable {V : Type} {providers : Providers} {history : List LineRequest} {r : LineRequest}
  {answer : List Breakpoint} {xs : List Exchange} {s s' : Session V}

/-! ## One request after the other -/

/-- A session that has dealt with some requests shows what was asked for last, and says of it what
their entries come to. -/
structure Explains (providers : Providers) (history : List LineRequest) (s : Session V) : Prop
    extends Follows providers history s where
  told : Smooth s.calls → ∀ source line bp, s.breakpoints.breakpoint? source line = some bp →
    ∃ lead, BreakpointSpec.leading? (LineRequest.asked history source) line = some lead ∧
      bp.installation.message = bp.said lead (LineRequest.revisers history source line)

theorem explains_start (machine : V) (settings : Settings) (providers : Providers) :
    Explains providers [] (start machine settings providers) :=
  { follows_start machine settings providers with told := by rintro - source line bp ⟨⟩ }

/-- Nothing stays on a line if everything is removed, or if nothing was asked for there. -/
private theorem Follows.staying_eq_none_iff (h : Follows providers history s)
    (smooth : Smooth s.calls) (r : LineRequest) (line : UInt32) :
    staying s.breakpoints r.source r.modified line = none ↔ (r.modified ||
      (BreakpointSpec.leading? (LineRequest.asked history r.source) line).isNone) = true := by
  have seen := congrArg Option.isNone (h.shows smooth r.source line)
  simp only [Option.isNone_map] at seen
  unfold staying BreakpointSpec.leading?
  rw [← seen]
  cases r.modified <;> simp

/-- What stays has been revised once more, and what has not stayed is created. -/
private theorem Explains.reconciled (h : Explains providers history s) (smooth : Smooth s.calls)
    (made : Reconciled r.source (staying s.breakpoints r.source r.modified) r.specs answer xs s s')
    (smooth' : Smooth xs) {line : UInt32} {bp : Breakpoint}
    (stored : s'.breakpoints.breakpoint? r.source line = some bp) :
    ∃ lead, BreakpointSpec.leading? r.specs line = some lead ∧
      bp.installation.message =
        bp.said lead (LineRequest.revisers (history ++ [r]) r.source line) := by
  have asked := (made.lines line).1 (by rw [stored]; rfl)
  obtain ⟨lead, leads, rfl⟩ := BreakpointSpec.exists_leading asked
  have first : BreakpointSpec.leading? r.specs lead.line = some lead :=
    BreakpointSpec.find_leading leads
  refine ⟨lead, first, ?_⟩
  rw [LineRequest.revisers_concat, if_neg (not_not.2 rfl), first]
  have gone := h.staying_eq_none_iff smooth r lead.line
  cases stays : staying s.breakpoints r.source r.modified lead.line with
  | some old =>
    rw [stays] at gone
    have there := stays_there stays
    obtain ⟨new, stored', revised⟩ := made.revised lead leads old stays
    obtain rfl := Option.some.inj (stored.symm.trans stored')
    -- What stays is verified just if its place is known, so a revision clears no other complaint.
    obtain ⟨-, -, -, located⟩ := (h.shows smooth r.source).seen there
    obtain ⟨lead₀, -, told⟩ := h.told smooth r.source lead.line old there
    have said : bp.said = old.said := by rw [revised.same]; rfl
    rw [revised.message smooth' located, Breakpoint.said_revised located told, said]
    dsimp only
    rw [if_neg (mt gone.2 (Option.some_ne_none old))]
  | none =>
    obtain ⟨k, found⟩ := exists_missing leads stays
    obtain ⟨new, stored', created⟩ := made.created k lead found
    obtain rfl := Option.some.inj (stored.symm.trans stored')
    rw [created.message smooth']
    dsimp only
    rw [if_pos (gone.1 stays)]
    rfl

variable [Machine V]

/-- A request for the breakpoints on the lines of a source is dealt with. -/
def dealWith (s : Session V) (r : LineRequest) :
    Except SessionError (List Breakpoint) × Session V :=
  (setBreakpoints r.source r.specs r.modified).run.run advance s

/-- A request is answered if no call fails, and the calls before it have not failed either. -/
private theorem dealWith_reconciled (filed : s.breakpoints.Filed) (r : LineRequest)
    (smooth : Smooth (s.dealWith r).2.calls) :
    Smooth s.calls ∧ ∃ answer xs, (s.dealWith r).1 = .ok answer ∧ Smooth xs ∧
      Worked r.source xs s (s.dealWith r).2 ∧
      Reconciled r.source (staying s.breakpoints r.source r.modified) r.specs answer xs s
        (s.dealWith r).2 := by
  have carried : Carried r.source _ s _ (s.dealWith r).1 (s.dealWith r).2 :=
    setBreakpoints_works r.source r.specs r.modified filed
  exact carried.of_smooth smooth

private theorem Explains.step (h : Explains providers history s) (steady : Steady providers.lookup)
    (r : LineRequest) : Explains providers (history ++ [r]) (s.dealWith r).2 := by
  refine { h.toFollows.step steady r with told := fun smooth source line bp stored => ?_ }
  obtain ⟨smooth, answer, xs, -, smooth', worked, made⟩ := dealWith_reconciled h.filed r smooth
  rw [LineRequest.asked_concat]
  by_cases same : r.source = source
  · subst same
    rw [if_pos rfl]
    exact h.reconciled smooth made smooth' stored
  · rw [if_neg same, LineRequest.revisers_concat, if_pos same]
    rw [Breakpoints.breakpoint?, worked.others source (Ne.symm same)] at stored
    exact h.told smooth source line bp stored

private theorem Explains.run (h : Explains providers history s) (steady : Steady providers.lookup)
    (rest : List LineRequest) : Explains providers (history ++ rest) (s.afterRequests rest) := by
  induction rest generalizing history s with
  | nil => exact (List.append_nil history).symm ▸ h
  | cons r rest ih =>
    have after := ih (h.step steady r)
    rwa [List.append_assoc] at after

/-! ## Compared with a new session -/

/-- What is answered to an entry if no call fails: what is asked for, and what the entries so far
come to. -/
private theorem Explains.answered (h : Explains providers history s)
    (steady : Steady providers.lookup) (r : LineRequest) (smooth : Smooth (s.dealWith r).2.calls) :
    ∃ answer, (s.dealWith r).1 = .ok answer ∧ answer.length = r.specs.length ∧
      ∀ (i : Nat) spec, r.specs[i]? = some spec → ∃ lead bp,
        BreakpointSpec.leading? r.specs spec.line = some lead ∧ answer[i]? = some bp ∧
        bp.source = r.source ∧ bp.line = spec.line ∧
        bp.view = lead.view providers.lookup r.source ∧ bp.installation.message =
          bp.said lead (LineRequest.revisers (history ++ [r]) r.source spec.line) := by
  obtain ⟨-, answer, xs, success, -, worked, made⟩ := dealWith_reconciled h.filed r smooth
  refine ⟨answer, success, by simpa using congrArg List.length made.answer, ?_⟩
  intro i spec entry
  have after := h.step steady r
  have there : answer[i]?.map some = r.specs[i]?.map fun spec =>
      (s.dealWith r).2.breakpoints.breakpoint? r.source spec.line := by
    simpa using congrArg (·[i]?) made.answer
  rw [entry, Option.map_some] at there
  obtain ⟨bp, given, stored⟩ := Option.map_eq_some_iff.1 there
  obtain ⟨source, line⟩ := after.filed.keyed _ _ bp stored.symm
  obtain ⟨lead, leads, told⟩ := after.told smooth _ _ bp stored.symm
  have shown := after.shows smooth r.source spec.line
  rw [LineRequest.asked_concat, if_pos rfl] at leads shown
  rw [← stored, after.providers, show r.specs.find? (·.line = spec.line) = some lead from leads]
    at shown
  exact ⟨lead, bp, leads, given, source, line, Option.some.inj shown, told⟩

/-- An entry is answered with the words of a new session if the place is known, and otherwise just
when no hit condition was refused for what is on the line since it was created. -/
theorem message_as_new_iff (machine machine' : V) (settings settings' : Settings)
    (providers : Providers) (steady : Steady providers.lookup) (history : List LineRequest)
    (r : LineRequest)
    (smooth :
      Smooth (((start machine settings providers).afterRequests history).dealWith r).2.calls)
    (smooth' : Smooth ((start machine' settings' providers).dealWith r).2.calls) :
    ∃ answer answer',
      (((start machine settings providers).afterRequests history).dealWith r).1 = .ok answer ∧
      ((start machine' settings' providers).dealWith r).1 = .ok answer' ∧
      answer.length = r.specs.length ∧ answer'.length = r.specs.length ∧
      ∀ (i : Nat) spec, r.specs[i]? = some spec → ∃ lead bp bp',
        BreakpointSpec.leading? r.specs spec.line = some lead ∧
        answer[i]? = some bp ∧ answer'[i]? = some bp' ∧
        bp.source = r.source ∧ bp.line = spec.line ∧
        bp'.source = r.source ∧ bp'.line = spec.line ∧
        bp.view = lead.view providers.lookup r.source ∧
        bp'.view = lead.view providers.lookup r.source ∧
        bp'.installation.message = bp'.due lead.options.2 ∧
        bp.installation.message =
          bp.said lead (LineRequest.revisers (history ++ [r]) r.source spec.line) ∧
        (bp.installation.message = bp'.installation.message ↔ bp.location.isSome = true ∨
          ∀ e ∈ LineRequest.revisers (history ++ [r]) r.source spec.line, e.options.2 = none) := by
  have explained := (explains_start machine settings providers).run steady history
  obtain ⟨answer, success, length, each⟩ := explained.answered steady r smooth
  obtain ⟨answer', success', length', each'⟩ :=
    (explains_start machine' settings' providers).answered steady r smooth'
  refine ⟨answer, answer', success, success', length, length', ?_⟩
  intro i spec entry
  obtain ⟨lead, bp, leads, given, source, line, view, told⟩ := each i spec entry
  obtain ⟨lead', bp', leads', given', source', line', view', told'⟩ := each' i spec entry
  obtain rfl := Option.some.inj (leads.symm.trans leads')
  -- In a new session nothing has been revised.
  have created : LineRequest.revisers ([] ++ [r]) r.source spec.line = [] := by
    rw [LineRequest.revisers_concat, if_neg (not_not.2 rfl), leads]
    exact if_pos (Bool.or_true _)
  have due : bp'.installation.message = bp'.due lead.options.2 := by
    rw [told', created]
    rfl
  have same : bp'.due lead.options.2 = bp.due lead.options.2 := by
    have location : bp'.location = bp.location :=
      congrArg BreakpointView.location (view'.trans view.symm)
    have text : bp'.unresolvedText = bp.unresolvedText :=
      Breakpoint.unresolvedText_congr (source'.trans source.symm) (line'.trans line.symm)
    rw [Breakpoint.due, Breakpoint.due, location, text]
  refine ⟨lead, bp, bp', leads, given, given', source, line, source', line', view, view', due,
    told, ?_⟩
  rw [due, told, same]
  exact Breakpoint.said_eq_due_iff

/-- A hit condition for a line is refused, and another source is asked for. -/
def refusedOnce : List LineRequest :=
  [⟨"A.java", [{ line := 7 }], false⟩,
    ⟨"A.java", [{ line := 7, hitCondition := some "x" }], false⟩,
    ⟨"B.java", [{ line := 1 }], false⟩]

/-- The place of one line is known, and for the other one no hit condition was refused. -/
theorem message_as_new_iff_refused_once :
    let s := (start ({} : Debuggee) {} oneLine).afterRequests refusedOnce
    let new := start ({} : Debuggee) {} oneLine
    ∀ r ∈ [⟨"A.java", [{ line := 7 }], false⟩, ⟨"B.java", [{ line := 1 }], false⟩],
      ∃ bp bp', (s.dealWith r).1 = .ok [bp] ∧ (new.dealWith r).1 = .ok [bp'] ∧
        bp.installation.message = bp'.installation.message := by
  intro s new r mem
  have steady : Steady oneLine.lookup := by
    rintro l ⟨⟩ source line column column'
    rfl
  obtain ⟨smooth, smooth', one, good⟩ : Smooth (s.dealWith r).2.calls ∧
      Smooth (new.dealWith r).2.calls ∧ r.specs.length = 1 ∧ ∀ spec ∈ r.specs,
        ((BreakpointSpec.leading? r.specs spec.line).all fun lead =>
          (lead.location oneLine.lookup r.source).isSome) = true ∨
        ∀ e ∈ LineRequest.revisers (refusedOnce ++ [r]) r.source spec.line,
          e.options.2 = none := by
    revert r
    decide +kernel
  obtain ⟨answer, answer', success, success', length, length', each⟩ :=
    message_as_new_iff ({} : Debuggee) {} {} {} oneLine steady refusedOnce r smooth smooth'
  obtain ⟨spec, specs⟩ := List.length_eq_one_iff.1 one
  obtain ⟨bp, rfl⟩ := List.length_eq_one_iff.1 (length.trans one)
  obtain ⟨bp', rfl⟩ := List.length_eq_one_iff.1 (length'.trans one)
  obtain ⟨lead, _, _, leads, ⟨⟩, ⟨⟩, -, -, -, -, view, -, -, -, same⟩ :=
    each 0 spec (by rw [specs]; rfl)
  have location : bp.location = lead.location oneLine.lookup r.source :=
    congrArg BreakpointView.location view
  refine ⟨bp, bp', success, success', same.2 ?_⟩
  have here := good spec (by simp [specs])
  rw [leads] at here
  rwa [location]

/-- Where the place is not known, a refused hit condition is told instead, and is still told when it
is asked for no more. -/
theorem refusal_remains :
    let s := (start ({} : Debuggee) {} {}).afterRequests refusedOnce
    let new : Session Debuggee := start {} {} {}
    let r : LineRequest := ⟨"A.java", [{ line := 7 }], false⟩
    let messages (answer : Except SessionError (List Breakpoint)) :
        Except SessionError (List (Option String)) :=
      answer.map (List.map fun bp => bp.installation.message)
    Steady new.providers.lookup ∧
      Smooth (s.dealWith r).2.calls ∧ Smooth (new.dealWith r).2.calls ∧
      messages (s.dealWith r).1 = .ok [some "Invalid hit condition: x"] ∧
      messages (new.dealWith r).1 = .ok [some "Unable to resolve a class for A.java:7"] := by
  have steady : Steady none := by rintro l ⟨⟩
  exact ⟨steady, by decide +kernel⟩

end Session
end DebugSession
