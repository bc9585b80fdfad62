import DebugSession.Proofs.Fields
import Mathlib.Data.List.TakeWhile
/-!
What the expressions stand for that need no compiler: names, and paths of fields. In a frame such an
expression stands for a value or for none, and to evaluate it brings that value or fails. What a
path stands for is a member of what the path before its last point stands for.
-/

namespace DebugSession

/-! ## Text -/

namespace Text

variable {sep c : Char} {cs a b : List Char}

theorem pieces_ne_nil (sep : Char) (cs : List Char) : pieces sep cs ≠ [] := by
  cases cs with
  | nil => exact List.cons_ne_nil _ _
  | cons c cs =>
    unfold pieces
    split
    · exact List.cons_ne_nil _ _
    · split <;> exact List.cons_ne_nil _ _

theorem pieces_cons_of_ne (other : c ≠ sep) {first : List Char} {rest : List (List Char)}
    (h : pieces sep cs = first :: rest) : pieces sep (c :: cs) = (c :: first) :: rest := by
  rw [pieces, if_neg other, h]

theorem pieces_of_free (free : sep ∉ cs) : pieces sep cs = [cs] := by
  induction cs with
  | nil => rfl
  | cons c cs ih =>
    obtain ⟨other, free⟩ := List.ne_and_not_mem_of_not_mem_cons free
    exact pieces_cons_of_ne other.symm (ih free)

theorem pieces_append (sep : Char) (a b : List Char) :
    pieces sep (a ++ sep :: b) = pieces sep a ++ pieces sep b := by
  induction a with
  | nil =>
    show pieces sep (sep :: b) = [] :: pieces sep b
    rw [pieces, if_pos rfl]
  | cons c a ih =>
    rw [List.cons_append]
    by_cases same : c = sep
    · rw [pieces, if_pos same, ih, pieces, if_pos same, List.cons_append]
    · obtain ⟨first, rest, parts⟩ := List.exists_cons_of_ne_nil (pieces_ne_nil sep a)
      rw [pieces_cons_of_ne same parts]
      rw [parts, List.cons_append] at ih
      exact pieces_cons_of_ne same ih

theorem exists_piece (mem : c ∈ cs) (other : c ≠ sep) : ∃ p ∈ pieces sep cs, c ∈ p := by
  induction cs with
  | nil => cases mem
  | cons d cs ih =>
    obtain ⟨first, rest, parts⟩ := List.exists_cons_of_ne_nil (pieces_ne_nil sep cs)
    by_cases here : d = sep
    · obtain ⟨p, there, inside⟩ := ih ((List.mem_cons.1 mem).resolve_left fun same =>
        other (same.trans here))
      rw [pieces, if_pos here]
      exact ⟨p, List.mem_cons_of_mem _ there, inside⟩
    · rw [pieces_cons_of_ne here parts]
      rcases List.mem_cons.1 mem with rfl | later
      · exact ⟨c :: first, List.mem_cons_self, List.mem_cons_self⟩
      · obtain ⟨p, there, inside⟩ := ih later
        rw [parts] at there
        rcases List.mem_cons.1 there with rfl | there
        · exact ⟨d :: p, List.mem_cons_self, List.mem_cons_of_mem _ inside⟩
        · exact ⟨p, List.mem_cons_of_mem _ there, inside⟩

theorem mem_dropWhile {p : Char → Bool} (mem : c ∈ cs) (stays : p c = false) :
    c ∈ cs.dropWhile p := by
  rcases List.mem_append.1 (List.takeWhile_append_dropWhile (p := p) (l := cs) ▸ mem) with
    dropped | kept
  · exact nomatch stays.symm.trans (List.mem_takeWhile_imp dropped)
  · exact kept

theorem mem_trim (mem : c ∈ cs) (plain : isBlank c = false) : c ∈ trim cs := by
  unfold trim trimEnd dropEndWhile
  refine List.mem_reverse.2 (mem_dropWhile (List.mem_reverse.2 ?_) plain)
  exact mem_dropWhile mem plain

/-- Of a path that does not end in white space, only the beginning is trimmed. -/
theorem trim_path (last : ∀ c, b.getLast? = some c → isBlank c = false) :
    trim (a ++ '.' :: b) = trimStart a ++ '.' :: b := by
  have start : trimStart (a ++ '.' :: b) = trimStart a ++ '.' :: b := by
    unfold trimStart
    rw [List.dropWhile_append]
    split
    · rename_i all
      rw [List.isEmpty_iff.1 all, List.dropWhile_cons_of_neg (by decide)]
      rfl
    · rfl
  unfold trim
  rw [start, trimEnd_eq_self]
  intro c same
  cases b with
  | nil =>
    rw [List.getLast?_append_cons] at same
    obtain rfl := Option.some.inj same
    decide
  | cons d b =>
    refine last c ?_
    rw [List.getLast?_append_cons] at same
    exact same

/-- The characters of names. -/
def isPart (c : Char) : Bool := isAlphabetic c || isNumeric c || c = '_' || c = '$'

theorem isPart_of_isIdentifier (h : isIdentifier cs = true) (mem : c ∈ cs) : isPart c = true := by
  cases cs with
  | nil => cases mem
  | cons d cs =>
    unfold isIdentifier at h
    obtain ⟨first, others⟩ := Bool.and_eq_true_iff.1 h
    rcases List.mem_cons.1 mem with rfl | mem
    · unfold isPart
      simp only [Bool.or_eq_true] at first ⊢
      tauto
    · exact List.all_eq_true.1 others c mem

private def blankCodes : List Nat :=
  [9, 10, 11, 12, 13, 0x20, 0x85, 0xA0, 0x1680, 0x2000, 0x2001, 0x2002, 0x2003, 0x2004, 0x2005,
    0x2006, 0x2007, 0x2008, 0x2009, 0x200A, 0x2028, 0x2029, 0x202F, 0x205F, 0x3000]

private theorem mem_blankCodes (h : isBlank c = true) : c.toNat ∈ blankCodes := by
  unfold isBlank at h
  simp only [Bool.or_eq_true, Bool.and_eq_true, decide_eq_true_eq] at h
  unfold blankCodes
  simp only [List.mem_cons, List.not_mem_nil, or_false]
  omega

theorem not_isBlank_of_isPart (h : isPart c = true) : isBlank c = false := by
  by_contra blank
  have listed := mem_blankCodes (by simpa using blank)
  have none : ∀ n ∈ blankCodes, isPart (Char.ofNat n) = false := by
    simp only [isPart, isAlphabetic, isNumeric, inRanges, ← Array.any_toList]
    decide +kernel
  have never := none _ listed
  rw [Char.ofNat_toNat] at never
  cases h.symm.trans never

/-- A path of names has no white space around it. -/
theorem trimEnd_of_names (names : ∀ p ∈ pieces '.' cs, isIdentifier p = true) :
    trimEnd cs = cs := by
  refine trimEnd_eq_self fun c last => ?_
  have mem : c ∈ cs := List.mem_of_getLast? last
  by_cases point : c = '.'
  · rw [point]
    decide
  · obtain ⟨p, there, inside⟩ := exists_piece mem point
    exact not_isBlank_of_isPart (isPart_of_isIdentifier (names p there) inside)

/-- A name that may stand behind a point: it has none itself, and there is no white space around
it. -/
def Simple (name : String) : Prop := '.' ∉ name.toList ∧ trimmed name = name

instance (name : String) : Decidable (Simple name) := inferInstanceAs (Decidable (_ ∧ _))

theorem Simple.last {name : String} (h : Simple name) (last : name.toList.getLast? = some c) :
    isBlank c = false := by
  have same : trim name.toList = name.toList := by
    rw [← String.toList_ofList (l := trim name.toList)]
    exact congrArg String.toList h.2
  unfold trim trimEnd dropEndWhile at same
  rw [← same, List.getLast?_reverse] at last
  have stops := List.head?_dropWhile_not isBlank (trimStart name.toList).reverse
  rw [last] at stops
  simpa using stops

end Text

/-! ## What expressions stand for -/

namespace Frame

/-- The value of the first variable of a name, if the frame tells of its variables. -/
def valueOf? (f : Frame) (name : String) : Option Value :=
  if f.native || f.absentInformation then none
  else (f.locals.find? fun l => l.1.name = name).map (·.2)

end Frame

namespace Debuggee

/-- The value of a field by its name; the class itself comes before its superclasses. An array has
a length. -/
def fieldOf? (d : Debuggee) (o : ObjectRef) (name : String) : Option Value :=
  if o.isArray then
    if name = "length" then
      (d.objects.get? o.id).map fun h =>
        .int (Int32.ofInt (min h.elements.length (Number.maxSigned 32)))
    else none
  else
    ((d.fieldsOf o.typeName).find? fun f => f.name = name).bind fun f =>
      if f.isStatic then some (storedValue d.statics f)
      else (d.objects.get? o.id).map fun h => storedValue h.fields f

/-- What stands behind a point after something that stands for a value. -/
def member? (d : Debuggee) (value : Value) (name : String) : Option Value :=
  match value with
  | .object o => if Text.isIdentifier name.toList then d.fieldOf? o name else none
  | _ => none

/-- What a name stands for in a frame: `this`, the first variable of that name, or a field. -/
def named? (d : Debuggee) (f : Frame) (name : String) : Option Value :=
  if name = "this" then f.this.map .object
  else (f.valueOf? name).or (f.this.bind fun o => d.fieldOf? o name)

/-- What an expression stands for in a frame. -/
def denoted? (d : Debuggee) (f : Frame) (expression : String) : Option Value :=
  match Session.segments (Text.trimmed expression) with
  | [] => none
  | head :: rest =>
    if Text.isIdentifier head.toList then (d.named? f head).bind fun value =>
      rest.foldlM d.member? value
    else none

variable {d : Debuggee} {f : Frame} {value w : Value} {path : List String}

/-- The name of a field of an object brings its value if no other field of that name comes first. -/
theorem fieldOf?_foremost {o : ObjectRef} {h : HeapObject} {g : Field} (single : o.isArray = false)
    (there : d.object o.id = .ok h) (own : g.isStatic = false)
    (first : (d.fieldsOf o.typeName).find? (fun g' => g'.name = g.name) = some g) :
    d.fieldOf? o g.name = some (storedValue h.fields g) := by
  have held : d.objects.get? o.id = some h := by
    unfold Debuggee.object at there
    cases known : d.objects.get? o.id with
    | none => rw [known] at there; cases there
    | some h' => rw [known] at there; rw [Except.ok.inj there]
  unfold fieldOf?
  rw [single, if_neg Bool.false_ne_true, first, Option.bind_some, own, if_neg Bool.false_ne_true,
    held]
  rfl

theorem isIdentifier_of_member? {name : String} (h : d.member? value name = some w) :
    Text.isIdentifier name.toList = true := by
  unfold member? at h
  split at h
  · split at h
    · assumption
    · cases h
  · cases h

theorem member?_object (o : ObjectRef) {name : String}
    (identifier : Text.isIdentifier name.toList = true) :
    d.member? (.object o) name = d.fieldOf? o name := if_pos identifier

theorem names_of_foldlM (h : path.foldlM d.member? value = some w) :
    ∀ name ∈ path, Text.isIdentifier name.toList = true := by
  induction path generalizing value with
  | nil => exact List.forall_mem_nil _
  | cons name rest ih =>
    rw [List.foldlM_cons] at h
    obtain ⟨u, first, others⟩ := Option.bind_eq_some_iff.1 h
    exact List.forall_mem_cons.2 ⟨isIdentifier_of_member? first, ih others⟩

theorem segments_trimmed (expression : String) : Session.segments (Text.trimmed expression) =
    (Text.pieces '.' (Text.trim expression.toList)).map String.ofList := by
  unfold Session.segments Text.trimmed
  rw [String.toList_ofList]

/-- An expression that stands for something is a path of names. -/
theorem names_of_denoted? {expression : String} (h : d.denoted? f expression = some w) :
    ∀ p ∈ Text.pieces '.' (Text.trim expression.toList), Text.isIdentifier p = true := by
  unfold denoted? at h
  rw [segments_trimmed] at h
  obtain ⟨first, rest, parts⟩ :=
    List.exists_cons_of_ne_nil (Text.pieces_ne_nil '.' (Text.trim expression.toList))
  rw [parts, List.map_cons] at h
  dsimp only at h
  rw [parts]
  split at h
  · rename_i named
    rw [String.toList_ofList] at named
    obtain ⟨value, -, walked⟩ := Option.bind_eq_some_iff.1 h
    refine List.forall_mem_cons.2 ⟨named, fun p mem => ?_⟩
    have names := names_of_foldlM walked _ (List.mem_map_of_mem mem)
    rwa [String.toList_ofList] at names
  · cases h

/-- Whatever has other characters than names and points stands for nothing. -/
theorem denoted?_of_mem {expression : String} {c : Char} (mem : c ∈ expression.toList)
    (plain : Text.isBlank c = false) (point : c ≠ '.') (other : Text.isPart c = false) :
    d.denoted? f expression = none := by
  cases h : d.denoted? f expression with
  | none => rfl
  | some w =>
    obtain ⟨p, there, inside⟩ := Text.exists_piece (Text.mem_trim mem plain) point
    have part := Text.isPart_of_isIdentifier (names_of_denoted? h p there) inside
    exact nomatch other.symm.trans part

/-- A simple name stands for what it is the name of. -/
theorem denoted?_name {name : String} (simple : Text.Simple name)
    (h : d.denoted? f name = some w) : d.named? f name = some w := by
  unfold denoted? Session.segments at h
  rw [simple.2, Text.pieces_of_free simple.1] at h
  simp only [List.map_cons, List.map_nil, String.ofList_toList] at h
  split at h
  · obtain ⟨value, stands, same⟩ := Option.bind_eq_some_iff.1 h
    obtain rfl := Option.some.inj same
    exact stands
  · cases h

/-- What a path stands for is a member of what the path before its last point stands for. -/
theorem denoted?_path {parent name : String} (simple : Text.Simple name)
    (h : d.denoted? f (parent ++ "." ++ name) = some w) :
    ∃ u, d.denoted? f parent = some u ∧ d.member? u name = some w := by
  let start := Text.trimStart parent.toList
  have whole : Text.trim (parent ++ "." ++ name).toList = start ++ '.' :: name.toList := by
    have chars : (parent ++ "." ++ name).toList = parent.toList ++ '.' :: name.toList := by
      rw [String.toList_append, String.toList_append, List.append_assoc]
      rfl
    rw [chars]
    exact Text.trim_path fun c last => simple.last last
  have parts : Text.pieces '.' (Text.trim (parent ++ "." ++ name).toList) =
      Text.pieces '.' start ++ [name.toList] := by
    rw [whole, Text.pieces_append, Text.pieces_of_free simple.1]
  have names := names_of_denoted? h
  rw [parts] at names
  -- There can be no white space before the point.
  have trimmed : Text.trim parent.toList = start :=
    Text.trimEnd_of_names fun p mem => names p (List.mem_append_left _ mem)
  obtain ⟨first, rest, cut⟩ := List.exists_cons_of_ne_nil (Text.pieces_ne_nil '.' start)
  unfold denoted? at h ⊢
  rw [segments_trimmed, parts, cut, List.cons_append, List.map_cons, List.map_append] at h
  rw [segments_trimmed, trimmed, cut, List.map_cons]
  dsimp only at h ⊢
  rw [cut] at names
  have named : Text.isIdentifier (String.ofList first).toList = true := by
    rw [String.toList_ofList]
    exact names first (List.mem_append_left _ List.mem_cons_self)
  rw [if_pos named] at h ⊢
  obtain ⟨value, stands, walked⟩ := Option.bind_eq_some_iff.1 h
  rw [List.foldlM_append] at walked
  obtain ⟨u, before, last⟩ := Option.bind_eq_some_iff.1 walked
  refine ⟨u, Option.bind_eq_some_iff.2 ⟨value, stands, before⟩, ?_⟩
  rw [List.map_singleton, String.ofList_toList, List.foldlM_cons] at last
  obtain ⟨w', reached, same⟩ := Option.bind_eq_some_iff.1 last
  exact reached.trans same

theorem Same.fieldsOf {d' : Debuggee} (h : Same d d') (typeName : String) :
    d'.fieldsOf typeName = d.fieldsOf typeName := by
  unfold Debuggee.fieldsOf
  rw [h.types]

theorem Same.fieldOf? {d' : Debuggee} (h : Same d d') (o : ObjectRef) (name : String) :
    d'.fieldOf? o name = d.fieldOf? o name := by
  unfold Debuggee.fieldOf?
  rw [h.fieldsOf, h.objects, h.statics]

theorem Same.member? {d' : Debuggee} (h : Same d d') : d'.member? = d.member? := by
  funext value name
  cases value <;> simp only [Debuggee.member?, h.fieldOf?]

theorem Same.denoted? {d' : Debuggee} (h : Same d d') (f : Frame) (expression : String) :
    d'.denoted? f expression = d.denoted? f expression := by
  unfold Debuggee.denoted? Debuggee.named?
  simp only [h.fieldOf?, h.member?]

end Debuggee

/-! ## Evaluation -/

namespace Session

variable {known : List FrameProxy} {s : Session Debuggee}

/-- Of an array the length is read by a name, and nothing else. -/
private theorem fieldValue?_array (known : List FrameProxy) (responsive : s.Responsive)
    {o : ObjectRef} (array : o.isArray = true) (name : String) :
    Produces (Peruses known) (fieldValue? o name) s fun r _ =>
      r.toOption.join = s.machine.fieldOf? o name := by
  unfold fieldValue? Debuggee.fieldOf?
  rw [if_pos array, if_pos array]
  by_cases length : name = "length"
  · rw [if_neg (not_not.2 length), if_pos length]
    have asked : Produces (Peruses known) (call (.arrayLength o.id)) s fun r _ =>
        r = (s.machine.object o.id).map fun h => h.elements.length :=
      lookup_produces rfl responsive
    unfold Debuggee.object at asked
    cases there : s.machine.objects.get? o.id with
    | none =>
      rw [there] at asked
      exact asked.bind_error.mono fun _ _ failed => failed ▸ rfl
    | some h =>
      rw [there] at asked
      exact asked.bind_ok fun _ _ => .pure rfl
  · rw [if_pos length, if_neg length]
    exact .pure rfl

/-- The value of a single field is that of the class if the field is static. -/
private theorem fieldValue_produces (known : List FrameProxy) (responsive : s.Responsive)
    (readable : s.machine.failingFieldReads = []) {o : ObjectRef} {t : ReferenceType}
    (loaded : s.machine.referenceType o.typeName = .ok t) (f : Field) :
    Produces (Peruses known) (do
      let values ← if f.isStatic then call (.staticFieldValues o.typeName [f])
        else call (.fieldValues o.id [f])
      return values.head? : Remote Debuggee (Option Value)) s fun r _ =>
        r.toOption.join =
          if f.isStatic then some (Debuggee.storedValue s.machine.statics f)
          else (s.machine.objects.get? o.id).map fun h => Debuggee.storedValue h.fields f := by
  cases f.isStatic with
  | true =>
    rw [if_pos rfl, if_pos rfl]
    exact (staticFieldValues_produces known responsive loaded [f]).bind_ok fun _ _ => .pure rfl
  | false =>
    rw [if_neg Bool.false_ne_true, if_neg Bool.false_ne_true]
    have legible : ∀ g ∈ [f], g.name ∉ s.machine.failingFieldReads := by simp [readable]
    have asked := fieldValues_produces known responsive legible o.id
    unfold Debuggee.object at asked
    cases there : s.machine.objects.get? o.id with
    | none =>
      rw [there] at asked
      exact asked.bind_error.mono fun _ _ failed => failed ▸ rfl
    | some h =>
      rw [there] at asked
      exact asked.bind_ok fun _ _ => .pure rfl

/-- A field of an object, as it is read. -/
theorem fieldValue?_produces (known : List FrameProxy) (responsive : s.Responsive)
    (readable : s.machine.failingFieldReads = []) (o : ObjectRef) (name : String) :
    Produces (Peruses known) (fieldValue? o name) s fun r _ =>
      r.toOption.join = s.machine.fieldOf? o name := by
  by_cases array : o.isArray = true
  · exact fieldValue?_array known responsive array name
  · unfold fieldValue? Debuggee.fieldOf?
    rw [if_neg array, if_neg array]
    have fields := allFields_produces known responsive o.typeName
    cases loaded : s.machine.referenceType o.typeName with
    | error e =>
      rw [loaded] at fields
      rw [Debuggee.fieldsOf_unloaded loaded]
      exact fields.bind_error.mono fun _ _ failed => failed ▸ rfl
    | ok t =>
      rw [loaded] at fields
      refine fields.bind_ok fun s₁ moved => ?_
      cases (s.machine.fieldsOf o.typeName).find? fun f => f.name = name with
      | none => exact .pure rfl
      | some f =>
        have same := moved.machine.same
        have loaded₁ : s₁.machine.referenceType o.typeName = .ok t := by
          unfold Debuggee.referenceType at *
          rw [same.types, loaded]
        have read := fieldValue_produces known (moved.responsive responsive)
          (same.failingFieldReads.trans readable) loaded₁ f
        rw [same.statics, same.objects] at read
        exact read

private theorem orFail_fieldValue? (known : List FrameProxy) (responsive : s.Responsive)
    (readable : s.machine.failingFieldReads = []) (o : ObjectRef) (name : String) :
    Produces (Peruses known) ((fieldValue? o name).orFail .remote) s fun r _ =>
      r.toOption.join = s.machine.fieldOf? o name :=
  (fieldValue?_produces known responsive readable o name).adapt fun r _ same => by
    rw [← same]
    cases r <;> rfl

/-- To follow a path brings what the path stands for. -/
theorem walkFields_produces (known : List FrameProxy) (responsive : s.Responsive)
    (readable : s.machine.failingFieldReads = []) (expression : String) (value : Value)
    (path : List String) :
    Produces (Peruses known) (walkFields expression value path) s fun r _ =>
      r.toOption = path.foldlM s.machine.member? value := by
  induction path generalizing value s with
  | nil => exact .pure rfl
  | cons name rest ih =>
    rw [List.foldlM_cons]
    unfold walkFields
    cases identifier : Text.isIdentifier name.toList with
    | false =>
      rw [if_pos (by decide)]
      refine .throw_bind ?_
      have nothing : s.machine.member? value name = none := by
        refine Option.eq_none_iff_forall_ne_some.2 fun w stands => ?_
        cases identifier.symm.trans (Debuggee.isIdentifier_of_member? stands)
      rw [nothing]
      rfl
    | true =>
      rw [if_neg (by decide)]
      cases value with
      | object o =>
        rw [Debuggee.member?_object o identifier]
        show Produces (Peruses known) ((fieldValue? o name).orFail .remote >>= _) s _
        refine (orFail_fieldValue? known responsive readable o name).bind ?_ ?_
        · rintro found s₁ moved brought
          have same := moved.machine.same
          rw [← brought]
          cases found with
          | none => exact .throw rfl
          | some value =>
            have rest := ih (moved.responsive responsive)
              (same.failingFieldReads.trans readable) value
            rw [same.member?] at rest
            exact rest
        · rintro e s₁ failed
          rw [← failed]
          rfl
      | _ => exact .throw_bind rfl

/-- A session that gets its answers, and that finds a frame through a proxy. -/
structure Facing (p : FrameProxy) (f : Frame) (s : Session Debuggee) : Prop where
  tracks : Tracks [p] s
  responsive : s.Responsive
  readable : s.machine.failingFieldReads = []
  stands : s.machine.standing? p.thread p.depth = some f

section

variable {p : FrameProxy} {f : Frame} {s' : Session Debuggee}

theorem Facing.surveys (h : Facing p f s) (moved : Surveys [p] s s') : Facing p f s' where
  tracks := moved.tracks h.tracks
  responsive := moved.responsive h.responsive
  readable := moved.alike.machine.failingFieldReads.trans h.readable
  stands := (moved.alike.machine.standing _ _).trans h.stands

/-- What is asked of the frame, it answers. -/
theorem Facing.through (h : Facing p f s) (op : FrameOperation) (reads : op.isRead = true) :
    Produces (Peruses [p]) (op.through p) s fun r _ => r = (op.onFrame f).1 := by
  refine (through_produces List.mem_cons_self reads h.tracks).mono fun r _ sees => ?_
  have answered := sees h.responsive
  rwa [h.stands] at answered

theorem value_of_named {name : String} {v : LocalVariable} {value : Value}
    (found : f.locals.find? (fun l => l.1.name = name) = some (v, value)) :
    Debuggee.Frame.value f v = .ok value := by
  obtain ⟨named, before, after, parts, others⟩ := List.find?_eq_some_iff_append.1 found
  have first : f.locals.find? (fun l => l.1 = v) = some (v, value) := by
    refine List.find?_eq_some_iff_append.2 ⟨decide_eq_true rfl, before, after, parts, ?_⟩
    intro l mem
    have other := others l mem
    simp only [Bool.not_eq_true', decide_eq_false_iff_not] at other ⊢
    rintro rfl
    exact other (by simpa using named)
  unfold Debuggee.Frame.value
  rw [first]

theorem localValue?_produces (h : Facing p f s) (name : String) :
    Produces (Peruses [p]) (localValue? p name) s fun r _ => r = .ok (f.valueOf? name) := by
  unfold localValue? Frame.valueOf?
  refine .attempt_bind (h.through .visibleVariables rfl) ?_
  rintro r s₁ moved rfl
  dsimp only [FrameOperation.onFrame]
  cases f.native || f.absentInformation with
  | true => exact .pure rfl
  | false =>
    rw [if_neg Bool.false_ne_true, if_neg Bool.false_ne_true]
    dsimp only
    rw [List.find?_map]
    cases found : f.locals.find? fun l => l.1.name = name with
    | none =>
      have unknown : f.locals.find? ((fun v => decide (v.name = name)) ∘ fun l => l.1) = none :=
        found
      rw [unknown]
      exact .pure rfl
    | some entry =>
      obtain ⟨v, value⟩ := entry
      have known : f.locals.find? ((fun v => decide (v.name = name)) ∘ fun l => l.1) =
          some (v, value) := found
      rw [known]
      have values := (h.surveys moved.toSurveys).through (.localValues [v]) rfl
      have brought : ((FrameOperation.localValues [v]).onFrame f).1 = .ok [value] := by
        show [v].mapM (Debuggee.Frame.value f) = .ok [value]
        rw [List.mapM_cons, value_of_named found]
        rfl
      rw [brought] at values
      have asked : Produces (Peruses [p]) ((localValues p [v]).orFail .remote) s₁ fun r _ =>
          r = .ok [value] := values.adapt fun r _ same => same ▸ rfl
      exact asked.bind_ok fun _ _ => .pure rfl

theorem resolveName_produces (h : Facing p f s) (name : String) :
    Produces (Peruses [p]) (resolveName p name) s fun r _ =>
      r.toOption = s.machine.named? f name := by
  unfold resolveName Debuggee.named?
  have this : Produces (Peruses [p]) ((thisObject p).orFail .remote) s fun r _ =>
      r = .ok f.this := (h.through .thisObject rfl).adapt fun r _ same => same ▸ rfl
  refine this.bind_ok fun s₁ moved => ?_
  have h₁ := h.surveys moved.toSurveys
  dsimp only
  by_cases self : name = "this"
  · rw [if_pos self, if_pos self]
    cases f.this with
    | none => exact .throw rfl
    | some o => exact .pure rfl
  · rw [if_neg self, if_neg self]
    refine (localValue?_produces h₁ name).bind_ok fun s₂ moved₂ => ?_
    have h₂ := h₁.surveys moved₂.toSurveys
    cases f.valueOf? name with
    | some value => exact .pure rfl
    | none =>
      cases f.this with
      | none => exact .throw rfl
      | some o =>
        have same := (Composes.trans moved moved₂ : Peruses [p] s s₂).machine.same
        have field := orFail_fieldValue? [p] h₂.responsive h₂.readable o name
        rw [same.fieldOf?] at field
        refine field.bind ?_ ?_
        · rintro found s₃ - brought
          show Produces _ _ _ fun r _ => r.toOption = s.machine.fieldOf? o name
          rw [← brought]
          cases found with
          | none => exact .throw rfl
          | some value => exact .pure rfl
        · rintro e s₃ failed
          exact failed

/-- To evaluate an expression brings what it stands for, or fails if it stands for nothing. -/
theorem evaluateNames_settles (h : Facing p f s) (expression : String) :
    Settles (evaluateNames p expression) s fun r _ =>
      r.toOption = s.machine.denoted? f expression := by
  unfold evaluateNames Debuggee.denoted?
  dsimp only
  cases segments (Text.trimmed expression) with
  | nil => rfl
  | cons head rest =>
    dsimp only
    cases identifier : Text.isIdentifier head.toList with
    | false => rfl
    | true =>
      rw [if_pos rfl]
      refine ((resolveName_produces h head).settles Peruses.advance).andThen ?_ ?_
      · rintro value s₁ ⟨moved, stands⟩
        have h₁ := h.surveys moved.toSurveys
        have walked := walkFields_produces [p] h₁.responsive h₁.readable
          (Text.trimmed expression) value rest
        rw [moved.machine.same.member?] at walked
        rw [← stands]
        exact (walked.settles Peruses.advance).mono fun _ _ h => h.2
      · rintro e s₁ ⟨-, failed⟩
        rw [← failed]
        rfl

end

end Session
end DebugSession
