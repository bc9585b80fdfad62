import DebugSession.Proofs.Contents
import DebugSession.Proofs.Paging
import DebugSession.Session.DataBreakpoints
import Mathlib.Data.List.TakeWhile
/-!
Names under which fields are shown, and what they are taken for when a client wants to watch a
field. A name is looked up among all fields of a class and its superclasses, whether they are shown
or not, so that it may be taken for that of another field.
-/

namespace DebugSession

/-! ## Text with a part in parentheses -/

namespace Text

variable {cs more head rest : List Char} {c : Char}

/-- Where a part in parentheses begins. -/
def opening : List Char := [' ', '(']

theorem cut?_cons : cut? opening (c :: cs) =
    if [' ', '('] <+: c :: cs then some ([], cs.tail)
    else (cut? opening cs).map fun p => (c :: p.1, p.2) := by
  rw [opening, cut?, after?]
  by_cases h : [' ', '('] <+: c :: cs
  · rw [if_pos h, if_pos (List.isPrefixOf_iff_prefix.2 h)]
    cases cs <;> rfl
  · rw [if_neg h, if_neg (mt List.isPrefixOf_iff_prefix.1 h)]

theorem eq_of_cut? (h : cut? opening cs = some (head, rest)) : cs = head ++ opening ++ rest := by
  induction cs generalizing head with
  | nil => cases h
  | cons c cs ih =>
    rw [cut?_cons] at h
    split at h
    · rename_i opens
      obtain ⟨tail, same⟩ := opens
      obtain ⟨rfl, rfl⟩ := Prod.mk.inj (Option.some.inj h)
      obtain ⟨rfl, rfl⟩ := List.cons.inj same.symm
      rfl
    · obtain ⟨⟨head', rest'⟩, cut, same⟩ := Option.map_eq_some_iff.1 h
      obtain ⟨rfl, rfl⟩ := Prod.mk.inj same
      rw [ih cut]
      simp

theorem cut?_append_of_some (h : cut? opening cs = some (head, rest)) :
    cut? opening (cs ++ more) = some (head, rest ++ more) := by
  induction cs generalizing head with
  | nil => cases h
  | cons c cs ih =>
    rw [cut?_cons] at h
    rw [List.cons_append, cut?_cons]
    split at h
    · rename_i opens
      obtain ⟨rfl, rfl⟩ := Prod.mk.inj (Option.some.inj h)
      have opens' : [' ', '('] <+: c :: (cs ++ more) := opens.trans (List.prefix_append ..)
      rw [if_pos opens']
      obtain ⟨tail, same⟩ := opens
      obtain ⟨rfl, rfl⟩ := List.cons.inj same.symm
      rfl
    · rename_i closed
      obtain ⟨⟨head', rest'⟩, cut, same⟩ := Option.map_eq_some_iff.1 h
      obtain ⟨rfl, rfl⟩ := Prod.mk.inj same
      rw [if_neg, ih cut]
      · rfl
      · rintro opens
        -- Two characters are there already.
        have long : 2 ≤ (c :: cs).length := by
          rw [eq_of_cut? cut]
          simp [opening]
          omega
        have first : c :: cs <+: c :: (cs ++ more) := List.prefix_append (c :: cs) more
        exact closed (List.prefix_of_prefix_length_le opens first long)

theorem cut?_append_of_none (h : cut? opening cs = none) :
    cut? opening (cs ++ opening ++ more) = some (cs, more) := by
  induction cs with
  | nil => rfl
  | cons c cs ih =>
    rw [cut?_cons] at h
    split at h
    · cases h
    · rename_i closed
      rw [List.cons_append, List.cons_append, cut?_cons, if_neg, ih (by simpa using h)]
      · rfl
      · intro opens
        cases cs with
        | nil => simp [opening] at opens
        | cons d cs =>
          have first : c :: d :: cs <+: c :: (d :: cs ++ opening ++ more) :=
            ⟨opening ++ more, by simp⟩
          exact closed (List.prefix_of_prefix_length_le opens first (by simp))

theorem dropEndWhile_append_closing (h : cs.getLast? ≠ some ')') :
    dropEndWhile (· = ')') (cs ++ [')']) = cs := by
  unfold dropEndWhile
  rw [List.reverse_append]
  show (List.dropWhile _ (')' :: cs.reverse)).reverse = cs
  rw [List.dropWhile_cons_of_pos (by simp)]
  cases same : cs.reverse with
  | nil => rw [List.reverse_eq_nil_iff] at same; subst same; rfl
  | cons c tail =>
    rw [List.dropWhile_cons_of_neg, ← same, List.reverse_reverse]
    have last : cs.getLast? = some c := by rw [← List.head?_reverse, same]; rfl
    rw [last] at h
    simpa using h

theorem getLast?_dropEndWhile (cs : List Char) :
    (dropEndWhile (· = ')') cs).getLast? ≠ some ')' := by
  unfold dropEndWhile
  rw [List.getLast?_reverse]
  intro last
  have closes := List.head?_dropWhile_not (· = ')') cs.reverse
  rw [last] at closes
  simp at closes

end Text

namespace Signature

theorem simpleName_no_point (name : String) : '.' ∉ (simpleName name).toList := by
  unfold simpleName
  intro mem
  rw [String.toList_ofList, List.mem_reverse] at mem
  simpa using List.mem_takeWhile_imp mem

/-- A name ends as the part of it behind its last point. -/
theorem getLast?_simpleName {name : String} {c : Char} (other : c ≠ '.') :
    (simpleName name).toList.getLast? = some c ↔ name.toList.getLast? = some c := by
  unfold simpleName
  rw [String.toList_ofList, List.getLast?_reverse, ← List.head?_reverse]
  cases name.toList.reverse with
  | nil => exact Iff.rfl
  | cons d rest =>
    by_cases point : d = '.'
    · rw [List.takeWhile_cons_of_neg (by simpa using point)]
      simp [point, other.symm]
    · rw [List.takeWhile_cons_of_pos (by simpa using point)]
      rfl

end Signature

/-! ## Names among others -/

namespace Field

/-- What stands behind the name of a field in parentheses when it is shown among others, if other
fields of the same name are shown as well. -/
def qualifier? (shown : List Field) (f : Field) : Option String :=
  let same := shown.filter fun g => g.name = f.name
  if same.length < 2 then none
  else
    let short := Signature.simpleName f.declaringType
    let alike := same.filter fun g => Signature.simpleName g.declaringType = short
    some (if alike.length < 2 then short else f.declaringType)

/-- The name under which a field is shown among others. -/
def shownAs (shown : List Field) (f : Field) : String :=
  match f.qualifier? shown with
  | none => f.name
  | some q => Variable.qualifiedName f.name q

/-- A field is taken for the one that has a name, if a class is given by that class. -/
def Fits (name : String) (qualifier : Option String) (f : Field) : Prop :=
  f.name = name ∧ ∀ q ∈ qualifier, f.declaringType = q ∨ Signature.simpleName f.declaringType = q

/-- The fields that come before a field. -/
def ahead (fields : List Field) (f : Field) : List Field := fields.takeWhile (· ≠ f)

/-- The name of a field is found again in the one under which it is shown: it has no part in
parentheses itself, and the class that stands behind it does not end in a parenthesis. -/
def Legible (name : String) (qualifier : Option String) : Prop :=
  Text.cut? Text.opening name.toList = none ∧ ∀ q ∈ qualifier, q.toList.getLast? ≠ some ')'

instance (name : String) (qualifier : Option String) (f : Field) :
    Decidable (f.Fits name qualifier) :=
  inferInstanceAs (Decidable (_ ∧ ∀ q ∈ qualifier, _))

instance (name : String) (qualifier : Option String) : Decidable (Legible name qualifier) :=
  inferInstanceAs (Decidable (_ ∧ ∀ q ∈ qualifier, _))

variable {shown : List Field} {f g : Field}

/-- The fields before the first place of a field. -/
theorem ahead_append_cons {before after : List Field} (new : f ∉ before) :
    f.ahead (before ++ f :: after) = before := by
  unfold ahead
  rw [List.takeWhile_append_of_pos, List.takeWhile_cons_of_neg (by simp), List.append_nil]
  rintro g earlier
  refine decide_eq_true ?_
  rintro rfl
  exact new earlier

theorem isNamed_iff {name : String} {qualifier : Option String} :
    Session.isNamed name qualifier g = true ↔ g.Fits name qualifier := by
  unfold Session.isNamed Fits
  cases qualifier <;> simp

/-- A field has the class that stands behind its name. -/
theorem fits_qualifier (shown : List Field) (f : Field) : f.Fits f.name (f.qualifier? shown) := by
  refine ⟨rfl, fun q mem => ?_⟩
  unfold qualifier? at mem
  dsimp only at mem
  split at mem
  · cases mem
  · obtain rfl := Option.some.inj mem
    split
    · exact .inr rfl
    · exact .inl rfl

theorem toList_qualifiedName (name q : String) :
    (Variable.qualifiedName name q).toList =
      name.toList ++ Text.opening ++ (q.toList ++ [')']) := by
  unfold Variable.qualifiedName
  simp only [String.toList_append, List.append_assoc]
  rfl

/-- A legible name is read as it was written. -/
theorem splitQualified_of_legible (h : Legible f.name (f.qualifier? shown)) :
    Session.splitQualified (f.shownAs shown) = (f.name, f.qualifier? shown) := by
  obtain ⟨whole, closed⟩ := h
  unfold shownAs Session.splitQualified
  cases same : f.qualifier? shown with
  | none =>
    dsimp only
    rw [show [' ', '('] = Text.opening from rfl, whole]
  | some q =>
    dsimp only
    rw [toList_qualifiedName, show [' ', '('] = Text.opening from rfl,
      Text.cut?_append_of_none whole]
    dsimp only
    rw [Text.dropEndWhile_append_closing (closed q same), String.ofList_toList,
      String.ofList_toList]

/-- Any other name is not read as that of the field. -/
theorem not_fits_of_illegible (h : ¬ Legible f.name (f.qualifier? shown)) :
    ¬ f.Fits (Session.splitQualified (f.shownAs shown)).1
      (Session.splitQualified (f.shownAs shown)).2 := by
  have opening : [' ', '('] = Text.opening := rfl
  cases opens : Text.cut? Text.opening f.name.toList with
  | some parts =>
    obtain ⟨head, rest⟩ := parts
    have cut : ∃ rest, Text.cut? Text.opening (f.shownAs shown).toList = some (head, rest) := by
      unfold shownAs
      split
      · exact ⟨rest, opens⟩
      · rw [toList_qualifiedName, List.append_assoc]
        exact ⟨_, Text.cut?_append_of_some opens⟩
    obtain ⟨rest', cut⟩ := cut
    unfold Session.splitQualified
    rw [opening, cut]
    rintro ⟨same, -⟩
    have shorter := congrArg List.length (Text.eq_of_cut? opens)
    rw [same, String.toList_ofList] at shorter
    simp [Text.opening] at shorter
  | none =>
    have ends : ∃ q, f.qualifier? shown = some q ∧ q.toList.getLast? = some ')' := by
      by_contra never
      exact h ⟨opens, fun q mem last => never ⟨q, mem, last⟩⟩
    obtain ⟨q, same, last⟩ := ends
    -- The class ends in a parenthesis, with or without its package.
    have closes : f.declaringType.toList.getLast? = some ')' := by
      rcases (fits_qualifier shown f).2 q same with rfl | rfl
      · exact last
      · exact (Signature.getLast?_simpleName (by decide)).1 last
    unfold shownAs Session.splitQualified
    rw [same]
    dsimp only
    rw [toList_qualifiedName, opening, Text.cut?_append_of_none opens]
    dsimp only
    rintro ⟨-, read⟩
    refine Text.getLast?_dropEndWhile (q.toList ++ [')']) ?_
    rcases read _ rfl with full | short
    · rw [← String.toList_ofList (l := Text.dropEndWhile _ _), ← full]
      exact closes
    · rw [← String.toList_ofList (l := Text.dropEndWhile _ _), ← short]
      exact (Signature.getLast?_simpleName (by decide)).2 closes

end Field

namespace Session

/-- What a client is told of the field that a name is taken for. -/
def infoAmong (fields : List Field) (name : String) : Protocol.DataBreakpointInfoResponseBody :=
  let (fieldName, qualifier) := splitQualified name
  match fields.find? (isNamed fieldName qualifier) with
  | some f => available f
  | none => unavailable s!"No field named '{name}'"

variable {f g : Field} {fields shown : List Field}

private theorem append_cons_inj {c : α} {head head' rest rest' : List α} (free : c ∉ head)
    (free' : c ∉ head') (h : head ++ c :: rest = head' ++ c :: rest') :
    head = head' ∧ rest = rest' := by
  rcases List.append_eq_append_iff.1 h with ⟨more, rfl, same⟩ | ⟨more, rfl, same⟩
  · cases more with
    | nil => simpa using same
    | cons d more =>
      obtain ⟨rfl, -⟩ := List.cons.inj same
      simp at free'
  · cases more with
    | nil => simpa using same.symm
    | cons d more =>
      obtain ⟨rfl, -⟩ := List.cons.inj same
      simp at free

/-- What a client is told tells fields apart. -/
theorem available_inj (h : available f = available g) :
    f.declaringType = g.declaringType ∧ f.name = g.name := by
  have identified : f.declaringType ++ "#" ++ f.name = g.declaringType ++ "#" ++ g.name :=
    Option.some.inj (congrArg Protocol.DataBreakpointInfoResponseBody.dataId h)
  have described : Signature.simpleName f.declaringType ++ "." ++ f.name =
      Signature.simpleName g.declaringType ++ "." ++ g.name :=
    congrArg Protocol.DataBreakpointInfoResponseBody.description h
  have names : f.name = g.name := by
    have chars := congrArg String.toList described
    simp only [String.toList_append, List.append_assoc] at chars
    have split := append_cons_inj (Signature.simpleName_no_point f.declaringType)
      (Signature.simpleName_no_point g.declaringType) chars
    exact String.toList_inj.1 split.2
  rw [names, String.append_left_inj, String.append_left_inj] at identified
  exact ⟨identified, names⟩

/-- A field is found again by the name under which it is shown, unless that name is not legible or
also fits another field that comes before it, shown or not. -/
theorem infoAmong_shownAs (mem : f ∈ fields)
    (once : (fields.map fun f => (f.declaringType, f.name)).Nodup) :
    infoAmong fields (f.shownAs shown) = available f ↔
      Field.Legible f.name (f.qualifier? shown) ∧
        ∀ g ∈ f.ahead fields, ¬ g.Fits f.name (f.qualifier? shown) := by
  obtain ⟨before, after, ordered⟩ := List.append_of_mem mem
  have new : f ∉ before := by
    intro earlier
    have distinct := ordered ▸ List.Nodup.of_map _ once
    exact List.disjoint_of_nodup_append distinct earlier List.mem_cons_self
  rw [show f.ahead fields = before from ordered ▸ Field.ahead_append_cons new]
  unfold infoAmong
  constructor
  · intro told
    dsimp only at told
    split at told
    · rename_i g found
      have same : g = f := by
        obtain ⟨declared, named⟩ := available_inj told
        exact List.inj_on_of_nodup_map once (List.mem_of_find?_eq_some found) mem
          (Prod.ext declared named)
      obtain ⟨fits, earlier, later, ordered', others⟩ := List.find?_eq_some_iff_append.1 found
      rw [same] at fits ordered'
      have legible : Field.Legible f.name (f.qualifier? shown) := by
        by_contra illegible
        exact Field.not_fits_of_illegible illegible (Field.isNamed_iff.1 fits)
      refine ⟨legible, fun g first fitting => ?_⟩
      have new' : f ∉ earlier := by
        intro there
        have missed := others f there
        rw [fits] at missed
        cases missed
      obtain ⟨rfl, -⟩ := append_cons_inj new' new (ordered'.symm.trans ordered)
      have missed := others g first
      rw [Field.splitQualified_of_legible legible, Field.isNamed_iff.2 fitting] at missed
      cases missed
    · exact nomatch congrArg Protocol.DataBreakpointInfoResponseBody.dataId told
  · rintro ⟨legible, others⟩
    rw [Field.splitQualified_of_legible legible]
    have found : fields.find? (isNamed f.name (f.qualifier? shown)) = some f := by
      refine List.find?_eq_some_iff_append.2 ⟨Field.isNamed_iff.2 (Field.fits_qualifier shown f),
        before, after, ordered, fun g first => ?_⟩
      have missed := mt Field.isNamed_iff.1 (others g first)
      simpa using missed
    dsimp only
    rw [found]

/-! ## What is shown -/

/-- The fields that are shown of a container. -/
def fieldsShown (s : Session Debuggee) : Container → List Field
  | .object o _ =>
    let fields := s.machine.fieldsOf o.typeName
    fields.filter (fun f => !f.isStatic) ++
      if s.settings.display.showStaticVariables then fields.filter Field.isStatic else []
  | .statics _ typeName => (s.machine.fieldsOf typeName).filter Field.isStatic
  | _ => []

/-- A variable stands for a field under a name that is given to the field. -/
def StandsFor (name : Field → String) (v : Variable) (f : Field) : Prop :=
  v.name = name f ∧ v.field = some f

theorem standsFor_ofField (value : Field → Value) (parent : Field → Option String)
    (fields : List Field) :
    List.Forall₂ (StandsFor Field.name)
      (fields.map fun f => Variable.ofField f (value f) (parent f)) fields := by
  rw [List.forall₂_map_left_iff, List.forall₂_same]
  exact fun f _ => ⟨rfl, rfl⟩

private theorem standsFor_own (d : Debuggee) (h : HeapObject) (typeName : String)
    (parent : Option String) : List.Forall₂ (StandsFor Field.name)
      (d.ownVariables h typeName parent) ((d.fieldsOf typeName).filter fun f => !f.isStatic) :=
  standsFor_ofField _ _ _

private theorem standsFor_static (d : Debuggee) (typeName : String) :
    List.Forall₂ (StandsFor Field.name) (d.staticVariables typeName)
      ((d.fieldsOf typeName).filter Field.isStatic) :=
  standsFor_ofField _ _ _

private theorem StandsFor.declaringType {name : Field → String} {v : Variable}
    (h : StandsFor name v f) : v.declaringType = f.declaringType := by
  unfold Variable.declaringType
  rw [h.2]

/-- Variables that stand for fields are shown by the names of these among each other. -/
theorem standsFor_resolveNames {vs : List Variable}
    (h : List.Forall₂ (StandsFor Field.name) vs shown) :
    List.Forall₂ (StandsFor (Field.shownAs shown)) (Variable.resolveNames vs) shown := by
  unfold Variable.resolveNames
  rw [List.forall₂_map_left_iff]
  refine h.imp fun v f stands => ⟨?_, stands.2⟩
  have same : List.Forall₂ (StandsFor Field.name) (vs.filter fun w => w.name = v.name)
      (shown.filter fun g => g.name = f.name) := by
    refine List.rel_filter (fun w g standing => ?_) h
    simp [standing.1, stands.1]
  have alike := List.rel_filter (R := StandsFor Field.name)
    (p := fun w => Signature.simpleName w.declaringType = Signature.simpleName v.declaringType)
    (q := fun g => Signature.simpleName g.declaringType = Signature.simpleName f.declaringType)
    (fun w g standing => by simp [standing.declaringType, stands.declaringType]) same
  show Variable.nameAmong vs v = f.shownAs shown
  unfold Variable.nameAmong Field.shownAs Field.qualifier?
  dsimp only
  rw [stands.1, stands.declaringType] at *
  rw [same.length_eq, alike.length_eq]
  by_cases alone : (shown.filter fun g => g.name = f.name).length < 2
  · rw [if_pos alone, if_pos alone]
  · rw [if_neg alone, if_neg alone]

/-! ## Listings -/

variable {s : Session Debuggee}

private theorem plain_of_watchedType? {o : ObjectRef} {parent : Option String} {typeName : String}
    (watched : watchedType? (.object o parent) = some typeName) :
    o.kind = .plain ∧ o.typeName = typeName := by
  unfold watchedType? at watched
  dsimp only at watched
  split at watched
  · rename_i plain
    exact ⟨plain, Option.some.inj watched⟩
  · cases watched

theorem mem_fieldsOf_of_shown {c : Container} {typeName : String}
    (watched : watchedType? c = some typeName) (mem : f ∈ s.fieldsShown c) :
    f ∈ s.machine.fieldsOf typeName := by
  cases c with
  | frame p => cases watched
  | locals p => cases watched
  | statics p name =>
    obtain rfl : name = typeName := Option.some.inj watched
    exact List.mem_of_mem_filter mem
  | object o parent =>
    obtain ⟨-, rfl⟩ := plain_of_watchedType? watched
    rcases List.mem_append.1 mem with own | shared
    · exact List.mem_of_mem_filter own
    · split at shared
      · exact List.mem_of_mem_filter shared
      · cases shared

/-- If the debuggee answers, what is listed of an object or a class stands for the fields that are
to be shown, or for no fields. -/
theorem listContainer_fields {thread : ThreadId} (tracks : Tracks [] s) (responsive : s.Responsive)
    (readable : s.machine.failingFieldReads = []) {c : Container} {typeName : String}
    (watched : watchedType? c = some typeName)
    (known : ∀ o parent, c = .object o parent → ∃ h, s.machine.object o.id = .ok h)
    {start : Nat} {count : Option Nat} {found : List Variable}
    (listed : Settles (listContainer thread c start count s.settings.display) s fun r _ =>
      r = .ok found) :
    (∀ v ∈ found, v.field = none) ∨ (∃ t, s.machine.referenceType typeName = .ok t) ∧
      List.Forall₂ (StandsFor (Field.shownAs (s.fieldsShown c))) found
        (window (s.fieldsShown c) start count) := by
  cases c with
  | frame p => cases watched
  | locals p => cases watched
  | statics p name =>
    obtain rfl : name = typeName := Option.some.inj watched
    unfold listContainer at listed
    rw [settles_bind, settles_get] at listed
    obtain ⟨vs, brought, rfl⟩ := settles_return_ok.1 listed
    obtain ⟨t, loaded⟩ := loaded_of_allFields responsive brought
    have listing := (listStatics_produces [] responsive loaded s.fetchPolicy).settles
      Peruses.advance
    obtain rfl := Except.ok.inj (brought.symm.trans listing.2)
    refine .inr ⟨⟨t, loaded⟩, forall₂_window (standsFor_resolveNames ?_) start count⟩
    exact standsFor_static ..
  | object o parent =>
    obtain ⟨h, there⟩ := known o parent rfl
    obtain ⟨-, rfl⟩ := plain_of_watchedType? watched
    cases listObject_contents tracks responsive readable there listed with
    | elements each => exact .inl fun v mem => (each v mem).1
    | properties each => exact .inl fun v mem => (each v mem).1
    | fields _ h' _ t loaded same =>
      subst same
      refine .inr ⟨⟨t, loaded⟩, forall₂_window (standsFor_resolveNames ?_) start count⟩
      refine List.rel_append (standsFor_own ..) ?_
      split
      · exact standsFor_static ..
      · exact .nil

/-! ## What a client is told -/

private theorem describeVariable_names (thread : ThreadId) (settings : VariableSettings)
    (v : Variable) (s : Session Debuggee) :
    Settles (describeVariable thread settings v) s fun r _ =>
      ∀ x, r = .ok x → x.name = v.name ∧ x.evaluateName = v.evaluateName := by
  have opened : Settles (openValue thread settings v) s fun _ _ => True := trivial
  rw [describeVariable_eq]
  refine opened.andThen (fun found s₁ _ => ?_) fun _ _ _ _ failed => nomatch failed
  have formatted : Settles (formatValue v.value found.1 (FormatOptions.ofSettings settings)) s₁
      fun _ _ => True := trivial
  refine formatted.andThen (fun value s₂ _ x same => ?_) fun _ _ _ _ failed => nomatch failed
  obtain rfl := Except.ok.inj same
  exact ⟨rfl, rfl⟩

/-- What is shown behind a reference are the variables that are found there. -/
theorem listVariables_found {reference : Int64} {e : Pooled Container}
    (there : s.resolve? reference = some e) {start : Nat} {count : Option Nat}
    {shown : List Protocol.Variable}
    (listed : Settles (listVariables reference start count) s fun r _ => r = .ok shown) :
    ∃ found, Settles (listContainer e.owner e.object start count s.settings.display) s
        (fun r _ => r = .ok found) ∧
      List.Forall₂ (fun v x => x.name = v.name ∧ x.evaluateName = v.evaluateName)
        found shown := by
  unfold listVariables at listed
  rw [settles_bind, settles_get] at listed
  dsimp only at listed
  rw [there] at listed
  dsimp only at listed
  let settings := s.settings.display
  let listing : Action Debuggee (List Variable) :=
    (listContainer e.owner e.object start count s.settings.display).orFail listingFailed
  have comes : Settles listing s fun r _ => Settles listing s fun r' _ => r' = r := rfl
  obtain ⟨found, s₁, brought, listed⟩ := Settles.of_bind_ok listed comes
  refine ⟨found, settles_orFail_ok.1 brought, ?_⟩
  obtain ⟨named, same⟩ := Task.Ends.and
    (settles_mapM (I := fun _ => True) (fun v s _ => ⟨trivial,
      describeVariable_names e.owner settings v s⟩) found trivial)
    (settles_orFail_ok.1 listed)
  exact named shown same

/-- Whoever wants to watch a field of a class that is loaded is told of the field that the name is
taken for. -/
theorem dataBreakpointInfo_told (responsive : s.Responsive) {reference : Int64}
    {e : Pooled Container} (there : s.resolve? reference = some e) {typeName : String}
    (watched : watchedType? e.object = some typeName) {type : ReferenceType}
    (loaded : s.machine.referenceType typeName = .ok type) (name : String) :
    Settles (dataBreakpointInfo (some reference) name) s fun r _ =>
      r = .ok (infoAmong (s.machine.fieldsOf typeName) name) := by
  have fields := ((allFields_produces [] responsive typeName).settles
    Peruses.advance)
  rw [loaded] at fields
  unfold dataBreakpointInfo infoAmong
  rw [settles_bind, settles_get]
  dsimp only [Option.bind_some]
  rw [there]
  dsimp only [Option.bind_some]
  rw [watched]
  dsimp only
  rw [settles_bind, settles_orFail]
  refine Settles.mono fields ?_
  rintro r s₁ ⟨-, rfl⟩
  dsimp only [Except.map, Except.mapError]
  cases (s.machine.fieldsOf typeName).find?
    (isNamed (splitQualified name).1 (splitQualified name).2) <;> exact (settles_pure _).2 rfl

/-- A field is watched under the name by which it is shown, as long as that name is legible and fits
no field that comes first on the way up, be it shown or not; in every other case it is not. -/
theorem dataBreakpointInfo_listed (faithful : s.Faithful) (responsive : s.Responsive)
    (readable : s.machine.failingFieldReads = []) {reference : Int64} {e : Pooled Container}
    (there : s.resolve? reference = some e) {typeName : String}
    (watched : watchedType? e.object = some typeName)
    (known : ∀ o parent, e.object = .object o parent → ∃ h, s.machine.object o.id = .ok h)
    (once : ((s.machine.fieldsOf typeName).map fun f => (f.declaringType, f.name)).Nodup)
    {start : Nat} {count : Option Nat} {shown : List Protocol.Variable}
    (listed : (Task.run advance (listVariables reference start count).run s).1 = .ok shown) :
    ∃ found, Settles (listContainer e.owner e.object start count s.settings.display) s
        (fun r _ => r = .ok found) ∧
      List.Forall₂ (fun v x => x.name = v.name) found shown ∧
      ∀ v ∈ found, ∀ f, v.field = some f →
        ∀ t : Session Debuggee, t.Responsive → t.machine.types = s.machine.types →
          t.resolve? reference = some e →
          ((Task.run advance (dataBreakpointInfo (some reference) v.name).run t).1 =
              .ok (available f) ↔
            let qualifier := f.qualifier? (s.fieldsShown e.object)
            Field.Legible f.name qualifier ∧
              ∀ g ∈ f.ahead (s.machine.fieldsOf typeName), ¬ g.Fits f.name qualifier) := by
  obtain ⟨found, brought, described⟩ := listVariables_found there listed
  refine ⟨found, brought, described.imp fun _ _ same => same.1, ?_⟩
  intro v mem f stands t answering alike resolved
  have tracks : Tracks [] s := faithful.tracks
  rcases listContainer_fields tracks responsive readable watched known brought with
    none | ⟨⟨type, loaded⟩, standing⟩
  · exact nomatch (none v mem).symm.trans stands
  obtain ⟨g, among, named, same⟩ := exists_right_of_forall₂ standing mem
  obtain rfl := Option.some.inj (same.symm.trans stands)
  have listedField : g ∈ s.machine.fieldsOf typeName :=
    mem_fieldsOf_of_shown watched (mem_of_mem_window among)
  have fields : t.machine.fieldsOf typeName = s.machine.fieldsOf typeName := by
    unfold Debuggee.fieldsOf
    rw [alike]
  have loaded' : t.machine.referenceType typeName = .ok type := by
    unfold Debuggee.referenceType at *
    rw [alike, loaded]
  have told := dataBreakpointInfo_told answering resolved watched loaded' v.name
  unfold Settles Task.Ends at told
  rw [told, fields, named, Except.ok.injEq]
  exact infoAmong_shownAs listedField once

/-- A field of a class, and one of the same name of its subclass, which may be static. -/
def baseField : Field := { name := "x", declaringType := "com.example.Base", signature := "I" }

def derivedField (isStatic : Bool) : Field :=
  { name := "x", declaringType := "com.example.Derived", signature := "I", isStatic }

def derivedObject : ObjectRef := ⟨10, "com.example.Derived", .plain⟩

/-- An object of the subclass. -/
def derived (isStatic : Bool) : Debuggee :=
  let values := ({} : Table (String × String) Value).insert ("com.example.Base", "x") (.int 7)
    |>.insert ("com.example.Derived", "x") (.int 8)
  let machine := ({} : Debuggee).addType ⟨"com.example.Base", none, [], false, [baseField]⟩
    |>.addType ⟨"com.example.Derived", some "com.example.Base", [], false, [derivedField isStatic]⟩
    |>.addObject { reference := derivedObject, fields := values }
  standingAt machine "o" "Lcom/example/Derived;" derivedObject

theorem eq_object_of_key {c : Container} {o : ObjectRef} {parent : Option String}
    (h : c.key = .object o parent) : c = .object o parent := by
  cases c <;> cases h
  rfl

theorem openedSession_derived_faithful (isStatic : Bool) :
    (openedSession (derived isStatic)).Faithful := by
  refine .step (.message _) (.step (.message _) (.step (.message _) (.step (.message _) (.start ..)
    nofun ?_) nofun ?_) nofun ?_) nofun ?_ <;> cases isStatic <;> decide +kernel

/-- Both fields are shown, so that the class stands behind the name, and each is found by it. -/
theorem dataBreakpointInfo_listed_derived : ∃ shown,
    (Task.run advance (listVariables 3 0 none).run (openedSession (derived false))).1 = .ok shown ∧
      shown.map (fun x => (x.name, x.value)) = [("x (Derived)", "8"), ("x (Base)", "7")] ∧
      (Task.run advance (dataBreakpointInfo (some 3) "x (Base)").run
        (openedSession (derived false))).1 = .ok (available baseField) := by
  let named (name value : String) : Protocol.Variable :=
    { name, value, typeName := some "int", evaluateName := some "o.x" }
  let shown := [named "x (Derived)" "8", named "x (Base)" "7"]
  have listed : (Task.run advance (listVariables 3 0 none).run (openedSession (derived false))).1 =
      .ok shown := by decide +kernel
  have known : ((openedSession (derived false)).resolve? 3).map
      (fun e => (e.owner, e.object.key)) = some (1, .object derivedObject (some "o")) := by
    decide +kernel
  obtain ⟨⟨owner, c⟩, there, same⟩ := Option.map_eq_some_iff.1 known
  obtain ⟨rfl, keyed⟩ := Prod.mk.inj same
  obtain rfl := eq_object_of_key keyed
  have held : ∃ h, (openedSession (derived false)).machine.object 10 = .ok h := by
    have answers : ((openedSession (derived false)).machine.object 10).isOk = true := by
      decide +kernel
    cases there : (openedSession (derived false)).machine.object 10 with
    | ok h => exact ⟨h, rfl⟩
    | error e => rw [there] at answers; cases answers
  obtain ⟨found, brought, -, told⟩ := dataBreakpointInfo_listed (openedSession_derived_faithful _)
    (by decide +kernel) (by decide +kernel) there rfl
    (by rintro o parent same; cases same; exact held) (by decide +kernel) listed
  have fields : (Task.run advance (listContainer 1 (.object derivedObject (some "o")) 0 none
      (openedSession (derived false)).settings.display).run (openedSession (derived false))).1 =
        .ok [
          { Variable.ofField (derivedField false) (.int 8) (some "o") with name := "x (Derived)" },
          { Variable.ofField baseField (.int 7) (some "o") with name := "x (Base)" }] := by
    decide +kernel
  obtain rfl := Except.ok.inj (fields.symm.trans brought)
  refine ⟨shown, listed, rfl, ?_⟩
  exact (told _ (.tail _ (.head _)) baseField rfl _ (by decide +kernel) rfl there).2
    (by decide +kernel)

/-- The field of the superclass is shown alone, as the static one is not. Its name is taken for that
of the static one all the same. -/
theorem hidden_field_told : ∃ e found shown,
    (openedSession (derived true)).resolve? 3 = some e ∧
      watchedType? e.object = some "com.example.Derived" ∧
      Settles (listContainer e.owner e.object 0 none
        (openedSession (derived true)).settings.display) (openedSession (derived true))
        (fun r _ => r = .ok found) ∧ found.map (·.field) = [some baseField] ∧
      (Task.run advance (listVariables 3 0 none).run (openedSession (derived true))).1 =
        .ok shown ∧ shown.map (fun x => (x.name, x.value)) = [("x", "7")] ∧
      (Task.run advance (dataBreakpointInfo (some 3) "x").run (openedSession (derived true))).1 =
        .ok (available (derivedField true)) := by
  have known : ((openedSession (derived true)).resolve? 3).map (fun e => (e.owner, e.object.key)) =
      some (1, .object derivedObject (some "o")) := by decide +kernel
  obtain ⟨⟨owner, c⟩, there, same⟩ := Option.map_eq_some_iff.1 known
  obtain ⟨rfl, keyed⟩ := Prod.mk.inj same
  obtain rfl := eq_object_of_key keyed
  let shown : Protocol.Variable :=
    { name := "x", value := "7", typeName := some "int", evaluateName := some "o.x" }
  have found : (Task.run advance (listContainer 1 (.object derivedObject (some "o")) 0 none
      (openedSession (derived true)).settings.display).run (openedSession (derived true))).1 =
        .ok [Variable.ofField baseField (.int 7) (some "o")] := by decide +kernel
  exact ⟨_, _, [shown], there, rfl, found, rfl, by decide +kernel, rfl, by decide +kernel⟩

end Session
end DebugSession
