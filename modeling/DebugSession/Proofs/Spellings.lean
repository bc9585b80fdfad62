import DebugSession.Signature
import Mathlib.Data.Bool.AllAny
import Mathlib.Data.List.Basic
/-!
The two spellings of a type. Main statement: a signature has a name and a name has a signature, and
each translation takes back what the other one does, whatever classes are called and however many
dimensions arrays have.
-/

namespace DebugSession

theorem Text.before?_append (cs tail : List Char) : before? tail (cs ++ tail) = some cs := by
  simp [before?]

namespace Signature

variable {cs name : List Char} {a b : Char}

/-! ## How types are spelled -/

/-- A name that no class has, as it is that of a type with a letter of its own. -/
def IsKeyword (name : List Char) : Prop := ∃ k ∈ keywords, k.2.toList = name

instance (name : List Char) : Decidable (IsKeyword name) :=
  inferInstanceAs (Decidable (∃ k ∈ keywords, k.2.toList = name))

/-- How signatures are spelled. The name of a class is bare of what has a meaning of its own, and is
not that of a type with a letter; whether it is empty makes no difference. -/
inductive IsSignature : List Char → Prop
  | letter {k : Char × String} (listed : k ∈ keywords) : IsSignature [k.1]
  | ofClass {name : List Char} (plain : ∀ c ∈ name, c ≠ '.' ∧ c ≠ ';' ∧ c ≠ '[')
    (other : ¬ IsKeyword name) : IsSignature ('L' :: (name ++ [';']))
  | array {element : List Char} (h : IsSignature element) : IsSignature ('[' :: element)

/-- How the names of types are spelled. What could be the name of a class may also be that of a type
with a letter, and then it stands for that type. -/
inductive IsTypeName : List Char → Prop
  | keyword {k : Char × String} (listed : k ∈ keywords) : IsTypeName k.2.toList
  | ofClass {name : List Char} (plain : ∀ c ∈ name, c ≠ '/' ∧ c ≠ ';' ∧ c ≠ '[') : IsTypeName name
  | array {element : List Char} (h : IsTypeName element) : IsTypeName (element ++ ['[', ']'])

/-! ## Separators -/

theorem replaceChar_of_absent (absent : a ∉ cs) : replaceChar a b cs = cs := by
  have same : ∀ c ∈ cs, (if c = a then b else c) = c := by
    intro c mem
    have other : c ≠ a := fun here => absent (here ▸ mem)
    exact if_neg other
  exact (List.map_congr_left same).trans (List.map_id' cs)

/-- If there was none before, every `b` is put back. -/
theorem replaceChar_replaceChar (absent : b ∉ cs) : replaceChar b a (replaceChar a b cs) = cs := by
  induction cs with
  | nil => rfl
  | cons c rest ih =>
    obtain ⟨here, later⟩ := List.ne_and_not_mem_of_not_mem_cons absent
    have rest : replaceChar b a (replaceChar a b rest) = rest := ih later
    by_cases same : c = a
    · simpa [replaceChar, same] using rest
    · simpa [replaceChar, same, here.symm] using rest

/-- What was bare of `b` is bare of `a` once `b` stands for it. -/
theorem plain_replaceChar (separator : b ≠ a ∧ b ≠ ';' ∧ b ≠ '[')
    (plain : ∀ c ∈ cs, c ≠ b ∧ c ≠ ';' ∧ c ≠ '[') :
    ∀ c ∈ replaceChar a b cs, c ≠ a ∧ c ≠ ';' ∧ c ≠ '[' := by
  intro c mem
  obtain ⟨d, there, rfl⟩ := List.mem_map.1 mem
  split
  · exact separator
  · rename_i other
    exact ⟨other, (plain d there).2⟩

theorem IsKeyword.plain (h : IsKeyword name) : ∀ c ∈ name, c ≠ '.' ∧ c ≠ '/' ∧ c ≠ '[' := by
  obtain ⟨k, listed, rfl⟩ := h
  have plain : ∀ k ∈ keywords,
      (k.2.toList.all fun c => c ≠ '.' ∧ c ≠ '/' ∧ c ≠ '[') = true := by decide
  exact List.all_iff_forall_prop.1 (plain k listed)

/-- With another separator, no class is taken for a type with a letter. -/
theorem not_isKeyword_replaceChar (separator : b = '.' ∨ b = '/') (absent : b ∉ name)
    (other : ¬ IsKeyword name) : ¬ IsKeyword (replaceChar a b name) := by
  intro keyword
  have unseparated : b ∉ replaceChar a b name := by
    intro mem
    have plain := keyword.plain b mem
    rcases separator with rfl | rfl
    · exact plain.1 rfl
    · exact plain.2.1 rfl
  have same : replaceChar a b name = name := by
    rw [← replaceChar_of_absent (b := a) unseparated, replaceChar_replaceChar absent]
  exact other (same ▸ keyword)

/-! ## Names of signatures -/

theorem typeNameChars_array (element : List Char) :
    typeNameChars ('[' :: element) = typeNameChars element ++ ['[', ']'] := by
  simp only [typeNameChars, splitDimensions]
  rw [List.replicate_succ', List.flatten_concat, List.append_assoc]

theorem typeNameChars_letter {k : Char × String} (listed : k ∈ keywords) :
    typeNameChars [k.1] = k.2.toList := by
  have named : ∀ k ∈ keywords, typeNameChars [k.1] = k.2.toList := by decide
  exact named k listed

theorem typeNameChars_class (name : List Char) :
    typeNameChars ('L' :: (name ++ [';'])) = replaceChar '/' '.' name := by
  have dimensions : splitDimensions ('L' :: (name ++ [';'])) = (0, 'L' :: (name ++ [';'])) := rfl
  have inner : (Text.after? ['L'] ('L' :: (name ++ [';']))).bind (Text.before? [';']) =
      some name := by
    have opened : Text.after? ['L'] ('L' :: (name ++ [';'])) = some (name ++ [';']) :=
      Text.after?_append ['L'] _
    rw [opened, Option.bind_some, Text.before?_append]
  rw [typeNameChars, dimensions]
  -- What has one character only is taken for a letter, so it matters how many there are.
  cases name with
  | nil => rfl
  | cons c rest =>
    have long : elementName ('L' :: (c :: rest ++ [';'])) =
        replaceChar '/' '.' (((Text.after? ['L'] ('L' :: (c :: rest ++ [';']))).bind
          (Text.before? [';'])).getD ('L' :: (c :: rest ++ [';']))) := rfl
    dsimp only
    rw [long, inner]
    exact List.append_nil _

/-! ## Signatures of names -/

theorem ofTypeNameChars_array (element : List Char) :
    ofTypeNameChars (element ++ ['[', ']']) = '[' :: ofTypeNameChars element := by
  rw [ofTypeNameChars, List.reverse_append]
  rfl

theorem splitBrackets_of_absent (bracketless : '[' ∉ cs) : splitBrackets cs = (0, cs) := by
  unfold splitBrackets
  split
  · simp at bracketless
  · rfl

theorem ofTypeNameChars_element (bracketless : '[' ∉ name) :
    ofTypeNameChars name = ofElementName name := by
  have plain : '[' ∉ name.reverse := by simpa using bracketless
  rw [ofTypeNameChars, splitBrackets_of_absent plain]
  simp

theorem ofElementName_keyword {k : Char × String} (listed : k ∈ keywords) :
    ofElementName k.2.toList = [k.1] := by
  have lettered : ∀ k ∈ keywords, ofElementName k.2.toList = [k.1] := by decide
  exact lettered k listed

theorem ofElementName_class (other : ¬ IsKeyword name) :
    ofElementName name = 'L' :: (replaceChar '.' '/' name ++ [';']) := by
  have unlisted : keywords.find? (fun k => k.2.toList = name) = none := by
    rw [List.find?_eq_none]
    intro k listed same
    exact other ⟨k, listed, of_decide_eq_true same⟩
  rw [ofElementName, unlisted]

/-! ## Back and forth -/

theorem back_of_keyword {k : Char × String} (listed : k ∈ keywords) :
    ofTypeNameChars k.2.toList = [k.1] ∧ typeNameChars [k.1] = k.2.toList := by
  have keyword : IsKeyword k.2.toList := ⟨k, listed, rfl⟩
  refine ⟨?_, typeNameChars_letter listed⟩
  rw [ofTypeNameChars_element fun mem => (keyword.plain _ mem).2.2 rfl,
    ofElementName_keyword listed]

theorem IsSignature.back (h : IsSignature cs) :
    IsTypeName (typeNameChars cs) ∧ ofTypeNameChars (typeNameChars cs) = cs := by
  induction h with
  | letter listed =>
    obtain ⟨signature, name⟩ := back_of_keyword listed
    rw [name]
    exact ⟨.keyword listed, signature⟩
  | @ofClass name plain other =>
    have pointless : '.' ∉ name := fun mem => (plain _ mem).1 rfl
    have named := plain_replaceChar (a := '/') (by decide) plain
    rw [typeNameChars_class]
    refine ⟨.ofClass named, ?_⟩
    rw [ofTypeNameChars_element fun mem => (named _ mem).2.2 rfl,
      ofElementName_class (not_isKeyword_replaceChar (.inl rfl) pointless other),
      replaceChar_replaceChar pointless]
  | array _ ih =>
    rw [typeNameChars_array]
    exact ⟨.array ih.1, by rw [ofTypeNameChars_array, ih.2]⟩

theorem IsTypeName.back (h : IsTypeName cs) :
    IsSignature (ofTypeNameChars cs) ∧ typeNameChars (ofTypeNameChars cs) = cs := by
  induction h with
  | keyword listed =>
    obtain ⟨signature, name⟩ := back_of_keyword listed
    rw [signature]
    exact ⟨.letter listed, name⟩
  | @ofClass name plain =>
    -- A name without any separator may be that of a type with a letter.
    by_cases keyword : IsKeyword name
    · obtain ⟨k, listed, rfl⟩ := keyword
      obtain ⟨signature, name⟩ := back_of_keyword listed
      rw [signature]
      exact ⟨.letter listed, name⟩
    · have slashless : '/' ∉ name := fun mem => (plain _ mem).1 rfl
      have signed := plain_replaceChar (a := '.') (by decide) plain
      rw [ofTypeNameChars_element fun mem => (plain _ mem).2.2 rfl, ofElementName_class keyword]
      refine ⟨.ofClass signed (not_isKeyword_replaceChar (.inr rfl) slashless keyword), ?_⟩
      rw [typeNameChars_class, replaceChar_replaceChar slashless]
  | array _ ih =>
    rw [ofTypeNameChars_array]
    exact ⟨.array ih.1, by rw [typeNameChars_array, ih.2]⟩

/-- Every signature is the signature of its name, and every name is the name of its signature. -/
theorem spellings_inverse (text : String) :
    (IsSignature text.toList →
      IsTypeName (typeName text).toList ∧ ofTypeName (typeName text) = text) ∧
    (IsTypeName text.toList →
      IsSignature (ofTypeName text).toList ∧ typeName (ofTypeName text) = text) := by
  simp only [typeName, ofTypeName, String.toList_ofList]
  constructor
  · intro signature
    obtain ⟨named, same⟩ := signature.back
    exact ⟨named, by rw [same, String.ofList_toList]⟩
  · intro named
    obtain ⟨signature, same⟩ := named.back
    exact ⟨signature, by rw [same, String.ofList_toList]⟩

/-- A list in an array of arrays, and a class whose name is all but that of a type with a letter. -/
theorem spellings_inverse_list :
    (IsSignature "[[Ljava/util/List;".toList ∧
      typeName "[[Ljava/util/List;" = "java.util.List[][]" ∧
      ofTypeName (typeName "[[Ljava/util/List;") = "[[Ljava/util/List;") ∧
    IsTypeName "Int[]".toList ∧ ofTypeName "Int[]" = "[LInt;" ∧
      typeName (ofTypeName "Int[]") = "Int[]" := by
  have list : IsSignature "[[Ljava/util/List;".toList :=
    .array (.array (@IsSignature.ofClass "java/util/List".toList
      (List.all_iff_forall_prop.1 (by decide)) (by decide)))
  have ints : IsTypeName "Int[]".toList :=
    .array (@IsTypeName.ofClass "Int".toList (List.all_iff_forall_prop.1 (by decide)))
  exact ⟨⟨list, by decide, ((spellings_inverse _).1 list).2⟩, ints, by decide,
    ((spellings_inverse _).2 ints).2⟩

end Signature
end DebugSession
