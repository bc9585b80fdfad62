import DebugSession.Proofs.Expressions
import DebugSession.Source.Lookup
/-!
From a code position to its source file, and from the file back to the class. Main statement: the
file that is found for a class below one of the roots holds that class by its place, if and only if
no earlier root has the file below it.
-/

namespace DebugSession

/-! ## Pieces of a text -/

namespace Text

variable {sep : Char} {cs : List Char}

theorem pieces_eq_splitOn (sep : Char) (cs : List Char) : pieces sep cs = cs.splitOn sep := by
  induction cs with
  | nil => rfl
  | cons c cs ih =>
    rw [List.splitOn_cons_eq_if_modifyHead, ← ih]
    by_cases same : c = sep
    · simp [pieces, same]
    · obtain ⟨first, rest, parts⟩ := List.exists_cons_of_ne_nil (pieces_ne_nil sep cs)
      simp [pieces_cons_of_ne same parts, parts, same]

theorem intercalate_pieces (sep : Char) (cs : List Char) :
    [sep].intercalate (pieces sep cs) = cs := by
  rw [pieces_eq_splitOn, List.intercalate_splitOn]

theorem mem_of_mem_pieces {p : List Char} (h : p ∈ pieces sep cs) {c : Char} (mem : c ∈ p) :
    c ∈ cs ∧ c ≠ sep := by
  induction cs generalizing p with
  | nil =>
    rw [List.mem_singleton.1 h] at mem
    cases mem
  | cons d cs ih =>
    by_cases here : d = sep
    · rw [pieces, if_pos here] at h
      rcases List.mem_cons.1 h with rfl | h
      · cases mem
      · exact (ih h mem).imp_left (List.mem_cons_of_mem _)
    · obtain ⟨first, rest, parts⟩ := List.exists_cons_of_ne_nil (pieces_ne_nil sep cs)
      rw [pieces_cons_of_ne here parts] at h
      rcases List.mem_cons.1 h with rfl | h
      · rcases List.mem_cons.1 mem with rfl | mem
        · exact ⟨List.mem_cons_self, here⟩
        · exact (ih (parts ▸ List.mem_cons_self) mem).imp_left (List.mem_cons_of_mem _)
      · exact (ih (parts ▸ List.mem_cons_of_mem _ h) mem).imp_left (List.mem_cons_of_mem _)

/-- One separator for another: the pieces stay, if the new one was not there before. -/
theorem pieces_replaceChar {a b : Char} (free : b ∉ cs) :
    pieces b (Signature.replaceChar a b cs) = pieces a cs := by
  induction cs with
  | nil => rfl
  | cons c cs ih =>
    obtain ⟨other, free⟩ := List.ne_and_not_mem_of_not_mem_cons free
    obtain ⟨first, rest, parts⟩ := List.exists_cons_of_ne_nil (pieces_ne_nil a cs)
    have tail : pieces b (Signature.replaceChar a b cs) = first :: rest := (ih free).trans parts
    by_cases same : c = a
    · simp only [Signature.replaceChar, List.map_cons, if_pos same, pieces, if_true] at tail ⊢
      rw [tail, parts]
    · rw [pieces_cons_of_ne same parts, Signature.replaceChar, List.map_cons, if_neg same]
      exact pieces_cons_of_ne other.symm tail

end Text

/-! ## Components of joined paths -/

namespace Path

open Text (pieces pieces_append pieces_ne_nil)

/-- A path that leads on from any other. -/
structure Onward (q : String) : Prop where
  relative : isAbsolute q = false
  departs : (parts q).head? ≠ some "."

theorem components_append {p q r : String} (onward : Onward q)
    (absolute : isAbsolute r = isAbsolute p) (first : (parts r).head? = (parts p).head?)
    (steps : (parts r).filter isStep = (parts p).filter isStep ++ (parts q).filter isStep) :
    components r = components p ++ components q := by
  simp only [components, absolute, first, steps, onward.relative, onward.departs, if_false,
    Bool.false_eq_true, List.nil_append, List.map_append, List.append_assoc]

/-- Joined paths lead to where the second one leads from the first. -/
theorem components_join (p : String) {q : String} (onward : Onward q) :
    components (join p q) = components p ++ components q := by
  rw [join, if_neg (Bool.not_eq_true _ ▸ onward.relative)]
  by_cases empty : p = ""
  · subst empty
    rfl
  have some : p.toList ≠ [] := by simpa using empty
  have front : ∀ a b : List Char, a ≠ [] → (a ++ b).head? = a.head? := by
    intro a b h
    obtain ⟨c, a, rfl⟩ := List.exists_cons_of_ne_nil h
    rfl
  by_cases trailing : p.toList.getLast? = Option.some '/'
  · rw [if_pos (by simp [trailing])]
    obtain ⟨u, text⟩ := List.getLast?_eq_some_iff.1 trailing
    have before : parts p = (pieces '/' u).map String.ofList ++ [""] := by
      rw [parts, text, pieces_append, List.map_append]
      rfl
    have joined : parts (p ++ q) = (pieces '/' u).map String.ofList ++ parts q := by
      rw [parts, String.toList_append, text, List.append_assoc, List.singleton_append,
        pieces_append, List.map_append]
      rfl
    obtain ⟨first, rest, split⟩ := List.exists_cons_of_ne_nil (pieces_ne_nil '/' u)
    refine components_append onward ?_ ?_ ?_
    · simp only [isAbsolute, String.toList_append, front _ _ some]
    · rw [before, joined, split]
      rfl
    · have silent : List.filter isStep [""] = [] := by decide
      rw [before, joined, List.filter_append, List.filter_append, silent, List.append_nil]
  · rw [if_neg (by simp [empty, trailing])]
    have joined : parts (p ++ "/" ++ q) = parts p ++ parts q := by
      rw [parts, String.toList_append, String.toList_append, List.append_assoc]
      show (pieces '/' (p.toList ++ '/' :: q.toList)).map String.ofList = _
      rw [pieces_append, List.map_append]
      rfl
    obtain ⟨first, rest, split⟩ := List.exists_cons_of_ne_nil (pieces_ne_nil '/' p.toList)
    refine components_append onward ?_ ?_ ?_
    · simp only [isAbsolute, String.toList_append, List.append_assoc, front _ _ some]
    · rw [joined, parts, split]
      rfl
    · rw [joined, List.filter_append]

/-- A name that stands for itself in a path. -/
structure IsName (s : String) : Prop where
  letters : s ≠ ""
  notHere : s ≠ "."
  notParent : s ≠ ".."
  slash : '/' ∉ s.toList

theorem isAbsolute_eq_false_of_parts {q first : String} {rest : List String}
    (split : parts q = first :: rest) (letters : first ≠ "") : isAbsolute q = false := by
  rw [← Bool.not_eq_true]
  intro absolute
  obtain ⟨cs, text⟩ := List.head?_eq_some_iff.1 (of_decide_eq_true absolute)
  rw [parts, text] at split
  exact letters (List.cons.inj split).1.symm

theorem components_names {q : String} {names : List String} (split : parts q = names)
    (named : ∀ s ∈ names, IsName s) : components q = names.map .name ∧ Onward q := by
  obtain ⟨first, rest, rfl⟩ : ∃ first rest, names = first :: rest := by
    rw [← split, parts]
    exact List.exists_cons_of_ne_nil (List.map_eq_nil_iff.not.2 (pieces_ne_nil '/' q.toList))
  have known := named first List.mem_cons_self
  have relative := isAbsolute_eq_false_of_parts split known.letters
  have departs : (parts q).head? ≠ some "." := by
    rw [split]
    exact fun same => known.notHere (Option.some.inj same)
  refine ⟨?_, relative, departs⟩
  have steps : (first :: rest).filter isStep = first :: rest :=
    List.filter_eq_self.2 fun s mem => by
      simp [isStep, (named s mem).letters, (named s mem).notHere]
  simp only [components, relative, departs, if_false, Bool.false_eq_true, List.nil_append]
  rw [split, steps]
  exact List.map_congr_left fun s mem => if_neg (named s mem).notParent

theorem IsName.components {s : String} (h : IsName s) :
    components s = [.name s] ∧ Onward s := by
  have split : parts s = [s] := by
    rw [parts, Text.pieces_of_free h.slash, List.map_singleton, String.ofList_toList]
  refine components_names split fun s' mem => ?_
  rwa [List.mem_singleton.1 mem]

/-! ## What is at a path -/

theorem head?_components (p : String) :
    (components p).head? = some .root ↔ isAbsolute p = true := by
  constructor
  · intro head
    by_contra relative
    rw [Bool.not_eq_true] at relative
    have mem := List.mem_of_head? head
    simp only [components, relative, Bool.false_eq_true, if_false] at mem
    rcases List.mem_append.1 mem with front | step
    · split at front
      · cases List.mem_singleton.1 front
      · cases front
    · obtain ⟨s, -, same⟩ := List.mem_map.1 step
      split at same <;> cases same
  · intro absolute
    simp [components, absolute]

/-- Whether components lead to something. -/
def Tree.leads (t : Tree) (cs : List Component) : Bool :=
  match cs.foldlM t.step (if cs.head? = some .root then .above else .inside []) with
  | none => false
  | some .above => true
  | some (.inside path) => t.isDirectory path || (t.file? path).isSome

theorem getLast?_pieces_join (p : String) {s : String} (h : IsName s) :
    (pieces '/' (join p s).toList).getLast? = some s.toList := by
  have alone := Text.pieces_of_free h.slash
  have behind : ∀ v : List Char,
      (pieces '/' (v ++ '/' :: s.toList)).getLast? = some s.toList := fun v => by
    rw [pieces_append, alone, List.getLast?_append, List.getLast?_singleton, Option.some_or]
  rw [join, if_neg (Bool.not_eq_true _ ▸ h.components.2.relative)]
  split
  · rename_i ends
    rw [String.toList_append]
    rcases Bool.or_eq_true_iff.1 ends with empty | trailing
    · have nothing : p = "" := by simpa using empty
      rw [nothing, String.toList_empty, List.nil_append, alone, List.getLast?_singleton]
    · obtain ⟨v, text⟩ := List.getLast?_eq_some_iff.1 (of_decide_eq_true trailing)
      rw [text, List.append_assoc]
      exact behind v
  · rw [String.toList_append, String.toList_append, List.append_assoc]
    exact behind p.toList

/-- Behind a name, it matters only where a path leads. -/
theorem hasPath_join (t : Tree) (p : String) {s : String} (h : IsName s) :
    t.hasPath (join p s) = t.leads (components (join p s)) := by
  have last := getLast?_pieces_join p h
  have filled : (join p s).isEmpty = false := by
    rw [← Bool.not_eq_true]
    intro empty
    have nothing : join p s = "" := by simpa using empty
    rw [nothing] at last
    exact h.letters (String.toList_injective (Option.some.inj last).symm)
  have file : s.toList ≠ ['.'] := fun same => h.notHere (String.toList_injective same)
  have letters : s.toList ≠ [] := fun same => h.letters (String.toList_injective same)
  simp only [Tree.hasPath, Tree.leads, last, filled, head?_components]
  cases (components (join p s)).foldlM t.step
      (if isAbsolute (join p s) then Place.above else .inside []) with
  | none => rfl
  | some place => cases place <;> simp [letters, file]

end Path

/-! ## Class names -/

namespace SourceLookup

open Text (pieces)
open DebugSession.Path (Component components Onward IsName)

/-- Points stand between parts of a class name that are not empty. The sign of nested classes is a
letter like any other here. -/
def IsClassName (name : String) : Prop := ∀ part ∈ pieces '.' name.toList, part ≠ [] ∧ '/' ∉ part

instance (name : String) : Decidable (IsClassName name) :=
  inferInstanceAs (Decidable (∀ part ∈ pieces '.' name.toList, part ≠ [] ∧ '/' ∉ part))

/-- A class name taken apart: its packages and its own name. -/
structure Parted (top : String) (packages : List String) (simple : String) : Prop where
  whole : String.intercalate "." (packages ++ [simple]) = top
  own : Signature.simpleName top = simple
  directory : components (packageDirectory top) = packages.map .name
  onward : Onward (packageDirectory top)
  noPoint : '.' ∉ simple.toList
  noSlash : '/' ∉ simple.toList

theorem IsClassName.noSlash {name : String} (h : IsClassName name) : '/' ∉ name.toList := by
  intro mem
  have notPoint : '/' ≠ '.' := by decide
  obtain ⟨part, there, inside⟩ := Text.exists_piece mem notPoint
  exact (h part there).2 inside

/-- The parts of a class name, as steps of a path. -/
theorem isName_of_part {name : String} (h : IsClassName name) {part : List Char}
    (mem : part ∈ pieces '.' name.toList) : IsName (String.ofList part) := by
  have noPoint : '.' ∉ part := fun inside => (Text.mem_of_mem_pieces mem inside).2 rfl
  refine ⟨fun same => (h part mem).1 (String.ofList_injective same), fun same => noPoint ?_,
    fun same => noPoint ?_, by rw [String.toList_ofList]; exact (h part mem).2⟩
  · rw [String.ofList_injective same]
    exact List.mem_singleton_self _
  · rw [String.ofList_injective same]
    exact List.mem_cons_self

theorem parted_of_noPoint {top : String} (noPoint : '.' ∉ top.toList)
    (noSlash : '/' ∉ top.toList) : Parted top [] top := by
  have passed : ∀ c ∈ top.toList.reverse, decide (c ≠ '.') = true := fun c mem =>
    decide_eq_true fun same => noPoint (same ▸ List.mem_reverse.1 mem)
  have nothing : packageDirectory top = "" := by
    simp only [packageDirectory, List.dropWhile_eq_nil_iff.2 passed]
    rfl
  refine ⟨String.intercalate_singleton, ?_, ?_, ?_, noPoint, noSlash⟩
  · rw [Signature.simpleName, List.takeWhile_eq_self_iff.2 passed, List.reverse_reverse,
      String.ofList_toList]
  · rw [nothing]
    rfl
  · rw [nothing]
    exact ⟨rfl, by decide⟩

theorem parted_of_split {top : String} {package own : List Char}
    (split : top.toList = package ++ '.' :: own) (noPoint : '.' ∉ own)
    (noSlash : '/' ∉ top.toList)
    (named : ∀ part ∈ pieces '.' package, IsName (String.ofList part)) :
    Parted top ((pieces '.' package).map String.ofList) (String.ofList own) := by
  have reversed : top.toList.reverse = own.reverse ++ '.' :: package.reverse := by simp [split]
  have passed : ∀ c ∈ own.reverse, decide (c ≠ '.') = true := fun c mem =>
    decide_eq_true fun same => noPoint (same ▸ List.mem_reverse.1 mem)
  have packageText : packageDirectory top =
      String.ofList (Signature.replaceChar '.' '/' package) := by
    simp only [packageDirectory, reversed, List.dropWhile_append_of_pos passed]
    simp
  have free : '/' ∉ package := fun mem => noSlash (split ▸ List.mem_append_left _ mem)
  have steps : Path.parts (packageDirectory top) = (pieces '.' package).map String.ofList := by
    rw [packageText, Path.parts, String.toList_ofList, Text.pieces_replaceChar free]
  obtain ⟨directory, onward⟩ := Path.components_names steps fun s mem => by
    obtain ⟨part, there, rfl⟩ := List.mem_map.1 mem
    exact named part there
  refine ⟨?_, ?_, directory, onward, ?_, ?_⟩
  · refine String.toList_injective ?_
    rw [String.toList_intercalate, split, ← Text.intercalate_pieces '.' (_ ++ _),
      Text.pieces_append, Text.pieces_of_free noPoint]
    simp
  · simp only [Signature.simpleName, reversed, List.takeWhile_append_of_pos passed]
    simp
  · rwa [String.toList_ofList]
  · rw [String.toList_ofList]
    exact fun mem => noSlash (split ▸ List.mem_append_right _ (List.mem_cons_of_mem _ mem))

theorem exists_parted {name : String} (h : IsClassName name) :
    ∃ packages simple, Parted (outermost name) packages simple := by
  have top : (outermost name).toList = name.toList.takeWhile (· ≠ '$') := String.toList_ofList
  have whole : (outermost name).toList ++ name.toList.dropWhile (· ≠ '$') = name.toList := by
    rw [top]
    exact List.takeWhile_append_dropWhile
  have noSlash : '/' ∉ (outermost name).toList := fun mem =>
    h.noSlash (whole ▸ List.mem_append_left _ mem)
  by_cases point : '.' ∈ (outermost name).toList
  · obtain ⟨own, package, reversed, noPoint⟩ :=
      List.eq_append_cons_of_mem (List.mem_reverse.2 point)
    have split : (outermost name).toList = package.reverse ++ '.' :: own.reverse := by
      rw [← List.reverse_reverse (outermost name).toList, reversed]
      simp
    refine ⟨_, _, parted_of_split split (fun mem => noPoint (List.mem_reverse.1 mem)) noSlash
      fun part mem => isName_of_part h ?_⟩
    rw [← whole, split, List.append_assoc, List.cons_append, Text.pieces_append]
    exact List.mem_append_left _ mem
  · exact ⟨[], outermost name, parted_of_noPoint point noSlash⟩

/-! ## The class of a file below a root -/

theorem stem_java {simple : String} (noPoint : '.' ∉ simple.toList) (named : simple ≠ "") :
    Path.stem (simple ++ ".java") = simple := by
  have reversed : (simple ++ ".java").toList.reverse =
      ['a', 'v', 'a', 'j', '.'] ++ simple.toList.reverse := by
    rw [String.toList_append, List.reverse_append]
    rfl
  have head : ((simple ++ ".java").toList.reverse.dropWhile (· ≠ '.')).drop 1 =
      simple.toList.reverse := by
    rw [reversed]
    rfl
  have some : simple.toList.reverse.isEmpty = false := by simpa using named
  have noPoints : simple.toList.reverse ≠ ['.'] := fun same =>
    noPoint (List.mem_reverse.1 (same ▸ List.mem_singleton_self _))
  simp only [Path.stem, head, some, noPoints, if_false, Bool.false_eq_true]
  rw [List.reverse_reverse, String.ofList_toList]

/-- A path goes on from a directory. -/
def Below (dir p : String) : Prop := components dir <+: components p ∧ components dir ≠ components p

instance (dir p : String) : Decidable (Below dir p) := inferInstanceAs (Decidable (_ ∧ _))

/-- A file holds the class that the names from the root on make up. -/
theorem classNameUnder_eq {dir p : String} {front : List Component} {file : String}
    (split : components p = front ++ [.name file]) :
    classNameUnder dir p = if Below dir p then
      some (String.intercalate "."
        ((front.map Component.text ++ [Path.stem file]).drop (components dir).length))
      else none := by
  by_cases leads : components dir <+: components p
  · obtain ⟨rest, whole⟩ := leads
    have under : Path.under? dir p = some rest := by
      have leads : (components dir).isPrefixOf (components p) = true :=
        List.isPrefixOf_iff_prefix.2 ⟨rest, whole⟩
      simp only [Path.under?, leads, if_true]
      rw [← whole, List.drop_left]
    rcases List.eq_nil_or_concat rest with rfl | ⟨inner, last, rfl⟩
    · have ends : ¬ Below dir p := fun below => below.2 (by rw [← whole, List.append_nil])
      rw [if_neg ends, classNameUnder, under]
      rfl
    · rw [split, List.concat_eq_append, ← List.append_assoc] at whole
      obtain ⟨rfl, last⟩ := List.append_inj' whole rfl
      cases last
      have below : Below dir p := by
        refine ⟨⟨inner ++ [.name file], by rw [split, List.append_assoc]⟩, fun same => ?_⟩
        have lengths := congrArg List.length (same.trans split)
        simp only [List.length_append, List.length_singleton] at lengths
        omega
      rw [if_pos below, classNameUnder, under]
      simp only [List.concat_eq_append, List.map_append, List.append_assoc]
      rw [List.drop_left' (by rw [List.length_map])]
      simp
  · have ends : ¬ Below dir p := fun below => leads below.1
    have none : (components dir).isPrefixOf (components p) = false := by
      rw [← Bool.not_eq_true]
      exact fun same => leads (List.isPrefixOf_iff_prefix.1 same)
    rw [if_neg ends, classNameUnder, Path.under?]
    simp only [none, Bool.false_eq_true, if_false]
    rfl

/-- Fewer names make up a shorter text. -/
theorem length_intercalate_drop {names : List String} {last : String} {m n : Nat} (fewer : n < m)
    (left : m ≤ names.length) :
    (String.intercalate "." (names.drop m ++ [last])).length <
      (String.intercalate "." (names.drop n ++ [last])).length := by
  have parted := List.take_append_drop (m - n) (names.drop n)
  rw [List.drop_drop, Nat.add_sub_cancel' (Nat.le_of_lt fewer)] at parted
  have first : (names.drop n).take (m - n) ≠ [] := by
    rw [← List.length_pos_iff, List.length_take, List.length_drop]
    omega
  have rest : names.drop m ++ [last] ≠ [] := List.append_ne_nil_of_right_ne_nil _ (by simp)
  rw [← parted, List.append_assoc, String.intercalate_append_of_ne_nil first rest,
    String.length_append, String.length_append]
  have point : ".".length = 1 := rfl
  omega

/-- How many names were left out can be told from the text. -/
theorem intercalate_drop_inj {names : List String} {last : String} {m n : Nat}
    (within : m ≤ names.length) (within' : n ≤ names.length)
    (same : String.intercalate "." (names.drop m ++ [last]) =
      String.intercalate "." (names.drop n ++ [last])) : m = n := by
  have lengths := congrArg String.length same
  rcases Nat.lt_trichotomy m n with less | level | more
  · exact absurd lengths (Nat.ne_of_gt (length_intercalate_drop less within'))
  · exact level
  · exact absurd lengths (Nat.ne_of_lt (length_intercalate_drop more within))

theorem exists_intercalate_concat (names : List String) (s : String) :
    ∃ t, String.intercalate "." (names ++ [s]) = t ++ s := by
  by_cases none : names = []
  · exact ⟨"", by rw [none, List.nil_append, String.intercalate_singleton, String.empty_append]⟩
  · exact ⟨_, by rw [String.intercalate_append_of_ne_nil none (List.cons_ne_nil _ _),
      String.intercalate_singleton]⟩

theorem simpleName_java (t : String) : Signature.simpleName (t ++ ".java") = "java" := by
  rw [Signature.simpleName, String.toList_append, List.reverse_append]
  rfl

/-! ## The file of a class and the class of the file -/

section

variable {location : Location} {packages : List String} {simple : String}

/-- A code position whose source file has the name of its outermost class, as far as it is told. -/
def UnderOwnName (location : Location) : Prop :=
  ∀ file ∈ location.sourceName,
    file = Signature.simpleName (outermost location.className) ++ ".java"

theorem isName_java (parted : Parted (outermost location.className) packages simple) :
    IsName (simple ++ ".java") := by
  have long : ∀ s : String, s.length < 5 → simple ++ ".java" ≠ s := by
    rintro s short rfl
    rw [String.length_append] at short
    have five : ".java".length = 5 := rfl
    omega
  refine ⟨long _ (by decide), long _ (by decide), long _ (by decide), ?_⟩
  rw [String.toList_append]
  intro mem
  rcases List.mem_append.1 mem with mem | mem
  · exact parted.noSlash mem
  · exact absurd mem (by decide)

theorem pathUnder_eq (parted : Parted (outermost location.className) packages simple)
    (own : UnderOwnName location) (root : String) :
    pathUnder location root =
      Path.join (Path.join root (packageDirectory (outermost location.className)))
        (simple ++ ".java") := by
  have file : location.sourceName.getD
      (Signature.simpleName (outermost location.className) ++ ".java") = simple ++ ".java" := by
    cases told : location.sourceName with
    | none => rw [Option.getD_none, parted.own]
    | some file => rw [Option.getD_some, own file told, parted.own]
  simp only [pathUnder, file]

theorem components_pathUnder (parted : Parted (outermost location.className) packages simple)
    (own : UnderOwnName location) (root : String) :
    components (pathUnder location root) =
      components root ++ packages.map .name ++ [.name (simple ++ ".java")] := by
  obtain ⟨file, onward⟩ := (isName_java parted).components
  rw [pathUnder_eq parted own, Path.components_join _ onward, Path.components_join _ parted.onward,
    file, parted.directory]

theorem hasPath_pathUnder (parted : Parted (outermost location.className) packages simple)
    (own : UnderOwnName location) (files : Path.Tree) {root root' : String}
    (same : components root = components root') :
    files.hasPath (pathUnder location root) = files.hasPath (pathUnder location root') := by
  have leads : ∀ r, files.hasPath (pathUnder location r) =
      files.leads (components (pathUnder location r)) := fun r => by
    rw [pathUnder_eq parted own]
    exact Path.hasPath_join files _ (isName_java parted)
  rw [leads, leads, components_pathUnder parted own, components_pathUnder parted own, same]

/-- What a file of the outermost class holds by its place below a directory. -/
theorem classNameUnder_pathUnder
    (parted : Parted (outermost location.className) packages simple) (own : UnderOwnName location)
    {root dir : String} (below : Below dir (pathUnder location root)) :
    ∃ className, classNameUnder dir (pathUnder location root) = some className ∧
      (className = outermost location.className ↔
        simple ≠ "" ∧ components dir = components root) := by
  have split := components_pathUnder parted own root
  let names : List String := (components root).map Component.text ++ packages
  have texts : (components root ++ packages.map Component.name).map Component.text = names := by
    have same : packages.map (Component.text ∘ Component.name) = packages := List.map_id _
    rw [List.map_append, List.map_map, same]
  have inside : (components dir).length ≤ names.length := by
    have shorter : (components dir).length < (components (pathUnder location root)).length :=
      Nat.lt_of_le_of_ne below.1.length_le fun same => below.2 (below.1.eq_of_length same)
    rw [split, List.length_append, List.length_singleton] at shorter
    rw [← texts, List.length_map]
    exact Nat.le_of_lt_succ shorter
  refine ⟨String.intercalate "."
    (names.drop (components dir).length ++ [Path.stem (simple ++ ".java")]), ?_, ?_⟩
  · rw [classNameUnder_eq split, if_pos below, texts, List.drop_append_of_le_length inside]
  by_cases nameless : simple = ""
  · refine iff_of_false (fun same => ?_) fun h => h.1 nameless
    obtain ⟨t, text⟩ := exists_intercalate_concat (names.drop (components dir).length)
      (Path.stem (simple ++ ".java"))
    have stem : Path.stem (simple ++ ".java") = ".java" := by
      rw [nameless]
      rfl
    have differ := parted.own
    rw [← same, text, stem, simpleName_java, nameless] at differ
    exact absurd differ (by decide)
  · -- Below the root of the file, all the packages are left, and below any other more or fewer.
    have atRoot : names.drop (components root).length = packages :=
      List.drop_left' (List.length_map _)
    have whole : outermost location.className =
        String.intercalate "." (names.drop (components root).length ++ [simple]) := by
      rw [atRoot, parted.whole]
    have within : (components root).length ≤ names.length := by simp [names]
    rw [stem_java parted.noPoint nameless, whole, and_iff_right nameless]
    constructor
    · intro same
      have level := intercalate_drop_inj inside within same
      have first : components root <+: components (pathUnder location root) :=
        ⟨packages.map .name ++ [.name (simple ++ ".java")], by rw [split, List.append_assoc]⟩
      exact (List.prefix_of_prefix_length_le below.1 first (Nat.le_of_eq level)).eq_of_length level
    · intro same
      rw [same]

theorem below_pathUnder (parted : Parted (outermost location.className) packages simple)
    (own : UnderOwnName location) (root : String) : Below root (pathUnder location root) := by
  have split := components_pathUnder parted own root
  refine ⟨⟨_, by rw [split, List.append_assoc]⟩, fun same => ?_⟩
  have lengths := congrArg List.length (same.trans split)
  simp only [List.length_append, List.length_singleton] at lengths
  omega

/-- The class of a file is told by its place below the first root that has it below itself. -/
theorem findSome?_classNameUnder (parted : Parted (outermost location.className) packages simple)
    (own : UnderOwnName location) (before after : List String) (root : String) :
    ∃ dir className, Below dir (pathUnder location root) ∧
      classNameUnder dir (pathUnder location root) = some className ∧
      (before ++ root :: after).findSome? (classNameUnder · (pathUnder location root)) =
        some className ∧
      (dir ∈ before ∨ dir = root ∧ ∀ d ∈ before, ¬ Below d (pathUnder location root)) := by
  have apart : ∀ {d}, ¬ Below d (pathUnder location root) →
      classNameUnder d (pathUnder location root) = none := fun not => by
    rw [classNameUnder_eq (components_pathUnder parted own root), if_neg not]
  cases found : before.findSome? (classNameUnder · (pathUnder location root)) with
  | some className =>
    obtain ⟨dir, mem, held⟩ := List.exists_of_findSome?_eq_some found
    have below : Below dir (pathUnder location root) := by
      by_contra not
      rw [apart not] at held
      cases held
    refine ⟨dir, className, below, held, ?_, .inl mem⟩
    rw [List.findSome?_append, found, Option.some_or]
  | none =>
    have below := below_pathUnder parted own root
    obtain ⟨className, held, -⟩ := classNameUnder_pathUnder parted own below
    refine ⟨root, className, below, held, ?_, .inr ⟨rfl, fun d mem below' => ?_⟩⟩
    · rw [List.findSome?_append, found, Option.none_or, List.findSome?_cons, held]
    · obtain ⟨_, held', -⟩ := classNameUnder_pathUnder parted own below'
      have nothing := List.findSome?_eq_none_iff.1 found d mem
      rw [held'] at nothing
      cases nothing

end

/-- A file that is found for a class below a root holds the class by its place, unless the class has
no name of its own or an earlier root has the file below it too: then the place below that root
counts. -/
theorem resolveBreakpoint_sourcePath {dirs : List String} {files : Path.Tree}
    {location : Location} {p : String} (named : IsClassName location.className)
    (own : UnderOwnName location)
    (found : sourcePath (.roots dirs files) location = some p) (line : UInt32)
    (column : Option UInt32) :
    ∃ before root after className, dirs = before ++ root :: after ∧
      p = pathUnder location root ∧
      (∀ dir ∈ before, files.hasPath (pathUnder location dir) = false) ∧
      resolveBreakpoint (.roots dirs files) p line column =
        some { className, methodName := none, methodSignature := none, line, alternates := [] } ∧
      (className = outermost location.className ↔
        Signature.simpleName (outermost location.className) ≠ "" ∧
          ∀ dir ∈ before, ¬ Below dir p) := by
  obtain ⟨packages, simple, parted⟩ := exists_parted named
  rw [sourcePath, List.find?_map, Option.map_eq_some_iff] at found
  obtain ⟨root, found, rfl⟩ := found
  obtain ⟨there, before, after, rfl, missing⟩ := List.find?_eq_some_iff_append.1 found
  have absent : ∀ dir ∈ before, files.hasPath (pathUnder location dir) = false :=
    fun dir mem => by simpa using missing dir mem
  obtain ⟨dir, className, below, held, first, place⟩ :=
    findSome?_classNameUnder parted own before after root
  have resolved : resolveBreakpoint (.roots (before ++ root :: after) files)
      (pathUnder location root) line column = some ⟨className, none, none, line, []⟩ := by
    show Option.map _ ((before ++ root :: after).findSome? _) = _
    rw [first]
    rfl
  obtain ⟨_, held', exact'⟩ := classNameUnder_pathUnder parted own below
  cases held.symm.trans held'
  refine ⟨before, root, after, className, rfl, rfl, absent, resolved, ?_⟩
  rw [parted.own, exact']
  refine and_congr_right fun _ => ?_
  rcases place with mem | ⟨rfl, free⟩
  · -- A root with the same components would have had the file.
    refine iff_of_false (fun same => ?_) fun free => free dir mem below
    have gone := absent dir mem
    rw [hasPath_pathUnder parted own files same] at gone
    exact absurd (gone.symm.trans there) Bool.false_ne_true
  · exact iff_of_true rfl free

/-- A nested class, whose file is below the second of two roots. -/
theorem resolveBreakpoint_sourcePath_apart :
    let lookup : SourceLookup :=
      .roots ["lib", "src"] (({} : Path.Tree).addFile "src/com/example/App.java" "")
    let location : Location :=
      { className := "com.example.App$Inner", methodName := "run", line := 4 }
    IsClassName location.className ∧ UnderOwnName location ∧
      lookup.sourcePath location = some "src/com/example/App.java" ∧
      ∃ className, lookup.resolveBreakpoint "src/com/example/App.java" 9 (some 3) =
        some ⟨className, none, none, 9, []⟩ ∧ className = outermost location.className := by
  intro lookup location
  have named : IsClassName location.className := by decide
  have own : UnderOwnName location := fun _ told => nomatch told
  have found : lookup.sourcePath location = some "src/com/example/App.java" := by decide +kernel
  obtain ⟨before, root, after, className, split, path, -, resolved, exact'⟩ :=
    resolveBreakpoint_sourcePath named own found 9 (some 3)
  refine ⟨named, own, found, className, resolved, exact'.2 ⟨by decide +kernel, ?_⟩⟩
  have apart : ¬ Below "lib" "src/com/example/App.java" := by decide +kernel
  rcases before with _ | ⟨dir, _ | ⟨dir', rest⟩⟩
  · exact fun _ mem => nomatch mem
  · cases split
    exact fun dir mem => List.mem_singleton.1 mem ▸ apart
  · simp at split

/-- With one root inside another, the outer one first, the file of `com.A` holds `main.com.A`. -/
theorem inner_root_passed_over :
    let lookup : SourceLookup :=
      .roots ["src", "src/main"] (({} : Path.Tree).addFile "src/main/com/A.java" "")
    let location : Location := { className := "com.A", methodName := "m", line := 5 }
    IsClassName location.className ∧ UnderOwnName location ∧
      lookup.sourcePath location = some "src/main/com/A.java" ∧
      ¬ ∃ place, lookup.resolveBreakpoint "src/main/com/A.java" 5 none = some place ∧
        place.className = outermost location.className := by
  intro lookup location
  refine ⟨by decide, fun _ told => (nomatch told), by decide +kernel, ?_⟩
  rintro ⟨place, resolved, same⟩
  have other : lookup.resolveBreakpoint "src/main/com/A.java" 5 none =
      some ⟨"main.com.A", none, none, 5, []⟩ := by decide +kernel
  rw [other] at resolved
  cases resolved
  exact absurd same (by decide +kernel)

end SourceLookup
end DebugSession
