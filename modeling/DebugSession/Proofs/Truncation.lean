import DebugSession.Debuggee.Calls
import DebugSession.Proofs.Ends
import DebugSession.Session.Format
import Mathlib.Data.Bool.AllAny
/-!
Texts that are shown cut. A limit is held against the escaped form of a text, and the cut is made in
that form, so that a text which is not too long may be cut, and an escape may be cut in the middle.
Main statement: just when what is shown of a text goes by the text itself.
-/

namespace DebugSession

namespace Text

variable {cs front : List Char}

theorem length_le_escape (cs : List Char) : cs.length ≤ (escape cs).length := by
  induction cs with
  | nil => exact Nat.le_refl 0
  | cons c rest ih =>
    have grown : 0 < (escapeChar c).length := List.length_pos_iff.2 (escapeChar_ne_nil c)
    have parts : escape (c :: rest) = escapeChar c ++ escape rest := List.flatMap_cons
    rw [parts, List.length_append, List.length_cons]
    omega

/-- The escaped form of a text starts with that of any part at its front. -/
theorem take_escape (h : front <+: cs) :
    (escape cs).take (escape front).length = escape front := by
  obtain ⟨rest, rfl⟩ := h
  rw [escape_append, List.take_left]

end Text

namespace Value

open Text

variable {text : List Char} {limit : Nat} {shown : String}

/-! ## Quoted text -/

def quoted (cs : List Char) : String := "\"" ++ String.ofList cs ++ "\""

theorem quoted_inj {cs cs' : List Char} : quoted cs = quoted cs' ↔ cs = cs' := by
  simp [quoted, ← String.toList_inj]

/-- What stands for the rest of a text that was cut. -/
def dots : List Char := ['.', '.', '.']

/-- What is shown goes by the text: the whole of it, unless it is longer than the limit, and else a
part at its front with all escapes whole. No limit is zero. -/
inductive ShownByText (text : List Char) (limit : Nat) : String → Prop
  | whole (fits : limit = 0 ∨ text.length ≤ limit) : ShownByText text limit (quoted (escape text))
  | part {front : List Char} (limited : 0 < limit) (long : limit < text.length)
    (start : front <+: text) : ShownByText text limit (quoted (escape front ++ dots))

/-- A cut in the escaped form falls between two characters of the text. -/
def FallsBetween (text : List Char) (cut : Nat) : Prop :=
  ∃ front, front <+: text ∧ (escape front).length = cut

/-- The escaped form is as short as the limit wants it, or the cut takes nothing away but three dots
from a text that is not too long, or it falls between two characters of a text that is. -/
def CutsClean (text : List Char) (limit : Nat) : Prop :=
  limit = 0 ∨ (escape text).length ≤ limit ∨
    (text.length ≤ limit ∧ (escape text).drop limit = dots) ∨
    (limit < text.length ∧ FallsBetween text limit)

theorem fallsBetween_iff_take {cut : Nat} : FallsBetween text cut ↔
    ∃ n ∈ List.range (text.length + 1), (escape (text.take n)).length = cut := by
  constructor
  · rintro ⟨front, start, same⟩
    refine ⟨front.length, List.mem_range.2 (Nat.lt_succ_of_le start.length_le), ?_⟩
    rwa [← List.prefix_iff_eq_take.1 start]
  · rintro ⟨n, -, same⟩
    exact ⟨text.take n, List.take_prefix n text, same⟩

instance (text : List Char) (cut : Nat) : Decidable (FallsBetween text cut) :=
  decidable_of_iff _ fallsBetween_iff_take.symm

instance (text : List Char) (limit : Nat) : Decidable (CutsClean text limit) :=
  inferInstanceAs (Decidable (_ ∨ _ ∨ (_ ∧ _) ∨ (_ ∧ _)))

theorem quote_eq (text : String) (limit : Nat) : quote text limit =
    if 0 < limit ∧ limit < (escape text.toList).length then
      quoted ((escape text.toList).take limit ++ dots)
    else quoted (escape text.toList) := by
  have marks : "\"" ++ String.ofList ((escape text.toList).take limit) ++ "...\"" =
      quoted ((escape text.toList).take limit ++ dots) := by
    simp [quoted, dots, ← String.toList_inj]
  simp only [quote, Bool.and_eq_true, decide_eq_true_eq, marks]
  rfl

/-! ## Where the cut falls -/

theorem shownByText_whole_iff (fits : limit = 0 ∨ text.length ≤ limit) :
    ShownByText text limit shown ↔ shown = quoted (escape text) := by
  constructor
  · intro h
    cases h with
    | whole => rfl
    | part limited long => omega
  · rintro rfl
    exact .whole fits

theorem shownByText_part_iff (limited : 0 < limit) (long : limit < text.length) :
    ShownByText text limit shown ↔
      ∃ front, front <+: text ∧ shown = quoted (escape front ++ dots) := by
  constructor
  · intro h
    cases h with
    | whole fits => omega
    | part _ _ start => exact ⟨_, start, rfl⟩
  · rintro ⟨front, start, rfl⟩
    exact .part limited long start

/-- The escaped form of a part at the front has the length at which it is cut. -/
theorem fallsBetween_iff (within : limit ≤ (escape text).length) : FallsBetween text limit ↔
    ∃ front, front <+: text ∧ (escape text).take limit = escape front := by
  constructor
  · rintro ⟨front, start, rfl⟩
    exact ⟨front, start, take_escape start⟩
  · rintro ⟨front, start, same⟩
    refine ⟨front, start, ?_⟩
    rw [← same, List.length_take, Nat.min_eq_left within]

/-- What is kept of the escaped form makes up the whole with the dots if just these were taken. -/
theorem take_append_dots_iff : (escape text).take limit ++ dots = escape text ↔
    (escape text).drop limit = dots := by
  constructor
  · intro same
    have split := same.trans (List.take_append_drop limit (escape text)).symm
    exact (List.append_cancel_left split).symm
  · intro same
    rw [← same, List.take_append_drop]

theorem shownByText_quote_iff (text : String) (limit : Nat) :
    ShownByText text.toList limit (quote text limit) ↔ CutsClean text.toList limit := by
  rw [quote_eq, CutsClean]
  have grows := length_le_escape text.toList
  by_cases cut : 0 < limit ∧ limit < (escape text.toList).length
  · have limited : limit ≠ 0 := by omega
    have beyond : ¬ (escape text.toList).length ≤ limit := by omega
    rw [if_pos cut]
    -- The escaped form is cut, but the text itself need not be too long.
    by_cases fits : text.toList.length ≤ limit
    · have short : ¬ limit < text.toList.length := by omega
      rw [shownByText_whole_iff (.inr fits), quoted_inj, take_append_dots_iff]
      simp [limited, beyond, fits, short]
    · have long : limit < text.toList.length := by omega
      simp only [shownByText_part_iff cut.1 long, quoted_inj, List.append_cancel_right_eq]
      rw [← fallsBetween_iff (by omega)]
      simp [limited, beyond, fits, long]
  · have whole : limit = 0 ∨ (escape text.toList).length ≤ limit := by omega
    have fits : limit = 0 ∨ text.toList.length ≤ limit := by omega
    rw [if_neg cut]
    exact iff_of_true (.whole fits) (whole.imp_right .inl)

/-- Where nothing is escaped, every cut is clean. -/
theorem cutsClean_of_plain (plain : ∀ c ∈ text, escapeChar c = [c]) (limit : Nat) :
    CutsClean text limit := by
  have same : ∀ {cs : List Char}, (∀ c ∈ cs, escapeChar c = [c]) → escape cs = cs := by
    intro cs plain
    exact (List.flatMap_congr plain).trans (List.flatMap_singleton' cs)
  by_cases long : limit < text.length
  · have cut : escape (text.take limit) = text.take limit :=
      same fun c mem => plain c (List.mem_of_mem_take mem)
    refine .inr (.inr (.inr ⟨long, text.take limit, List.take_prefix limit text, ?_⟩))
    rw [cut, List.length_take, Nat.min_eq_left (Nat.le_of_lt long)]
  · have short : (escape text).length ≤ limit := by
      rw [same plain]
      omega
    exact .inr (.inl short)

end Value

/-! ## Strings of the debuggee -/

namespace Session

variable {V : Type} [Machine V] {s : Session V} {o : ObjectRef} {text : String}

theorem formatValue_string_iff (kind : o.kind = .string) (size : Option Nat)
    (options : FormatOptions) {shown : String} :
    Settles (formatValue (.object o) size options) s (fun r _ => r = .ok shown) ↔
      ∃ text, Settles (call (.stringValue o.id)) s (fun r _ => r = .ok text) ∧
        Value.quote text options.maxStringLength = shown := by
  simp only [formatValue, formatObject, kind]
  exact settles_return_ok

/-- A string whose text the debuggee answers is shown, and what is shown goes by the text if and
only if the cut in its escaped form happens to be clean. -/
theorem formatValue_shownByText_iff (kind : o.kind = .string) (size : Option Nat)
    (options : FormatOptions)
    (answered : Settles (call (.stringValue o.id)) s fun r _ => r = .ok text) :
    ∃ shown, Settles (formatValue (.object o) size options) s (fun r _ => r = .ok shown) ∧
      (Value.ShownByText text.toList options.maxStringLength shown ↔
        Value.CutsClean text.toList options.maxStringLength) :=
  ⟨_, (formatValue_string_iff kind size options).2 ⟨text, answered, rfl⟩,
    Value.shownByText_quote_iff text options.maxStringLength⟩

private def aString : ObjectRef := ⟨7, "java.lang.String", .string⟩

/-- A new session with a debuggee that has a string. -/
private def withString (text : String) : Session Debuggee :=
  start (({} : Debuggee).addObject { reference := aString, text := some text }) {} {}

theorem formatValue_shownByText_greeting : ∃ shown,
    Settles (formatValue (.object aString) none { maxStringLength := 5 }) (withString "hello world")
      (fun r _ => r = .ok shown) ∧ Value.ShownByText "hello world".toList 5 shown := by
  have answered : (Task.run advance (call (.stringValue aString.id)).run
      (withString "hello world")).1 = .ok "hello world" := by decide +kernel
  obtain ⟨shown, formatted, goes⟩ := formatValue_shownByText_iff
    (s := withString "hello world") rfl none { maxStringLength := 5 } answered
  have plain : ∀ c ∈ "hello world".toList, Text.escapeChar c = [c] :=
    List.all_iff_forall_prop.1 (by decide +kernel)
  exact ⟨shown, formatted, goes.2 (Value.cutsClean_of_plain plain 5)⟩

/-- A text of one character is cut to one, and of the end of a line that is the second of two
characters only the first half is left. -/
theorem line_end_cut :
    let shown (text : String) (limit : Nat) := (Task.run advance
      (formatValue (.object aString) none { maxStringLength := limit }).run (withString text)).1
    (shown "\n" 1 = .ok "\"\\...\"" ∧ ¬ Value.ShownByText "\n".toList 1 "\"\\...\"") ∧
      shown "a\nb" 2 = .ok "\"a\\...\"" ∧ ¬ Value.ShownByText "a\nb".toList 2 "\"a\\...\"" := by
  have one : Value.quote "\n" 1 = "\"\\...\"" := by decide +kernel
  have two : Value.quote "a\nb" 2 = "\"a\\...\"" := by decide +kernel
  rw [← one, ← two, Value.shownByText_quote_iff, Value.shownByText_quote_iff]
  decide +kernel

end Session
end DebugSession
