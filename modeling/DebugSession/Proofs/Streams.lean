import DebugSession.Framing
/-!
Messages in a stream that arrives in pieces. What has been read of a part of it stays so whatever
comes after that part.
-/

namespace DebugSession.Framing

/-- What was read, when more follows in the stream. -/
def Reading.extend (more : Bytes) : Reading → Reading
  | .message text rest => .message text (rest ++ more)
  | r => r

variable {ended seen : Bool} {length : Option Nat} {bytes more rest line : Bytes} {text : String}
  {e : SessionError}

theorem splitLine_append (h : splitLine bytes = some (line, rest)) :
    splitLine (bytes ++ more) = some (line, rest ++ more) := by
  induction bytes generalizing line with
  | nil => simp [splitLine] at h
  | cons b bytes ih =>
    simp only [splitLine, List.cons_append] at h ⊢
    split at h
    · rename_i newline
      obtain ⟨rfl, rfl⟩ := Prod.mk.inj (Option.some.inj h)
      rw [if_pos newline]
    · rename_i other
      obtain ⟨⟨line', rest'⟩, found, same⟩ := Option.map_eq_some_iff.1 h
      obtain ⟨rfl, rfl⟩ := Prod.mk.inj same
      rw [if_neg other, ih found]
      rfl

theorem splitLine_newline (plain : ∀ b ∈ line, b ≠ 10) :
    splitLine (line ++ 10 :: rest) = some (line ++ [10], rest) := by
  induction line with
  | nil => rfl
  | cons b line ih =>
    have other : b ≠ 10 := plain b List.mem_cons_self
    have later := ih fun c mem => plain c (List.mem_cons_of_mem _ mem)
    rw [List.cons_append, splitLine, if_neg other, later]
    rfl

theorem readBody_append (enough : readBody false length bytes ≠ .incomplete) :
    readBody ended length (bytes ++ more) = (readBody false length bytes).extend more := by
  unfold readBody at enough ⊢
  cases length with
  | none => rfl
  | some n =>
    dsimp only at enough ⊢
    by_cases large : maxLength < n
    · simp only [if_pos large, Reading.extend]
    · simp only [if_neg large] at enough ⊢
      by_cases short : (bytes.take n).length < n
      · rw [if_pos short] at enough
        exact absurd rfl enough
      · have within : n ≤ bytes.length := by
          rw [List.length_take] at short
          omega
        have same : (bytes ++ more).take n = bytes.take n := List.take_append_of_le_length within
        have after : (bytes ++ more).drop n = bytes.drop n ++ more :=
          List.drop_append_of_le_length within
        rw [same, after, if_neg short, if_neg short]
        split <;> rfl

/-- The first line of the headers, when all of it is there. -/
theorem readHeaders_line (h : splitLine bytes = some (line, rest)) :
    readHeaders ended seen length bytes =
      if line = [10] || line = [13, 10] then
        if seen then readBody ended length rest else readHeaders ended false none rest
      else
        match readHeader length line with
        | .ok length => readHeaders ended true length rest
        | .error e => .failed e := by
  rw [readHeaders]
  split
  · rename_i found
    obtain ⟨rfl, rfl⟩ := Prod.mk.inj (Option.some.inj (h.symm.trans found))
    rfl
  · rename_i none
    rw [h] at none
    cases none

theorem readHeaders_append (enough : readHeaders false seen length bytes ≠ .incomplete) :
    readHeaders ended seen length (bytes ++ more) =
      (readHeaders false seen length bytes).extend more := by
  fun_induction readHeaders false seen length bytes with
  | case1 length bytes line rest found blank =>
    rw [readHeaders_line (splitLine_append found), if_pos blank, if_pos rfl,
      readBody_append enough]
  | case2 seen length bytes line rest found blank first ih =>
    rw [readHeaders_line (splitLine_append found), if_pos blank, if_neg first, ih enough]
  | case3 seen length bytes line rest found header length' known ih =>
    rw [readHeaders_line (splitLine_append found), if_neg header, known]
    exact ih enough
  | case4 seen length bytes line rest found header e known =>
    rw [readHeaders_line (splitLine_append found), if_neg header, known]
    rfl
  | case5 => exact absurd rfl enough
  | case6 _ _ _ past => exact absurd rfl past
  | case7 _ _ _ _ past => exact absurd rfl past
  | case8 _ _ _ _ past => exact absurd rfl past
  | case9 _ _ _ _ past => exact absurd rfl past

/-- What is there of a stream decides what is read, if it is enough for that. -/
theorem read_append (enough : read false bytes ≠ .incomplete) :
    read ended (bytes ++ more) = (read false bytes).extend more :=
  readHeaders_append enough

/-- At the end of the stream as well. -/
theorem read_of_enough (enough : read false bytes ≠ .incomplete) :
    read ended bytes = read false bytes := by
  have same : read ended (bytes ++ []) = (read false bytes).extend [] := read_append enough
  rw [List.append_nil] at same
  rw [same]
  cases read false bytes with
  | message text rest => simp [Reading.extend]
  | _ => rfl

theorem read_append_of_message (h : read false bytes = .message text rest) :
    read ended (bytes ++ more) = .message text (rest ++ more) := by
  rw [read_append (by rw [h]; exact nofun), h]
  rfl

theorem read_append_of_failed (h : read false bytes = .failed e) :
    read ended (bytes ++ more) = .failed e := by
  rw [read_append (by rw [h]; exact nofun), h]
  rfl

theorem read_of_message (h : read false bytes = .message text rest) :
    read ended bytes = .message text rest :=
  (read_of_enough (by rw [h]; exact nofun)).trans h

theorem read_of_failed (h : read false bytes = .failed e) : read ended bytes = .failed e :=
  (read_of_enough (by rw [h]; exact nofun)).trans h

/-- A body that does not come to an end is an error. -/
private theorem readBody_ended :
    readBody true length bytes = readBody false length bytes ∨
      ∃ e, readBody true length bytes = .failed e := by
  unfold readBody
  cases length with
  | none => exact .inl rfl
  | some n =>
    dsimp only
    split
    · exact .inl rfl
    · split
      · exact .inr ⟨_, rfl⟩
      · exact .inl rfl

private theorem readBody_ne_incomplete : readBody true length bytes ≠ .incomplete := by
  unfold readBody
  cases length with
  | none => exact nofun
  | some n =>
    dsimp only
    split
    · exact nofun
    · split
      · exact nofun
      · split <;> exact nofun

theorem readBody_ne_ended : readBody ended length bytes ≠ .ended := by
  unfold readBody
  cases length with
  | none => exact nofun
  | some n =>
    dsimp only
    split
    · exact nofun
    · split
      · cases ended <;> exact nofun
      · split <;> exact nofun

/-- Nothing more is waited for when the stream has ended. -/
theorem read_ended : read true bytes ≠ .incomplete := by
  unfold read
  fun_induction readHeaders true false none bytes with
  | case1 => exact readBody_ne_incomplete
  | case2 _ _ _ _ _ _ _ _ ih => exact ih
  | case3 _ _ _ _ _ _ _ _ _ ih => exact ih
  | case5 _ _ _ _ going => cases going
  | _ => exact fun same => by cases same

private theorem readHeaders_message (h : readHeaders true seen length bytes = .message text rest) :
    readHeaders false seen length bytes = .message text rest := by
  fun_induction readHeaders true seen length bytes with
  | case1 length bytes line rest' found blank =>
    rw [readHeaders_line found, if_pos blank, if_pos rfl]
    have body : readBody true length rest' = readBody false length rest' ∨
      ∃ e, readBody true length rest' = .failed e := readBody_ended
    rcases body with same | ⟨e, failed⟩
    · rw [← same, h]
    · rw [failed] at h
      cases h
  | case2 seen length bytes line rest' found blank first ih =>
    rw [readHeaders_line found, if_pos blank, if_neg first, ih h]
  | case3 seen length bytes line rest' found header length' known ih =>
    rw [readHeaders_line found, if_neg header, known]
    exact ih h
  | _ => cases h

/-- A message is all there when it is read. -/
theorem read_message (h : read ended bytes = .message text rest) :
    read false bytes = .message text rest := by
  cases ended with
  | false => exact h
  | true => exact readHeaders_message h

private theorem readHeaders_ne_ended : readHeaders false seen length bytes ≠ .ended := by
  fun_induction readHeaders false seen length bytes with
  | case1 => exact readBody_ne_ended
  | case2 _ _ _ _ _ _ _ _ ih => exact ih
  | case3 _ _ _ _ _ _ _ _ _ ih => exact ih
  | case7 _ _ _ _ past => exact absurd rfl past
  | _ => exact fun same => by cases same

/-- A stream that goes on does not end between messages. -/
theorem read_ne_ended : read false bytes ≠ .ended := readHeaders_ne_ended

/-! ## Several messages -/

/-- From a stream such texts are read, and the rest is left. -/
inductive Passes : Bytes → List String → Bytes → Prop
  | nil (bytes : Bytes) : Passes bytes [] bytes
  | cons {bytes later rest : Bytes} {text : String} {texts : List String}
    (first : read false bytes = .message text later) (others : Passes later texts rest) :
    Passes bytes (text :: texts) rest

/-- Somewhere in a stream it cannot be told where messages begin. -/
inductive Broken : Bytes → Prop
  | here {bytes : Bytes} {e : SessionError} (h : read false bytes = .failed e) : Broken bytes
  | later {bytes rest : Bytes} {text : String} (h : read false bytes = .message text rest)
    (broken : Broken rest) : Broken bytes

theorem readAll_message (h : read true bytes = .message text rest) :
    readAll bytes = (text :: (readAll rest).1, (readAll rest).2) := by
  rw [readAll]
  split
  · rename_i found
    obtain ⟨rfl, rfl⟩ := Reading.message.inj (h.symm.trans found)
    rfl
  all_goals
    rename_i found
    rw [h] at found
    cases found

theorem readAll_of_failed (h : read true bytes = .failed e) : readAll bytes = ([], some e) := by
  rw [readAll]
  split
  · rename_i found
    cases h.symm.trans found
  · rename_i found
    cases h.symm.trans found
    rfl
  all_goals
    rename_i found
    cases h.symm.trans found

theorem readAll_of_ended (h : read true bytes = .ended) : readAll bytes = ([], none) := by
  rw [readAll]
  split
  · rename_i found
    cases h.symm.trans found
  · rename_i found
    cases h.symm.trans found
  all_goals rfl

namespace Passes

variable {texts : List String}

theorem append (h : Passes bytes texts rest) : Passes (bytes ++ more) texts (rest ++ more) := by
  induction h with
  | nil bytes => exact .nil _
  | cons first others ih => exact .cons (read_append_of_message first) ih

theorem concat (h : Passes bytes texts rest) {later : Bytes}
    (last : read false rest = .message text later) : Passes bytes (texts ++ [text]) later := by
  induction h with
  | nil bytes => exact .cons last (.nil _)
  | cons first others ih => exact .cons first (ih last)

theorem readAll (h : Passes bytes texts rest) : Framing.readAll bytes =
    (texts ++ (Framing.readAll rest).1, (Framing.readAll rest).2) := by
  induction h with
  | nil bytes => rfl
  | cons first others ih =>
    rw [readAll_message (read_of_message first), ih]
    rfl

end Passes

namespace Broken

theorem append (h : Broken bytes) : Broken (bytes ++ more) := by
  induction h with
  | here h => exact .here (read_append_of_failed h)
  | later h _ ih => exact .later (read_append_of_message h) ih

/-- What follows the error does not matter. -/
theorem readAll_append (h : Broken bytes) : (readAll (bytes ++ more)).1 = (readAll bytes).1 := by
  induction h with
  | here h =>
    rw [readAll_of_failed (read_append_of_failed h), readAll_of_failed (read_of_failed h)]
  | later h broken ih =>
    rw [readAll_message (read_append_of_message h), readAll_message (read_of_message h), ih]

theorem of_message (h : Broken bytes) (first : read false bytes = .message text rest) :
    Broken rest := by
  cases h with
  | here failed =>
    rw [first] at failed
    cases failed
  | later h broken =>
    obtain ⟨rfl, rfl⟩ := Reading.message.inj (first.symm.trans h)
    exact broken

theorem enough (h : Broken bytes) : read ended bytes ≠ .incomplete := by
  cases h with
  | here h =>
    rw [read_of_failed h]
    exact nofun
  | later h =>
    rw [read_of_message h]
    exact nofun

end Broken

end DebugSession.Framing
