import DebugSession.Error
import DebugSession.Number.Numeral
import DebugSession.Text.Utf8
import DebugSession.Text.Blank
/-!
Messages in a stream of bytes. Header lines, one of which gives the length of the message in bytes,
end with a blank line; the message follows. Blank lines before the headers do not matter, nor do
headers other than the length.
-/

namespace DebugSession.Framing

abbrev Bytes := List UInt8

/-- The longest message that is read, in bytes. -/
def maxLength : Nat := 100 * 1024 * 1024

def lengthHeader : List Char := "Content-Length:".toList

/-- The text of a message with its header. -/
def frame (message : String) : String :=
  let length := (Text.Utf8.encode message.toList).length
  s!"Content-Length: {length}\r\n\r\n" ++ message

def encode (message : String) : Bytes := Text.Utf8.encode (frame message).toList

/-- What a stream holds next. -/
inductive Reading where
  | message (text : String) (rest : Bytes)
  | failed (e : SessionError)
  /-- The stream has ended between two messages. -/
  | ended
  /-- There is more to come before this can be told. -/
  | incomplete
  deriving DecidableEq, Repr

def splitLine : Bytes → Option (Bytes × Bytes)
  | [] => none
  | b :: bytes =>
    if b = 10 then some ([b], bytes)
    else (splitLine bytes).map fun (line, rest) => (b :: line, rest)

theorem splitLine_length {bytes line rest : Bytes} (h : splitLine bytes = some (line, rest)) :
    rest.length < bytes.length := by
  induction bytes generalizing line with
  | nil => simp [splitLine] at h
  | cons b bytes ih =>
    simp only [splitLine] at h
    split at h
    · simp only [Option.some.injEq, Prod.mk.injEq] at h
      simp [← h.2]
    · simp only [Option.map_eq_some_iff, Prod.mk.injEq] at h
      obtain ⟨⟨line', rest'⟩, h, -, rfl⟩ := h
      have := ih h
      simp only [List.length_cons] at this ⊢
      omega

def readHeader (length : Option Nat) (line : Bytes) : Except SessionError (Option Nat) :=
  match Text.Utf8.decode line with
  | .error fault => .error (.io fault.message)
  | .ok cs =>
    match Text.after? lengthHeader (Text.trim cs) with
    | none => .ok length
    | some value =>
      let value := Text.trim value
      match Number.readNatUpTo (Number.maxUnsigned 64) value with
      | some n => .ok (some n)
      | none => .error (.protocol ("Invalid Content-Length: " ++ String.ofList value))

/-- A message of the length that the headers give. -/
def readBody (ended : Bool) (length : Option Nat) (bytes : Bytes) : Reading :=
  match length with
  | none => .failed (.protocol "Missing Content-Length header")
  | some n =>
    if maxLength < n then .failed (.protocol s!"Content-Length too large: {n} bytes")
    else
      let body := bytes.take n
      if body.length < n then
        if ended then .failed (.protocol "Stream ended inside a message") else .incomplete
      else match Text.Utf8.decode body with
        | .ok cs => .message (String.ofList cs) (bytes.drop n)
        | .error fault => .failed (.protocol ("Invalid UTF-8: " ++ fault.message))

/-- Reads on in the headers; `length` is what they say so far, if there are any. -/
def readHeaders (ended : Bool) (seen : Bool) (length : Option Nat) (bytes : Bytes) : Reading :=
  match _h : splitLine bytes with
  | some (line, rest) =>
    if line = [10] || line = [13, 10] then
      if seen then readBody ended length rest else readHeaders ended false none rest
    else
      match readHeader length line with
      | .ok length => readHeaders ended true length rest
      | .error e => .failed e
  | none =>
    if !ended then .incomplete
    else if bytes.isEmpty then
      if seen then .failed (.protocol "Stream ended inside headers") else .ended
    else
      match readHeader length bytes with
      | .ok _ => .failed (.protocol "Stream ended inside headers")
      | .error e => .failed e
termination_by bytes.length
decreasing_by all_goals exact splitLine_length (by assumption)

/-- What comes next in a stream of which `bytes` are left. -/
def read (ended : Bool) (bytes : Bytes) : Reading := readHeaders ended false none bytes

theorem readBody_length {ended : Bool} {length : Option Nat} {bytes rest : Bytes} {text : String}
    (h : readBody ended length bytes = .message text rest) : rest.length ≤ bytes.length := by
  unfold readBody at h
  split at h
  · cases h
  · dsimp only at h
    repeat' split at h
    all_goals cases h
    simp

theorem readHeaders_length {ended seen : Bool} {length : Option Nat} {bytes rest : Bytes}
    {text : String} (h : readHeaders ended seen length bytes = .message text rest) :
    rest.length < bytes.length := by
  fun_induction readHeaders ended seen length bytes with
  | case1 => exact Nat.lt_of_le_of_lt (readBody_length h) (splitLine_length (by assumption))
  | case2 => rename_i ih; exact Nat.lt_trans (ih h) (splitLine_length (by assumption))
  | case3 => rename_i ih; exact Nat.lt_trans (ih h) (splitLine_length (by assumption))
  | case4 => cases h
  | case5 => cases h
  | case6 => cases h
  | case7 => cases h
  | case8 => cases h
  | case9 => cases h

/-- Every message of a stream that has ended, and the error that stops the reading, if any. -/
def readAll (bytes : Bytes) : List String × Option SessionError :=
  match _h : read true bytes with
  | .message text rest =>
    let (texts, e) := readAll rest
    (text :: texts, e)
  | .failed e => ([], some e)
  | .ended | .incomplete => ([], none)
termination_by bytes.length
decreasing_by exact readHeaders_length (by assumption)

end DebugSession.Framing
