import DebugSession.Error
import DebugSession.Text.Escape
/-!
What a user can set: how variables are listed and shown, how the debuggee is called, what steps
skip. Settings can change while a session lives.
-/

namespace DebugSession

structure VariableSettings where
  /-- How many values one call fetches at most. -/
  pageSize : Nat := 100
  showStaticVariables : Bool := false
  showLogicalStructure : Bool := true
  showHex : Bool := false
  showQualifiedNames : Bool := false
  /-- Longer texts are cut; zero means no limit. -/
  maxStringLength : Nat := 0
  deriving DecidableEq, Repr, Inhabited

inductive AsyncMode where
  | auto
  | on
  | off
  deriving DecidableEq, Repr, Inhabited

structure RemoteSettings where
  asyncMode : AsyncMode := .auto
  /-- In automatic mode, calls overlap from this latency on. -/
  latencyThresholdMs : Nat := 15
  requestTimeoutSecs : Nat := 30
  deriving DecidableEq, Repr, Inhabited

structure SteppingSettings where
  /-- Classes that stepping into does not stop in; a star at the end stands for any rest. -/
  classFilters : List String := ["java.lang.ClassLoader", "sun.*", "jdk.internal.*"]
  skipSynthetic : Bool := true
  skipConstructors : Bool := false
  deriving DecidableEq, Repr, Inhabited

structure ThreadSettings where
  /-- How many threads that have ended are remembered. -/
  deathCacheSize : Nat := 100
  deriving DecidableEq, Repr, Inhabited

structure ExceptionSettings where
  defaultCaught : Bool := false
  defaultUncaught : Bool := false
  deriving DecidableEq, Repr, Inhabited

structure Settings where
  display : VariableSettings := {}
  remote : RemoteSettings := {}
  stepping : SteppingSettings := {}
  threads : ThreadSettings := {}
  exceptions : ExceptionSettings := {}
  deriving DecidableEq, Repr, Inhabited

namespace AsyncMode

def name : AsyncMode → String
  | .auto => "auto"
  | .on => "on"
  | .off => "off"

def title : AsyncMode → String
  | .auto => "Auto"
  | .on => "On"
  | .off => "Off"

def ofName? (s : String) : Option AsyncMode := [auto, on, off].find? fun m => m.name = s

theorem ofName?_name (m : AsyncMode) : ofName? m.name = some m := by
  cases m <;> decide

end AsyncMode

/-- A page of no values would never come to an end. -/
def Settings.validate (s : Settings) : Except SessionError Unit :=
  if s.display.pageSize = 0 then
    .error (.configuration "variables.page_size must be at least 1")
  else .ok ()

structure SettingsChange where
  old : Settings
  new : Settings

/-- The settings in effect, and those who listen to changes, in the order in which they came. -/
structure SettingsHandle (ι : Type) where
  current : Settings
  listeners : List ι := []

namespace SettingsHandle

variable {ι : Type}

def addListener (h : SettingsHandle ι) (listener : ι) : SettingsHandle ι :=
  { h with listeners := h.listeners ++ [listener] }

/-- Replaces the settings by valid ones. If they differ, every listener is to hear of it. -/
def update (h : SettingsHandle ι) (new : Settings) :
    Except SessionError (SettingsHandle ι × List (ι × SettingsChange)) := do
  new.validate
  let notices := if h.current = new then [] else h.listeners.map fun l => (l, ⟨h.current, new⟩)
  return ({ h with current := new }, notices)

end SettingsHandle

/-! ## How calls are made -/

inductive CallMode where
  /-- One call at a time. -/
  | synchronous
  /-- Calls that do not depend on each other overlap. -/
  | pipelined
  deriving DecidableEq, Repr, Inhabited

namespace CallMode

def name : CallMode → String
  | .synchronous => "synchronous"
  | .pipelined => "pipelined"

def title : CallMode → String
  | .synchronous => "Synchronous"
  | .pipelined => "Pipelined"

def choose (latencyUs : Nat) (s : RemoteSettings) : CallMode :=
  match s.asyncMode with
  | .on => .pipelined
  | .off => .synchronous
  | .auto => if s.latencyThresholdMs * 1000 ≤ latencyUs then .pipelined else .synchronous

end CallMode

/-! ## Settings as a developer sees them -/

/-- A record by its name and fields; `open` ones have more than is shown. -/
def inspectRecord (name : String) (fields : List (String × String)) (isOpen : Bool := false) :
    String :=
  let parts := fields.map fun (k, v) => k ++ ": " ++ v
  let parts := if isOpen then parts ++ [".."] else parts
  name ++ " \x7b " ++ String.intercalate ", " parts ++ " \x7d"

def inspectBool (b : Bool) : String := if b then "true" else "false"

def Settings.inspect (s : Settings) : String :=
  let v := s.display
  inspectRecord "Settings" [
    ("variables", inspectRecord "VariableSettings" [
      ("page_size", Nat.repr v.pageSize),
      ("show_static_variables", inspectBool v.showStaticVariables),
      ("show_logical_structure", inspectBool v.showLogicalStructure),
      ("show_hex", inspectBool v.showHex),
      ("show_qualified_names", inspectBool v.showQualifiedNames),
      ("max_string_length", Nat.repr v.maxStringLength)]),
    ("remote", inspectRecord "RemoteSettings" [
      ("async_mode", s.remote.asyncMode.title),
      ("latency_threshold_ms", Nat.repr s.remote.latencyThresholdMs),
      ("request_timeout_secs", Nat.repr s.remote.requestTimeoutSecs)]),
    ("stepping", inspectRecord "SteppingSettings" [
      ("class_filters", Text.inspectList (s.stepping.classFilters.map Text.inspect)),
      ("skip_synthetic", inspectBool s.stepping.skipSynthetic),
      ("skip_constructors", inspectBool s.stepping.skipConstructors)]),
    ("threads", inspectRecord "ThreadSettings" [
      ("death_cache_size", Nat.repr s.threads.deathCacheSize)]),
    ("exceptions", inspectRecord "ExceptionSettings" [
      ("default_caught", inspectBool s.exceptions.defaultCaught),
      ("default_uncaught", inspectBool s.exceptions.defaultUncaught)])]

/-- The settings in effect, as their holder shows them. -/
def Settings.inspectHandle (s : Settings) : String :=
  inspectRecord "SettingsHandle" [("current", s.inspect)] true

end DebugSession
