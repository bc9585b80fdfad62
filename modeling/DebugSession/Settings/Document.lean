import DebugSession.Settings.Basic
import DebugSession.Toml.Parser
/-!
Settings from a configuration file. Keys that are not there keep their defaults, unknown ones do
not matter. A section may also be given as the list of its values in order.
-/

namespace DebugSession.Settings

open DebugSession (Toml)

/-- The values of a section, by their keys. -/
abbrev Section := List (String × Toml)

/-- The section in a value. A date or time is one that gives no key. -/
def section? (keys : List String) : Toml → Option Section
  | .table _ entries => some entries
  | .datetime => some []
  | .arr items => some (keys.zip items)
  | .tables reversed => some (keys.zip (reversed.reverse.map (Toml.table .header)))
  | _ => none

/-- The value of a key, when it is there, as `read` has it. -/
def setting (s : Section) (key : String) (read : Toml → Option α) (default : α) : Option α :=
  match Toml.find? key s with
  | none => some default
  | some v => read v

def readBool : Toml → Option Bool
  | .bool b => some b
  | _ => none

def readNat : Toml → Option Nat
  | .int n => if 0 ≤ n then some n.toNat else none
  | _ => none

def readString : Toml → Option String
  | .str s => some s
  | _ => none

def readStrings : Toml → Option (List String)
  | .arr items => items.mapM readString
  | .tables [] => some []
  | _ => none

/-- A table or list without anything in it. -/
def isEmpty : Toml → Bool
  | .table _ entries => entries.isEmpty
  | .arr items => items.isEmpty
  | _ => false

/-- A mode by its name, or as the only key of a table, with nothing in it. -/
def readAsyncMode : Toml → Option AsyncMode
  | .str s => AsyncMode.ofName? s
  | .table _ [(key, v)] => if isEmpty v then AsyncMode.ofName? key else none
  | _ => none

def readVariables (v : Toml) : Option VariableSettings := do
  let s ← section? ["page_size", "show_static_variables", "show_logical_structure", "show_hex",
    "show_qualified_names", "max_string_length"] v
  return {
    pageSize := ← setting s "page_size" readNat 100
    showStaticVariables := ← setting s "show_static_variables" readBool false
    showLogicalStructure := ← setting s "show_logical_structure" readBool true
    showHex := ← setting s "show_hex" readBool false
    showQualifiedNames := ← setting s "show_qualified_names" readBool false
    maxStringLength := ← setting s "max_string_length" readNat 0 }

def readRemote (v : Toml) : Option RemoteSettings := do
  let s ← section? ["async_mode", "latency_threshold_ms", "request_timeout_secs"] v
  return {
    asyncMode := ← setting s "async_mode" readAsyncMode .auto
    latencyThresholdMs := ← setting s "latency_threshold_ms" readNat 15
    requestTimeoutSecs := ← setting s "request_timeout_secs" readNat 30 }

def readStepping (v : Toml) : Option SteppingSettings := do
  let defaults : SteppingSettings := {}
  let s ← section? ["class_filters", "skip_synthetic", "skip_constructors"] v
  return {
    classFilters := ← setting s "class_filters" readStrings defaults.classFilters
    skipSynthetic := ← setting s "skip_synthetic" readBool true
    skipConstructors := ← setting s "skip_constructors" readBool false }

def readThreads (v : Toml) : Option ThreadSettings := do
  let s ← section? ["death_cache_size"] v
  return { deathCacheSize := ← setting s "death_cache_size" readNat 100 }

def readExceptions (v : Toml) : Option ExceptionSettings := do
  let s ← section? ["default_caught", "default_uncaught"] v
  return {
    defaultCaught := ← setting s "default_caught" readBool false
    defaultUncaught := ← setting s "default_uncaught" readBool false }

def ofDocument (entries : Section) : Option Settings := do
  return {
    display := ← setting entries "variables" readVariables {}
    remote := ← setting entries "remote" readRemote {}
    stepping := ← setting entries "stepping" readStepping {}
    threads := ← setting entries "threads" readThreads {}
    exceptions := ← setting entries "exceptions" readExceptions {} }

/-- The settings that a configuration file's text asks for. -/
def ofText (text : String) : Except SessionError Settings := do
  match (Toml.parse? text).bind ofDocument with
  | none => throw (.configurationSyntax "not a settings document")
  | some s =>
    s.validate
    return s

end DebugSession.Settings
