import DebugSession.Json.Entry
import DebugSession.Settings.Basic
/-!
The form of settings in JSON. What is not given has its usual value.
-/

namespace DebugSession

open Json (entry)

instance : Json.Format VariableSettings where
  read j := return {
    pageSize := ← j.memberOr "page_size" 100
    showStaticVariables := ← j.memberOr "show_static_variables" false
    showLogicalStructure := ← j.memberOr "show_logical_structure" true
    showHex := ← j.memberOr "show_hex" false
    showQualifiedNames := ← j.memberOr "show_qualified_names" false
    maxStringLength := ← j.memberOr "max_string_length" 0 }
  write v := .obj [
    entry "page_size" v.pageSize,
    entry "show_static_variables" v.showStaticVariables,
    entry "show_logical_structure" v.showLogicalStructure,
    entry "show_hex" v.showHex,
    entry "show_qualified_names" v.showQualifiedNames,
    entry "max_string_length" v.maxStringLength]

instance : Json.Format AsyncMode where
  read j := do
    match AsyncMode.ofName? (← Json.readString j) with
    | some mode => return mode
    | none => j.unexpected "auto, on or off"
  write mode := .str mode.name

instance : Json.Format RemoteSettings where
  read j := return {
    asyncMode := ← j.memberOr "async_mode" .auto
    latencyThresholdMs := ← j.memberOr "latency_threshold_ms" 15
    requestTimeoutSecs := ← j.memberOr "request_timeout_secs" 30 }
  write r := .obj [
    entry "async_mode" r.asyncMode,
    entry "latency_threshold_ms" r.latencyThresholdMs,
    entry "request_timeout_secs" r.requestTimeoutSecs]

instance : Json.Format SteppingSettings where
  read j := do
    let usual : SteppingSettings := {}
    return {
      classFilters := ← j.memberOr "class_filters" usual.classFilters
      skipSynthetic := ← j.memberOr "skip_synthetic" true
      skipConstructors := ← j.memberOr "skip_constructors" false }
  write s := .obj [
    entry "class_filters" s.classFilters,
    entry "skip_synthetic" s.skipSynthetic,
    entry "skip_constructors" s.skipConstructors]

instance : Json.Format ThreadSettings where
  read j := return { deathCacheSize := ← j.memberOr "death_cache_size" 100 }
  write t := .obj [entry "death_cache_size" t.deathCacheSize]

instance : Json.Format ExceptionSettings where
  read j := return {
    defaultCaught := ← j.memberOr "default_caught" false
    defaultUncaught := ← j.memberOr "default_uncaught" false }
  write e := .obj [
    entry "default_caught" e.defaultCaught,
    entry "default_uncaught" e.defaultUncaught]

instance : Json.Format Settings where
  read j := return {
    display := ← j.memberOr "variables" {}
    remote := ← j.memberOr "remote" {}
    stepping := ← j.memberOr "stepping" {}
    threads := ← j.memberOr "threads" {}
    exceptions := ← j.memberOr "exceptions" {} }
  write s := .obj [
    entry "variables" s.display,
    entry "remote" s.remote,
    entry "stepping" s.stepping,
    entry "threads" s.threads,
    entry "exceptions" s.exceptions]

end DebugSession
