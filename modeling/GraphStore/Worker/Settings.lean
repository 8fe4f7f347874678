import GraphStore.Store.Settings
import GraphStore.Text.Blank
import GraphStore.Toml.Parser
import GraphStore.Worker.Error

/-!
# Settings of the worker

Settings are read from a settings document; what the document does not say keeps its default.
-/

namespace GraphStore

open Wire

/-- The settings of a worker. -/
structure WorkerSettings where
  baseUrl : String
  logFilter : String
  /-- How long to wait for the server, in milliseconds. -/
  requestTimeoutMs : Nat
  store : StoreSettings
  deriving DecidableEq

namespace WorkerSettings

/-- The settings without a document. -/
def default : WorkerSettings := ⟨"http://localhost:8080", "info", 30000, .default⟩

instance : Wire WorkerSettings where
  read source
    | .obj fields => do
      let baseUrl ← optionalField fields "base_url" readString
      let logFilter ← optionalField fields "log_filter" readString
      let timeout ← optionalField fields "request_timeout_ms" (StoreSettings.readNat .u64)
      let store ← optionalField fields "store" (read source)
      return ⟨baseUrl.getD default.baseUrl, logFilter.getD default.logFilter,
        timeout.getD default.requestTimeoutMs, store.getD default.store⟩
    | .arr items => do
      let baseUrl ← element items 0 readString (.ok default.baseUrl)
      let logFilter ← element items 1 readString (.ok default.logFilter)
      let timeout ← element items 2 (StoreSettings.readNat .u64) (.ok default.requestTimeoutMs)
      let store ← element items 3 (read source) (.ok default.store)
      noExcess source items 4
      return ⟨baseUrl, logFilter, timeout, store⟩
    | a => refuse a (.record "WorkerConfig")
  write s := .obj [("base_url", .str s.baseUrl), ("log_filter", .str s.logFilter),
    ("request_timeout_ms", .int s.requestTimeoutMs), ("store", write s.store)]

/-- The first thing that is wrong with the settings. -/
def fault? (s : WorkerSettings) : Option SettingsError :=
  if s.baseUrl.toList.all Text.isBlank then some .blankBaseUrl
  else if s.store.entityCapacity = 0 then some .zeroCapacity
  else none

end WorkerSettings

/-- The record that the text of a settings document holds. -/
def readDocument? {α : Type} [Wire α] (text : List Char) : Option α :=
  (Toml.parse? text).bind fun document => (read .settings document.json).toOption

/-- The settings of a store that a document holds. -/
def StoreSettings.ofDocument? (text : List Char) : Option StoreSettings := readDocument? text

/-- The settings of a worker that a document holds, if they make sense. -/
def WorkerSettings.ofDocument (text : List Char) : Except WorkerError WorkerSettings :=
  match readDocument? text with
  | none => .error .malformedSettings
  | some (s : WorkerSettings) =>
    match s.fault? with
    | some e => .error (.settings e)
    | none => .ok s

end GraphStore
