import GraphStore.Graph.Kind
import GraphStore.Wire.DecodeError

/-!
# What can go wrong in the worker
-/

namespace GraphStore

/-- What is wrong with settings that can be read. -/
inductive SettingsError where
  | blankBaseUrl
  | zeroCapacity
  deriving DecidableEq

def SettingsError.message : SettingsError → String
  | .blankBaseUrl => "base_url must not be empty"
  | .zeroCapacity => "store.entity_capacity must be positive"

/-- The channels of the worker. -/
inductive Channel where
  | socket
  /-- The channel by which a reply is let through. -/
  | gate
  deriving DecidableEq

def Channel.text : Channel → String
  | .socket => "socket"
  | .gate => "gate"

/-- An error of the worker. -/
inductive WorkerError where
  /-- The server could not be asked, or its answer is not JSON. -/
  | transport
  | status (code : Nat) (path : String)
  | decode (error : DecodeError)
  | store (error : UnknownKind)
  /-- The settings are not in the language of settings, or mistyped. -/
  | malformedSettings
  | settings (error : SettingsError)
  | notAuthenticated
  | channelClosed (channel : Channel)
  | notText
  deriving DecidableEq

namespace WorkerError

/-- The text of an error; the texts of some errors are not fixed. -/
def message? : WorkerError → Option String
  | transport => none
  | status code path =>
    some ("server returned " ++ String.ofList (decimalDigits code) ++ " for " ++ path)
  | decode e => some ("decode error: " ++ e.message)
  | store e => some ("store error: " ++ e.message)
  | malformedSettings => none
  | settings e => some ("configuration error: " ++ e.message)
  | notAuthenticated => some "no current user"
  | channelClosed channel => some (channel.text ++ " channel closed")
  | notText => some "io error: stream did not contain valid UTF-8"

/-- The error comes from the way to the server. -/
def isNetwork : WorkerError → Bool
  | transport => true
  | status _ _ => true
  | _ => false

/-- The server itself failed. -/
def isServerError : WorkerError → Bool
  | status code _ => 500 ≤ code
  | _ => false

end WorkerError

end GraphStore
