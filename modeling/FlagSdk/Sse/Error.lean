import Mathlib.Tactic.Common

/-! The errors that a client of an event stream reports. -/

namespace FlagSdk.Sse

inductive Error where
  | invalidRedirectLocation (location : String)
  | notRedirectable
  | readTimeout (timeout : Option Nat)
  | unrecoverableClientError (status : Nat)
  deriving DecidableEq, Repr

def isRecoverable : Error → Bool
  | .readTimeout _ => true
  | _ => false

def errorToString : Error → String
  | .invalidRedirectLocation location =>
    "received invalid redirect from server, cannot follow (" ++ location ++ ") - giving up permanently"
  | .notRedirectable => "received malformed redirect from server, cannot follow - giving up permanently"
  | .readTimeout timeout =>
    "timed out reading response body (exceeded " ++ toString (timeout.getD 0) ++ "ms) - will retry"
  | .unrecoverableClientError status =>
    "received HTTP error " ++ toString status ++ (if status = 401 ∨ status = 403 then " (invalid auth key)" else "") ++
      " for streaming connection - giving up permanently"

end FlagSdk.Sse
