import Mathlib.Data.Nat.Basic

/-! Identifiers and typed failures shared by every crate. UUIDs are natural
numbers, which the program only compares and orders. Timestamps are integers:
microseconds since the Unix epoch, the resolution of stored timestamps. -/

set_option autoImplicit false

namespace Roosty

structure AccountId where
  value : Nat
deriving DecidableEq

structure StatusId where
  value : Nat
deriving DecidableEq

structure JobId where
  value : Nat
deriving DecidableEq

/-- Opaque lease identity for one attempt to process a durable job. -/
structure JobClaimId where
  value : Nat
deriving DecidableEq

inductive StatusReference where
  | localStatus (id : StatusId)
  | remoteStatus (id : StatusId)
deriving DecidableEq

inductive StatusVisibility where
  | publicStatus
  | unlisted
  | privateStatus
  | direct
deriving DecidableEq

/-- The failures that the modelled functions return. Database failures name
the constraint or conversion that refused the statement. -/
inductive RoostyError where
  | database (reason : String)
  | invalidInput (reason : String)
deriving DecidableEq

end Roosty
