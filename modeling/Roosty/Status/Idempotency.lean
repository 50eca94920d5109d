import Mathlib.Logic.Function.Basic
import Roosty.Core
import Roosty.Library.Machine

/-!
# Status creation under an idempotency key

A request with an `Idempotency-Key` holds an advisory lock in a transaction of its
own, the guard. Its status is created by a second transaction, and the guard records
the result after the response has been rendered. Many requests are under way at
once, in any number of processes, and each may fail at every statement.
-/

set_option autoImplicit false

namespace Roosty.Status

open Library

/-- Existing result protected by an account-scoped status idempotency key. -/
inductive ExistingStatusCreation where
  | status (id : StatusId)
  | scheduledStatus (id : Nat)
deriving DecidableEq

structure StatusCreationIdempotency where
  result : ExistingStatusCreation
  expiresAt : Int
  createdAt : Int
deriving DecidableEq

/-- The hash of a key, and the advisory lock of an account and the hash of a key. -/
structure Hashes where
  keyHash : String → String
  lock : AccountId → String → Int

/-- PostgreSQL transaction retaining an advisory lock until a creation result is
recorded. It may have deleted an expired row. -/
structure StatusCreationGuard where
  accountId : AccountId
  keyHash : String
  deleted : Bool
deriving DecidableEq

structure Request where
  accountId : AccountId
  idempotencyKey : Option String
  scheduled : Bool
deriving DecidableEq

inductive Response where
  | ok (result : ExistingStatusCreation)
  | error
deriving DecidableEq

inductive Stage where
  | received
  | locked
  | existing (result : ExistingStatusCreation)
  | creating
  | committed (result : ExistingStatusCreation)
  | rendered (result : ExistingStatusCreation)
  | answered (response : Response)
deriving DecidableEq

/-- The status of the request has been committed and its guard has not. -/
def Stage.between : Stage → Bool
  | .committed _ | .rendered _ => true
  | _ => false

structure Attempt where
  request : Request
  stage : Stage
  guard : Option StatusCreationGuard
deriving DecidableEq

/-- A committed status or scheduled status with the request that created it. -/
structure Creation where
  request : Request
  result : ExistingStatusCreation
deriving DecidableEq

structure State where
  now : Int
  nextId : Nat
  locks : Int → Option Nat
  rows : AccountId × String → Option StatusCreationIdempotency
  creations : List Creation
  attempts : Nat → Option Attempt

inductive Action where
  | tick (duration : Nat)
  | receive (number : Nat) (request : Request)
  /-- Statements of `begin_status_creation`. -/
  | lock (number : Nat)
  | reserve (number : Nat)
  | commit (number : Nat)
  | respond (number : Nat) (succeeds : Bool)
  | complete (number : Nat) (succeeds : Bool)
  /-- An error, a cancelled connection or a crash ends the request where it is. -/
  | fail (number : Nat)
  /-- The connection of the guard is lost, and its lock with it. -/
  | disconnect (number : Nat)
deriving DecidableEq

/-- `Duration::hours(1)` in microseconds. -/
def hour : Int := 3600000000

def State.setAttempt (state : State) (number : Nat) (attempt : Attempt) : State :=
  { state with attempts := Function.update state.attempts number (some attempt) }

/-- A transaction that ends releases its advisory lock. -/
def State.release (hashes : Hashes) (state : State) : Option StatusCreationGuard → State
  | none => state
  | some guard => { state with
      locks := Function.update state.locks (hashes.lock guard.accountId guard.keyHash) none }

/-- The guard is rolled back, or dropped, and the request goes on without it. -/
def State.unguard (hashes : Hashes) (state : State) (number : Nat) (attempt : Attempt)
    (stage : Stage) : State :=
  (state.release hashes attempt.guard).setAttempt number ⟨attempt.request, stage, none⟩

def lockStep (hashes : Hashes) (state : State) (number : Nat) (attempt : Attempt) :
    Option State :=
  match attempt.request.idempotencyKey with
  | none => state.setAttempt number { attempt with stage := .creating }
  | some key =>
      if key.isEmpty || 1024 < key.utf8ByteSize then
        state.setAttempt number { attempt with stage := .answered .error }
      else
        let guard : StatusCreationGuard :=
          ⟨attempt.request.accountId, hashes.keyHash key, false⟩
        let lock := hashes.lock guard.accountId guard.keyHash
        match state.locks lock with
        | some _ => none
        | none =>
            { state with locks := Function.update state.locks lock (some number) }.setAttempt
              number ⟨attempt.request, .locked, some guard⟩

def reserveStep (hashes : Hashes) (state : State) (number : Nat) (attempt : Attempt) : State :=
  match attempt.guard with
  | none => state.unguard hashes number attempt (.answered .error)
  | some guard =>
      match state.rows (guard.accountId, guard.keyHash) with
      | none => state.setAttempt number { attempt with stage := .creating }
      | some row =>
          if row.expiresAt < state.now then
            state.setAttempt number
              ⟨attempt.request, .creating, some { guard with deleted := true }⟩
          else state.unguard hashes number attempt (.existing row.result)

def Request.result (request : Request) (id : Nat) : ExistingStatusCreation :=
  if request.scheduled then .scheduledStatus id else .status ⟨id⟩

def commitStep (state : State) (number : Nat) (attempt : Attempt) : State :=
  let result := attempt.request.result state.nextId
  let creation : Creation := ⟨attempt.request, result⟩
  { state with
    nextId := state.nextId + 1
    creations := state.creations ++ [creation] }.setAttempt number
      { attempt with stage := .committed result }

/-- The response to a created status. Only a success is recorded by the guard. -/
def respondStep (hashes : Hashes) (state : State) (number : Nat) (attempt : Attempt)
    (result : ExistingStatusCreation) (succeeds : Bool) : State :=
  if succeeds then
    let stage := if attempt.request.idempotencyKey.isSome then .rendered result
      else .answered (.ok result)
    state.setAttempt number { attempt with stage := stage }
  else state.unguard hashes number attempt (.answered .error)

/-- The row is inserted unless the transaction sees one under the primary key. -/
def StatusCreationGuard.complete (hashes : Hashes) (state : State) (number : Nat)
    (attempt : Attempt) (result : ExistingStatusCreation) (succeeds : Bool)
    (guard : StatusCreationGuard) : State :=
  let key := (guard.accountId, guard.keyHash)
  if succeeds && (guard.deleted || (state.rows key).isNone) then
    let row : StatusCreationIdempotency := ⟨result, state.now + hour, state.now⟩
    { state with rows := Function.update state.rows key (some row) }.unguard
      hashes number attempt (.answered (.ok result))
  else state.unguard hashes number attempt (.answered .error)

def completeStep (hashes : Hashes) (state : State) (number : Nat) (attempt : Attempt)
    (result : ExistingStatusCreation) (succeeds : Bool) : State :=
  match attempt.guard with
  | none => state.unguard hashes number attempt (.answered .error)
  | some guard => guard.complete hashes state number attempt result succeeds

/-- `create_status`, one statement or commit at a time. -/
def step (hashes : Hashes) (state : State) : Action → Option State
  | .tick duration => some { state with now := state.now + duration }
  | .receive number request =>
      match state.attempts number with
      | none => state.setAttempt number ⟨request, .received, none⟩
      | some _ => none
  | .lock number => do
      let attempt ← state.attempts number
      match attempt.stage with
      | .received => lockStep hashes state number attempt
      | _ => none
  | .reserve number => do
      let attempt ← state.attempts number
      match attempt.stage with
      | .locked => reserveStep hashes state number attempt
      | _ => none
  | .commit number => do
      let attempt ← state.attempts number
      match attempt.stage with
      | .creating => commitStep state number attempt
      | _ => none
  | .respond number succeeds => do
      let attempt ← state.attempts number
      match attempt.stage with
      | .existing result => state.setAttempt number { attempt with
          stage := .answered (if succeeds then .ok result else .error) }
      | .committed result => respondStep hashes state number attempt result succeeds
      | _ => none
  | .complete number succeeds => do
      let attempt ← state.attempts number
      match attempt.stage with
      | .rendered result => completeStep hashes state number attempt result succeeds
      | _ => none
  | .fail number => do
      let attempt ← state.attempts number
      match attempt.stage with
      | .answered _ => none
      | _ => state.unguard hashes number attempt (.answered .error)
  | .disconnect number => do
      let attempt ← state.attempts number
      match attempt.guard with
      | none => none
      | some _ => state.unguard hashes number attempt attempt.stage

/-- An action that is not possible changes nothing, and is answered so. -/
def machine (hashes : Hashes) : Machine State Action Bool where
  step state action :=
    match step hashes state action with
    | some next => (next, true)
    | none => (state, false)

/-- No request is under way. Rows may remain from earlier requests. -/
def initial (start : Int) (rows : AccountId × String → Option StatusCreationIdempotency) :
    State where
  now := start
  nextId := 0
  locks _ := none
  rows := rows
  creations := []
  attempts _ := none

end Roosty.Status
