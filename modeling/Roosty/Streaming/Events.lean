import Mathlib.Data.List.Sort
import Mathlib.Logic.Function.Basic
import Roosty.Core
import Roosty.Library.Machine

/-!
# Streaming events across processes

Every process publishes its events through the `streaming_event` log and listens
for those of the others. A publication is a transaction: it inserts the row, which
takes a sequence number, notifies and commits. PostgreSQL sends notifications at
commit. Sequence numbers are taken in the order of the insertions.
-/

set_option autoImplicit false

namespace Roosty.Streaming

open Library

/-- Closed event names persisted in the cross-process streaming log. -/
inductive StreamingEventKind where
  | update
  | statusUpdate
  | notification
  | conversation
  | delete
  | notificationsMerged
deriving DecidableEq

/-- Origin of a status-like event used for public stream routing. -/
inductive StreamingStatusOrigin where
  | localStatus
  | remoteStatus
deriving DecidableEq

structure NewStreamingEvent where
  originProcessId : Nat
  kind : StreamingEventKind
  payload : String
  accountId : AccountId
  recipientIds : List AccountId
  notificationRecipientIds : List AccountId
  visibility : StatusVisibility
  statusOrigin : StreamingStatusOrigin
  hasMedia : Bool
deriving DecidableEq

structure RetainedStreamingEvent extends NewStreamingEvent where
  sequence : Nat
  createdAt : Int
deriving DecidableEq

structure Publication where
  row : RetainedStreamingEvent
  notified : Bool
deriving DecidableEq

/-- The listener of a process: its connection, the notifications that have arrived,
its cursor once it is initialized, and what it has sent to subscribers. -/
structure Listener where
  connected : Bool
  recovering : Bool
  notifications : List Nat
  cursor : Option Nat
  sent : List RetainedStreamingEvent
deriving DecidableEq

structure State where
  nextSequence : Nat
  publications : List Publication
  log : List RetainedStreamingEvent
  listeners : Nat → Listener

inductive Action where
  /-- Statements of `publish_streaming_event`. -/
  | insert (event : NewStreamingEvent) (time : Int)
  | notify (sequence : Nat)
  | commit (sequence : Nat)
  | rollback (sequence : Nat)
  /-- LISTEN and the cursor snapshot of `initialize_listener`. -/
  | listen (process : Nat)
  | snapshot (process : Nat)
  /-- A notification, whose query of the log may fail. -/
  | receive (process : Nat) (succeeds : Bool)
  | disconnect (process : Nat)
  | reconnect (process : Nat)
  | recover (process : Nat) (succeeds : Bool)
  | cleanup (cutoff : Int)
deriving DecidableEq

/-- The newest retained streaming sequence, or zero for an empty log. -/
def latestStreamingEventSequence (log : List RetainedStreamingEvent) : Nat :=
  (log.map RetainedStreamingEvent.sequence).foldr max 0

/-- Retained streaming events after a cursor in global sequence order. -/
def streamingEventsAfter (log : List RetainedStreamingEvent) (sequence : Nat) :
    List RetainedStreamingEvent :=
  (log.filter fun row => sequence < row.sequence).insertionSort
    fun first second => first.sequence ≤ second.sequence

/-- The loop of `deliver_after` over the events after the cursor. -/
def deliverLoop (process : Nat) : Nat → List RetainedStreamingEvent →
    Nat × List RetainedStreamingEvent
  | cursor, [] => (cursor, [])
  | _, retained :: rest =>
      let (cursor, sent) := deliverLoop process retained.sequence rest
      (cursor, if retained.originProcessId = process then sent else retained :: sent)

def deliverAfter (process : Nat) (log : List RetainedStreamingEvent) (listener : Listener)
    (sequence : Nat) : Listener :=
  let (cursor, sent) := deliverLoop process sequence (streamingEventsAfter log sequence)
  { listener with cursor := some cursor, sent := listener.sent ++ sent }

def State.setListener (state : State) (process : Nat) (listener : Listener) : State :=
  { state with listeners := Function.update state.listeners process listener }

def Listener.notified (sequence : Nat) (listener : Listener) : Listener :=
  if listener.connected then
    { listener with notifications := listener.notifications ++ [sequence] }
  else listener

def step (state : State) : Action → Option State
  | .insert event time => some { state with
      nextSequence := state.nextSequence + 1
      publications := state.publications ++ [⟨⟨event, state.nextSequence, time⟩, false⟩] }
  | .notify sequence => some { state with
      publications := state.publications.map fun publication =>
        if publication.row.sequence = sequence then { publication with notified := true }
        else publication }
  | .commit sequence => do
      let publication ← state.publications.find? fun publication =>
        publication.row.sequence == sequence && publication.notified
      return { state with
        publications := state.publications.filter fun other => other.row.sequence != sequence
        log := state.log ++ [publication.row]
        listeners := fun process => (state.listeners process).notified sequence }
  | .rollback sequence => some { state with
      publications := state.publications.filter fun other => other.row.sequence != sequence }
  | .listen process =>
      let listener := state.listeners process
      if listener.connected || listener.cursor.isSome then none
      else state.setListener process { listener with connected := true, notifications := [] }
  | .snapshot process =>
      let listener := state.listeners process
      if listener.connected && listener.cursor.isNone then
        state.setListener process
          { listener with cursor := some (latestStreamingEventSequence state.log) }
      else none
  | .receive process succeeds => do
      let listener := state.listeners process
      let cursor ← listener.cursor
      if !listener.connected || listener.recovering || listener.notifications.isEmpty then none
      else
        let rest := { listener with notifications := listener.notifications.tail }
        return state.setListener process
          (if succeeds then deliverAfter process state.log rest cursor else rest)
  | .disconnect process =>
      let listener := state.listeners process
      if listener.cursor.isSome then
        state.setListener process { listener with connected := false, notifications := [] }
      else none
  | .reconnect process =>
      let listener := state.listeners process
      if listener.cursor.isSome && !listener.connected then
        state.setListener process { listener with connected := true, recovering := true }
      else none
  | .recover process succeeds => do
      let listener := state.listeners process
      let cursor ← listener.cursor
      if !listener.recovering then none
      else
        let ready := { listener with recovering := false }
        return state.setListener process
          (if succeeds then deliverAfter process state.log ready cursor else ready)
  | .cleanup cutoff => some { state with log := state.log.filter fun row => cutoff ≤ row.createdAt }

/-- An action that is not possible changes nothing, and is answered so. -/
def machine : Machine State Action Bool where
  step state action :=
    match step state action with
    | some next => (next, true)
    | none => (state, false)

def initial : State where
  nextSequence := 1
  publications := []
  log := []
  listeners _ := ⟨false, false, [], none, []⟩

end Roosty.Streaming
