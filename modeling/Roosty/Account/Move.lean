import Roosty.Account.Relationship
import Roosty.Library.Machine

/-!
# Moves of remote actors

A verified Move records the replacement of an actor and queues a job. The job moves
the accepted follows of the actor to the replacement, one transaction for each, and
queues another job after a full batch. Rows of `remote_following` stand in the order
of their identifiers, which are time-ordered.
-/

set_option autoImplicit false

namespace Roosty.Account

open Library Federation Inbox

/-- What is cached of the domain and the lifecycle of an actor. -/
structure ActorProfile where
  domain : String
  deletedAt : Option Int
  suspendedAt : Option Int

/-- The domains that the configuration allows and those that a moderator suspended. -/
structure DomainPolicy where
  federationDomainIsAllowed : String → Bool
  isSuspended : String → Bool

/-- The checks of `migrate_remote_actor_relationships` before the check for blocks. -/
def DomainPolicy.allowsTarget (policy : DomainPolicy) (target : ActorProfile) : Bool :=
  policy.federationDomainIsAllowed target.domain && target.deletedAt.isNone &&
    target.suspendedAt.isNone && !policy.isSuspended target.domain

/-- A Move with the profile of its target and the identifiers of the Follows that are
prepared for the followers. -/
structure Move where
  source : AccountId
  target : AccountId
  policy : DomainPolicy
  profile : ActorProfile
  followId : AccountId → String
  now : Int

/-- Record a verified account migration. The replacement is a cached actor. -/
def processRemoteActorMove (db : Db) (source target : AccountId) : Db :=
  { db with
    remoteActors := Table.updateWhere (fun cached => cached.id == source)
      (fun cached => { cached with movedTo := some target }) db.remoteActors }

def followsActor (actor : AccountId) (row : RemoteFollowing) : Bool :=
  row.remoteActorId == actor && row.state == .accepted && isActive row

/-- One bounded batch of active accepted follows that still target a moved actor. -/
def remoteActorMoveFollowingBatch (db : Db) (actor : AccountId) (limit : Nat) :
    List RemoteFollowing :=
  (db.inbox.relations.following.filter (followsActor actor)).take limit

def remoteActorMigrationBatchSize : Nat := 100

/-- Move the follows of a batch, until one fails. -/
def migrateBatch (move : Move) : Db → List RemoteFollowing → Db × Bool
  | db, [] => (db, true)
  | db, following :: followings =>
      match migrateRemoteFollowingForActorMove db following move.target
          (move.policy.allowsTarget move.profile) (move.followId following.localAccountId)
          move.now with
      | none => (db, false)
      | some next => migrateBatch move next followings

inductive JobOutcome where
  | failed
  | continued
  | completed
deriving DecidableEq

def migrateRemoteActorRelationships (move : Move) (db : Db) : Db × JobOutcome :=
  let cached (id : AccountId) := db.remoteActors.find? fun actor => actor.id == id
  match cached move.source, cached move.target with
  | some source, some target =>
      if source.movedTo ≠ some target.id then (db, .completed)
      else
        let followings := remoteActorMoveFollowingBatch db source.id remoteActorMigrationBatchSize
        let (next, migrated) := migrateBatch move db followings
        if !migrated then (next, .failed)
        else if followings.length = remoteActorMigrationBatchSize then (next, .continued)
        else (next, .completed)
  | _, _ => (db, .completed)

/-- The jobs of a Move, one after the other, until one is not continued. -/
def drain (move : Move) : Nat → Db → Db × Bool
  | 0, db => (db, false)
  | jobs + 1, db =>
      match migrateRemoteActorRelationships move db with
      | (next, .failed) => (next, false)
      | (next, .continued) => drain move jobs next
      | (next, .completed) => (next, true)

/-- A Move with all of its jobs. Every continued job has moved a follow. -/
def moveRemoteActor (db : Db) (move : Move) : Db × Bool :=
  drain move (db.inbox.relations.following.length + 1)
    (processRemoteActorMove db move.source move.target)

/-!
## Other changes of relationships
-/

def acceptRemoteFollowing (db : Db) (actor : AccountId) (activityId : String) : Db :=
  withFollowing db (Table.updateWhere (fun row => row.remoteActorId == actor &&
    row.activityId == activityId) (fun row => { row with state := .accepted })
    db.inbox.relations.following)

def rejectRemoteFollowing (db : Db) (actor : AccountId) (activityId : String) : Db :=
  withFollowing db (Table.deleteWhere (fun row => row.remoteActorId == actor &&
    row.activityId == activityId) db.inbox.relations.following)

def deleteRemoteFollowing (db : Db) (account actor : AccountId) : Db :=
  let pair (row : RemoteFollowing) : Bool :=
    row.localAccountId == account && row.remoteActorId == actor
  if db.inbox.relations.following.any pair then
    withFollowing { db with members := removeRemoteAccountFromOwnedLists db account actor }
      (Table.deleteWhere pair db.inbox.relations.following)
  else db

inductive MoveAction where
  | move (move : Move)
  | accept (actor : AccountId) (activityId : String)
  | reject (actor : AccountId) (activityId : String)
  | unfollow (account actor : AccountId)
  | perform (transaction : Transaction)

def migrations : Machine Db MoveAction Bool where
  step db
    | .move move => moveRemoteActor db move
    | .accept actor activityId => (acceptRemoteFollowing db actor activityId, true)
    | .reject actor activityId => (rejectRemoteFollowing db actor activityId, true)
    | .unfollow account actor => (deleteRemoteFollowing db account actor, true)
    | .perform transaction =>
        match perform db transaction with
        | none => (db, false)
        | some next => (next, true)

end Roosty.Account
