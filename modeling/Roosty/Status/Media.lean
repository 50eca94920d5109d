import Mathlib.Data.List.Sort
import Roosty.Core
import Roosty.Library.ReadCommitted

/-!
# Media of statuses and schedules

Transactions that attach uploads to statuses and to scheduled statuses, by their
statements. Texts, descriptions, polls, tags, mentions and jobs are left out. A transaction
that meets a limit on schedules, or an edit that changes nothing, ends without writes, as
one that aborts.
-/

set_option autoImplicit false

namespace Roosty.Status.Media

open Library Library.ReadCommitted

inductive Key where
  | account (id : AccountId)
  | status (id : StatusId)
  | schedule (id : Nat)
  | media (id : Nat)
deriving DecidableEq

structure LocalStatus where
  accountId : AccountId
  deletedAt : Option Int
deriving DecidableEq

structure ScheduledStatus where
  accountId : AccountId
  publicationStatusId : StatusId
  scheduledAt : Int
deriving DecidableEq

structure MediaAttachment where
  accountId : AccountId
  statusId : Option StatusId
  scheduledStatusId : Option Nat
  statusOrder : Nat
deriving DecidableEq

inductive Row where
  | account
  | status (row : LocalStatus)
  | schedule (row : ScheduledStatus)
  | media (row : MediaAttachment)
deriving DecidableEq

/-- The check `local_media_attachment_owner_check`. -/
def ownerCheck (media : MediaAttachment) : Bool :=
  !(media.statusId.isSome && media.scheduledStatusId.isSome)

section

variable (rows : Rows Key Row)

def statusAt (id : StatusId) : Option LocalStatus :=
  match rows (.status id) with
  | some (.status row) => some row
  | _ => none

def scheduleAt (id : Nat) : Option ScheduledStatus :=
  match rows (.schedule id) with
  | some (.schedule row) => some row
  | _ => none

def mediaAt (id : Nat) : Option MediaAttachment :=
  match rows (.media id) with
  | some (.media row) => some row
  | _ => none

/-- `find_local_status_by_id`, which finds no deleted status. -/
def liveStatus (id : StatusId) : Option LocalStatus :=
  (statusAt rows id).filter fun status => status.deletedAt.isNone

def write (key : Key) (row : Row) : Writes Key Row := fun other =>
  if other = key then some (some row) else none

/-- `SELECT ... FOR UPDATE`. -/
def locked (key : Key) : Writes Key Row := fun other =>
  if other = key then (rows key).map some else none

/-- An insertion fails on a row with the same key. -/
def insert (key : Key) (row : Row) : Option (Writes Key Row) :=
  if (rows key).isSome then none else some (write key row)

/-- An update fails where the row has been deleted, or violates the owner check. -/
def updateMedia (id : Nat) (change : MediaAttachment → MediaAttachment) :
    Option (Writes Key Row) :=
  match mediaAt rows id with
  | none => none
  | some media => if ownerCheck (change media) then some (write (.media id) (.media (change media)))
      else none

def deleteSchedule (id : Nat) : Writes Key Row
  | .schedule other => if other = id ∧ (scheduleAt rows id).isSome then some none else none
  | .media other =>
      match mediaAt rows other with
      | none => none
      | some media =>
          if media.scheduledStatusId = some id ∧ (scheduleAt rows id).isSome then
            some (some (.media { media with scheduledStatusId := none }))
          else none
  | _ => none

end

/-!
## Transactions
-/

structure Creation where
  id : StatusId
  accountId : AccountId
  mediaIds : List Nat
  scheduledStatusId : Option Nat
deriving DecidableEq

inductive CreationStage where
  | check (mediaIds : List Nat)
  | insert
  | attach (index : Nat) (mediaIds : List Nat)
  | deleteSchedule
  | done
deriving DecidableEq

structure NewScheduledStatus where
  id : Nat
  publicationStatusId : StatusId
  accountId : AccountId
  mediaIds : List Nat
  scheduledAt : Int
deriving DecidableEq

inductive ScheduleStage where
  | account
  | reserve (mediaIds : List Nat)
  | insert
  | attach (index : Nat) (mediaIds : List Nat)
  | done
deriving DecidableEq

inductive RescheduleStage where
  | account
  | find
  | update
deriving DecidableEq

inductive CancelStage where
  | find
  | delete
deriving DecidableEq

structure Edit where
  id : StatusId
  accountId : AccountId
  mediaIds : Option (List Nat)
deriving DecidableEq

inductive EditStage where
  | find
  | check (mediaIds : List Nat)
  | current
  | detach (mediaIds : List Nat)
  | attach (index : Nat) (mediaIds : List Nat)
deriving DecidableEq

inductive Position where
  | create (input : Creation) (stage : CreationStage)
  | schedule (input : NewScheduledStatus) (stage : ScheduleStage)
  | reschedule (account : AccountId) (id : Nat) (scheduledAt : Int) (stage : RescheduleStage)
  | cancel (account : AccountId) (id : Nat) (stage : CancelStage)
  | edit (input : Edit) (stage : EditStage)
  | publish (id : Nat)
  | done
  | failed
deriving DecidableEq

def reading (next : Rows Key Row → Position) : Instruction Key Row Position :=
  .statement (fun _ => .none) next

/-- A statement that writes, or fails. -/
def attempting (writes : Rows Key Row → Option (Writes Key Row)) (next : Position) :
    Instruction Key Row Position :=
  .statement (fun rows => (writes rows).getD .none) fun rows =>
    if (writes rows).isSome then next else .failed

def Creation.available (input : Creation) (media : MediaAttachment) : Bool :=
  media.accountId == input.accountId && media.statusId.isNone &&
    (media.scheduledStatusId.isNone || media.scheduledStatusId == input.scheduledStatusId)

def createLocalStatusWithMedia (input : Creation) : CreationStage → Instruction Key Row Position
  | .check [] => reading fun _ => .create input .insert
  | .check (id :: mediaIds) => reading fun rows =>
      if (mediaAt rows id).any input.available then .create input (.check mediaIds) else .failed
  | .insert =>
      attempting (fun rows => insert rows (.status input.id) (.status ⟨input.accountId, none⟩))
        (.create input (.attach 0 input.mediaIds))
  | .attach index (id :: mediaIds) =>
      attempting (fun rows => updateMedia rows id fun media =>
        { media with
          statusId := some input.id
          scheduledStatusId := none
          statusOrder := index }) (.create input (.attach (index + 1) mediaIds))
  | .attach _ [] => reading fun _ =>
      .create input (if input.scheduledStatusId.isSome then .deleteSchedule else .done)
  | .deleteSchedule =>
      .statement (fun rows =>
        match input.scheduledStatusId with
        | none => .none
        | some id => deleteSchedule rows id) fun _ => .create input .done
  | .done => .commit

def NewScheduledStatus.available (input : NewScheduledStatus) (media : MediaAttachment) : Bool :=
  media.accountId == input.accountId && media.statusId.isNone && media.scheduledStatusId.isNone

def createScheduledStatus (input : NewScheduledStatus) :
    ScheduleStage → Instruction Key Row Position
  | .account => .statement (fun rows => locked rows (.account input.accountId)) fun rows =>
      if (rows (.account input.accountId)).isSome then .schedule input (.reserve input.mediaIds)
      else .failed
  | .reserve [] => reading fun _ => .schedule input .insert
  | .reserve (id :: mediaIds) =>
      attempting (fun rows =>
        if (mediaAt rows id).any input.available then some (locked rows (.media id)) else none)
        (.schedule input (.reserve mediaIds))
  | .insert =>
      attempting (fun rows => insert rows (.schedule input.id) (.schedule
        ⟨input.accountId, input.publicationStatusId, input.scheduledAt⟩))
        (.schedule input (.attach 0 input.mediaIds))
  | .attach index (id :: mediaIds) =>
      attempting (fun rows => updateMedia rows id fun media =>
        { media with scheduledStatusId := some input.id, statusOrder := index })
        (.schedule input (.attach (index + 1) mediaIds))
  | .attach _ [] => reading fun _ => .schedule input .done
  | .done => .commit

def ownedSchedule (rows : Rows Key Row) (account : AccountId) (id : Nat) :
    Option ScheduledStatus :=
  (scheduleAt rows id).filter fun schedule => schedule.accountId == account

def rescheduleStatus (account : AccountId) (id : Nat) (scheduledAt : Int) :
    RescheduleStage → Instruction Key Row Position
  | .account => .statement (fun rows => locked rows (.account account)) fun _ =>
      .reschedule account id scheduledAt .find
  | .find =>
      .statement (fun rows =>
        if (ownedSchedule rows account id).isSome then locked rows (.schedule id) else .none)
        fun rows => if (ownedSchedule rows account id).isSome
          then .reschedule account id scheduledAt .update else .done
  | .update =>
      attempting (fun rows => (scheduleAt rows id).map fun schedule =>
        write (.schedule id) (.schedule { schedule with scheduledAt := scheduledAt })) .done

def cancelScheduledStatus (account : AccountId) (id : Nat) :
    CancelStage → Instruction Key Row Position
  | .find =>
      .statement (fun rows =>
        if (ownedSchedule rows account id).isSome then locked rows (.schedule id) else .none)
        fun rows => if (ownedSchedule rows account id).isSome
          then .cancel account id .delete else .done
  | .delete => .statement (fun rows => deleteSchedule rows id) fun _ => .done

/-- Whether an upload may become media of an edited status. A reservation is not looked
at. -/
def Edit.available (input : Edit) (media : MediaAttachment) : Bool :=
  media.accountId == input.accountId && media.statusId.all (· == input.id)

section

-- The identifiers of the uploads, among which queries find those of a status or a schedule.
variable (uploads : List Nat)

def attachedTo (rows : Rows Key Row) (status : StatusId) : List Nat :=
  uploads.filter fun id => (mediaAt rows id).any fun media => media.statusId == some status

def mediaAttachmentsForScheduledStatus (rows : Rows Key Row) (schedule : Nat) : List Nat :=
  let position (id : Nat) : Nat := ((mediaAt rows id).map MediaAttachment.statusOrder).getD 0
  (uploads.filter fun id => (mediaAt rows id).any fun media =>
    media.scheduledStatusId == some schedule).insertionSort fun one two =>
      position one ≤ position two

def updateOwnedLocalStatus (input : Edit) : EditStage → Instruction Key Row Position
  | .find =>
      let owned (rows : Rows Key Row) : Bool :=
        (liveStatus rows input.id).any fun status => status.accountId == input.accountId
      .statement (fun rows => if owned rows then locked rows (.status input.id) else .none)
        fun rows =>
          if !owned rows then .done
          else
            match input.mediaIds with
            | none => .done
            | some mediaIds => .edit input (.check mediaIds)
  | .check [] => reading fun _ => .edit input .current
  | .check (id :: mediaIds) => reading fun rows =>
      if (mediaAt rows id).any input.available then .edit input (.check mediaIds) else .failed
  | .current => reading fun rows => .edit input (.detach ((attachedTo uploads rows input.id).filter
      fun id => !(input.mediaIds.getD []).contains id))
  | .detach (id :: mediaIds) =>
      attempting (fun rows => updateMedia rows id fun media =>
        { media with statusId := none, statusOrder := 0 }) (.edit input (.detach mediaIds))
  | .detach [] => reading fun _ => .edit input (.attach 0 (input.mediaIds.getD []))
  | .attach index (id :: mediaIds) =>
      attempting (fun rows => updateMedia rows id fun media =>
        { media with statusId := some input.id, statusOrder := index })
        (.edit input (.attach (index + 1) mediaIds))
  | .attach _ [] => reading fun _ => .done

/-- One execution of a publication job. It reads the schedule and its media in a snapshot,
and then creates the status, or cancels a schedule that was published. -/
def publishScheduledStatus (now : Int) (id : Nat) : Instruction Key Row Position :=
  reading fun rows =>
    match scheduleAt rows id with
    | none => .done
    | some schedule =>
        if now < schedule.scheduledAt then .failed
        else if (liveStatus rows schedule.publicationStatusId).isSome then
          .cancel schedule.accountId id .find
        else if (rows (.account schedule.accountId)).isNone then .done
        else
          let mediaIds := mediaAttachmentsForScheduledStatus uploads rows id
          .create ⟨schedule.publicationStatusId, schedule.accountId, mediaIds, some id⟩
            (.check mediaIds)

/-- Clients create, edit and schedule statuses, reschedule and cancel, and workers publish.
A job is executed any number of times, and each execution may abort at every statement. -/
def code : Code Key Row Position where
  starts
    | .create input stage => input.scheduledStatusId = none ∧ stage = .check input.mediaIds
    | .schedule _ stage => stage = .account
    | .reschedule _ _ _ stage => stage = .account
    | .cancel _ _ stage => stage = .find
    | .edit _ stage => stage = .find
    | .publish _ => True
    | .done | .failed => False
  instruction now
    | .create input stage => createLocalStatusWithMedia input stage
    | .schedule input stage => createScheduledStatus input stage
    | .reschedule account id scheduledAt stage => rescheduleStatus account id scheduledAt stage
    | .cancel account id stage => cancelScheduledStatus account id stage
    | .edit input stage => updateOwnedLocalStatus uploads input stage
    | .publish id => publishScheduledStatus uploads now id
    | .done => .commit
    | .failed => .rollback

end

end Roosty.Status.Media
