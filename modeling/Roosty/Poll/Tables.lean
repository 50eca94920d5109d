import Mathlib.Algebra.Group.Int.Defs
import Mathlib.Data.List.Dedup
import Roosty.Job.Queue
import Roosty.Library.Text

/-!
# Status polls

The three poll tables and the operations on them. Each operation runs inside
one transaction under an exclusive lock on the poll, so it is a function of the
tables; an operation that fails is rolled back. Constraints of the schema are
checked where a statement can violate them.
-/

set_option autoImplicit false

namespace Roosty.Poll

open Library Job

def minPollExpirationSeconds : Int := 300
def maxPollExpirationSeconds : Int := 2629746
def maxPollOptions : Nat := 4
def maxPollOptionGraphemes : Nat := 50

inductive PollStatus where
  | localStatus (id : StatusId)
  | remoteStatus (id : StatusId)
deriving DecidableEq

structure PollOption where
  position : Int
  title : String
  votesCount : Int
deriving DecidableEq

structure StatusPoll where
  id : Nat
  status : PollStatus
  multiple : Bool
  hideTotals : Bool
  expiresAt : Option Int
  closedAt : Option Int
  votersCount : Option Int
  options : List PollOption
  updatedAt : Int
deriving DecidableEq

structure NewStatusPoll where
  options : List String
  expiresIn : Int
  multiple : Bool
  hideTotals : Bool

structure RemoteStatusPoll where
  options : List (String × Nat)
  multiple : Bool
  expiresAt : Option Int
  closedAt : Option Int
  votersCount : Option Nat
deriving DecidableEq

/-- A row of `status_poll`. Its status reference is exactly one of the two
nullable columns, so one field carries it. -/
structure PollRow where
  id : Nat
  status : PollStatus
  multiple : Bool
  hideTotals : Bool
  expiresAt : Option Int
  closedAt : Option Int
  notificationsSentAt : Option Int
  votersCount : Option Int
  createdAt : Int
  updatedAt : Int
deriving DecidableEq

structure OptionRow where
  pollId : Nat
  position : Int
  title : String
  votesCount : Int
deriving DecidableEq

/-- Exactly one of `local_account_id` and `remote_actor_id` is set. -/
inductive Voter where
  | localAccount (id : AccountId)
  | remoteActor (id : AccountId)
deriving DecidableEq

structure VoteRow where
  id : Nat
  pollId : Nat
  choicePosition : Int
  voter : Voter
  activitypubId : Option String
  createdAt : Int
deriving DecidableEq

/-- The columns of `local_notification` that the end of a poll fills. -/
structure PollNotification where
  id : Nat
  accountId : AccountId
  actor : Voter
  status : PollStatus
  createdAt : Int
deriving DecidableEq

/-- The tables that poll operations read and write. Statuses carry their author. -/
structure PollDb where
  localStatuses : List (StatusId × AccountId)
  remoteStatuses : List (StatusId × AccountId)
  polls : List PollRow
  options : List OptionRow
  votes : List VoteRow
  notifications : List PollNotification
  jobs : List JobRow

inductive PollVoteError where
  | notFound
  | expired
  | alreadyVoted
  | invalidChoice
  | multipleChoices
  | database (error : RoostyError)
deriving DecidableEq

/-- Readings of the clock and generated identifiers of one operation. -/
structure Context where
  now : Int
  pollId : Nat
  jobId : JobId
  rowId : Nat → Nat

/-- The text operation of the segmentation library that bounds option titles. -/
structure Segmentation where
  graphemes : String → Nat

def sortDedup {α : Type} [LE α] [DecidableLE α] [DecidableEq α] (items : List α) : List α :=
  (items.insertionSort (· ≤ ·)).dedup

@[simp] theorem mem_sortDedup {α : Type} [LE α] [DecidableLE α] [DecidableEq α] {item : α}
    {items : List α} : item ∈ sortDedup items ↔ item ∈ items := by
  unfold sortDedup
  rw [List.mem_dedup]
  exact List.mem_insertionSort _

theorem nodup_sortDedup {α : Type} [LE α] [DecidableLE α] [DecidableEq α] (items : List α) :
    (sortDedup items).Nodup :=
  List.nodup_dedup _

variable (segmentation : Segmentation)

def validatePoll (input : NewStatusPoll) : Except RoostyError Unit :=
  let normalized := input.options.map Text.trim
  if input.options.length < 2 ∨ maxPollOptions < input.options.length then
    .error (.invalidInput "polls require between 2 and 4 options")
  else if input.expiresIn < minPollExpirationSeconds ∨
      maxPollExpirationSeconds < input.expiresIn then
    .error (.invalidInput "poll expiration must be between 300 and 2629746 seconds")
  else if normalized.any fun option =>
      option == "" || decide (maxPollOptionGraphemes < segmentation.graphemes option) then
    .error (.invalidInput "poll options must contain between 1 and 50 characters")
  else if (sortDedup normalized).length ≠ normalized.length then
    .error (.invalidInput "poll options must be unique")
  else .ok ()

def toI64 (count : Nat) : Int := (BitVec.ofNat 64 count).toInt

/-- The inserts of `replace_options`; a negative count violates its check. -/
def insertOptions (pollId : Nat) :
    Nat → List (String × Nat) → List OptionRow → Except RoostyError (List OptionRow)
  | _, [], rows => .ok rows
  | position, (title, votesCount) :: rest, rows =>
      if toI64 votesCount < 0 then .error (.database "status_poll_option_votes_count_check")
      else insertOptions pollId (position + 1) rest
        (rows ++ [⟨pollId, position, Text.trim title, toI64 votesCount⟩])

/-- Delete and re-insert the options of a poll. Votes reference the option
rows with `ON DELETE CASCADE`, so they go with them. -/
def replaceOptions (db : PollDb) (pollId : Nat) (options : List (String × Nat)) :
    Except RoostyError PollDb := do
  let inserted ← insertOptions pollId 0 options
    (Table.deleteWhere (fun row => row.pollId == pollId) db.options)
  return { db with
    options := inserted
    votes := Table.deleteWhere (fun vote => db.options.any fun option =>
      option.pollId == pollId && vote.pollId == pollId &&
        vote.choicePosition == option.position) db.votes }

def enqueuePollExpiration (db : PollDb) (context : Context) (pollId : Nat) (runAfter : Int) :
    Except RoostyError PollDb := do
  let (jobs, result) := enqueueJobOnConnection db.jobs context.jobId ⟨context.now, context.now⟩ {
    kind := .pollExpiration
    payload := .object [("poll_id", .string (Text.uuidText pollId))]
    deduplicationKey := some (Text.uuidText pollId ++ ":" ++ toString (runAfter * 1000))
    runAfter := runAfter }
  let _ ← result
  return { db with jobs := jobs }

/-- Schedule the update of a poll that was voted in. One job is kept for a poll,
with the earliest of the times asked for. -/
def enqueuePollUpdate (db : PollDb) (context : Context) (pollId : Nat) (runAfter : Int) :
    Except RoostyError PollDb := do
  let key := Text.uuidText pollId
  let (jobs, result) := enqueueJobOnConnection db.jobs context.jobId ⟨context.now, context.now⟩ {
    kind := .pollUpdate
    payload := .object [("poll_id", .string key)]
    deduplicationKey := some key
    runAfter := runAfter }
  let _ ← result
  return { db with
    jobs := Table.updateWhere (fun row => row.kind == .pollUpdate &&
      row.deduplicationKey == some key && row.completedAt.isNone)
      (fun row => { row with runAfter := min row.runAfter runAfter }) jobs }

def pollOptions (db : PollDb) (pollId : Nat) : List OptionRow :=
  (db.options.filter fun row => row.pollId == pollId).insertionSort
    fun left right => left.position ≤ right.position

def hydratePoll (db : PollDb) (model : PollRow) : StatusPoll where
  id := model.id
  status := model.status
  multiple := model.multiple
  hideTotals := model.hideTotals
  expiresAt := model.expiresAt
  closedAt := model.closedAt
  votersCount := model.votersCount
  options := (pollOptions db model.id).map fun row => ⟨row.position, row.title, row.votesCount⟩
  updatedAt := model.updatedAt

def findPollById (db : PollDb) (pollId : Nat) : Option StatusPoll :=
  (db.polls.find? fun row => row.id == pollId).map (hydratePoll db)

def reloadPoll {ε : Type} (db : PollDb) (pollId : Nat) (missing : ε) :
    Except ε (PollDb × StatusPoll) :=
  match findPollById db pollId with
  | some poll => .ok (db, poll)
  | none => .error missing

def findPollRow (db : PollDb) (status : PollStatus) : Option PollRow :=
  db.polls.find? fun row => row.status == status

/-- Insert a `status_poll` row: primary key, one poll for a status, the voter
count and the reference to the status. -/
def insertPoll (db : PollDb) (row : PollRow) : Except RoostyError PollDb :=
  let referenced := match row.status with
    | .localStatus id => db.localStatuses.any fun status => status.1 == id
    | .remoteStatus id => db.remoteStatuses.any fun status => status.1 == id
  if db.polls.any fun other => other.id == row.id then .error (.database "status_poll_pkey")
  else if db.polls.any fun other => other.status == row.status then
    .error (.database "status_poll_status_id_key")
  else if row.votersCount.any (· < 0) then .error (.database "status_poll_voters_count_check")
  else if !referenced then .error (.database "status_poll_status_id_fkey")
  else .ok { db with polls := db.polls ++ [row] }

def updatePoll (db : PollDb) (pollId : Nat) (change : PollRow → PollRow) : PollDb :=
  { db with polls := Table.updateWhere (fun row => row.id == pollId) change db.polls }

def zeroTallies (options : List String) : List (String × Nat) := options.map (·, 0)

def createLocalPoll (db : PollDb) (context : Context) (statusId : StatusId)
    (input : NewStatusPoll) : Except RoostyError (PollDb × StatusPoll) := do
  validatePoll segmentation input
  let expiresAt := context.now + input.expiresIn * 1000000
  let inserted ← insertPoll db {
    id := context.pollId
    status := .localStatus statusId
    multiple := input.multiple
    hideTotals := input.hideTotals
    expiresAt := some expiresAt
    closedAt := none
    notificationsSentAt := none
    votersCount := some 0
    createdAt := context.now
    updatedAt := context.now }
  let replaced ← replaceOptions inserted context.pollId (zeroTallies input.options)
  let queued ← enqueuePollExpiration replaced context context.pollId expiresAt
  reloadPoll queued context.pollId (.invalidInput "created poll was not found")

/-!
## Votes
-/

structure Ballot where
  poll : PollRow
  voter : Voter
  choices : List UInt32
  existing : List VoteRow

/-- A first vote of its voter counts the voter; a further one only touches the row. -/
def Ballot.count (ballot : Ballot) (now : Int) (row : PollRow) : PollRow :=
  { row with
    votersCount :=
      if ballot.existing.isEmpty then ballot.poll.votersCount.map (· + 1)
      else ballot.poll.votersCount
    updatedAt := now }

/-- `choice as i32`. -/
def toI32 (choice : UInt32) : Int := choice.toInt32.toInt

def voterIdentity : Option AccountId → Option AccountId → Except PollVoteError Voter
  | some account, none => .ok (.localAccount account)
  | none, some actor => .ok (.remoteActor actor)
  | _, _ => .error (.database (.invalidInput "poll voter identity is invalid"))

/-- The checks of `vote`, in their order. -/
def admitVote (db : PollDb) (now : Int) (pollId : Nat)
    (localAccountId remoteActorId : Option AccountId) (choices : List UInt32) :
    Except PollVoteError Ballot :=
  match db.polls.find? fun row => row.id == pollId with
  | none => .error .notFound
  | some model =>
      let choices := sortDedup choices
      if model.closedAt.isSome || model.expiresAt.any (· ≤ now) then .error .expired
      else if choices.isEmpty then .error .invalidChoice
      else if !model.multiple && choices.length != 1 then .error .multipleChoices
      else do
        let voter ← voterIdentity localAccountId remoteActorId
        let existing := db.votes.filter fun vote => vote.pollId == pollId && vote.voter == voter
        let options := db.options.filter fun option => option.pollId == pollId
        if !existing.isEmpty && (localAccountId.isSome || !model.multiple) then
          .error .alreadyVoted
        else if choices.any fun choice =>
            !options.any fun option => option.position == toI32 choice then
          .error .invalidChoice
        else if choices.any fun choice =>
            existing.any fun vote => vote.choicePosition == toI32 choice then
          .error .alreadyVoted
        else .ok ⟨model, voter, choices, existing⟩

/-- Insert a `status_poll_vote` row under its primary key, its unique indexes,
its position check and its reference to an option. -/
def insertVote (db : PollDb) (row : VoteRow) : Except RoostyError PollDb :=
  if db.votes.any fun other => other.id == row.id then .error (.database "status_poll_vote_pkey")
  else if db.votes.any fun other => other.pollId == row.pollId && other.voter == row.voter &&
      other.choicePosition == row.choicePosition then
    .error (.database "status_poll_vote_choice_idx")
  else if row.activitypubId.isSome &&
      db.votes.any fun other => other.activitypubId == row.activitypubId then
    .error (.database "status_poll_vote_activitypub_idx")
  else if row.choicePosition < 0 then
    .error (.database "status_poll_vote_choice_position_check")
  else if !db.options.any fun option =>
      option.pollId == row.pollId && option.position == row.choicePosition then
    .error (.database "status_poll_vote_poll_id_choice_position_fkey")
  else .ok { db with votes := db.votes ++ [row] }

def maxCount : Int := 2 ^ 63 - 1

/-- Store one choice and count it. A count that leaves the 64-bit range aborts
the transaction, by the overflow check or by the column's own constraint. -/
def castChoice (context : Context) (pollId : Nat) (voter : Voter) (activitypubId : Option String)
    (db : PollDb) (choice : UInt32) : Except PollVoteError PollDb :=
  match insertVote db {
      id := context.rowId choice.toNat
      pollId := pollId
      choicePosition := toI32 choice
      voter := voter
      activitypubId := activitypubId
      createdAt := context.now } with
  | .error error => .error (.database error)
  | .ok inserted =>
      match inserted.options.find? fun option =>
          option.pollId == pollId && option.position == toI32 choice with
      | none => .error .invalidChoice
      | some option =>
          if maxCount ≤ option.votesCount then .error (.database (.database "bigint out of range"))
          else .ok { inserted with
            options := Table.updateWhere
              (fun other => other.pollId == pollId && other.position == toI32 choice)
              (fun other => { other with votesCount := option.votesCount + 1 }) inserted.options }

def castChoices (context : Context) (pollId : Nat) (voter : Voter)
    (activitypubId : Option String) : PollDb → List UInt32 → Except PollVoteError PollDb
  | db, [] => .ok db
  | db, choice :: choices => do
      let next ← castChoice context pollId voter activitypubId db choice
      castChoices context pollId voter activitypubId next choices

def vote (db : PollDb) (context : Context) (pollId : Nat)
    (localAccountId remoteActorId : Option AccountId) (choices : List UInt32)
    (activitypubId : Option String) : Except PollVoteError (PollDb × StatusPoll) := do
  let ballot ← admitVote db context.now pollId localAccountId remoteActorId choices
  let cast ← castChoices context pollId ballot.voter activitypubId db ballot.choices
  if ballot.existing.isEmpty && ballot.poll.votersCount.any (maxCount ≤ ·) then
    .error (.database (.database "bigint out of range"))
  else
    reloadPoll (updatePoll cast pollId (ballot.count context.now)) pollId .notFound

def voteInPoll (db : PollDb) (context : Context) (pollId : Nat) (accountId : AccountId)
    (choices : List UInt32) : Except PollVoteError (PollDb × StatusPoll) :=
  vote db context pollId (some accountId) none choices none

def recordRemotePollVote (db : PollDb) (context : Context) (pollId : Nat) (actorId : AccountId)
    (choice : UInt32) (activitypubId : String) : Except PollVoteError (PollDb × StatusPoll) :=
  vote db context pollId none (some actorId) [choice] (some activitypubId)

/-!
## Edits and expiration
-/

def deletePoll (db : PollDb) (pollId : Nat) : PollDb :=
  { db with
    polls := Table.deleteWhere (fun row => row.id == pollId) db.polls
    options := Table.deleteWhere (fun row => row.pollId == pollId) db.options
    votes := Table.deleteWhere (fun row => row.pollId == pollId) db.votes }

def deleteVotes (db : PollDb) (pollId : Nat) : PollDb :=
  { db with votes := Table.deleteWhere (fun row => row.pollId == pollId) db.votes }

def resetChoices (db : PollDb) (pollId : Nat) (changed : Bool) (options : List String) :
    Except RoostyError PollDb :=
  if changed then replaceOptions (deleteVotes db pollId) pollId (zeroTallies options) else .ok db

def replaceLocalPoll (db : PollDb) (context : Context) (statusId : StatusId)
    (input : Option NewStatusPoll) : Except RoostyError (PollDb × Option StatusPoll) :=
  let existing := findPollRow db (.localStatus statusId)
  match input, existing with
  | none, some existing => .ok (deletePoll db existing.id, none)
  | none, none => .ok (db, none)
  | some input, none => do
      -- `create_local_poll` validates the input once more
      validatePoll segmentation input
      let created ← createLocalPoll segmentation db context statusId input
      return (created.1, some created.2)
  | some input, some existing => do
      validatePoll segmentation input
      let expiresAt := context.now + input.expiresIn * 1000000
      let changed := existing.multiple != input.multiple ||
        (pollOptions db existing.id).map (·.title) != input.options.map Text.trim
      let reset ← resetChoices db existing.id changed input.options
      let updated := updatePoll reset existing.id fun row => { row with
        multiple := input.multiple
        hideTotals := input.hideTotals
        expiresAt := some expiresAt
        closedAt := none
        notificationsSentAt := none
        votersCount := if changed then some 0 else existing.votersCount
        updatedAt := context.now }
      let queued ← enqueuePollExpiration updated context existing.id expiresAt
      return (queued, findPollById queued existing.id)

/-- The insert or refresh of `upsert_remote_poll`, with the poll it wrote. -/
def storeRemotePoll (db : PollDb) (context : Context) (statusId : StatusId)
    (input : RemoteStatusPoll) : Except RoostyError (Nat × PollDb) :=
  let votersCount := input.votersCount.map toI64
  match findPollRow db (.remoteStatus statusId) with
  | some existing => do
      let changed := existing.multiple != input.multiple ||
        (pollOptions db existing.id).map (·.title) != input.options.map Prod.fst
      let reset := if changed then deleteVotes db existing.id else db
      let replaced ← replaceOptions reset existing.id input.options
      if votersCount.any (· < 0) then .error (.database "status_poll_voters_count_check")
      else .ok (existing.id, updatePoll replaced existing.id fun row => { row with
        multiple := input.multiple
        expiresAt := input.expiresAt
        closedAt := input.closedAt
        votersCount := votersCount
        updatedAt := context.now })
  | none => do
      let inserted ← insertPoll db {
        id := context.pollId
        status := .remoteStatus statusId
        multiple := input.multiple
        hideTotals := false
        expiresAt := input.expiresAt
        closedAt := input.closedAt
        notificationsSentAt := none
        votersCount := votersCount
        createdAt := context.now
        updatedAt := context.now }
      let replaced ← replaceOptions inserted context.pollId input.options
      return (context.pollId, replaced)

def enqueueRemoteExpiration (db : PollDb) (context : Context) (pollId : Nat) :
    Option Int → Except RoostyError PollDb
  | some expiresAt => enqueuePollExpiration db context pollId (expiresAt + 300000000)
  | none => .ok db

def upsertRemotePoll (db : PollDb) (context : Context) (statusId : StatusId)
    (input : RemoteStatusPoll) : Except RoostyError (PollDb × StatusPoll) :=
  if input.options.length < 2 ∨ 500 < input.options.length then
    .error (.invalidInput "remote poll option count is invalid")
  else do
    let stored ← storeRemotePoll db context statusId input
    let queued ← enqueueRemoteExpiration stored.2 context stored.1
      (input.closedAt.or input.expiresAt)
    reloadPoll queued stored.1 (.invalidInput "remote poll was not found")

structure PollExpiration where
  poll : StatusPoll
  notifications : List PollNotification
  newlyExpired : Bool
  nextAttemptAt : Option Int

def statusAuthor (db : PollDb) : PollStatus → Option AccountId
  | .localStatus id => (db.localStatuses.find? fun status => status.1 == id).map Prod.snd
  | .remoteStatus id => (db.remoteStatuses.find? fun status => status.1 == id).map Prod.snd

/-- Local voters of a poll, and the author of a local poll, without repetition. -/
def expirationRecipients (db : PollDb) (model : PollRow) (author : AccountId) : List Nat :=
  let voters := (db.votes.filter fun vote => vote.pollId == model.id).filterMap fun vote =>
    match vote.voter with
    | .localAccount id => some id.value
    | .remoteActor _ => none
  sortDedup (match model.status with
    | .localStatus _ => voters ++ [author.value]
    | .remoteStatus _ => voters)

def expirePoll (db : PollDb) (context : Context) (pollId : Nat) :
    Except RoostyError (PollDb × Option PollExpiration) :=
  match db.polls.find? fun row => row.id == pollId with
  | none => .ok (db, none)
  | some model =>
      let dueAt := model.closedAt.or model.expiresAt
      if dueAt.any (context.now < ·) then
        .ok (db, some ⟨hydratePoll db model, [], false, dueAt⟩)
      else if model.notificationsSentAt.isSome then
        .ok (db, some ⟨hydratePoll db model, [], false, none⟩)
      else match statusAuthor db model.status with
        | none => .error (.invalidInput "poll status is missing")
        | some author =>
            let notifications := (expirationRecipients db model author).map fun accountId => {
              id := context.rowId accountId
              accountId := ⟨accountId⟩
              actor := match model.status with
                | .localStatus _ => .localAccount author
                | .remoteStatus _ => .remoteActor author
              status := model.status
              createdAt := context.now : PollNotification }
            let notified := { db with notifications := db.notifications ++ notifications }
            let closed := updatePoll notified model.id fun row => { row with
              closedAt := (model.closedAt.or dueAt).or (some context.now)
              notificationsSentAt := some context.now
              updatedAt := context.now }
            match findPollById closed model.id with
            | some poll => .ok (closed, some ⟨poll, notifications, true, none⟩)
            | none => .error (.invalidInput "expired poll was not found")

/-- One operation with its arguments and everything its environment decides. -/
inductive Call where
  | create (context : Context) (statusId : StatusId) (input : NewStatusPoll)
  | voteInPoll (context : Context) (pollId : Nat) (accountId : AccountId) (choices : List UInt32)
  | recordRemotePollVote (context : Context) (pollId : Nat) (actorId : AccountId)
      (choice : UInt32) (activitypubId : String)
  | replace (context : Context) (statusId : StatusId) (input : Option NewStatusPoll)
  | upsertRemote (context : Context) (statusId : StatusId) (input : RemoteStatusPoll)
  | expire (context : Context) (pollId : Nat)

/-- Commit a successful operation, roll a failed one back. -/
def commit {ε α : Type} (db : PollDb) : Except ε (PollDb × α) → PollDb × Bool
  | .ok (next, _) => (next, true)
  | .error _ => (db, false)

/-- The poll tables as a machine; the reply says whether the call committed. -/
def polls : Machine PollDb Call Bool where
  step db
    | .create context statusId input =>
        commit db (createLocalPoll segmentation db context statusId input)
    | .voteInPoll context pollId accountId choices =>
        commit db (voteInPoll db context pollId accountId choices)
    | .recordRemotePollVote context pollId actorId choice activitypubId =>
        commit db (recordRemotePollVote db context pollId actorId choice activitypubId)
    | .replace context statusId input =>
        commit db (replaceLocalPoll segmentation db context statusId input)
    | .upsertRemote context statusId input =>
        commit db (upsertRemotePoll db context statusId input)
    | .expire context pollId => commit db (expirePoll db context pollId)

end Roosty.Poll
