import Mathlib.Logic.Function.Basic
import Roosty.Poll.Tables

/-!
# Updates of polls

A vote in a local poll with visible totals schedules the poll-update job of the
poll in the transaction that records it. That transaction holds the lock of the
job row that it found, or has inserted a row that nobody else sees, so that the job
does not change between the vote and the commit: votes are atomic here, at their
commit. A worker claims the job, reads the poll and queues the activity in a
transaction of its own, and completes the job by a statement after that.
-/

set_option autoImplicit false

namespace Roosty.Poll

open Library Job

def pollUpdateDelay : Int := 180000000

/-- The transaction of `vote_poll`. Votes in remote polls are delivered to their
authors instead, by the job that `prepare_poll_vote` has made. -/
def votePoll (db : PollDb) (context : Context) (pollId : Nat) (accountId : AccountId)
    (choices : List UInt32) (delivery : NewJob) : Except PollVoteError (PollDb × StatusPoll) := do
  let (voted, poll) ← voteInPoll db context pollId accountId choices
  match poll.status with
  | .remoteStatus _ =>
      match enqueueJobOnConnection voted.jobs context.jobId ⟨context.now, context.now⟩
          { delivery with kind := .federationPollVoteDelivery } with
      | (_, .error error) => .error (.database error)
      | (jobs, .ok _) => .ok ({ voted with jobs := jobs }, poll)
  | .localStatus _ =>
      if poll.hideTotals then .ok (voted, poll)
      else
        match enqueuePollUpdate voted context poll.id (context.now + pollUpdateDelay) with
        | .error error => .error (.database error)
        | .ok queued => .ok (queued, poll)

/-- The writes of `process_inbound_poll_vote`, which has found the poll of a local
status before the vote locks it. -/
def inboundPollVote (db : PollDb) (context : Context) (found : StatusPoll) (actorId : AccountId)
    (choice : UInt32) (activitypubId : String) : Except PollVoteError (PollDb × StatusPoll) := do
  let (voted, poll) ← recordRemotePollVote db context found.id actorId choice activitypubId
  if found.hideTotals then .ok (voted, poll)
  else
    match enqueuePollUpdate voted context found.id (context.now + pollUpdateDelay) with
    | .error error => .error (.database error)
    | .ok queued => .ok (queued, poll)

def isLocal : PollStatus → Bool
  | .localStatus _ => true
  | .remoteStatus _ => false

/-- The transaction of `expire_poll_job`. -/
def expirePollJob (db : PollDb) (context : Context) (pollId : Nat) :
    Except RoostyError (PollDb × Option PollExpiration) := do
  let (closed, expiration) ← expirePoll db context pollId
  match expiration with
  | none => .ok (closed, none)
  | some expiration =>
      if expiration.newlyExpired && isLocal expiration.poll.status then
        match enqueuePollUpdate closed context expiration.poll.id context.now with
        | .error error => .error error
        | .ok queued => .ok (queued, some expiration)
      else .ok (closed, some expiration)

/-- The field `poll_id` of `PollJobPayload`, as text. -/
def pollJobPayload (payload : Json) : Option String :=
  (payload.get? "poll_id").bind Json.asStr?

/-- The kinds whose names start with `federation_`. -/
def isFederationJob : JobKind → Bool
  | .federationFollowResponse | .federationStatusDelivery | .federationQuoteDelivery
  | .federationFollowDelivery | .federationFavouriteDelivery | .federationReblogDelivery
  | .federationActorUpdateDelivery | .federationModerationDelivery
  | .federationRemoteMediaFetch | .federationFeaturedRefresh | .federationFeaturedTagsRefresh
  | .federationThreadResolve | .federationRepliesFetch | .federationReplyFetch
  | .federationPollVoteDelivery => true
  | _ => false

inductive Progress where
  | claimed
  | read
  | completed
  | ended
deriving DecidableEq

structure Execution where
  job : ClaimedJob
  progress : Progress
deriving DecidableEq

inductive Event where
  | voted (pollId : Nat)
  | read (poll : String) (execution : Nat)
deriving DecidableEq

structure State where
  db : PollDb
  nextClaim : Nat
  executions : Nat → Option Execution
  log : List Event

inductive Action where
  | create (context : Context) (statusId : StatusId) (input : NewStatusPoll)
  | replace (context : Context) (statusId : StatusId) (input : Option NewStatusPoll)
  | upsertRemote (context : Context) (statusId : StatusId) (input : RemoteStatusPoll)
  | vote (context : Context) (pollId : Nat) (accountId : AccountId) (choices : List UInt32)
      (delivery : NewJob)
  | remoteVote (context : Context) (found : StatusPoll) (actorId : AccountId) (choice : UInt32)
      (activitypubId : String)
  | expire (context : Context) (pollId : Nat)
  | enqueue (jobId : JobId) (clocks : Clocks) (job : NewJob)
  | claim (number : Nat) (workerId : String) (clocks : Clocks) (skipLocked : JobId → Bool)
  | read (number : Nat)
  | complete (number : Nat) (clocks : Clocks)
  | fail (number : Nat) (clocks : Clocks) (error : String) (permanent : Bool)
  | cleanup (clocks : Clocks) (successfulRetention permanentlyFailedRetention : Int)
      (batchSize : Nat) (skipLocked : JobId → Bool)

variable (segmentation : Segmentation)

def State.commits {ε α : Type} (state : State) : Except ε (PollDb × α) → Option State
  | .ok (next, _) => some { state with db := next }
  | .error _ => none

/-- A vote commits, and counts when its poll is local and shows its totals. -/
def State.commitsVote (state : State) : Except PollVoteError (PollDb × StatusPoll) → Option State
  | .ok (next, poll) => some { state with
      db := next
      log := if isLocal poll.status && !poll.hideTotals then .voted poll.id :: state.log
        else state.log }
  | .error _ => none

def State.withJobs (state : State) (jobs : List JobRow) : State :=
  { state with db := { state.db with jobs := jobs } }

def State.setExecution (state : State) (number : Nat) (execution : Execution) : State :=
  { state with executions := Function.update state.executions number (some execution) }

def claimTtl : Int := 300000000

def claimStep (state : State) (number : Nat) (workerId : String) (clocks : Clocks)
    (skipLocked : JobId → Bool) : Option State :=
  match claimDueJob state.db.jobs workerId claimTtl ⟨state.nextClaim⟩ clocks skipLocked with
  | (jobs, .ok (some job)) =>
      some ({ state.withJobs jobs with nextClaim := state.nextClaim + 1 }.setExecution number
        ⟨job, .claimed⟩)
  | (jobs, _) => some { state.withJobs jobs with nextClaim := state.nextClaim + 1 }

/-- The reading of the poll in `publish_poll_update_job`, which may be repeated. -/
def readStep (state : State) (number : Nat) (execution : Execution) : Option State :=
  match execution.job.kind, execution.progress, pollJobPayload execution.job.payload with
  | .pollUpdate, .claimed, some poll | .pollUpdate, .read, some poll =>
      some ({ state with log := .read poll number :: state.log }.setExecution number
        { execution with progress := .read })
  | _, _, _ => none

/-- The job has returned `Ok`. That of a poll update has read the poll. -/
def completeStep (state : State) (number : Nat) (execution : Execution) (clocks : Clocks) :
    Option State :=
  if execution.progress = .read ∨
      execution.progress = .claimed ∧ execution.job.kind ≠ .pollUpdate then
    let result := markJobCompleted state.db.jobs clocks execution.job
    some ((state.withJobs result.1).setExecution number
      { execution with progress := if result.2 then .completed else .ended })
  else none

/-- The job has returned an error, which is permanent for some deliveries. -/
def failStep (state : State) (number : Nat) (execution : Execution) (clocks : Clocks)
    (error : String) (permanent : Bool) : Option State :=
  if execution.progress = .read ∨ execution.progress = .claimed then
    let jobs := if isFederationJob execution.job.kind && permanent then
        (markJobPermanentlyFailed state.db.jobs clocks execution.job error).1
      else (markJobFailed state.db.jobs clocks execution.job error).1
    some ((state.withJobs jobs).setExecution number { execution with progress := .ended })
  else none

def updateStep (state : State) : Action → Option State
  | .create context statusId input =>
      state.commits (createLocalPoll segmentation state.db context statusId input)
  | .replace context statusId input =>
      state.commits (replaceLocalPoll segmentation state.db context statusId input)
  | .upsertRemote context statusId input =>
      state.commits (upsertRemotePoll state.db context statusId input)
  | .vote context pollId accountId choices delivery =>
      state.commitsVote (votePoll state.db context pollId accountId choices delivery)
  | .remoteVote context found actorId choice activitypubId =>
      state.commitsVote (inboundPollVote state.db context found actorId choice activitypubId)
  | .expire context pollId => state.commits (expirePollJob state.db context pollId)
  | .enqueue jobId clocks job =>
      if job.kind = .pollUpdate then none
      else some (state.withJobs (enqueueJobOnConnection state.db.jobs jobId clocks job).1)
  | .claim number workerId clocks skipLocked =>
      match state.executions number with
      | some _ => none
      | none => claimStep state number workerId clocks skipLocked
  | .read number => do
      let execution ← state.executions number
      readStep state number execution
  | .complete number clocks => do
      let execution ← state.executions number
      completeStep state number execution clocks
  | .fail number clocks error permanent => do
      let execution ← state.executions number
      failStep state number execution clocks error permanent
  | .cleanup clocks successfulRetention permanentlyFailedRetention batchSize skipLocked =>
      some (state.withJobs (cleanupExpiredJobs state.db.jobs clocks successfulRetention
        permanentlyFailedRetention batchSize skipLocked).1)

/-- An action that is not possible changes nothing, and is answered so. -/
def updates : Machine State Action Bool where
  step state action :=
    match updateStep segmentation state action with
    | some next => (next, true)
    | none => (state, false)

def initial (localStatuses remoteStatuses : List (StatusId × AccountId)) : State where
  db := ⟨localStatuses, remoteStatuses, [], [], [], [], []⟩
  nextClaim := 0
  executions _ := none
  log := []

end Roosty.Poll
