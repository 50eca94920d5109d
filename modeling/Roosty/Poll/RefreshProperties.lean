import Mathlib.Algebra.Group.Nat.Defs
import Roosty.Federation.InboundNote
import Roosty.Library.Trim
import Roosty.Poll.RemoteProperties

/-!
# Refreshing a remote poll

What a later document of a Question leaves of the votes that local accounts have
cast in it. The comparison of the choices is right in every run; the rows that it
is meant to keep are lost all the same when the options are written anew.
-/

set_option autoImplicit false

namespace Roosty.Poll

open Library Job Federation

def localVotes (db : PollDb) (status : PollStatus) : List VoteRow :=
  match findPollRow db status with
  | none => []
  | some poll => db.votes.filter fun vote =>
      vote.pollId == poll.id && vote.voter.localAccount?.isSome

/-- Two documents offer the same titles in the same order and the same mode. -/
def RemoteStatusPoll.SameChoices (old new : RemoteStatusPoll) : Prop :=
  new.options.map Prod.fst = old.options.map Prod.fst ∧ new.multiple = old.multiple

instance (old new : RemoteStatusPoll) : Decidable (old.SameChoices new) :=
  inferInstanceAs (Decidable (_ ∧ _))

def RemoteStatusPoll.document (input : RemoteStatusPoll) : PollContent where
  multiple := input.multiple
  expiresAt := input.expiresAt
  closedAt := input.closedAt
  votersCount := input.votersCount.map Int.ofNat
  options := input.options.map fun entry => (entry.1, Int.ofNat entry.2)

/-- Votes refer to options, and the poll that is read is that of the document. -/
structure Reflects (db : PollDb) (statusId : StatusId) (input : RemoteStatusPoll) : Prop where
  references : ∀ vote ∈ db.votes, ∃ option ∈ db.options,
    option.pollId = vote.pollId ∧ option.position = vote.choicePosition
  content : db.content (.remoteStatus statusId) = some input.document

/-- Local votes outlive a document exactly when it offers the same choices. -/
structure Survive (before after : PollDb) (status : PollStatus) (old new : RemoteStatusPoll) :
    Prop where
  kept : old.SameChoices new → localVotes after status = localVotes before status
  deleted : ¬ old.SameChoices new → localVotes after status = []

/-!
## Documents
-/

theorem remotePollFromNote_ok {notes : NoteContext} {note : InboundNote} {input : RemoteStatusPoll}
    (read : remotePollFromNote notes note = .ok (some input)) :
    (∀ entry ∈ input.options, Text.trim entry.1 = entry.1 ∧ entry.2 < 2 ^ 64) ∧
      ∀ count ∈ input.votersCount, count < 2 ^ 64 := by
  unfold remotePollFromNote at read
  split at read
  · cases read
  · split at read
    · cases read
    · cases read
    next oneOf anyOf _ _ =>
      obtain ⟨_, read⟩ := guard_ok read
      obtain ⟨_, read⟩ := guard_ok read
      obtain ⟨expiresAt, _, read⟩ := bind_ok read
      obtain ⟨closedAt, _, read⟩ := bind_ok read
      cases read
      refine ⟨?_, ?_⟩
      · intro entry member
        obtain ⟨option, _, rfl⟩ := List.mem_map.mp member
        exact ⟨Text.trim_trim option.name, option.totalItems.toNat_lt⟩
      · intro count counted
        obtain ⟨voters, _, rfl⟩ := Option.mem_map.mp counted
        exact voters.toNat_lt

theorem toI64_eq {count : Nat} (small : count < 2 ^ 64) (fits : 0 ≤ toI64 count) :
    toI64 count = count := by
  unfold toI64 at fits ⊢
  rw [BitVec.toInt_eq_toNat_cond, BitVec.toNat_ofNat] at fits ⊢
  omega

section

variable {notes : NoteContext} {note : InboundNote} {input : RemoteStatusPoll} {db next : PollDb}
  {context : Context} {statusId : StatusId} {poll : StatusPoll}

theorem upsertRemotePoll_reflects (sane : Sane db)
    (read : remotePollFromNote notes note = .ok (some input))
    (stored : upsertRemotePoll db context statusId input = .ok (next, poll)) :
    Reflects next statusId input := by
  obtain ⟨content, counts, voters⟩ := upsertRemotePoll_content stored
  obtain ⟨entries, total⟩ := remotePollFromNote_ok read
  refine ⟨(upsertRemotePoll_valid sane.valid stored).consistent.voteOptions, ?_⟩
  have options : input.content.options = input.document.options := by
    apply List.map_congr_left
    intro entry member
    obtain ⟨trimmed, small⟩ := entries entry member
    rw [trimmed, toI64_eq small (counts entry member)]
    rfl
  have votersCount : input.content.votersCount = input.document.votersCount := by
    change input.votersCount.map toI64 = input.votersCount.map Int.ofNat
    cases counted : input.votersCount with
    | none => rfl
    | some count =>
        rw [counted] at voters
        have fits : 0 ≤ toI64 count := by simpa using voters
        rw [Option.map_some, toI64_eq (total count counted) fits]
        rfl
  rw [content]
  simp only [RemoteStatusPoll.content, RemoteStatusPoll.document] at options votersCount ⊢
  rw [options, votersCount]

end

/-!
## The stored choices
-/

section

variable {notes : NoteContext} {db next : PollDb} {context : Context} {statusId : StatusId}
  {poll : StatusPoll}

theorem upsertRemotePoll_localVotes (sane : Sane db) {input : RemoteStatusPoll}
    (stored : upsertRemotePoll db context statusId input = .ok (next, poll)) :
    localVotes next (.remoteStatus statusId) = [] := by
  obtain ⟨effect, row, member, holds, noVotes⟩ :=
    upsertRemotePoll_effect sane.valid.consistent stored
  have found := (effect.attached sane.attached).findPollRow member
  rw [holds] at found
  unfold localVotes
  rw [found]
  apply List.filter_eq_nil_iff.mpr
  intro vote voteMember
  simp [noVotes vote voteMember]

end

/-!
## Two documents of one Question
-/

/-- After any run and two documents of a Question, with any other calls between them, the
tables are those of the newer document, and the local votes outlive it exactly when it
offers the same choices, if and only if it offers others or finds no local vote. -/
theorem refresh_keeps_votes_iff (segmentation : Segmentation) (notes : NoteContext)
    (localStatuses remoteStatuses : List (StatusId × AccountId))
    (notifications : List PollNotification) (jobs : List JobRow) (earlier between : List Call)
    {first second : InboundNote} {old new : RemoteStatusPoll} {context later : Context}
    {statusId : StatusId} {stored next : PollDb} {poll refreshed : StatusPoll}
    (readFirst : remotePollFromNote notes first = .ok (some old))
    (readSecond : remotePollFromNote notes second = .ok (some new))
    (storing : upsertRemotePoll ((polls segmentation).run
      (PollDb.withoutPolls localStatuses remoteStatuses notifications jobs) earlier)
        context statusId old = .ok (stored, poll))
    (refreshing : upsertRemotePoll ((polls segmentation).run stored between) later statusId new =
      .ok (next, refreshed)) :
    (Reflects stored statusId old ∧ Reflects next statusId new ∧
        Survive ((polls segmentation).run stored between) next (.remoteStatus statusId) old new) ↔
      ¬ old.SameChoices new ∨
        localVotes ((polls segmentation).run stored between) (.remoteStatus statusId) = [] := by
  have saneStart : Sane _ := (polls segmentation).run_invariant Sane (step_sane segmentation)
    (withoutPolls_sane localStatuses remoteStatuses notifications jobs) earlier
  have saneStored : Sane stored :=
    ⟨upsertRemotePoll_valid saneStart.valid storing,
      (upsertRemotePoll_effect saneStart.valid.consistent storing).1.attached saneStart.attached⟩
  have saneBefore : Sane ((polls segmentation).run stored between) :=
    (polls segmentation).run_invariant Sane (step_sane segmentation) saneStored between
  have lost := upsertRemotePoll_localVotes saneBefore refreshing
  constructor
  · rintro ⟨_, _, survive⟩
    by_cases same : old.SameChoices new
    · exact .inr ((survive.kept same).symm.trans lost)
    · exact .inl same
  · intro harmless
    refine ⟨upsertRemotePoll_reflects saneStart readFirst storing,
      upsertRemotePoll_reflects saneBefore readSecond refreshing, ?_, fun _ => lost⟩
    intro same
    rcases harmless with different | none
    · exact absurd same different
    · exact lost.trans none.symm

namespace Survey

def notes : NoteContext where
  statusActivity _ := none
  inboundNote _ := none
  parseTimestamp _ := none
  timestamptz time := time.tdiv 1000
  toLowercase := id
  isAlphanumeric := Char.isAlphanum

def question (options : List InboundPollOption) : InboundNote where
  id := "https://remote.example/notes/1"
  type := .question
  attributedTo := "https://remote.example/users/alice"
  content := "<p>Tea or coffee?</p>"
  summary := none
  sensitive := false
  published := "2026-07-01T00:00:00Z"
  updated := none
  sentTo := []
  cc := []
  inReplyTo := none
  replies := none
  tag := []
  attachment := []
  interactionPolicy := none
  quote := none
  quoteAuthorization := none
  poll := ⟨options, [], none, none, some 8⟩

def asked : RemoteStatusPoll := ⟨[("Tea", 1), ("Coffee", 0)], false, none, none, some 8⟩

/-- Only the counts have moved on. -/
def counted : RemoteStatusPoll := ⟨[("Tea", 5), ("Coffee", 3)], false, none, none, some 8⟩

def reordered : RemoteStatusPoll := ⟨[("Coffee", 3), ("Tea", 5)], false, none, none, some 8⟩

def context (now : Int) (id : Nat) : Context := ⟨now, 7, ⟨id⟩, fun _ => id⟩

def start : PollDb := PollDb.withoutPolls [] [(⟨1⟩, ⟨30⟩)] [] []

def machine : Machine PollDb Call Bool := polls ⟨String.length⟩

/-- The first document is stored, and a local account votes for coffee. -/
def first : PollDb × Bool := machine.step start (.upsertRemote (context 0 2) ⟨1⟩ asked)

def voted : List Call := [.voteInPoll (context 1000000 3) 7 ⟨20⟩ [1]]

def second (input : RemoteStatusPoll) : PollDb × Bool :=
  machine.step (machine.run first.1 voted) (.upsertRemote (context 2000000 4) ⟨1⟩ input)

end Survey

open Survey in
theorem reordered_drops_votes :
    Reflects first.1 ⟨1⟩ asked ∧ Reflects (second reordered).1 ⟨1⟩ reordered ∧
      Survive (machine.run first.1 voted) (second reordered).1 (.remoteStatus ⟨1⟩)
        asked reordered := by
  have readFirst : remotePollFromNote notes (question [⟨"Tea", 1⟩, ⟨" Coffee ", 0⟩]) =
      .ok (some asked) := by decide +kernel
  have readSecond : remotePollFromNote notes (question [⟨"Coffee", 3⟩, ⟨"Tea", 5⟩]) =
      .ok (some reordered) := by decide +kernel
  obtain ⟨poll, storing⟩ := commit_ok (show first.2 = true by decide +kernel)
  obtain ⟨refreshed, refreshing⟩ :=
    commit_ok (show (second reordered).2 = true by decide +kernel)
  exact (refresh_keeps_votes_iff ⟨String.length⟩ notes [] [(⟨1⟩, ⟨30⟩)] [] [] [] voted readFirst
    readSecond storing refreshing).mpr (.inl (by decide))

open Survey in
/-- A document with new counts and the same choices takes the vote away. -/
theorem counted_drops_votes :
    remotePollFromNote notes (question [⟨"Tea", 1⟩, ⟨"Coffee", 0⟩]) = .ok (some asked) ∧
      remotePollFromNote notes (question [⟨"Tea", 5⟩, ⟨"Coffee", 3⟩]) = .ok (some counted) ∧
      first.2 = true ∧ (second counted).2 = true ∧ asked.SameChoices counted ∧
      (localVotes (machine.run first.1 voted) (.remoteStatus ⟨1⟩)).length = 1 ∧
      ¬ Survive (machine.run first.1 voted) (second counted).1 (.remoteStatus ⟨1⟩)
        asked counted := by
  have same : asked.SameChoices counted := by decide
  refine ⟨by decide +kernel, by decide +kernel, by decide +kernel, by decide +kernel, same,
    by decide +kernel, fun survive => ?_⟩
  have lost : localVotes (second counted).1 (.remoteStatus ⟨1⟩) ≠
      localVotes (machine.run first.1 voted) (.remoteStatus ⟨1⟩) := by decide +kernel
  exact lost (survive.kept same)

end Roosty.Poll
