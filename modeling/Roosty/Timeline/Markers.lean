import Roosty.Core
import Roosty.Library.ReadCommitted

/-!
# Timeline markers

The read positions of an account. One request saves up to two of them in a transaction,
each by a statement that reads its row and one that writes it.
-/

set_option autoImplicit false

namespace Roosty.Timeline.Markers

open Library.ReadCommitted

inductive LocalTimeline where
  | home
  | notifications
deriving DecidableEq

/-- A row of `local_timeline_marker` without its primary key. -/
structure LocalTimelineMarker where
  lastReadId : Nat
  version : Int
  updatedAt : Int
deriving DecidableEq

abbrev Key := AccountId × LocalTimeline

abbrev Markers := Rows Key LocalTimelineMarker

structure MarkerUpdateParams where
  homeLastReadId : Option Nat
  notificationsLastReadId : Option Nat

def markerUpdates (params : MarkerUpdateParams) : List (LocalTimeline × Nat) :=
  ((params.homeLastReadId.map fun id => (LocalTimeline.home, id)).toList ++
    (params.notificationsLastReadId.map fun id => (LocalTimeline.notifications, id)).toList)

/-- A request between two statements, with the markers that its calls have returned. -/
inductive Position where
  | find (account : AccountId) (saved : List (LocalTimeline × LocalTimelineMarker))
      (updates : List (LocalTimeline × Nat))
  | update (account : AccountId) (saved : List (LocalTimeline × LocalTimelineMarker))
      (timeline : LocalTimeline) (lastReadId : Nat) (now : Int) (marker : LocalTimelineMarker)
      (updates : List (LocalTimeline × Nat))
  | insert (account : AccountId) (saved : List (LocalTimeline × LocalTimelineMarker))
      (timeline : LocalTimeline) (lastReadId : Nat) (now : Int)
      (updates : List (LocalTimeline × Nat))
  | failed

/-- The largest version that a `bigint` column holds. -/
def i64Max : Int := 9223372036854775807

def written (key : Key) (marker : LocalTimelineMarker) : Writes Key LocalTimelineMarker :=
  fun other => if other = key then some (some marker) else none

/-- Save a local account's read position for a Mastodon timeline, for one update after the
other. -/
def saveLocalTimelineMarker (now : Int) : Position → Instruction Key LocalTimelineMarker Position
  | .find account saved ((timeline, lastReadId) :: updates) =>
      .statement (fun _ => .none) fun markers =>
        match markers (account, timeline) with
        | some marker =>
            if marker.version + 1 ≤ i64Max then
              .update account saved timeline lastReadId now marker updates
            else .failed
        | none => .insert account saved timeline lastReadId now updates
  | .find _ _ [] => .commit
  | .update account saved timeline lastReadId now marker updates =>
      let next : LocalTimelineMarker := ⟨lastReadId, marker.version + 1, now⟩
      .statement
        (fun markers => if (markers (account, timeline)).isSome then written (account, timeline) next
          else .none)
        fun markers => if (markers (account, timeline)).isSome
          then .find account (saved ++ [(timeline, next)]) updates else .failed
  | .insert account saved timeline lastReadId now updates =>
      let next : LocalTimelineMarker := ⟨lastReadId, 1, now⟩
      .statement
        (fun markers => if (markers (account, timeline)).isSome then .none
          else written (account, timeline) next)
        fun markers => if (markers (account, timeline)).isSome then .failed
          else .find account (saved ++ [(timeline, next)]) updates
  | .failed => .rollback

def saveMarkers : Code Key LocalTimelineMarker Position where
  starts position := ∃ account params, position = .find account [] (markerUpdates params)
  instruction := saveLocalTimelineMarker

def Position.savedUnder (key : Key) : Position → List LocalTimelineMarker
  | .find account saved _ | .update account saved _ _ _ _ _ | .insert account saved _ _ _ _ =>
      (saved.filter fun entry => (account, entry.1) = key).map Prod.snd
  | .failed => []

/-- The markers that successful calls have returned for a key, in the order in which their
requests were committed. -/
def returned (key : Key) (events : List (Event Position)) : List LocalTimelineMarker :=
  events.flatMap fun
    | .commits _ position => position.savedUnder key
    | _ => []

end Roosty.Timeline.Markers
