import Roosty.Library.Machine
import Roosty.Library.Table

/-!
# Leases of preview hosts

The workers of every process fetch previews from a host one at a time and a second apart:
each fetch takes a row of a shared table first and gives it back afterwards.
-/

set_option autoImplicit false

namespace Roosty.Preview

open Library

structure PreviewFetchHost where
  host : String
  leaseUntil : Option Int
  nextFetchAt : Int
  updatedAt : Int
deriving DecidableEq

/-- `interval '30 seconds'` -/
def leaseTime : Int := 30000000

/-- `interval '1 second'` -/
def spacing : Int := 1000000

/-- The rows that an acquisition updates; `now` is the start of its transaction. -/
def PreviewFetchHost.isFree (host : String) (now : Int) (row : PreviewFetchHost) : Bool :=
  row.host == host && decide (row.nextFetchAt ≤ now) && row.leaseUntil.all (decide <| · ≤ now)

def acquirePreviewHostLease (rows : List PreviewFetchHost) (host : String) (now : Int) :
    List PreviewFetchHost × Bool :=
  -- a conflict on the host leaves its row as it is
  let rows := if rows.any fun row => row.host == host then rows
    else rows ++ [⟨host, none, now, now⟩]
  (Table.updateWhere (PreviewFetchHost.isFree host now) (fun row =>
      { row with
        leaseUntil := some (now + leaseTime)
        nextFetchAt := now + spacing
        updatedAt := now }) rows,
    Table.affected (PreviewFetchHost.isFree host now) rows == 1)

def releasePreviewHostLease (rows : List PreviewFetchHost) (host : String) (now : Int) :
    List PreviewFetchHost :=
  Table.updateWhere (fun row => row.host == host)
    (fun row => { row with leaseUntil := none, updatedAt := now }) rows

/-!
## Fetches
-/

/-- A fetch that was lost ended with its process, before it released the host. -/
inductive FetchState where
  | running
  | finished
  | lost
deriving DecidableEq

structure Fetch where
  host : String
  since : Int
  state : FetchState
deriving DecidableEq

structure Workers where
  rows : List PreviewFetchHost
  fetches : List Fetch

def Workers.start : Workers := ⟨[], []⟩

/-- The steps of `fetch_bytes`, each a transaction of some worker. -/
inductive FetchCall where
  | acquire (host : String) (now : Int)
  | finish (index : Nat) (now : Int)
  | lose (index : Nat)
deriving DecidableEq

def Workers.close (workers : Workers) (index : Nat) (state : FetchState)
    (release : Fetch → List PreviewFetchHost) : Workers :=
  match workers.fetches[index]? with
  | some fetch =>
      if fetch.state = .running then
        ⟨release fetch, workers.fetches.set index { fetch with state := state }⟩
      else workers
  | none => workers

def fetchMachine : Machine Workers FetchCall Bool where
  step workers
    | .acquire host now =>
        let (rows, acquired) := acquirePreviewHostLease workers.rows host now
        (⟨rows, if acquired then workers.fetches ++ [⟨host, now, .running⟩] else workers.fetches⟩,
          acquired)
    | .finish index now =>
        (workers.close index .finished fun fetch =>
          releasePreviewHostLease workers.rows fetch.host now, false)
    | .lose index => (workers.close index .lost fun _ => workers.rows, false)

end Roosty.Preview
