import Mathlib.Data.List.Induction
import Mathlib.Logic.Function.Iterate
import TableQueue.Proofs.World.Events

/-!
# The ledger of rows

The ledger follows every row that is enqueued in a run. It is kept from the events alone: a row
waits in the queue under a number until a commit deletes that number. If the commit inserts another
row instead, the row waits under the new number; otherwise it is done, or it leaves for the archive.
That the tables agree with the ledger at every moment is proved elsewhere.
-/

namespace TableQueue

variable {α : Type}

inductive Fate where
  /-- It waits in the queue under a number, after it has been put back or off some times. -/
  | waiting (number returns : Nat)
  /-- It was removed after its handler received it in some way. -/
  | done (reception? : Option Reception)
  /-- A worker has removed it and is about to archive it. -/
  | leaving (worker : Nat)
  | archived (number : Nat)
  /-- A worker has removed it and failed to archive it. -/
  | lost (error : DatabaseError)
deriving DecidableEq

/-- A row as it was enqueued, and what has become of it. -/
structure Ticket where
  row : Row
  fate : Fate

namespace Fate

def queueNumber? : Fate → Option Nat
  | waiting number _ => some number
  | _ => none

def archiveNumber? : Fate → Option Nat
  | archived number => some number
  | _ => none

def isLeaving (worker : Nat) : Fate → Bool
  | leaving other => other == worker
  | _ => false

/-- A commit that deletes a row puts another one in its place, if it inserts one. -/
def commit (fate : Fate) (changes : Changes) (otherwise : Fate) : Fate :=
  match fate with
  | waiting number returns =>
    if number ∈ changes.deleted then
      match changes.inserted with
      | new :: _ => waiting new.number (returns + 1)
      | [] => otherwise
    else waiting number returns
  | fate => fate

/-- A worker that is about to archive a row has done so, or it has failed to. -/
def depart (fate : Fate) (worker : Nat) (next : Fate) : Fate :=
  if fate.isLeaving worker then next else fate

def after : Event α → Fate → Fate
  | .enqueued .., fate | .happened _ _ _ (.received ..), fate => fate
  | .happened _ changes attempt (.accepted _), fate => fate.commit changes (done attempt.reception?)
  | .happened worker changes _ (.returned ..), fate
  | .happened worker changes _ (.removed ..), fate => fate.commit changes (leaving worker)
  | .happened worker changes _ (.archived ..), fate =>
    match changes.archived with
    | (number, _) :: _ => fate.depart worker (archived number)
    | [] => fate
  | .happened worker _ _ (.lost _ error), fate => fate.depart worker (lost error)

end Fate

namespace Ticket

def after (event : Event α) (ticket : Ticket) : Ticket :=
  { ticket with fate := ticket.fate.after event }

def queueNumber? (ticket : Ticket) : Option Nat := ticket.fate.queueNumber?

def archiveNumber? (ticket : Ticket) : Option Nat := ticket.fate.archiveNumber?

end Ticket

def Event.enqueued? : Event α → Option Row
  | enqueued _ row => some row
  | happened .. => none

namespace Ledger

def enter (tickets : List Ticket) : Event α → List Ticket
  | .enqueued number row => tickets ++ [⟨row, .waiting number 0⟩]
  | event => tickets.map (Ticket.after event)

def ofEvents (events : List (Event α)) : List Ticket := events.foldl enter []

@[simp] theorem ofEvents_append_singleton (events : List (Event α)) (event : Event α) :
    ofEvents (events ++ [event]) = enter (ofEvents events) event := by
  simp [ofEvents]

theorem enter_received (tickets : List Ticket) (worker : Nat) (changes : Changes)
    (attempt : Attempt) (job : Job α) (reception : Reception) :
    enter tickets (.happened worker changes attempt (.received job reception)) = tickets :=
  (List.map_congr_left fun _ _ ↦ rfl).trans (List.map_id tickets)

/-- There is one ticket for each row that was enqueued, in this order. -/
theorem map_row_ofEvents (events : List (Event α)) :
    (ofEvents events).map Ticket.row = events.filterMap Event.enqueued? := by
  induction events using List.reverseRecOn with
  | nil => rfl
  | append_singleton events event ih =>
    rw [ofEvents_append_singleton, List.filterMap_append, ← ih]
    cases event with
    | enqueued => simp [enter, Event.enqueued?]
    | happened => simp [enter, Event.enqueued?, Ticket.after, Function.comp_def]

end Ledger

/-! ## What of a row is kept -/

/-- The columns of a row that stay the same when it is put back, put off or archived. -/
abbrev Columns := String × Option Instant × List Cell

def Row.columns (row : Row) : Columns := (row.queue, row.queued, row.job)

def ArchivedRow.columns (row : ArchivedRow) : Columns := (row.queue, some row.queued, row.job)

/-- The columns of the row to which a job is written. -/
def Duties.columns (duties : Duties α) (job : Job α) : Columns :=
  (job.details.queue, some job.details.queued.instant, duties.codec.encode job.payload)

namespace Codec

/-- A codec reads back what it writes. It may read other cells as well. -/
def RoundTrips (codec : Codec α) : Prop :=
  ∀ payload, codec.decode (codec.encode payload) = .ok payload

/-- Of certain cells a codec writes what it has read of them as it was. -/
def Preserves (codec : Codec α) (cells : List Cell) : Prop :=
  ∀ payload, codec.decode cells = .ok payload → codec.encode payload = cells

def PreservesEnqueued (codec : Codec α) (events : List (Event α)) : Prop :=
  ∀ row ∈ events.filterMap Event.enqueued?, codec.Preserves row.job

/-- What a codec has written it preserves, even if it writes other cells anew. -/
theorem RoundTrips.preserves {codec : Codec α} (h : codec.RoundTrips) (payload : α) :
    codec.Preserves (codec.encode payload) := by
  intro payload' hdecode
  rw [Except.ok.inj ((h payload).symm.trans hdecode)]

/-- What is asked of all enqueued rows is asked of those enqueued so far. -/
theorem PreservesEnqueued.of_append {codec : Codec α} {events later : List (Event α)}
    (h : codec.PreservesEnqueued (events ++ later)) : codec.PreservesEnqueued events := by
  intro row hrow
  refine h row ?_
  rw [List.filterMap_append]
  exact List.mem_append_left _ hrow

end Codec

/-- The number of attempts that a row holds after it has been put back or off some times. -/
def Row.triesAfter (row : Row) (returns : Nat) : Option Int :=
  row.tries.map JobMeta.nextTry^[returns]

variable {duties : Duties α} {row : Row} {job : Job α}

/-- A job that was read from a row alone is written back as it was. -/
theorem Duties.Renders.columns_eq {merged : List Row} (h : duties.Renders row merged job)
    (hcodec : duties.codec.Preserves row.job) (halone : duties.deduplicator = none) :
    duties.columns job = row.columns := by
  obtain ⟨payload, hdecode, hpayload⟩ := h.payload
  have hsame : payload = job.payload := by
    simp only [Duties.mergeRows, halone, Option.some.injEq] at hpayload
    exact hpayload
  obtain ⟨tries, queued, -, hqueued, hdetails⟩ := Row.metadata_eq_ok h.details
  unfold Duties.columns Row.columns
  rw [← hsame, hcodec _ hdecode, hdetails, hqueued]
  rfl

/-- An attempt counts as one more. -/
theorem Duties.Renders.tries_eq {merged : List Row} (h : duties.Renders row merged job) :
    some job.details.tries = row.tries.map JobMeta.nextTry := by
  obtain ⟨tries, queued, htries, -, hdetails⟩ := Row.metadata_eq_ok h.details
  rw [htries, hdetails]
  rfl

end TableQueue
