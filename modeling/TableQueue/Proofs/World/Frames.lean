import TableQueue.Proofs.World.Sound

/-!
# What a move leaves alone

Some moves are the moves of one worker: its call is answered, its handler writes, or it goes on.
Such a move leaves every other worker that holds a connection where it is, and it spares the session
of that worker; and so does a move that is nobody's. The tables are changed by commits and by
producers alone.
-/

namespace TableQueue

variable {α : Type} {duties : Duties α}

/-! ## The tables -/

structure Tables where
  queue : List Entry
  archive : List (Nat × ArchivedRow)
  notes : List (Nat × String)
deriving DecidableEq

namespace Store

variable {store : Store} {session : Nat}

def tables (store : Store) : Tables := ⟨store.queue, store.archive, store.notes⟩

theorem tables_setTransaction (store : Store) (session : Nat) (transaction : Transaction) :
    (store.setTransaction session transaction).tables = store.tables := rfl

theorem tables_setChanges (store : Store) (session : Nat) (new : Changes) :
    (store.setChanges session new).tables = store.tables := by
  obtain heq | ⟨_, _, _, heq⟩ := setChanges_cases store session new <;> rw [heq]
  exact tables_setTransaction _ _ _

theorem tables_refuse (store : Store) (session : Nat) (statement : Statement) :
    (store.refuse session statement).tables = store.tables := by
  unfold refuse
  split <;> rfl

theorem tables_executeCommand (store : Store) (session : Nat) {command : Command}
    (h : command ≠ .commit) : (store.executeCommand session command).1.tables = store.tables := by
  unfold executeCommand
  split
  all_goals first
    | exact absurd rfl h
    | rfl

/-- Of all statements only a commit changes the tables. -/
theorem tables_perform (store : Store) (session : Nat) (now : Instant) {statement : Statement}
    (h : statement ≠ .command .commit) :
    (store.perform session now statement).1.tables = store.tables := by
  unfold perform
  split
  · rfl
  · cases statement with
    | command command => exact tables_executeCommand store session fun heq ↦ h (heq ▸ rfl)
    | claim queue notBefore =>
      cases hclaimed : store.claimed session queue notBefore now with
      | none => rw [execute_claim_of_none hclaimed]
      | some entry =>
        rw [execute_claim_of_some hclaimed]
        exact tables_setChanges _ _ _
    | oldest | recent => rfl
    | takeDuplicates | putBack | putOff | archive | note => exact tables_setChanges store session _

end Store

namespace Server

variable {server : Server} {session : Nat} {now : Instant} {mishap : Option Mishap}
  {statement : Statement}

theorem tables_exchange (h : statement ≠ .command .commit) :
    (server.exchange session now mishap statement).1.store.tables = server.store.tables := by
  unfold exchange
  split
  · rw [← prepare_store server session statement]
    rcases mishap with _ | text | _ | rows
    · exact Store.tables_perform _ session now h
    · exact Store.tables_refuse _ _ _
    · rfl
    · exact Store.tables_perform _ session now h
  · rfl

/-- A statement that meets an error leaves the tables as they are, even if it is a commit. -/
theorem tables_exchange_of_error {error : DatabaseError}
    (h : (server.exchange session now mishap statement).2 = .error error) :
    (server.exchange session now mishap statement).1.store.tables = server.store.tables := by
  unfold exchange at h ⊢
  split at h
  · next hlive =>
    rw [if_pos hlive, ← prepare_store server session statement]
    generalize (server.prepare session statement).1 = prepared at h ⊢
    rcases mishap with _ | text | _ | rows
    · simp only [serve] at h ⊢
      rw [Store.perform_of_error h]
    · exact Store.tables_refuse _ _ _
    · rfl
    · simp only [serve] at h ⊢
      cases hreply : (prepared.store.perform session now statement).2 with
      | error error' => rw [Store.perform_of_error hreply]
      | ok reply' =>
        rw [hreply] at h
        cases h
  · next hlive => rw [if_neg hlive]

theorem tables_bury (server : Server) (point : Point α) :
    (server.bury point).store.tables = server.store.tables := by
  obtain heq | ⟨_, _, -, heq⟩ := server.bury_cases point <;> rw [heq]
  rfl

end Server

/-! ## The moves of one worker -/

/-- The worker whose move it is, if it is the move of one. -/
def Move.actor? : Move → Option Nat
  | answer number _ | write number _ _ | resume number => some number
  | pass _ | produce .. | drop _ | start | stop | await _ | endAwait | release => none

namespace World

variable {world world' : World duties} {number session : Nat} {member : Member duties}
  {move : Move}

def tables (world : World duties) : Tables := world.server.store.tables

/-- The moves of others leave a worker and its transaction alone. -/
theorem Sound.frame_of_steps (h : world.Sound) (hmember : world.members[number]? = some member)
    (hsession : member.session? = some session) (hactor : move.actor? ≠ some number)
    (hsteps : Steps world move world') :
    world'.members[number]? = some member ∧ world.server.Spares session world'.server := by
  have hsame := Server.Spares.refl session world.server
  have hset {j : Nat} (hj : move.actor? = some j) (new : Member duties) :
      (world.members.set j new)[number]? = some member := by
    rw [List.getElem?_set_ne fun hsame ↦ hactor (hj.trans (congrArg some hsame))]
    exact hmember
  have hstranger {j : Nat} {other : Member duties} (hj : move.actor? = some j)
      (hother : world.members[j]? = some other) : other.session? ≠ some session := fun hheld ↦
    hactor ((h.apart number j member other session hmember hother hsession hheld) ▸ hj)
  cases hsteps with
  | refused | passed | unanswered | stopped | awaited | waiting | reclaimed | forgotten
    | released => exact ⟨hmember, hsame⟩
  | produced row visibleFrom => exact ⟨hmember, Server.spares_produce _ session row visibleFrom⟩
  | dropped => exact ⟨hmember, Server.spares_disconnect (by decide) session⟩
  | @answered j worker servedAt attempt chance hanswered =>
    have hanswers := @Server.answers α duties world.server world.now chance worker.point
    refine ⟨hset rfl _, hanswers.spares h.server session
      (h.known member (List.mem_of_getElem? hmember) session hsession) fun hheld ↦ ?_⟩
    exact hstranger rfl hanswered ((Member.heldSession?_none worker.point).trans hheld)
  | @wrote j other job worker servedAt attempt text mishap hpoint hwriter =>
    refine ⟨hmember, Server.confined_exchange.spares h.server session fun hheld ↦ ?_⟩
    refine hstranger rfl hwriter ((Member.heldSession?_none worker.point).trans ?_)
    rw [hpoint, hheld]
    rfl
  | resumed => exact ⟨hset rfl _, Server.spares_bury _ _ session⟩
  | @started tasks hadmits htasks =>
    refine ⟨?_, hsame⟩
    rw [getElem?_foldl_spawn, hmember, Option.map_some]
    split
    · next htask =>
      rw [Member.session?_of_idle (h.idle_of_start htasks htask hmember)] at hsession
      cases hsession
    · rfl

/-- A move that is not a worker's own leaves the worker where it is and spares its session. -/
theorem Sound.frame (h : world.Sound) (hmember : world.members[number]? = some member)
    (hsession : member.session? = some session) (hactor : move.actor? ≠ some number) :
    (world.step move).members[number]? = some member ∧
      world.server.Spares session (world.step move).server :=
  h.frame_of_steps hmember hsession hactor (world.steps move)

end World

end TableQueue
