import TableQueue.Proofs.Store.Statements
import TableQueue.Proofs.World.Basic

/-!
# Connections

Each worker speaks to the server on a connection of its own. Whatever is done on one connection
leaves the other connections and their transactions alone, and a connection that is gone has no
transaction.
-/

namespace TableQueue.Server

variable {server : Server} {session : Nat}

/-! ## Which connections are live -/

theorem connection?_update {change : Connection → Connection}
    (hchange : ∀ connection, (change connection).session = connection.session) (other : Nat) :
    (server.update session change).connection? other =
      (server.connection? other).map fun connection ↦
        if connection.session == session then change connection else connection := by
  have hsession : ((fun connection : Connection ↦ connection.session == other) ∘
      fun connection ↦ if connection.session == session then change connection else connection) =
      fun connection ↦ connection.session == other := by
    funext connection
    simp only [Function.comp]
    split <;> simp [hchange]
  simp only [update, connection?, List.find?_map, hsession]

theorem isLive_update {change : Connection → Connection}
    (hchange : ∀ connection, (change connection).session = connection.session)
    (hstate : ∀ connection, (change connection).state = connection.state) (other : Nat) :
    (server.update session change).isLive other = server.isLive other := by
  unfold isLive
  rw [connection?_update hchange]
  cases server.connection? other with
  | none => rfl
  | some connection =>
    simp only [Option.map_some]
    split <;> simp [hstate]

theorem isLive_disconnect_self {state : ConnectionState} (hstate : state ≠ .live) :
    (server.disconnect session state).isLive session = false := by
  have hsame : (server.disconnect session state).isLive session =
      (server.update session fun connection ↦ { connection with state }).isLive session := rfl
  have hfound := @connection?_update server session (fun connection ↦ { connection with state })
    (fun _ ↦ rfl) session
  rw [hsame]
  unfold isLive
  rw [hfound]
  cases hfind : server.connection? session with
  | none => rfl
  | some connection =>
    have hsession := List.find?_some hfind
    simp only [Option.map_some, hsession, if_true]
    simpa using hstate

theorem isLive_disconnect_of_ne {other : Nat} (h : other ≠ session) (state : ConnectionState) :
    (server.disconnect session state).isLive other = server.isLive other := by
  have hsame : (server.disconnect session state).isLive other =
      (server.update session fun connection ↦ { connection with state }).isLive other := rfl
  have hfound := @connection?_update server session (fun connection ↦ { connection with state })
    (fun _ ↦ rfl) other
  rw [hsame]
  unfold isLive
  rw [hfound]
  cases hfind : server.connection? other with
  | none => rfl
  | some connection =>
    have hsession : connection.session = other := by simpa using List.find?_some hfind
    have hne : ¬ connection.session = session := hsession ▸ h
    simp [hne]

/-! ## Sound servers -/

/-- The store is sound, connections are numbered in order, and a connection that is gone has no
transaction. -/
structure Sound (server : Server) : Prop where
  store : server.store.Sound
  numbered : ∀ connection ∈ server.connections, connection.session < server.connections.length
  quiet : ∀ session, server.isLive session = false → server.store.transaction session = .idle

/-- A change of the server spares a session that stays live: its transaction remains, and so do the
rows that it has deleted. -/
def Spares (session : Nat) (server server' : Server) : Prop :=
  server'.isLive session = true → server.isLive session = true ∧
    server'.store.transaction session = server.store.transaction session ∧
    ∀ entry ∈ server.store.queue,
      entry.number ∈ (server.store.transaction session).changes.deleted →
        entry ∈ server'.store.queue

theorem Spares.refl (session : Nat) (server : Server) : server.Spares session server :=
  fun hlive ↦ ⟨hlive, rfl, fun _ hmem _ ↦ hmem⟩

theorem Spares.trans {server' server'' : Server} (h : server.Spares session server')
    (h' : server'.Spares session server'') : server.Spares session server'' := by
  intro hlive''
  obtain ⟨hlive', htransaction', hqueue'⟩ := h' hlive''
  obtain ⟨hlive, htransaction, hqueue⟩ := h hlive'
  refine ⟨hlive, htransaction'.trans htransaction, fun entry hmem hdeleted ↦ ?_⟩
  exact hqueue' entry (hqueue entry hmem hdeleted) (htransaction ▸ hdeleted)

/-- What is done on one connection concerns only that connection. -/
structure Confined (session : Nat) (server server' : Server) : Prop where
  spares : server.Sound → ∀ other ≠ session, server.Spares other server'
  gone : server.isLive session = false → server'.isLive session = false
  size : server'.connections.length = server.connections.length
  sound : server.Sound → server'.Sound

theorem Confined.refl (session : Nat) (server : Server) : Confined session server server :=
  ⟨fun _ other _ ↦ Spares.refl other server, id, rfl, id⟩

theorem Confined.trans {server' server'' : Server} (h : Confined session server server')
    (h' : Confined session server' server'') : Confined session server server'' where
  spares hsound other hother := (h.spares hsound other hother).trans
    (h'.spares (h.sound hsound) other hother)
  gone hgone := h'.gone (h.gone hgone)
  size := h'.size.trans h.size
  sound hsound := h'.sound (h.sound hsound)

/-- A connection that is live afterwards has been live. -/
theorem Confined.isLive {server' : Server} (h : Confined session server server')
    (hlive : server'.isLive session = true) : server.isLive session = true := by
  cases hbefore : server.isLive session with
  | true => rfl
  | false => exact (h.gone hbefore).symm.trans hlive

/-- What is done on one connection makes no other connection live. -/
theorem Confined.isLive_of_isLive {server' : Server} (h : Confined session server server')
    (hsound : server.Sound) {other : Nat} (hlive : server'.isLive other = true) :
    server.isLive other = true := by
  by_cases hother : other = session
  · subst hother
    exact h.isLive hlive
  · exact (h.spares hsound other hother hlive).1

theorem Sound.lt_of_isLive (h : server.Sound) (hlive : server.isLive session = true) :
    session < server.connections.length := by
  unfold isLive at hlive
  split at hlive
  · next connection hfind =>
    have hsession : connection.session = session := by simpa using List.find?_some hfind
    exact hsession ▸ h.numbered connection (List.mem_of_find?_eq_some hfind)
  · exact absurd hlive Bool.false_ne_true

theorem mem_update {change : Connection → Connection}
    (hchange : ∀ connection, (change connection).session = connection.session)
    {connection : Connection} (h : connection ∈ (server.update session change).connections) :
    ∃ old ∈ server.connections, old.session = connection.session := by
  simp only [update, List.mem_map] at h
  obtain ⟨old, hold, rfl⟩ := h
  refine ⟨old, hold, ?_⟩
  split <;> simp [hchange]

theorem confined_update {change : Connection → Connection}
    (hchange : ∀ connection, (change connection).session = connection.session)
    (hstate : ∀ connection, (change connection).state = connection.state) :
    Confined session server (server.update session change) where
  spares _ other _ hlive :=
    ⟨(isLive_update hchange hstate other).symm.trans hlive, rfl, fun _ hmem _ ↦ hmem⟩
  gone hgone := (isLive_update hchange hstate session).trans hgone
  size := by simp [update]
  sound h :=
    { store := h.store
      numbered := fun connection hconnection ↦ by
        obtain ⟨old, hold, heq⟩ := mem_update hchange hconnection
        simpa [heq, update] using h.numbered old hold
      quiet := fun other hgone ↦ h.quiet other ((isLive_update hchange hstate other).symm.trans
        hgone) }

theorem spares_disconnect {state : ConnectionState} (hstate : state ≠ .live) (other : Nat) :
    server.Spares other (server.disconnect session state) := by
  intro hlive
  by_cases hother : other = session
  · rw [hother, isLive_disconnect_self hstate] at hlive
    exact absurd hlive Bool.false_ne_true
  · exact ⟨(isLive_disconnect_of_ne hother state).symm.trans hlive,
      Store.transaction_setTransaction_of_ne hother _, fun _ hmem _ ↦ hmem⟩

theorem confined_disconnect {state : ConnectionState} (hstate : state ≠ .live) :
    Confined session server (server.disconnect session state) where
  spares _ other _ := spares_disconnect hstate other
  gone _ := isLive_disconnect_self hstate
  size := by simp [disconnect, update]
  sound h :=
    { store := h.store.setIdle session
      numbered := fun connection hconnection ↦ by
        obtain ⟨old, hold, heq⟩ := @mem_update server session
          (fun connection ↦ { connection with state }) (fun _ ↦ rfl) connection hconnection
        simpa [heq, disconnect, update] using h.numbered old hold
      quiet := fun other hgone ↦ by
        by_cases hother : other = session
        · subst hother
          exact Store.transaction_setTransaction_self _ _ _
        · rw [isLive_disconnect_of_ne hother] at hgone
          exact (Store.transaction_setTransaction_of_ne hother _).trans (h.quiet other hgone) }

theorem confined_store {store : Store} (hlive : server.isLive session = true)
    (htransaction : ∀ other ≠ session, store.transaction other = server.store.transaction other)
    (hqueue : server.store.Sound → ∀ other ≠ session, ∀ entry ∈ server.store.queue,
      entry.number ∈ (server.store.transaction other).changes.deleted → entry ∈ store.queue)
    (hsound : server.store.Sound → store.Sound) :
    Confined session server { server with store } where
  spares hserver other hother hlive :=
    ⟨hlive, htransaction other hother, hqueue hserver.store other hother⟩
  gone := id
  size := rfl
  sound h :=
    { store := hsound h.store
      numbered := h.numbered
      quiet := fun other hgone ↦ by
        have hother : other ≠ session := by
          rintro rfl
          have hsame : server.isLive other = false := hgone
          rw [hlive] at hsame
          exact Bool.false_ne_true hsame.symm
        exact (htransaction other hother).trans (h.quiet other hgone) }

/-- Closing a connection concerns only that connection. -/
theorem confined_close : Confined session server (server.close session).1 := by
  unfold close
  split
  · exact confined_disconnect (by decide)
  · exact Confined.refl session server

/-- After a connection has been closed it is gone. -/
theorem isLive_close : (server.close session).1.isLive session = false := by
  unfold close
  split
  · exact isLive_disconnect_self (by decide)
  · next h => simpa using h

/-- Connecting opens one connection and leaves the others as they are. -/
theorem isLive_connect (h : server.Sound) (other : Nat) :
    server.connect.1.isLive other = (server.isLive other || other == server.connect.2) := by
  have hsession : server.connect.2 = server.connections.length := rfl
  rw [hsession]
  unfold isLive connection? connect
  simp only [List.find?_append]
  cases hfind : server.connections.find? (·.session == other) with
  | some connection =>
    have hne : other ≠ server.connections.length := by
      have hequal : connection.session = other := by simpa using List.find?_some hfind
      have hlt := h.numbered connection (List.mem_of_find?_eq_some hfind)
      omega
    simp [hne]
  | none =>
    by_cases hother : other = server.connections.length
    · simp [hother]
    · have hne : ¬ server.connections.length = other := fun heq ↦ hother heq.symm
      simp [hother, hne]

/-- The connection that will be opened next is not live before. -/
theorem Sound.isLive_next (h : server.Sound) : server.isLive server.connect.2 = false := by
  cases hlive : server.isLive server.connect.2 with
  | false => rfl
  | true => exact absurd (h.lt_of_isLive hlive) (Nat.lt_irrefl _)

theorem connect_of_answer {α : Type} {now : Instant} {chance : Chance} {server' : Server}
    (h : server.answer now chance (.connect : Call α) = (server', some (.ok session))) :
    server.connect = (server', session) := by
  cases hrefusal : chance.refusal with
  | some error =>
    simp only [answer, hrefusal, Prod.mk.injEq, Option.some.injEq] at h
    cases h.2
  | none =>
    simp only [answer, hrefusal, Prod.mk.injEq, Option.some.injEq, Except.ok.injEq] at h
    exact Prod.ext h.1 h.2

/-- Connecting leaves the server sound. -/
theorem Sound.connect (h : server.Sound) : server.connect.1.Sound where
  store := h.store
  numbered connection hconnection := by
    simp only [Server.connect, List.mem_append, List.mem_singleton, List.length_append,
      List.length_singleton] at hconnection ⊢
    rcases hconnection with hold | rfl
    · exact Nat.lt_succ_of_lt (h.numbered connection hold)
    · exact Nat.lt_succ_self _
  quiet other hgone := by
    rw [isLive_connect h, Bool.or_eq_false_iff] at hgone
    exact h.quiet other hgone.1

/-! ## Statements on a connection -/

variable {now : Instant} {mishap : Option Mishap} {statement : Statement}

theorem prepare_store (server : Server) (session : Nat) (statement : Statement) :
    (server.prepare session statement).1.store = server.store := by
  unfold prepare
  split <;> rfl

theorem confined_prepare :
    Confined session server (server.prepare session statement).1 := by
  unfold prepare
  split
  · exact confined_update (fun _ ↦ rfl) fun _ ↦ rfl
  · exact Confined.refl session server

theorem isLive_prepare (server : Server) (session other : Nat) (statement : Statement) :
    (server.prepare session statement).1.isLive other = server.isLive other := by
  unfold prepare
  split
  · next purpose connection _ _ =>
    exact @isLive_update server session
      (fun old ↦ { old with prepared := (connection.prepared.mark purpose).1 })
      (fun _ ↦ rfl) (fun _ ↦ rfl) other
  · rfl

/-- A statement concerns only its connection. -/
theorem confined_serve (hlive : server.isLive session = true) :
    Confined session server (server.serve session now mishap statement).1 := by
  have hperform : Confined session server
      { server with store := (server.store.perform session now statement).1 } :=
    confined_store hlive (fun _ hother ↦ Store.transaction_perform_of_ne hother now statement)
      (fun h _ hother _ hmem hdeleted ↦ h.mem_queue_perform hother now statement hmem hdeleted)
      fun h ↦ h.perform session now statement
  rcases mishap with _ | text | _ | rows
  · exact hperform
  · exact confined_store hlive (fun _ hother ↦ Store.transaction_refuse_of_ne hother statement)
      (fun _ _ _ _ hmem _ ↦
        (Store.sameTables_refuse server.store session statement).queue ▸ hmem)
      fun h ↦ h.refuse session statement
  · exact confined_disconnect (by decide)
  · exact hperform

/-- What is sent on a connection concerns only that connection. -/
theorem confined_exchange :
    Confined session server (server.exchange session now mishap statement).1 := by
  unfold exchange
  split
  · next hlive =>
    exact confined_prepare.trans
      (confined_serve ((isLive_prepare server session session statement).trans hlive))
  · exact Confined.refl session server

/-- The reply to a statement is the store's own, but insertions may be miscounted. -/
def Repeats : (statement : Statement) → statement.Reply → statement.Reply → Prop
  | .putBack .., _, _ | .putOff .., _, _ | .archive .., _, _ | .note _, _, _ => True
  | .command _, reply, reply' | .oldest _, reply, reply' | .recent, reply, reply'
  | .claim .., reply, reply' | .takeDuplicates .., reply, reply' => reply = reply'

theorem repeats_refl (statement : Statement) (reply : statement.Reply) :
    Repeats statement reply reply := by
  cases statement <;> first | rfl | trivial

theorem repeats_miscounted (rows : Nat) (statement : Statement) (reply : statement.Reply) :
    Repeats statement (miscounted rows statement reply) reply := by
  cases statement <;> first | rfl | trivial

/-- A statement that succeeds has been carried out on a live connection. -/
theorem exchange_of_ok {reply : statement.Reply}
    (h : (server.exchange session now mishap statement).2 = .ok reply) :
    server.isLive session = true ∧
      (∀ other, (server.exchange session now mishap statement).1.isLive other =
        server.isLive other) ∧
      ∃ reply', Repeats statement reply reply' ∧ server.store.perform session now statement =
        ((server.exchange session now mishap statement).1.store, .ok reply') := by
  unfold exchange at h ⊢
  split at h
  · next hlive =>
    simp only [hlive, if_true]
    have hprepared (other : Nat) := isLive_prepare server session other statement
    have hstore := prepare_store server session statement
    generalize (server.prepare session statement).1 = prepared at h hprepared hstore ⊢
    rw [← hstore]
    rcases mishap with _ | text | _ | rows
    · exact ⟨trivial, hprepared, reply, repeats_refl _ _, Prod.ext rfl h⟩
    · exact absurd h (by simp [serve])
    · exact absurd h (by simp [serve])
    · simp only [serve] at h ⊢
      cases hreply : (prepared.store.perform session now statement).2 with
      | error error =>
        rw [hreply] at h
        exact absurd h (by simp [Except.map])
      | ok reply' =>
        rw [hreply] at h
        have heq : miscounted rows statement reply' = reply := Except.ok.inj h
        exact ⟨trivial, hprepared, reply', heq ▸ repeats_miscounted rows statement reply',
          Prod.ext rfl hreply⟩
  · cases h

/-- Only a commit changes the tables. -/
theorem sameTables_exchange (h : statement ≠ .command .commit) :
    server.store.SameTables (server.exchange session now mishap statement).1.store := by
  unfold exchange
  split
  · rw [← prepare_store server session statement]
    rcases mishap with _ | text | _ | rows
    · exact Store.sameTables_perform _ session now h
    · exact Store.sameTables_refuse _ _ _
    · exact Store.sameTables_setTransaction _ _ _
    · exact Store.sameTables_perform _ session now h
  · exact Store.SameTables.refl _

/-- A statement that meets an error leaves the tables as they are. -/
theorem exchange_of_error {error : DatabaseError}
    (h : (server.exchange session now mishap statement).2 = .error error) :
    server.store.SameTables (server.exchange session now mishap statement).1.store := by
  unfold exchange at h ⊢
  split at h
  · next hlive =>
    simp only [hlive, if_true]
    have hstore := prepare_store server session statement
    generalize (server.prepare session statement).1 = prepared at h hstore ⊢
    rw [← hstore]
    rcases mishap with _ | text | _ | rows
    · simp only [serve] at h ⊢
      rw [Store.perform_of_error h]
      exact Store.SameTables.refl _
    · exact Store.sameTables_refuse _ _ _
    · exact Store.sameTables_setTransaction _ _ _
    · simp only [serve] at h ⊢
      cases hreply : (prepared.store.perform session now statement).2 with
      | error error' =>
        rw [Store.perform_of_error hreply]
        exact Store.SameTables.refl _
      | ok reply' =>
        rw [hreply] at h
        cases h
  · next hlive =>
    simp only [hlive]
    exact Store.SameTables.refl _

/-- On a connection that outlives it, a statement is carried out or refused. -/
theorem store_exchange
    (hlive : (server.exchange session now mishap statement).1.isLive session = true) :
    (server.exchange session now mishap statement).1.store =
        (server.store.perform session now statement).1 ∨
      (server.exchange session now mishap statement).1.store =
        server.store.refuse session statement := by
  unfold exchange at hlive ⊢
  split
  · next hbefore =>
    rw [if_pos hbefore] at hlive
    rw [← prepare_store server session statement]
    rcases mishap with _ | text | _ | rows
    · exact .inl rfl
    · exact .inr rfl
    · rw [serve, isLive_disconnect_self (by decide)] at hlive
      exact absurd hlive Bool.false_ne_true
    · exact .inl rfl
  · next hbefore =>
    rw [if_neg hbefore] at hlive
    exact absurd hlive hbefore

/-- A note is added to what an active transaction has changed, or the transaction fails. -/
theorem note_of_active {text : String} {changes : Changes} {savepoint : Option Changes}
    (hactive : server.store.transaction session = .active changes savepoint)
    (hlive : (server.exchange session now mishap (.note text)).1.isLive session = true) :
    (∃ number, (server.exchange session now mishap (.note text)).1.store.transaction session =
        .active { changes with noted := changes.noted ++ [(number, text)] } savepoint) ∨
      (server.exchange session now mishap (.note text)).1.store.transaction session =
        .failed changes savepoint := by
  rcases store_exchange hlive with hstore | hstore <;> rw [hstore]
  · rw [Store.perform_of_active now hactive]
    exact .inl ⟨_, Store.transaction_note hactive now text⟩
  · exact .inr (by simp [Store.refuse, hactive])

/-- A failed transaction takes no note. -/
theorem note_of_failed {text : String} {changes : Changes} {savepoint : Option Changes}
    (hfailed : server.store.transaction session = .failed changes savepoint)
    (hlive : (server.exchange session now mishap (.note text)).1.isLive session = true) :
    (server.exchange session now mishap (.note text)).1.store.transaction session =
      .failed changes savepoint := by
  rcases store_exchange hlive with hstore | hstore <;> rw [hstore]
  · rw [Store.perform_of_failed now hfailed rfl]
    exact hfailed
  · simp [Store.refuse, hfailed]

/-- A note leaves everything else in a transaction as it is, though the transaction may fail. -/
theorem exchange_note {text : String} {deleted : List Nat} {inserted : List Entry}
    {archived : List (Nat × ArchivedRow)} {noted : List (Nat × String)}
    {savepoint : Option Changes}
    (hstate : server.store.transaction session =
        .active ⟨deleted, inserted, archived, noted⟩ savepoint ∨
      server.store.transaction session = .failed ⟨deleted, inserted, archived, noted⟩ savepoint)
    (hlive : (server.exchange session now mishap (.note text)).1.isLive session = true) :
    server.store.SameTables (server.exchange session now mishap (.note text)).1.store ∧
      ∃ noted', (server.exchange session now mishap (.note text)).1.store.transaction session =
          .active ⟨deleted, inserted, archived, noted'⟩ savepoint ∨
        (server.exchange session now mishap (.note text)).1.store.transaction session =
          .failed ⟨deleted, inserted, archived, noted'⟩ savepoint := by
  refine ⟨sameTables_exchange (by simp), ?_⟩
  rcases hstate with hactive | hfailed
  · obtain ⟨number, hactive'⟩ | hfailed' := note_of_active hactive hlive
    · exact ⟨_, .inl hactive'⟩
    · exact ⟨noted, .inr hfailed'⟩
  · exact ⟨noted, .inr (note_of_failed hfailed hlive)⟩

end TableQueue.Server
