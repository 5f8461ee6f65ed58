import TableQueue.Proofs.World.Phases

/-!
# Transactions are kept in order

Everything that was sent on a connection, by its worker and by the handler of its worker, makes up a
dialogue. The dialogue of every connection keeps to the protocol, and the phase that it has come to is
the one that the holder of the connection expects. So what a worker sends befits the transaction of
its connection, and a worker that waits for time to pass or whose run has ended has no transaction.
-/

namespace TableQueue

variable {α : Type} {duties : Duties α}

structure Utterance where
  session : Nat
  statement : Statement
  succeeded : Bool
deriving DecidableEq, Repr

/-- What was sent with a call that is answered. -/
def Call.utterance? : (call : Call α) → Option call.Answer → Option Utterance
  | .execute session statement, some answer => some ⟨session, statement, answer.isOk⟩
  | _, _ => none

theorem Call.utterance?_none (call : Call α) : call.utterance? none = none := by
  cases call <;> rfl

theorem Call.session_of_utterance? {call : Call α} {session : Nat} {answer? : Option call.Answer}
    {utterance : Utterance} (h : call.Concerns session)
    (hutterance : call.utterance? answer? = some utterance) : utterance.session = session := by
  cases call with
  | execute other statement =>
    cases answer? with
    | none => cases hutterance
    | some answer =>
      obtain rfl := Option.some.inj hutterance
      exact h
  | pause | connect | deallocate | deliver | close => cases hutterance

/-- Whether a worker waits for time to pass, or is not running, or has died. -/
def Point.isAtRest : Point α → Bool
  | idle | atConnectGate _ | atFailureGate .. | asleep .. | crashed .. => true
  | starting | connecting _ | polling .. | working .. | rollingBack .. | closing .. => false

def Move.isSilent : Move → Bool
  | answer .. | write .. => false
  | _ => true

namespace World

def utterance? (world : World duties) : Move → Option Utterance
  | .answer number chance =>
    match world.members[number]? with
    | some ⟨worker, none, _, _⟩ =>
      (worker.call duties).utterance?
        (world.server.answer world.now chance (worker.call duties)).2
    | _ => none
  | .write number text mishap =>
    match world.members[number]? with
    | some ⟨⟨_, _, _, .working session _ .delivering⟩, none, _, _⟩ =>
      some ⟨session, .note text,
        (world.server.exchange session world.now mishap (.note text)).2.isOk⟩
    | _ => none
  | _ => none

end World

/-- The phase at the end of a dialogue, if the dialogue keeps to the protocol. -/
def Phase.after (dialogue : List Utterance) : Option Phase :=
  dialogue.foldlM (fun phase utterance ↦ phase.advance utterance.statement utterance.succeeded)
    .closed

namespace Past

def dialogue (past : Past duties) (session : Nat) : List Utterance :=
  (past.reverse.filterMap fun (world, move) ↦ world.utterance? move).filter
    fun utterance ↦ utterance.session == session

def phase? (past : Past duties) (session : Nat) : Option Phase :=
  Phase.after (past.dialogue session)

variable {past : Past duties} {world : World duties} {move : Move} {session : Nat}

theorem phase?_of_none (h : world.utterance? move = none) (session : Nat) :
    phase? ((world, move) :: past) session = past.phase? session := by
  simp [phase?, dialogue, h]

theorem phase?_of_ne {utterance : Utterance} (h : world.utterance? move = some utterance)
    (hne : utterance.session ≠ session) :
    phase? ((world, move) :: past) session = past.phase? session := by
  simp [phase?, dialogue, h, hne]

theorem phase?_of_eq {utterance : Utterance} (h : world.utterance? move = some utterance)
    (heq : utterance.session = session) :
    phase? ((world, move) :: past) session =
      (past.phase? session).bind fun phase ↦
        phase.advance utterance.statement utterance.succeeded := by
  simp [phase?, dialogue, Phase.after, h, heq, List.foldlM_append]

end Past

theorem Point.heldSession?_cases {point : Point α} {session : Nat}
    (h : point.session? = some session) (answer? : Option (point.call duties).Answer) :
    point.heldSession? duties answer? = some session ∨
      point.heldSession? duties answer? = none := by
  cases point with
  | idle | starting | atConnectGate | connecting => cases h
  | atFailureGate | asleep | polling | working | rollingBack | crashed => exact .inl h
  | closing =>
    cases answer? with
    | none => exact .inl h
    | some => exact .inr rfl

namespace Phase

/-- With an answer, the phase of a connection becomes what its holder has heard. -/
theorem phase?_answered {past : Past duties} {world : World duties} {move : Move} {phase next : Phase}
    {call : Call α} {answer : call.Answer} {session : Nat}
    (hutterance : world.utterance? move = call.utterance? (some answer))
    (hconcerns : call.Concerns session) (hphase : past.phase? session = some phase)
    (hhear : phase.hear call answer = some next) :
    Past.phase? ((world, move) :: past) session = some next := by
  cases call with
  | execute other statement =>
    rw [Past.phase?_of_eq hutterance hconcerns, hphase]
    exact hhear
  | pause | connect | deallocate | deliver | close =>
    rw [Past.phase?_of_none hutterance, hphase]
    exact hhear

end Phase

namespace World

variable {world world' : World duties} {past : Past duties} {session : Nat} {phase : Phase}

/-- Whoever holds a connection expects it to be in a phase, wherever it may be next. -/
def Expects (world : World duties) (session : Nat) (phase : Phase) : Prop :=
  ∀ member ∈ world.members, ∀ bounds point, member.Prospect bounds point →
    point.session? = some session → point.Awaits phase

/-- All dialogues keep to the protocol. Their phases agree with the transactions of the connections
that are live, and with what workers expect. On connections to come nothing has been sent. -/
structure Converses (world : World duties) (past : Past duties) : Prop where
  spoken : ∀ session, ∃ phase, past.phase? session = some phase ∧
    (world.server.isLive session = true →
      phase.Matches (world.server.store.transaction session)) ∧ world.Expects session phase
  silent : ∀ session, world.server.connections.length ≤ session →
    past.phase? session = some .closed

/-- If a member is replaced, its connection is expected to be in the phase that it expects. -/
theorem expects_set {number : Nat} {member member' : Member duties}
    (hmember : world.members[number]? = some member)
    (hothers : ∀ (j : Nat) (other : Member duties), j ≠ number → world.members[j]? = some other →
      ∀ bounds point, other.Prospect bounds point → point.session? = some session →
        point.Awaits phase)
    (hmine : ∀ bounds point, member'.Prospect bounds point → point.session? = some session →
      point.Awaits phase) {server : Server} {shared : Shared} :
    Expects { world with server, shared, members := world.members.set number member' } session
      phase := by
  intro other hother
  obtain ⟨j, hj⟩ := List.getElem?_of_mem hother
  rcases getElem?_set_cases hmember member' j other hj with ⟨-, rfl⟩ | ⟨hne, hold⟩
  · exact hmine
  · exact hothers j other hne hold

/-- Nothing is sent, every session is spared and whoever expected a phase still does. -/
theorem Converses.keep {move : Move} (h : world.Converses past)
    (hnone : world.utterance? move = none)
    (hsize : world.server.connections.length ≤ world'.server.connections.length)
    (hspares : ∀ session, world.server.Spares session world'.server)
    (hexpects : ∀ session phase, world.Expects session phase → world'.Expects session phase) :
    world'.Converses ((world, move) :: past) where
  spoken session := by
    obtain ⟨phase, hphase, hmatches, hexpected⟩ := h.spoken session
    refine ⟨phase, (Past.phase?_of_none hnone session).trans hphase, fun hlive ↦ ?_,
      hexpects session phase hexpected⟩
    obtain ⟨hbefore, htransaction, -⟩ := hspares session hlive
    rw [htransaction]
    exact hmatches hbefore
  silent session hsession :=
    (Past.phase?_of_none hnone session).trans (h.silent session (Nat.le_trans hsize hsession))

/-! ## Moves that send nothing -/

/-- A worker that goes on expects its connection as the protocol leaves it. -/
theorem Expects.resume {number : Nat} {member : Member duties} {shared : Shared} {server : Server}
    {answer : (member.worker.call duties).Answer} (h : world.Expects session phase)
    (hmember : world.members[number]? = some member)
    (hready : member.ready world.shared world.moment = some answer) :
    Expects { world with
      server, shared
      members := world.members.set number
        ⟨(member.worker.resume duties world.moment world.shared answer).worker, none,
          member.servedAt, member.attempt⟩ } session phase := by
  have hleads := member.worker.resume_leads duties world.moment world.shared answer
  have hmem := List.mem_of_getElem? hmember
  refine expects_set hmember (fun j other _ hother ↦ h other (List.mem_of_getElem? hother)) ?_
  rintro bounds point ⟨-, rfl⟩ hsession
  rcases Member.prospect_of_ready hready with hprospect | ⟨hprospect, hpause⟩
  · exact h member hmem _ _ (hprospect _ _ hleads) hsession
  · have hbefore : member.worker.point.session? = some session := by
      rw [← hsession, hleads.session?]
      exact (Member.heldSession?_of_pause hpause _).symm
    obtain ⟨next, hhear, hnext⟩ := (h member hmem _ _ hprospect hbefore).answered hbefore answer
    obtain rfl : phase = next :=
      Option.some.inj ((Phase.hear_of_pause hpause phase answer).symm.trans hhear)
    exact hnext _ _ _ hleads

theorem Expects.start (h : world.Expects session phase) (tasks : List Nat) (crew : Crew) :
    Expects { world with crew, members := (tasks.foldl spawn world).members } session phase := by
  intro member hmember
  obtain ⟨j, hj⟩ := List.getElem?_of_mem hmember
  have hspawn := getElem?_foldl_spawn world tasks j
  rw [show (tasks.foldl spawn world).members[j]? = some member from hj] at hspawn
  obtain ⟨before, hbefore, rfl⟩ := Option.map_eq_some_iff.1 hspawn.symm
  split
  · rintro bounds point ⟨-, rfl⟩ hsession
    cases hsession
  · exact h before (List.mem_of_getElem? hbefore)

/-- A silent move keeps the dialogues. -/
theorem Converses.of_silent {move : Move} (h : world.Converses past) (hsilent : move.isSilent)
    (hsteps : Steps world move world') : world'.Converses ((world, move) :: past) := by
  have hnone : world.utterance? move = none := by
    cases move with
    | answer | write => cases hsilent
    | pass | produce | drop | resume | start | stop | await | endAwait | release => rfl
  cases hsteps with
  | unanswered | answered | wrote => cases hsilent
  | refused | waiting =>
    exact h.keep hnone (Nat.le_refl _) (fun _ ↦ Server.Spares.refl _ _) fun _ _ ↦ id
  | passed | stopped | awaited | reclaimed | forgotten | released =>
    exact h.keep hnone (Nat.le_refl _) (fun _ ↦ Server.Spares.refl _ _) fun _ _ ↦ id
  | produced row visibleFrom =>
    exact h.keep hnone (Nat.le_refl _)
      (fun session ↦ world.server.spares_produce session row visibleFrom) fun _ _ ↦ id
  | @dropped session =>
    have hconfined := @Server.confined_disconnect world.server session .dropped (by decide)
    exact h.keep hnone (Nat.le_of_eq hconfined.size.symm)
      (Server.spares_disconnect (by decide)) fun _ _ ↦ id
  | resumed hmember hready hturn =>
    subst hturn
    exact h.keep hnone (Nat.le_of_eq (Server.length_bury _ _).symm) (Server.spares_bury _ _)
      fun _ _ hexpects ↦ hexpects.resume hmember hready
  | started =>
    exact h.keep hnone (Nat.le_refl _) (fun _ ↦ Server.Spares.refl _ _)
      fun _ _ hexpects ↦ hexpects.start _ _

/-! ## Statements -/

/-- Something is sent on one connection or its state changes otherwise: if the holder of the
connection goes on to expect the phase that comes about, all the others are as before. -/
theorem Converses.speak {move : Move} {number : Nat} {member member' : Member duties}
    {server : Server} {shared : Shared} (h : world.Converses past) (hsound : world.Sound)
    (hmember : world.members[number]? = some member) (hsession : member.session? = some session)
    (hconfined : Server.Confined session world.server server)
    (hutterance : ∀ utterance, world.utterance? move = some utterance → utterance.session = session)
    (hheld : ∀ bounds point, member'.Prospect bounds point → point.session? = some session ∨
      point.session? = none)
    (hmine : ∀ phase, past.phase? session = some phase →
      (world.server.isLive session = true →
        phase.Matches (world.server.store.transaction session)) →
      (∀ bounds point, member.Prospect bounds point → point.Awaits phase) →
      ∃ next, Past.phase? ((world, move) :: past) session = some next ∧
        (server.isLive session = true → next.Matches (server.store.transaction session)) ∧
        ∀ bounds point, member'.Prospect bounds point → point.Awaits next) :
    Converses { world with server, shared, members := world.members.set number member' }
      ((world, move) :: past) := by
  have hother (other : Nat) (hne : other ≠ session) :
      Past.phase? ((world, move) :: past) other = past.phase? other := by
    cases hmove : world.utterance? move with
    | none => exact Past.phase?_of_none hmove other
    | some utterance =>
      exact Past.phase?_of_ne hmove fun heq ↦ hne (heq.symm.trans (hutterance _ hmove))
  refine ⟨fun other ↦ ?_, fun other hfresh ↦ ?_⟩
  · obtain ⟨phase, hphase, hmatches, hexpects⟩ := h.spoken other
    by_cases hne : other = session
    · subst hne
      obtain ⟨next, hnext, hmatches', hawaits⟩ := hmine phase hphase hmatches
        fun bounds point hprospect ↦ hexpects member (List.mem_of_getElem? hmember) bounds point
          hprospect (hprospect.session?.trans hsession)
      refine ⟨next, hnext, hmatches', expects_set hmember ?_ fun bounds point hprospect _ ↦
        hawaits bounds point hprospect⟩
      intro j stranger hj hstranger bounds point hprospect hpoint
      exact absurd (hsound.apart j number stranger member other hstranger hmember
        (hprospect.session?.symm.trans hpoint) hsession) hj
    · refine ⟨phase, (hother other hne).trans hphase, fun hlive ↦ ?_, expects_set hmember ?_ ?_⟩
      · obtain ⟨hbefore, htransaction, -⟩ := hconfined.spares hsound.server other hne hlive
        rw [htransaction]
        exact hmatches hbefore
      · exact fun j stranger _ hstranger ↦ hexpects stranger (List.mem_of_getElem? hstranger)
      · intro bounds point hprospect hpoint
        rcases hheld bounds point hprospect with hsame | hnone
        · exact absurd (Option.some.inj (hpoint.symm.trans hsame)) hne
        · cases hnone.symm.trans hpoint
  · have hlt := hsound.known member (List.mem_of_getElem? hmember) session hsession
    have hfresh : world.server.connections.length ≤ other := hconfined.size ▸ hfresh
    rw [hother other (Nat.ne_of_gt (Nat.lt_of_lt_of_le hlt hfresh))]
    exact h.silent other hfresh

theorem utterance?_answer {number : Nat} {worker : Worker α} {servedAt : Instant} {attempt : Attempt}
    (hmember : world.members[number]? = some ⟨worker, none, servedAt, attempt⟩) (chance : Chance) :
    world.utterance? (.answer number chance) =
      (worker.call duties).utterance?
        (world.server.answer world.now chance (worker.call duties)).2 := by
  simp only [utterance?, hmember]

/-- A worker that holds a connection is answered. -/
theorem Converses.answer_connected {number : Nat} {worker : Worker α} {servedAt : Instant}
    {attempt : Attempt} (h : world.Converses past) (hsound : world.Sound)
    (hmember : world.members[number]? = some ⟨worker, none, servedAt, attempt⟩)
    (hsession : worker.point.session? = some session) (chance : Chance) :
    (world.answer number chance).Converses ((world, .answer number chance) :: past) := by
  have hutterance := utterance?_answer hmember chance
  have hconcerns : (worker.call duties).Concerns session := Point.call_concerns hsession
  have hheld : (⟨worker, none, servedAt, attempt⟩ : Member duties).session? = some session :=
    (Member.heldSession?_none worker.point).trans hsession
  rw [answer_eq hmember]
  refine h.speak hsound hmember hheld (Server.confined_answer hconcerns) ?_ ?_ ?_
  · intro utterance hsome
    rw [hutterance] at hsome
    exact Call.session_of_utterance? hconcerns hsome
  · exact fun bounds point hprospect ↦ hprospect.session? ▸ Point.heldSession?_cases hsession _
  · intro phase hphase hmatches hawaits
    have hbefore := hawaits _ _ ⟨rfl, rfl⟩
    generalize hanswer : world.server.answer world.now chance (worker.call duties) = result
      at hutterance ⊢
    obtain ⟨server', _ | answer⟩ := result
    · obtain ⟨hpause, rfl⟩ := Server.pause_of_answer_none hanswer
      refine ⟨phase, ?_, hmatches, fun bounds point hprospect ↦ hprospect.2 ▸ hbefore⟩
      rw [Past.phase?_of_none (hutterance.trans (Call.utterance?_none _)), hphase]
    · obtain ⟨next, hhear, hnext⟩ := hbefore.answered hsession answer
      exact ⟨next, Phase.phase?_answered hutterance hconcerns hphase hhear,
        Phase.Matches.answered hconcerns hmatches hanswer hhear, fun bounds point hleads ↦
          hnext _ _ _ hleads⟩

/-- An answer that leaves the server as it is to a worker that holds no connection then. -/
theorem Converses.answer_without {number : Nat} {member member' : Member duties} {move : Move}
    (h : world.Converses past) (hmember : world.members[number]? = some member)
    (hnone : world.utterance? move = none) (hsession : member'.session? = none) :
    Converses { world with members := world.members.set number member' }
      ((world, move) :: past) := by
  refine h.keep hnone (Nat.le_refl _) (fun _ ↦ Server.Spares.refl _ _) fun session phase hexpects ↦ ?_
  refine expects_set hmember (fun j other _ hother ↦ hexpects other (List.mem_of_getElem? hother)) ?_
  intro bounds point hprospect hpoint
  cases (hprospect.session?.trans hsession).symm.trans hpoint

/-- A worker gets a connection, on which nothing has been sent yet. -/
theorem Converses.connect {number : Nat} {member member' : Member duties} {move : Move}
    (h : world.Converses past) (hsound : world.Sound)
    (hmember : world.members[number]? = some member) (hnone : world.utterance? move = none)
    (hrests : ∀ bounds point, member'.Prospect bounds point →
      point.IsResting world.server.connect.2) :
    Converses { world with
      server := world.server.connect.1, members := world.members.set number member' }
      ((world, move) :: past) := by
  have hphase (session : Nat) :
      Past.phase? ((world, move) :: past) session = past.phase? session :=
    Past.phase?_of_none hnone session
  refine ⟨fun session ↦ ?_, fun session hfresh ↦ ?_⟩
  · by_cases hnew : session = world.server.connect.2
    · subst hnew
      refine ⟨.closed, (hphase _).trans (h.silent _ (Nat.le_refl _)),
        fun _ ↦ hsound.server.quiet _ hsound.server.isLive_next, expects_set hmember ?_ ?_⟩
      · intro j other _ hother bounds point hprospect hpoint
        exact absurd (hsound.known other (List.mem_of_getElem? hother) _
          (hprospect.session?.symm.trans hpoint)) (Nat.lt_irrefl _)
      · exact fun bounds point hprospect _ ↦ (hrests bounds point hprospect).awaits
    · obtain ⟨phase, hbefore, hmatches, hexpects⟩ := h.spoken session
      refine ⟨phase, (hphase _).trans hbefore, fun hlive ↦ ?_, expects_set hmember ?_ ?_⟩
      · exact hmatches (Server.spares_connect hsound.server hnew hlive).1
      · exact fun j other _ hother ↦ hexpects other (List.mem_of_getElem? hother)
      · intro bounds point hprospect hpoint
        exact absurd (Option.some.inj (hpoint.symm.trans (hrests bounds point hprospect).session?))
          hnew
  · have hsize : world.server.connect.1.connections.length = world.server.connections.length + 1 := by
      simp [Server.connect]
    have hfresh : world.server.connections.length + 1 ≤ session := hsize ▸ hfresh
    exact (hphase _).trans (h.silent session (Nat.le_of_succ_le hfresh))

/-- An answer goes on with a dialogue as the protocol says. -/
theorem Converses.answer {number : Nat} {worker : Worker α} {servedAt : Instant} {attempt : Attempt}
    (h : world.Converses past) (hsound : world.Sound)
    (hmember : world.members[number]? = some ⟨worker, none, servedAt, attempt⟩) (chance : Chance) :
    (world.answer number chance).Converses ((world, .answer number chance) :: past) := by
  cases hsession : worker.point.session? with
  | some session => exact h.answer_connected hsound hmember hsession chance
  | none =>
    have hutterance := utterance?_answer hmember chance
    rw [answer_eq hmember]
    obtain ⟨name, bounds, countdown, point⟩ := worker
    cases point with
    | idle | starting | atConnectGate => exact h.answer_without hmember hutterance rfl
    | connecting begun =>
      cases hrefusal : chance.refusal with
      | some error =>
        have hanswer : world.server.answer world.now chance (.connect : Call α) =
            (world.server, some (.error error)) := by simp only [Server.answer, hrefusal]
        simp only [Worker.call, Point.call, hanswer] at hutterance ⊢
        exact h.answer_without hmember hutterance rfl
      | none =>
        have hanswer : world.server.answer world.now chance (.connect : Call α) =
            (world.server.connect.1, some (.ok world.server.connect.2)) := by
          simp only [Server.answer, hrefusal]
        simp only [Worker.call, Point.call, hanswer] at hutterance ⊢
        exact h.connect hsound hmember hutterance fun bounds' point hleads ↦ hleads.2
    | atFailureGate | asleep | polling | working | rollingBack | closing | crashed => cases hsession

/-- A handler writes on the connection of its worker. -/
theorem Converses.write {number session : Nat} {job : Job α} {worker : Worker α} {servedAt : Instant}
    {attempt : Attempt} {text : String} {mishap : Option Mishap} (h : world.Converses past)
    (hsound : world.Sound) (hpoint : worker.point = .working session job .delivering)
    (hmember : world.members[number]? = some ⟨worker, none, servedAt, attempt⟩) :
    Converses { world with
      server := (world.server.exchange session world.now mishap (.note text)).1 }
      ((world, .write number text mishap) :: past) := by
  have hutterance : world.utterance? (.write number text mishap) = some ⟨session, .note text,
      (world.server.exchange session world.now mishap (.note text)).2.isOk⟩ := by
    obtain ⟨name, bounds, countdown, point⟩ := worker
    obtain rfl : point = .working session job .delivering := hpoint
    simp only [utterance?, hmember]
  have hself : world.members.set number ⟨worker, none, servedAt, attempt⟩ = world.members := by
    obtain ⟨hlt, hget⟩ := List.getElem?_eq_some_iff.1 hmember
    rw [← hget, List.set_getElem_self]
  have hsession : worker.point.session? = some session := by
    rw [hpoint]
    rfl
  have hspoken : Converses { world with
      server := (world.server.exchange session world.now mishap (.note text)).1
      members := world.members.set number ⟨worker, none, servedAt, attempt⟩ }
      ((world, .write number text mishap) :: past) := h.speak hsound hmember
    ((Member.heldSession?_none worker.point).trans hsession)
    (@Server.confined_exchange world.server session world.now mishap (.note text))
    (fun utterance hsome ↦ Option.some.inj (hutterance.symm.trans hsome) ▸ rfl)
    (fun bounds point hprospect ↦ .inl (hprospect.2 ▸ hsession)) ?_
  · rw [hself] at hspoken
    exact hspoken
  · intro phase hphase hmatches hawaits
    have hbefore := hawaits _ _ ⟨rfl, rfl⟩
    rw [hpoint] at hbefore
    obtain rfl : phase = .saved := hbefore
    have hadvance (succeeded : Bool) :
        Phase.saved.advance (.note text) succeeded = some .saved := by cases succeeded <;> rfl
    refine ⟨.saved, ?_, Phase.Matches.exchange hmatches (hadvance _), hawaits⟩
    rw [Past.phase?_of_eq hutterance rfl, hphase]
    exact hadvance _

/-- Every move keeps to the protocol. -/
theorem Converses.step (h : world.Converses past) (hsound : world.Sound) (move : Move) :
    (world.step move).Converses ((world, move) :: past) := by
  have hstill (hnone : world.utterance? move = none) : world.Converses ((world, move) :: past) :=
    h.keep hnone (Nat.le_refl _) (fun _ ↦ Server.Spares.refl _ _) fun _ _ ↦ id
  cases move with
  | answer number chance =>
    cases hmember : world.members[number]? with
    | none =>
      simp only [World.step, World.answer, hmember]
      exact hstill (by simp only [utterance?, hmember])
    | some member =>
      obtain ⟨worker, _ | reply, servedAt, attempt⟩ := member
      · exact h.answer hsound hmember chance
      · simp only [World.step, World.answer, hmember]
        exact hstill (by simp only [utterance?, hmember])
  | write number text mishap =>
    simp only [World.step, World.write]
    split
    · next hmember => exact h.write hsound rfl hmember
    · next hnobody => exact hstill (by simp only [utterance?])
  | pass | produce | drop | resume | start | stop | await | endAwait | release =>
    exact h.of_silent rfl (world.steps _)

theorem converses_initial (duties : Duties α) (workers : Nat) (shared : Shared) (now : Instant) :
    (World.initial duties workers shared now).Converses [] where
  spoken session := by
    refine ⟨.closed, rfl, fun _ ↦ rfl, fun member hmember bounds point hprospect hsession ↦ ?_⟩
    obtain ⟨number, -, rfl⟩ := List.mem_map.1 hmember
    rw [hprospect.2] at hsession
    cases hsession
  silent _ _ := rfl

/-- All dialogues keep to the protocol throughout a run. -/
theorem converses_of_run {workers : Nat} {shared : Shared} {now : Instant}
    {allowed : World duties → Move → Prop}
    (run : Run allowed (World.initial duties workers shared now) past world) :
    world.Converses past := by
  induction run with
  | rest => exact converses_initial duties workers shared now
  | move run _ ih => exact ih.step (Sound.of_run run) _

/-! ## Workers at rest -/

/-- No connection comes back. -/
theorem isLive_of_steps {move : Move} (hsound : world.Sound) (hsteps : Steps world move world')
    (hknown : session < world.server.connections.length)
    (hlive : world'.server.isLive session = true) : world.server.isLive session = true := by
  cases hsteps with
  | refused | unanswered | waiting | passed | stopped | awaited | reclaimed | forgotten | released
    | produced | started => exact hlive
  | dropped => exact (Server.spares_disconnect (by decide) session hlive).1
  | @answered number worker servedAt attempt chance hmember =>
    cases hheld : worker.point.session? with
    | some other =>
      exact (Server.confined_answer (Point.call_concerns hheld)).isLive_of_isLive hsound.server hlive
    | none =>
      have hanswers := @Server.answers α duties world.server world.now chance worker.point
      exact (hanswers.spares hsound.server session hknown (by simp [hheld]) hlive).1
  | wrote => exact Server.confined_exchange.isLive_of_isLive hsound.server hlive
  | resumed => exact (Server.spares_bury _ _ session hlive).1

/-- What is left of a worker that has died, and what a worker has that waits for time to pass. -/
structure Tidy (world : World duties) : Prop where
  /-- The connection of a worker that has died is gone. -/
  buried : ∀ member ∈ world.members, ∀ session text,
    member.worker.point = .crashed session text → world.server.isLive session = false
  /-- Nothing answers a worker that waits for time to pass. -/
  unanswered : ∀ member ∈ world.members, member.worker.call duties = .pause → member.answer? = none

theorem session?_of_crashed {member : Member duties} {text : String}
    (h : member.worker.point = .crashed session text) : member.session? = some session := by
  obtain ⟨⟨name, bounds, countdown, point⟩, answer?, servedAt, attempt⟩ := member
  obtain rfl : point = .crashed session text := h
  rfl

theorem answer_of_pause {call : Call α} (h : call = .pause) (server : Server) (now : Instant)
    (chance : Chance) : (server.answer now chance call).2 = none := by
  subst h
  rfl

theorem Tidy.of_steps {move : Move} (h : world.Tidy) (hsound : world.Sound)
    (hsteps : Steps world move world') : world'.Tidy := by
  have hkept (member : Member duties) (hmember : member ∈ world.members) (session : Nat)
      (text : String) (hcrashed : member.worker.point = .crashed session text) :
      world'.server.isLive session = false := by
    have hgone := h.buried member hmember session text hcrashed
    have hknown := hsound.known member hmember session (session?_of_crashed hcrashed)
    cases hlive : world'.server.isLive session with
    | false => rfl
    | true => exact (isLive_of_steps hsound hsteps hknown hlive).symm.trans hgone
  cases hsteps with
  | refused | unanswered | waiting | passed | stopped | awaited | reclaimed | forgotten | released
    | produced | dropped | wrote => exact ⟨hkept, h.unanswered⟩
  | answered chance hanswered =>
    refine ⟨fun member hmember session text hcrashed ↦ ?_, fun member hmember hpause ↦ ?_⟩ <;>
      obtain ⟨j, hj⟩ := List.getElem?_of_mem hmember <;>
      rcases getElem?_set_cases hanswered _ j member hj with ⟨-, rfl⟩ | ⟨-, hold⟩
    · exact hkept _ (List.mem_of_getElem? hanswered) session text hcrashed
    · exact hkept member (List.mem_of_getElem? hold) session text hcrashed
    · exact answer_of_pause hpause _ _ _
    · exact h.unanswered member (List.mem_of_getElem? hold) hpause
  | resumed hresumed hready hturn =>
    refine ⟨fun member hmember session text hcrashed ↦ ?_, fun member hmember hpause ↦ ?_⟩ <;>
      obtain ⟨j, hj⟩ := List.getElem?_of_mem hmember <;>
      rcases getElem?_set_cases hresumed _ j member hj with ⟨-, rfl⟩ | ⟨-, hold⟩
    · dsimp only at hcrashed ⊢
      rw [hcrashed]
      exact Server.isLive_disconnect_self (by decide)
    · exact hkept member (List.mem_of_getElem? hold) session text hcrashed
    · rfl
    · exact h.unanswered member (List.mem_of_getElem? hold) hpause
  | @started tasks =>
    have hbefore {member : Member duties} (hmember : member ∈ (tasks.foldl spawn world).members) :
        (∃ old : Member duties, member = old.spawn) ∨ member ∈ world.members := by
      obtain ⟨j, hj⟩ := List.getElem?_of_mem hmember
      rw [getElem?_foldl_spawn] at hj
      obtain ⟨old, hold, rfl⟩ := Option.map_eq_some_iff.1 hj
      split
      · exact .inl ⟨old, rfl⟩
      · exact .inr (List.mem_of_getElem? hold)
    refine ⟨fun member hmember session text hcrashed ↦ ?_, fun member hmember hpause ↦ ?_⟩ <;>
      rcases hbefore hmember with ⟨old, rfl⟩ | hold
    · cases hcrashed
    · exact hkept member hold session text hcrashed
    · rfl
    · exact h.unanswered member hold hpause

/-- Nothing is left behind throughout a run. -/
theorem tidy_of_run {workers : Nat} {shared : Shared} {now : Instant}
    {allowed : World duties → Move → Prop}
    (run : Run allowed (World.initial duties workers shared now) past world) : world.Tidy := by
  induction run with
  | rest =>
    refine ⟨fun member hmember session text hcrashed ↦ ?_, fun member hmember _ ↦ ?_⟩ <;>
      obtain ⟨number, -, rfl⟩ := List.mem_map.1 hmember
    · cases hcrashed
    · rfl
  | move run _ ih => exact ih.of_steps (Sound.of_run run) (World.steps _ _)

/-- A worker at rest has no transaction. -/
theorem Sound.idle_of_isAtRest (hsound : world.Sound) (htidy : world.Tidy) {member : Member duties}
    (hmember : member ∈ world.members) (hrest : member.worker.point.isAtRest)
    (hsession : member.session? = some session) :
    world.server.store.transaction session = .idle := by
  cases hlive : world.server.isLive session with
  | false => exact hsound.server.quiet session hlive
  | true =>
    have hburied := htidy.buried member hmember
    have hunanswered := htidy.unanswered member hmember
    have hfits := hsound.fits member hmember
    obtain ⟨⟨name, bounds, countdown, point⟩, answer?, servedAt, attempt⟩ := member
    cases point with
    | idle | atConnectGate => cases hsession
    | starting | connecting | polling | working | rollingBack | closing => cases hrest
    | crashed other text =>
      obtain rfl : other = session := Option.some.inj hsession
      exact absurd ((hburied other text rfl).symm.trans hlive) Bool.false_ne_true
    | atFailureGate other | asleep other =>
      obtain rfl : other = session := Option.some.inj hsession
      obtain rfl : answer? = none := hunanswered rfl
      exact hfits _ _ ⟨rfl, rfl⟩ fun held hheld ↦ Option.some.inj hheld ▸ hlive

/-! ## Discipline -/

/-- The order that transactions are kept in. -/
structure Disciplined (world : World duties) (past : Past duties) : Prop where
  /-- A statement that a worker waits for befits the transaction of its connection as long as that is
  live. The rollback of a job that cannot be gone on with is sent in any case. -/
  sends : ∀ member ∈ world.members, member.answer? = none → ∀ session statement,
    member.worker.call duties = .execute session statement → world.server.isLive session = true →
    statement.Befits (world.server.store.transaction session) ∨
      ∃ fault, member.worker.point = .rollingBack session fault
  /-- What was sent on a connection keeps to the protocol, whether it has arrived or not, and as long
  as the connection is live the transaction is what the protocol makes it. -/
  dialogues : ∀ session, ∃ phase, past.phase? session = some phase ∧
    (world.server.isLive session = true → phase.Matches (world.server.store.transaction session))
  /-- No worker holds a transaction while it waits for time to pass or after its run has ended. -/
  rests : ∀ member ∈ world.members, member.worker.point.isAtRest → ∀ session,
    member.session? = some session → world.server.store.transaction session = .idle
  /-- An open transaction is held by a worker that is busy. -/
  held : ∀ session, world.server.store.transaction session ≠ .idle →
    ∃ member ∈ world.members, member.session? = some session ∧
      member.worker.point.isAtRest = false

theorem Converses.sends (h : world.Converses past) {member : Member duties} {statement : Statement}
    (hmember : member ∈ world.members) (hanswer : member.answer? = none)
    (hcall : member.worker.call duties = .execute session statement)
    (hlive : world.server.isLive session = true) :
    statement.Befits (world.server.store.transaction session) ∨
      ∃ fault, member.worker.point = .rollingBack session fault := by
  obtain ⟨⟨name, bounds, countdown, point⟩, answer?, servedAt, attempt⟩ := member
  obtain rfl : answer? = none := hanswer
  obtain ⟨phase, -, hmatches, hexpects⟩ := h.spoken session
  have hsession := Point.session?_of_call hcall
  have hawaits : point.Awaits phase := hexpects _ hmember _ _ ⟨rfl, rfl⟩ hsession
  obtain ⟨next, hnext⟩ := hawaits.afterSuccess hcall
  have hbefits := (hmatches hlive).befits hnext
  cases point with
  | idle | starting | atConnectGate | connecting | atFailureGate | asleep | closing | crashed =>
    cases hcall
  | polling other cycle stage =>
    obtain rfl : phase = stage.phase := hawaits
    exact .inl (hbefits (by cases stage <;> exact nofun))
  | working other job stage =>
    obtain rfl : phase = stage.phase := hawaits
    exact .inl (hbefits (by cases stage <;> exact nofun))
  | rollingBack other fault =>
    obtain rfl : other = session := Option.some.inj hsession
    exact .inr ⟨fault, rfl⟩

/-- Transactions are kept in order, whatever happens: on every connection a transaction is begun only
when none is open, statements are sent only between its beginning and its end, the savepoint is used
only while there is one, and nobody waits or ends with a transaction. -/
theorem disciplined_of_run {workers : Nat} {shared : Shared} {now : Instant}
    (run : Run Anything (World.initial duties workers shared now) past world) :
    world.Disciplined past where
  sends _ hmember hanswer _ _ hcall hlive :=
    (converses_of_run run).sends hmember hanswer hcall hlive
  dialogues session := by
    obtain ⟨phase, hphase, hmatches, -⟩ := (converses_of_run run).spoken session
    exact ⟨phase, hphase, hmatches⟩
  rests _ hmember hrest _ hsession :=
    (Sound.of_run run).idle_of_isAtRest (tidy_of_run run) hmember hrest hsession
  held session hopen := by
    have hsound := Sound.of_run run
    have hlive : world.server.isLive session = true := by
      by_contra hgone
      exact hopen (hsound.server.quiet session (Bool.of_not_eq_true hgone))
    obtain ⟨member, hmember, hheld⟩ := hsound.held session hlive
    refine ⟨member, hmember, hheld, ?_⟩
    by_contra hrest
    exact hopen (hsound.idle_of_isAtRest (tidy_of_run run) hmember (Bool.of_not_eq_false hrest) hheld)

end World

/-- A job fails for good, and the server refuses to archive it. -/
def Sample.unarchivedRun : Past (Sample.duties none) × World (Sample.duties none) :=
  (World.initial (Sample.duties none) 1 Sample.shared ⟨0⟩).play
    ([.produce (Sample.row 0 [.whole 1]) ⟨0⟩, .start, .resume 0] ++
      Sample.rounds 0 (Sample.smooth 5 ++ [Sample.rejecting (.fatal ["no"] false)] ++
        Sample.smooth 3 ++ [Sample.refusing] ++ Sample.smooth 1))

/-- The transaction that was to archive the job is rolled back, and nothing is in order after that. -/
theorem disciplined_of_unarchivedRun :
    ((Sample.unarchivedRun.1.dialogue 0).map fun utterance ↦
        (utterance.statement.name, utterance.succeeded)) =
      [("BEGIN", true), ("queue timestamp", true), ("claim", true),
        ("SAVEPOINT pgqueue_job", true), ("ROLLBACK TO SAVEPOINT pgqueue_job", true),
        ("COMMIT", true), ("BEGIN", true), ("failed", false), ("ROLLBACK", true)] ∧
      Sample.unarchivedRun.1.phase? 0 = some .undone ∧
      Sample.unarchivedRun.2.Disciplined Sample.unarchivedRun.1 := by
  exact ⟨by decide +kernel, by decide +kernel, World.disciplined_of_run (Run.play _ _)⟩

end TableQueue
