import TableQueue.Proofs.Deliveries.Stages

/-!
# What a delivery does to the tables

A delivery begins when a row is claimed and ends when the worker that claimed it turns to something
else. If every statement of the worker succeeds, then the tables are what they were before the
claim, except that the row is gone, put back, put off or archived, as the handler's reception and
the number of tries have it; what the handler wrote is kept with an accepted job only. If a
statement fails, the tables are as before, or the row of a job that was to be archived is gone.
There is no deduplication here, and nobody else changes the tables in the meantime; whatever else
others do is left open.
-/

namespace TableQueue

variable {α : Type} {duties : Duties α} {claimed : Claimed} {journal : Journal}
  {server server' : Server} {job : Job α} {now : Instant} {chance : Chance}
  {bounds bounds' : Bounds} {point : Point α}

/-! ## Whole deliveries -/

def Point.IsPastClaim (session : Nat) : Point α → Prop
  | working other _ _ | rollingBack other _ => other = session
  | _ => False

namespace Point

theorem IsPastClaim.call_ne_pause {session : Nat} (h : point.IsPastClaim session) :
    point.call duties ≠ .pause := by
  cases point with
  | working session job stage => cases stage <;> exact fun hpause ↦ nomatch hpause
  | rollingBack => exact fun hpause ↦ nomatch hpause
  | idle | starting | atConnectGate | connecting | atFailureGate | asleep | polling | closing
    | crashed => exact h.elim

theorem IsPastClaim.isDelivering {session : Nat} (h : point.IsPastClaim session)
    (answer? : Option (point.call duties).Answer) : point.isDelivering duties answer? = true := by
  cases point with
  | working | rollingBack => rfl
  | idle | starting | atConnectGate | connecting | atFailureGate | asleep | polling | closing
    | crashed => exact h.elim

theorem IsPastClaim.heldSession? {session : Nat} (h : point.IsPastClaim session)
    (answer? : Option (point.call duties).Answer) :
    point.heldSession? duties answer? = some session := by
  cases point with
  | working | rollingBack => exact congrArg some h
  | idle | starting | atConnectGate | connecting | atFailureGate | asleep | polling | closing
    | crashed => exact h.elim

/-- An answer takes the delivery of a claimed row on, whatever it is. -/
theorem Handles.answered (h : point.Handles duties claimed journal server)
    (hpast : point.IsPastClaim claimed.session) (halone : duties.deduplicator = none)
    (hcodec : duties.codec.RoundTrips) (hserver : server.Sound)
    {answer : (point.call duties).Answer} {point' : Point α}
    (hanswer : server.answer now chance (point.call duties) = (server', some answer))
    (hleads : point.Leads duties bounds answer bounds' point') :
    point'.Handles duties claimed (journal.answered now (point.call duties) (some answer))
      server' := by
  cases point with
  | working session job stage =>
    obtain ⟨rfl, hstage⟩ := h
    exact hstage.handles halone hcodec hserver hanswer hleads
  | rollingBack session fault =>
    obtain rfl := h.1
    exact h.rolledBack hanswer hleads
  | idle | starting | atConnectGate | connecting | atFailureGate | asleep | polling | closing
    | crashed => exact hpast.elim

end Point

namespace World

/-- Either the handler has a job and its statement reaches the server, or nothing is written. -/
theorem write_cases (world : World duties) (number : Nat) (text : String) (mishap : Option Mishap)
    (journal : Journal) :
    (∃ name bounds countdown session job servedAt attempt, world.members[number]? = some
        ⟨⟨name, bounds, countdown, .working session job .delivering⟩, none, servedAt, attempt⟩ ∧
      world.write number text mishap =
        world.withServer (world.server.exchange session world.now mishap (.note text)).1 ∧
      world.journal number journal (.write number text mishap) =
        { journal with written := journal.written ++ [text] }) ∨
    world.write number text mishap = world ∧
      world.journal number journal (.write number text mishap) = journal := by
  unfold World.write
  split
  · next name bounds countdown session job servedAt attempt hwriter =>
    have hjournal : world.journal number journal (.write number text mishap) =
        { journal with written := journal.written ++ [text] } := by
      simp only [World.journal, isHandling, hwriter, and_self, if_true]
    exact .inl ⟨_, _, _, _, _, _, _, hwriter, rfl, hjournal⟩
  · next hidle =>
    have hnot : world.isHandling number = false := by
      unfold isHandling
      split
      · next hwriter => exact absurd hwriter (hidle _ _ _ _ _ _ _)
      · rfl
    exact .inr ⟨rfl, by simp [World.journal, hnot]⟩

/-- A worker and the tables are where the delivery of a claimed row may bring them. -/
inductive Handles (claimed : Claimed) (number : Nat) (journal : Journal) (world : World duties) :
    Prop where
  /-- The claim has just been answered. -/
  | claims {name : String} {bounds : Bounds} {countdown : Int} {cycle : Cycle} {queue : String}
      {rest : List String} {notBefore begun servedAt : Instant} {attempt : Attempt} :
      world.members[number]? = some
        ⟨⟨name, bounds, countdown,
          .polling claimed.session cycle (.claiming queue rest notBefore begun)⟩,
          some (.ok (some claimed.entry.row)), servedAt, attempt⟩ →
      journal = .blank → world.tables = claimed.tables →
      (world.server.isLive claimed.session = true →
        world.server.store.transaction claimed.session = .active (claimed.changes []) none) →
      Handles claimed number journal world
  | delivers {member : Member duties} : world.members[number]? = some member →
      member.worker.point.IsPastClaim claimed.session →
      (∀ bounds point, member.Prospect bounds point →
        point.Handles duties claimed journal world.server) →
      Handles claimed number journal world
  | ended : world.isDelivering number = false → Ends duties claimed journal world.tables →
      Handles claimed number journal world

namespace Handles

variable {world : World duties} {number : Nat} {member : Member duties} {move : Move}

/-- A worker whose call is open is at its point. -/
theorem of_point {worker : Worker α} {servedAt : Instant} {attempt : Attempt}
    (hmember : world.members[number]? = some ⟨worker, none, servedAt, attempt⟩)
    (hpoint : worker.point.Handles duties claimed journal world.server) :
    world.Handles claimed number journal := by
  obtain ⟨name, bounds, countdown, point⟩ := worker
  have hover (h : point.isDelivering duties none = false) :
      world.isDelivering number = false := by
    simp only [isDelivering, hmember]
    exact h
  cases point with
  | working | rollingBack =>
    refine .delivers hmember hpoint.1 ?_
    rintro _ _ ⟨-, rfl⟩
    exact hpoint
  | polling session cycle stage =>
    refine .ended (hover ?_) hpoint
    cases stage <;> rfl
  | idle | starting | atConnectGate | connecting | atFailureGate | asleep | closing | crashed =>
    exact .ended (hover rfl) hpoint

/-- The moves of others are not taken down. -/
theorem journal_of_actor (hactor : move.actor? ≠ some number) :
    world.journal number journal move = journal := by
  cases move with
  | answer other chance =>
    have hother : other ≠ number := fun hsame ↦ hactor (congrArg some hsame)
    simp only [World.journal, if_neg hother]
    split <;> rfl
  | write other text mishap =>
    have hother : other ≠ number := fun hsame ↦ hactor (congrArg some hsame)
    simp [World.journal, hother]
  | pass | produce | drop | resume | start | stop | await | endAwait | release => rfl

/-- What others do leaves a delivery where it is, as long as the tables stay the same. -/
theorem others (h : world.Handles claimed number journal) (hsound : world.Sound)
    (hdelivers : world.isDelivering number = true) (hactor : move.actor? ≠ some number)
    (htables : (world.step move).tables = world.tables) :
    (world.step move).Handles claimed number journal := by
  cases h with
  | claims hmember hblank hbefore hactive =>
    obtain ⟨hmember', hspares⟩ := hsound.frame hmember rfl hactor
    refine .claims hmember' hblank (htables.trans hbefore) fun hlive ↦ ?_
    obtain ⟨hlive', htransaction, -⟩ := hspares hlive
    exact htransaction.trans (hactive hlive')
  | delivers hmember hpast hpoint =>
    obtain ⟨hmember', hspares⟩ := hsound.frame hmember (hpast.heldSession? _) hactor
    exact .delivers hmember' hpast fun bounds point hprospect ↦
      (hpoint bounds point hprospect).spared htables hspares
  | ended hover => exact absurd (hover.symm.trans hdelivers) (by decide)

/-- The call of the worker is answered. -/
theorem answer (h : world.Handles claimed number journal) (halone : duties.deduplicator = none)
    (hcodec : duties.codec.RoundTrips) (hsound : world.Sound)
    (hdelivers : world.isDelivering number = true) (chance : Chance) :
    (world.answer number chance).Handles claimed number
      (world.journal number journal (.answer number chance)) := by
  have hanswered {worker : Worker α} {answer : (worker.call duties).Answer} {servedAt : Instant}
      {attempt : Attempt}
      (hmember : world.members[number]? = some ⟨worker, some answer, servedAt, attempt⟩) :
      world.answer number chance = world ∧
        world.journal number journal (.answer number chance) = journal := by
    simp only [World.answer, World.journal, hmember, and_self]
  cases h with
  | ended hover => exact absurd (hover.symm.trans hdelivers) (by decide)
  | claims hmember hblank hbefore hactive =>
    rw [(hanswered hmember).1, (hanswered hmember).2]
    exact .claims hmember hblank hbefore hactive
  | @delivers member hmember hpast hpoint =>
    obtain ⟨⟨name, bounds, countdown, point⟩, _ | reply, servedAt, attempt⟩ := member
    · have hlt := (List.getElem?_eq_some_iff.1 hmember).1
      have hhandles := hpoint bounds point ⟨rfl, rfl⟩
      have hjournal : world.journal number journal (.answer number chance) =
          journal.answered world.now (point.call duties)
            (world.server.answer world.now chance (point.call duties)).2 := by
        simp only [World.journal, hmember, if_true]
        rfl
      rw [answer_eq hmember, hjournal]
      dsimp only [Worker.call]
      generalize hanswer : world.server.answer world.now chance (point.call duties) = result
      obtain ⟨server', _ | answer⟩ := result
      · exact absurd (Server.pause_of_answer_none hanswer).1 hpast.call_ne_pause
      · exact .delivers (List.getElem?_set_self hlt) hpast fun _ _ hleads ↦
          hhandles.answered hpast halone hcodec hsound.server hanswer hleads
    · rw [(hanswered hmember).1, (hanswered hmember).2]
      exact .delivers hmember hpast hpoint

/-- A worker that has claimed a row that can be read goes on to work on it. -/
theorem point_of_reads {moment : Moment} {shared : Shared} {name : String} {bounds : Bounds}
    {countdown : Int} {session : Nat} {cycle : Cycle} {queue : String} {rest : List String}
    {notBefore begun : Instant} {row : Row} (h : duties.Reads row job) :
    (Worker.resume duties moment shared
      ⟨name, bounds, countdown, .polling session cycle (.claiming queue rest notBefore begun)⟩
      (.ok (some row))).worker.point = .working session job .saving := by
  simp [Worker.resume, Turn.resume, Turn.resumePoll, Turn.endClaim, Turn.accept, h.1, h.2]

/-- The worker goes on from the claim. -/
theorem resume_claim {name : String} {countdown : Int} {cycle : Cycle} {queue : String}
    {rest : List String} {notBefore begun servedAt : Instant} {attempt : Attempt}
    (hmember : world.members[number]? = some
        ⟨⟨name, bounds, countdown,
          .polling claimed.session cycle (.claiming queue rest notBefore begun)⟩,
          some (.ok (some claimed.entry.row)), servedAt, attempt⟩)
    (htables : world.tables = claimed.tables)
    (hactive : world.server.isLive claimed.session = true →
      world.server.store.transaction claimed.session = .active (claimed.changes []) none) :
    (world.resume number).Handles claimed number .blank := by
  have hlt := (List.getElem?_eq_some_iff.1 hmember).1
  have hresume := resume_eq hmember rfl
  have hleads := Worker.resume_leads duties world.moment world.shared
    ⟨name, bounds, countdown, .polling claimed.session cycle (.claiming queue rest notBefore begun)⟩
    (.ok (some claimed.entry.row))
  rw [hresume]
  dsimp only
  by_cases hreads : ∃ job, duties.Reads claimed.entry.row job
  · obtain ⟨job, hreads⟩ := hreads
    have hpoint := @point_of_reads α duties job world.moment world.shared name bounds countdown
      claimed.session cycle queue rest notBefore begun claimed.entry.row hreads
    refine of_point (List.getElem?_set_self hlt) ?_
    rw [hpoint]
    exact ⟨rfl, rfl, rfl, hreads, rfl, htables, hactive⟩
  · rcases hleads with hleads | ⟨job, hjob, -⟩
    · refine of_point (List.getElem?_set_self hlt) ?_
      rw [hleads.2]
      refine ⟨fun _ hsome ↦ absurd hsome hreads, fun _ ↦ ?_⟩
      have hintact : world.server.store.tables = claimed.tables := htables
      simp only [Server.bury, hintact]
      exact .intact rfl
    · exact absurd ⟨job, hjob⟩ hreads

/-- The worker goes on. -/
theorem resume (h : world.Handles claimed number journal)
    (hdelivers : world.isDelivering number = true) :
    (world.resume number).Handles claimed number journal := by
  cases h with
  | ended hover => exact absurd (hover.symm.trans hdelivers) (by decide)
  | claims hmember hblank htables hactive =>
    rw [hblank]
    exact resume_claim hmember htables hactive
  | @delivers member hmember hpast hpoint =>
    cases hready : member.ready world.shared world.moment with
    | none =>
      have hsame : world.resume number = world := by simp only [World.resume, hmember, hready]
      rw [hsame]
      exact .delivers hmember hpast hpoint
    | some answer =>
      have hlt := (List.getElem?_eq_some_iff.1 hmember).1
      rw [resume_eq hmember hready]
      have hleads := member.worker.resume_leads duties world.moment world.shared answer
      dsimp only
      generalize member.worker.resume duties world.moment world.shared answer = turn at hleads ⊢
      rcases Member.prospect_of_ready hready with hprospect | ⟨-, hpause⟩
      · refine of_point (List.getElem?_set_self hlt) ?_
        exact (hpoint _ _ (hprospect _ _ hleads)).spared (Server.tables_bury _ _)
          (Server.spares_bury _ _ _)
      · exact absurd hpause hpast.call_ne_pause

/-- The handler writes. -/
theorem write (h : world.Handles claimed number journal)
    (hdelivers : world.isDelivering number = true) (text : String) (mishap : Option Mishap) :
    (world.write number text mishap).Handles claimed number
      (world.journal number journal (.write number text mishap)) := by
  rcases world.write_cases number text mishap journal with
    ⟨name, bounds, countdown, session, job, servedAt, attempt, hwriter, hwrite, hjournal⟩ |
      ⟨hsame, hjournal⟩
  · rw [hwrite, hjournal]
    cases h with
    | ended hover => exact absurd (hover.symm.trans hdelivers) (by decide)
    | claims hmember =>
      rw [hwriter] at hmember
      cases hmember
    | delivers hmember hpast hpoint =>
      obtain rfl := Option.some.inj (hwriter.symm.trans hmember)
      obtain ⟨rfl, hstage⟩ := hpoint bounds _ ⟨rfl, rfl⟩
      exact of_point hwriter ⟨rfl, hstage.write mishap text⟩
  · rw [hsame, hjournal]
    exact h

/-- Every move of a delivery takes it on or leaves it where it is. -/
theorem step (h : world.Handles claimed number journal) (halone : duties.deduplicator = none)
    (hcodec : duties.codec.RoundTrips) (hsound : world.Sound)
    (hdelivers : world.Delivers number move) :
    (world.step move).Handles claimed number (world.journal number journal move) := by
  obtain ⟨hdelivering, hactor⟩ := hdelivers
  by_cases hown : move.actor? = some number
  · cases move with
    | answer other chance =>
      obtain rfl := Option.some.inj hown
      exact h.answer halone hcodec hsound hdelivering chance
    | write other text mishap =>
      obtain rfl := Option.some.inj hown
      exact h.write hdelivering text mishap
    | resume other =>
      obtain rfl := Option.some.inj hown
      exact h.resume hdelivering
    | pass | produce | drop | start | stop | await | endAwait | release => cases hown
  · rw [journal_of_actor hown]
    exact h.others hsound hdelivering hown (hactor.resolve_left hown)

end Handles

/-- A claim that takes a row leaves the tables as they are and the transaction with that row
deleted. -/
theorem Sound.claim_holds {start : World duties} (hsound : start.Sound) {number : Nat}
    {name : String} {bounds : Bounds} {countdown : Int} {session : Nat} {cycle : Cycle}
    {queue : String} {rest : List String} {notBefore begun servedAt : Instant} {attempt : Attempt}
    {row : Row}
    (hmember : start.members[number]? = some
      ⟨⟨name, bounds, countdown, .polling session cycle (.claiming queue rest notBefore begun)⟩,
        none, servedAt, attempt⟩)
    (hclaim : (start.server.exchange session start.now chance.mishap
      (.claim queue notBefore)).2 = .ok (some row)) :
    ∃ entry ∈ start.tables.queue, entry.row = row ∧
      (start.step (.answer number chance)).members[number]? = some
        ⟨⟨name, bounds, countdown, .polling session cycle (.claiming queue rest notBefore begun)⟩,
          some (.ok (some row)), start.now, .fresh⟩ ∧
      (start.step (.answer number chance)).tables = start.tables ∧
      (start.step (.answer number chance)).server.store.transaction session =
        .active ⟨[entry.number], [], [], []⟩ none := by
  obtain ⟨hlive, -, row', hrow, hperform⟩ := Server.exchange_of_ok hclaim
  cases hrow
  have hactive := hsound.fits _ (List.mem_of_getElem? hmember) _ _ ⟨rfl, rfl⟩
    fun other hother ↦ Option.some.inj hother ▸ hlive
  have htables := @Server.tables_exchange start.server session start.now chance.mishap
    (.claim queue notBefore) (by simp)
  rw [Store.perform_of_active start.now hactive] at hperform
  cases hclaimed : start.server.store.claimed session queue notBefore start.now with
  | none =>
    rw [Store.execute_claim_of_none hclaimed] at hperform
    cases congrArg Prod.snd hperform
  | some entry =>
    rw [Store.execute_claim_of_some hclaimed] at hperform
    have hsame : entry.row = row := Option.some.inj (Except.ok.inj (congrArg Prod.snd hperform))
    have hmem : entry ∈ start.server.store.queue := Store.mem_queue_of_takable
      (congrArg (fun transaction ↦ transaction.changes.inserted) hactive)
      (Store.mem_of_claimed hclaimed).1
    have hstore : start.server.store.delete session [entry] =
        (start.server.exchange session start.now chance.mishap (.claim queue notBefore)).1.store :=
      congrArg Prod.fst hperform
    have hdeleted := hstore ▸ Store.transaction_delete hactive [entry]
    refine ⟨entry, hmem, hsame, ?_⟩
    have hstep := answer_eq hmember chance
    have hanswer : start.server.answer start.now chance
        (.execute session (.claim queue notBefore) : Call α) =
          ((start.server.exchange session start.now chance.mishap (.claim queue notBefore)).1,
            some (.ok (some row))) := by
      rw [← hclaim]
      rfl
    simp only [World.step, hstep, Worker.call, Point.call, Point.pollCall, hanswer]
    exact ⟨List.getElem?_set_self (List.getElem?_eq_some_iff.1 hmember).1, htables, hdeleted⟩

/-- The answer to a claim that takes a row begins the delivery of that row. -/
theorem Sound.claims {start : World duties} (hsound : start.Sound) {number : Nat} {name : String}
    {bounds : Bounds} {countdown : Int} {session : Nat} {cycle : Cycle} {queue : String}
    {rest : List String} {notBefore begun servedAt : Instant} {attempt : Attempt} {row : Row}
    (hmember : start.members[number]? = some
      ⟨⟨name, bounds, countdown, .polling session cycle (.claiming queue rest notBefore begun)⟩,
        none, servedAt, attempt⟩)
    (hclaim : (start.server.exchange session start.now chance.mishap
      (.claim queue notBefore)).2 = .ok (some row)) :
    ∃ claimed : Claimed, claimed.tables = start.tables ∧ claimed.entry.row = row ∧
      (start.step (.answer number chance)).Handles claimed number .blank := by
  obtain ⟨entry, hmem, rfl, hmember', htables, hdeleted⟩ := hsound.claim_holds hmember hclaim
  exact ⟨⟨session, start.tables, entry, hmem⟩, rfl, rfl,
    .claims hmember' rfl htables fun _ ↦ hdeleted⟩

end World

namespace Sample

def claimingMoves : List Move :=
  [.produce (row 0 [.whole 0]) ⟨0⟩, .produce (row 9 [.whole 1]) ⟨0⟩, .start, .resume 0] ++
    rounds 0 (smooth 3)

/-- The handler writes and then asks for a delivery in 400 days; five seconds have passed by then. -/
def postponingMoves : List Move :=
  [.resume 0] ++ rounds 0 (smooth 1) ++ [.write 0 "draft" none, .pass (Span.ofSeconds 5)] ++
    rounds 0 (rejecting (.postponed ["later"] (Span.ofSeconds (400 * 86400))) :: smooth 3)

def claiming : World (Sample.duties none) :=
  ((World.initial (Sample.duties none) 1 shared ⟨10000000000⟩).play claimingMoves).2

def postponed : Past (Sample.duties none) × World (Sample.duties none) :=
  (claiming.step (.answer 0 .plain)).play postponingMoves

end Sample

end TableQueue
