import TableQueue.Proofs.Duplicates.Errands
import TableQueue.Proofs.World.Open

/-!
# The removal of duplicates is exact

A worker that looks for duplicates claims a row and works on it until it turns to something else.
Whatever the other workers do and whoever else writes, the rows that it takes besides are the
duplicates of the claimed job as they are found at the lookup; the handler gets the claimed job with
the jobs of those rows merged into it in turn; and if the handler accepts it and no statement fails,
then the worker has changed the tables once, by removing the claimed row and the duplicates. If one
of them cannot be read, then the worker has changed nothing.
-/

namespace TableQueue

variable {α : Type} {duties : Duties α} {deduplicator : Deduplicator α}

/-! ## What a move leaves on record -/

namespace World

theorem tables_resume (world : World duties) (number : Nat) :
    (world.resume number).tables = world.tables := by
  unfold resume
  split
  · split
    · exact Server.tables_bury _ _
    · rfl
  · rfl

theorem tables_write (world : World duties) (number : Nat) (text : String)
    (mishap : Option Mishap) : (world.write number text mishap).tables = world.tables := by
  unfold write
  split
  · exact Server.tables_exchange (by simp)
  · rfl

end World

namespace Past

variable {world : World duties} {past : Past duties} {number : Nat} {move : Move}

/-- A move extends the trail of a worker. -/
theorem trail_cons (world : World duties) (move : Move) (past : Past duties) (number : Nat) :
    Past.trail number ((world, move) :: past) =
      ⟨world.journal number (past.journal number) move,
        (world.lookup? number move).toList ++ past.lookups number,
        (world.change? number move).toList ++ past.changes number⟩ := by
  cases hlookup : world.lookup? number move <;> cases hchange : world.change? number move <;>
    simp [trail, lookups, changes, journal, hlookup, hchange]

/-- A move that neither completes a lookup nor changes the tables for a worker. -/
theorem trail_of_tables (hlookup : world.lookup? number move = none)
    (htables : move.actor? = some number → (world.step move).tables = world.tables) :
    Past.trail number ((world, move) :: past) =
      { past.trail number with
        toJournal := world.journal number (past.journal number) move } := by
  have hchange : world.change? number move = none :=
    if_neg fun ⟨hactor, hchanged⟩ ↦ hchanged (htables hactor)
  rw [trail_cons, hlookup, hchange]
  rfl

/-- The moves of others leave no trail. -/
theorem trail_of_actor (hactor : move.actor? ≠ some number) :
    Past.trail number ((world, move) :: past) = past.trail number := by
  have hlookup : world.lookup? number move = none := by
    cases move with
    | answer other chance =>
      have hother : other ≠ number := fun hsame ↦ hactor (congrArg some hsame)
      simp only [World.lookup?, if_neg hother]
      split <;> rfl
    | write | resume | pass | produce | drop | start | stop | await | endAwait | release => rfl
  rw [trail_of_tables hlookup fun h ↦ absurd h hactor, World.Handles.journal_of_actor hactor]
  rfl

theorem trail_resume :
    Past.trail number ((world, .resume number) :: past) = past.trail number :=
  trail_of_tables rfl fun _ ↦ world.tables_resume number

theorem trail_write (text : String) (mishap : Option Mishap) :
    Past.trail number ((world, .write number text mishap) :: past) =
      { past.trail number with
        toJournal := world.journal number (past.journal number) (.write number text mishap) } :=
  trail_of_tables rfl fun _ ↦ world.tables_write number text mishap

/-- Nothing comes of asking the server for an answer that is there already. -/
theorem trail_of_answered {worker : Worker α} {answer : (worker.call duties).Answer}
    {servedAt : Instant} {attempt : Attempt}
    (hmember : world.members[number]? = some ⟨worker, some answer, servedAt, attempt⟩)
    (past : Past duties) (chance : Chance) :
    world.answer number chance = world ∧
      Past.trail number ((world, .answer number chance) :: past) = past.trail number := by
  have hsame : world.answer number chance = world := by simp only [World.answer, hmember]
  have hlookup : world.lookup? number (.answer number chance) = none := by
    simp only [World.lookup?, hmember]
  have hjournal : world.journal number (past.journal number) (.answer number chance) =
      past.journal number := by
    simp only [World.journal, hmember]
  refine ⟨hsame, ?_⟩
  rw [trail_of_tables hlookup fun _ ↦ congrArg World.tables hsame, hjournal]
  rfl

theorem trail_answer {worker : Worker α} {servedAt : Instant} {attempt : Attempt} {chance : Chance}
    (hmember : world.members[number]? = some ⟨worker, none, servedAt, attempt⟩)
    {server' : Server} {answer : (worker.call duties).Answer}
    (hanswer : world.server.answer world.now chance (worker.call duties) =
      (server', some answer)) :
    Past.trail number ((world, .answer number chance) :: past) =
      (past.trail number).answered world.now world.server server' (worker.call duties) answer := by
  have hjournal : world.journal number (past.journal number) (.answer number chance) =
      (past.journal number).answered world.now (worker.call duties) (some answer) := by
    simp only [World.journal, hmember, if_true, hanswer]
  have hlookup : world.lookup? number (.answer number chance) =
      (worker.call duties).lookup? world.now world.server.store server'.store (some answer) := by
    simp only [World.lookup?, hmember, if_true, hanswer]
  have htables : (world.step (.answer number chance)).tables = server'.store.tables := by
    simp only [World.step, World.answer_eq hmember, hanswer]
    rfl
  rw [trail_cons, hjournal, hlookup, World.change?, htables, Trail.answered]
  congr 1
  by_cases hsame : server'.store.tables = world.server.store.tables
  · rw [if_pos hsame, if_neg fun h ↦ h.2 hsame]
    rfl
  · rw [if_neg hsame, if_pos ⟨rfl, hsame⟩]
    rfl

end Past

/-! ## Errands under way -/

theorem Call.ready_of_ne_pause {call : Call α} (h : call ≠ .pause) (due : Bool)
    (answer? : Option call.Answer) : call.ready due answer? = answer? := by
  cases call with
  | pause => exact absurd rfl h
  | connect | execute | deallocate | deliver | close => rfl

namespace World

/-- A worker is on its errand, or done with it. -/
inductive Pursues (errand : Errand duties) (deduplicator : Deduplicator α) (number : Nat)
    (trail : Trail) (world : World duties) : Prop where
  | waits {worker : Worker α} {servedAt : Instant} {attempt : Attempt} :
      world.members[number]? = some ⟨worker, none, servedAt, attempt⟩ →
      worker.point.IsPastClaim errand.session →
      errand.Reaches deduplicator trail world.server worker.point →
      Pursues errand deduplicator number trail world
  | answered {worker : Worker α} {answer : (worker.call duties).Answer} {servedAt : Instant}
      {attempt : Attempt} :
      world.members[number]? = some ⟨worker, some answer, servedAt, attempt⟩ →
      worker.call duties ≠ .pause →
      worker.point.isDelivering duties (some answer) = true →
      worker.point.heldSession? duties (some answer) = some errand.session →
      (∀ bounds point, worker.point.Leads duties worker.bounds answer bounds point →
        worker.point.Heeds duties answer point →
        errand.Reaches deduplicator trail world.server point) →
      Pursues errand deduplicator number trail world
  | ended : world.isDelivering number = false → errand.Settles deduplicator trail →
      Pursues errand deduplicator number trail world

namespace Pursues

variable {errand : Errand duties} {number : Nat} {past : Past duties} {world : World duties}
  {move : Move} {chance : Chance}

theorem of_point {trail : Trail} {worker : Worker α} {servedAt : Instant} {attempt : Attempt}
    (hmember : world.members[number]? = some ⟨worker, none, servedAt, attempt⟩)
    (hreaches : errand.Reaches deduplicator trail world.server worker.point) :
    world.Pursues errand deduplicator number trail := by
  obtain ⟨name, bounds, countdown, point⟩ := worker
  have hover (h : point.isDelivering duties none = false) :
      world.isDelivering number = false := by
    simp only [isDelivering, hmember]
    exact h
  cases point with
  | working | rollingBack => exact .waits hmember hreaches.1 hreaches
  | polling session cycle stage =>
    refine .ended (hover ?_) hreaches
    cases stage <;> rfl
  | idle | starting | atConnectGate | connecting | atFailureGate | asleep | closing | crashed =>
    exact .ended (hover rfl) hreaches

/-- Whatever spares the session of the worker leaves the errand where it is. -/
theorem spared {trail : Trail} {world' : World duties}
    (h : world.Pursues errand deduplicator number trail)
    (hover : world.isDelivering number = false → world'.isDelivering number = false)
    (hframe : ∀ member, world.members[number]? = some member →
      member.session? = some errand.session → world'.members[number]? = some member ∧
        world.server.Spares errand.session world'.server) :
    world'.Pursues errand deduplicator number trail := by
  cases h with
  | waits hmember hpast hreaches =>
    obtain ⟨hmember', hspares⟩ := hframe _ hmember (hpast.heldSession? none)
    exact .waits hmember' hpast (hreaches.spared hspares)
  | answered hmember hcall hbusy hsession hreaches =>
    obtain ⟨hmember', hspares⟩ := hframe _ hmember hsession
    exact .answered hmember' hcall hbusy hsession fun bounds point hleads hheeds ↦
      (hreaches bounds point hleads hheeds).spared hspares
  | ended hidle hsettles => exact .ended (hover hidle) hsettles

/-- The call of the worker is answered. -/
theorem answer (h : world.Pursues errand deduplicator number (past.trail number))
    (hdeduplicator : duties.deduplicator = some deduplicator) (hsound : world.Sound)
    (hdelivers : world.isDelivering number = true) (chance : Chance) :
    (world.answer number chance).Pursues errand deduplicator number
      (Past.trail number ((world, .answer number chance) :: past)) := by
  cases h with
  | ended hover => exact absurd (hover.symm.trans hdelivers) (by decide)
  | answered hmember hcall hbusy hsession hreaches =>
    obtain ⟨hsame, htrail⟩ := Past.trail_of_answered hmember past chance
    rw [hsame, htrail]
    exact .answered hmember hcall hbusy hsession hreaches
  | @waits worker servedAt attempt hmember hpast hreaches =>
    have hlt := (List.getElem?_eq_some_iff.1 hmember).1
    have hcall : worker.call duties ≠ .pause := hpast.call_ne_pause
    rw [answer_eq hmember]
    generalize hanswer : world.server.answer world.now chance (worker.call duties) = result
    obtain ⟨server', _ | answer⟩ := result
    · exact absurd (Server.pause_of_answer_none hanswer).1 hcall
    · rw [Past.trail_answer hmember hanswer]
      -- The tables have changed already, but where the worker goes is settled only when it goes on.
      refine .answered (List.getElem?_set_self hlt) hcall (hpast.isDelivering _)
        (hpast.heldSession? _) ?_
      intro bounds point hleads hheeds
      obtain ⟨name, bounds', countdown, point'⟩ := worker
      cases point' with
      | working session job stage =>
        obtain ⟨rfl, hstage⟩ := hreaches
        exact hstage.answered hdeduplicator hsound.server hanswer hleads hheeds
      | rollingBack session fault =>
        obtain ⟨rfl, hsettles⟩ := hreaches
        obtain ⟨-, rfl⟩ := hleads
        exact hsettles.rolledBack hanswer
      | idle | starting | atConnectGate | connecting | atFailureGate | asleep | polling | closing
        | crashed => exact hpast.elim

/-- The worker goes on. -/
theorem resume {trail : Trail} (h : world.Pursues errand deduplicator number trail)
    (hdeduplicator : duties.deduplicator = some deduplicator)
    (hpositions : deduplicator.positions ≠ [])
    (hclosed : ∀ member, world.members[number]? = some member →
      member.worker.point.IsSaving → world.shared.breaker.closedAt world.now.millis = true)
    (hdelivers : world.isDelivering number = true) :
    (world.resume number).Pursues errand deduplicator number trail := by
  cases h with
  | ended hover => exact absurd (hover.symm.trans hdelivers) (by decide)
  | @waits worker servedAt attempt hmember hpast hreaches =>
    have hcall : worker.call duties ≠ .pause := hpast.call_ne_pause
    have hready := Call.ready_of_ne_pause hcall (worker.isDue world.shared world.moment) none
    have hsame : world.resume number = world := by
      simp only [World.resume, hmember, Member.ready, hready]
    rw [hsame]
    exact .waits hmember hpast hreaches
  | @answered worker answer servedAt attempt hmember hcall _ _ hreaches =>
    have hlt := (List.getElem?_eq_some_iff.1 hmember).1
    have hready := Call.ready_of_ne_pause hcall
      (worker.isDue world.shared world.moment) (some answer)
    rw [resume_eq hmember hready]
    have hleads := worker.resume_leads duties world.moment world.shared answer
    have hheeds := Worker.resume_heeds hdeduplicator hpositions world.moment world.shared worker
      (hclosed _ hmember) answer
    dsimp only
    generalize worker.resume duties world.moment world.shared answer = turn at hleads hheeds ⊢
    refine of_point (List.getElem?_set_self hlt) ?_
    exact (hreaches _ _ hleads hheeds).spared (Server.spares_bury _ _ _)

/-- The handler writes. -/
theorem write (h : world.Pursues errand deduplicator number (past.trail number))
    (hdelivers : world.isDelivering number = true) (text : String) (mishap : Option Mishap) :
    (world.write number text mishap).Pursues errand deduplicator number
      (Past.trail number ((world, .write number text mishap) :: past)) := by
  rw [Past.trail_write]
  rcases world.write_cases number text mishap (past.journal number) with
    ⟨name, bounds, countdown, session, job, servedAt, attempt, hwriter, hwrite, hjournal⟩ |
      ⟨hsame, hjournal⟩
  · rw [hwrite, hjournal]
    cases h with
    | ended hover => exact absurd (hover.symm.trans hdelivers) (by decide)
    | answered hmember =>
      rw [hwriter] at hmember
      cases hmember
    | waits hmember hpast hreaches =>
      cases Option.some.inj (hwriter.symm.trans hmember)
      obtain ⟨rfl, lookup, taken, hbears⟩ := hreaches
      exact of_point hwriter ⟨rfl, lookup, taken, hbears.write mishap text⟩
  · rw [hsame, hjournal]
    exact h

/-- Every move of a delivery takes the errand on or leaves it where it is. -/
theorem step (h : world.Pursues errand deduplicator number (past.trail number))
    (hdeduplicator : duties.deduplicator = some deduplicator)
    (hpositions : deduplicator.positions ≠ [])
    (hclosed : move = .resume number → ∀ member, world.members[number]? = some member →
      member.worker.point.IsSaving → world.shared.breaker.closedAt world.now.millis = true)
    (hsound : world.Sound) (hdelivers : world.isDelivering number = true) :
    (world.step move).Pursues errand deduplicator number
      (Past.trail number ((world, move) :: past)) := by
  by_cases hown : move.actor? = some number
  · cases move with
    | answer other chance =>
      obtain rfl := Option.some.inj hown
      exact h.answer hdeduplicator hsound hdelivers chance
    | write other text mishap =>
      obtain rfl := Option.some.inj hown
      exact h.write hdelivers text mishap
    | resume other =>
      obtain rfl := Option.some.inj hown
      rw [Past.trail_resume]
      exact h.resume hdeduplicator hpositions (hclosed rfl) hdelivers
    | pass | produce | drop | start | stop | await | endAwait | release => cases hown
  · rw [Past.trail_of_actor hown]
    exact h.spared (fun hover ↦ absurd (hover.symm.trans hdelivers) (by decide))
      fun member hmember hsession ↦ hsound.frame hmember hsession hown

end Pursues

end World

/-- The row of an errand has just been claimed, and the tables are as before. -/
structure Errand.Begins (errand : Errand duties) (start origin : World duties) : Prop where
  mem : errand.entry ∈ start.tables.queue
  tables : origin.tables = start.tables
  deleted : (origin.server.store.transaction errand.session).changes.deleted =
    [errand.entry.number]

/-- The answer to a claim that takes a row which can be read begins an errand. -/
theorem World.Sound.pursues {start : World duties} (hsound : start.Sound)
    (deduplicator : Deduplicator α) {number : Nat} {name : String} {bounds : Bounds}
    {countdown : Int} {session : Nat} {cycle : Cycle} {queue : String} {rest : List String}
    {notBefore begun servedAt : Instant} {attempt : Attempt} {chance : Chance} {row : Row}
    {job : Job α}
    (hmember : start.members[number]? = some
      ⟨⟨name, bounds, countdown, .polling session cycle (.claiming queue rest notBefore begun)⟩,
        none, servedAt, attempt⟩)
    (hclaim : (start.server.exchange session start.now chance.mishap
      (.claim queue notBefore)).2 = .ok (some row))
    (hreads : duties.Reads row job) :
    ∃ errand : Errand duties, errand.session = session ∧ errand.entry.row = row ∧
      errand.job = job ∧ errand.Begins start (start.step (.answer number chance)) ∧
      (start.step (.answer number chance)).Pursues errand deduplicator number .blank := by
  obtain ⟨entry, hmem, rfl, hmember', htables, hdeleted⟩ := hsound.claim_holds hmember hclaim
  have hqueue : (start.step (.answer number chance)).server.store.queue = start.tables.queue :=
    congrArg Tables.queue htables
  refine ⟨⟨session, entry, job, hreads⟩, rfl, rfl, rfl,
    ⟨hmem, htables, congrArg (·.changes.deleted) hdeleted⟩, ?_⟩
  refine .answered hmember' (fun h ↦ nomatch h) rfl rfl fun bounds' point _ hheeds ↦ ?_
  rw [hheeds job hreads]
  refine ⟨rfl, rfl, rfl, fun _ ↦ ⟨List.cons_subset.2 ⟨?_, List.nil_subset _⟩, hdeleted⟩⟩
  rw [hqueue]
  exact hmem

/-! ## Whole deliveries -/

def Past.FindsClosed (number : Nat) (past : Past duties) : Prop :=
  ∀ pair ∈ past, pair.2 = .resume number → ∀ member, pair.1.members[number]? = some member →
    member.worker.point.IsSaving → pair.1.shared.breaker.closedAt pair.1.now.millis = true

/-- A worker is on its errand, or done with it, throughout a run. -/
theorem OpenRun.pursues {origin world : World duties} {past : Past duties} {number : Nat}
    {errand : Errand duties} (hdeduplicator : duties.deduplicator = some deduplicator)
    (hpositions : deduplicator.positions ≠ []) (hsound : origin.Sound)
    (hstart : origin.Pursues errand deduplicator number .blank) (run : OpenRun origin past world)
    (hdelivers : ∀ pair ∈ past, pair.1.isDelivering number = true)
    (hclosed : past.FindsClosed number) :
    world.Pursues errand deduplicator number (past.trail number) := by
  induction run with
  | rest => exact hstart
  | @move past world move run ih =>
    have hlater {pair} (hpair : pair ∈ past) : pair ∈ (world, move) :: past :=
      List.mem_cons_of_mem _ hpair
    have hpursues := ih (fun pair hpair ↦ hdelivers pair (hlater hpair))
      fun pair hpair ↦ hclosed pair (hlater hpair)
    exact hpursues.step hdeduplicator hpositions (hclosed _ List.mem_cons_self) (run.sound hsound)
      (hdelivers _ List.mem_cons_self)
  | write run htolerates ih =>
    exact (ih hdelivers hclosed).spared id fun member hmember _ ↦
      ⟨hmember, Server.spares_of_tolerates htolerates _⟩

/-- Where nobody else changes the tables, they are what the worker has made of them. -/
theorem Past.tables_of_run {origin world : World duties} {past : Past duties} {number : Nat}
    (run : Run (World.Delivers number) origin past world) :
    (past.changes number = [] → world.tables = origin.tables) ∧
      ∀ before after, past.changes number = [(before, after)] →
        before = origin.tables ∧ world.tables = after := by
  induction run with
  | rest => exact ⟨fun _ ↦ rfl, fun _ _ h ↦ nomatch h⟩
  | @move past world move run hmove ih =>
    by_cases hchanged : (world.step move).tables = world.tables
    · have hchanges : Past.changes number ((world, move) :: past) = past.changes number := by
        simp [changes, World.change?, hchanged]
      rw [hchanges, hchanged]
      exact ih
    · have hactor := hmove.2.resolve_right hchanged
      have hchanges : Past.changes number ((world, move) :: past) =
          (world.tables, (world.step move).tables) :: past.changes number := by
        simp [changes, World.change?, hchanged, hactor]
      rw [hchanges]
      refine ⟨(nomatch ·), fun before after h ↦ ?_⟩
      obtain ⟨hpair, hnil⟩ := List.cons.inj h
      obtain ⟨rfl, rfl⟩ := Prod.mk.inj hpair
      exact ⟨ih.1 hnil, rfl⟩

/-- What the removal of duplicates comes to when a row is claimed in some tables and others may or
may not change them later. -/
structure Errand.Removes (errand : Errand duties) (deduplicator : Deduplicator α) (number : Nat)
    (origin : World duties) (past : Past duties) (world : World duties) : Prop where
  /-- A lookup takes every duplicate, and nothing else. -/
  takes : ∀ lookup ∈ past.lookups number, ∃ taken, errand.Takes deduplicator lookup taken
  /-- The handler gets the claimed job with the jobs of the duplicates merged into it. -/
  delivers : ∀ name bounds countdown session job servedAt attempt,
    world.members[number]? = some
      ⟨⟨name, bounds, countdown, .working session job .delivering⟩, none, servedAt, attempt⟩ →
    ∃ lookup, past.lookups number = [lookup] ∧ errand.Merges deduplicator lookup.rows job
  /-- If no statement fails, there is one lookup, and the handler gets the job unless the duplicates
  cannot be merged. -/
  handed : world.isDelivering number = false → (past.journal number).isSmooth = true →
    ∃ lookup, past.lookups number = [lookup] ∧
      ((∃ job, errand.Merges deduplicator lookup.rows job) →
        (past.journal number).reception?.isSome = true)
  /-- If the job is accepted and no statement fails, the worker has removed the claimed row and the
  duplicates and has changed nothing else. -/
  accepted : world.isDelivering number = false → (past.journal number).isSmooth = true →
    (past.journal number).reception? = some .accepted →
    ∃ lookup taken before noted, errand.Clears deduplicator (past.trail number) lookup taken
      before noted ∧ (Run (World.Delivers number) origin past world →
        world.tables = errand.cleared taken noted origin.tables)
  /-- If one of the duplicates cannot be read, the worker has changed nothing. -/
  unread : ∀ lookup ∈ past.lookups number, (∃ row ∈ lookup.rows, ¬ ∃ job, duties.Reads row job) →
    past.changes number = [] ∧
      (Run (World.Delivers number) origin past world → world.tables = origin.tables)

namespace World.Pursues

variable {errand : Errand duties} {number : Nat} {past : Past duties} {origin world : World duties}

/-- Some turn of a worker is always open to it. -/
theorem exists_heeds (hdeduplicator : duties.deduplicator = some deduplicator)
    (hpositions : deduplicator.positions ≠ []) (world : World duties) (worker : Worker α)
    (answer : (worker.call duties).Answer) :
    ∃ bounds point, worker.point.Leads duties worker.bounds answer bounds point ∧
      worker.point.Heeds duties answer point := by
  -- Any state will do in which the breaker is closed.
  have hclosed : (⟨0, 0, world.now.millis - 1⟩ : Breaker).closedAt world.now.millis = true :=
    decide_eq_true (Int.sub_lt_self _ (by decide))
  let shared : Shared := { world.shared with breaker := ⟨0, 0, world.now.millis - 1⟩ }
  exact ⟨_, _, worker.resume_leads duties world.moment shared answer,
    Worker.resume_heeds hdeduplicator hpositions world.moment shared worker (fun _ ↦ hclosed)
      answer⟩

theorem interrupted (h : world.Pursues errand deduplicator number (past.trail number))
    (hdeduplicator : duties.deduplicator = some deduplicator)
    (hpositions : deduplicator.positions ≠ []) :
    errand.Settles deduplicator { past.trail number with isSmooth := false } := by
  cases h with
  | waits _ _ hreaches => exact hreaches.interrupted
  | answered _ _ _ _ hreaches =>
    obtain ⟨bounds, point, hleads, hheeds⟩ := exists_heeds hdeduplicator hpositions world _ _
    exact (hreaches bounds point hleads hheeds).interrupted
  | ended _ hsettles => exact hsettles.interrupted

/-- An errand that is over is settled. -/
theorem settles (h : world.Pursues errand deduplicator number (past.trail number))
    (hover : world.isDelivering number = false) :
    errand.Settles deduplicator (past.trail number) := by
  cases h with
  | waits hmember hpast =>
    have hbusy : world.isDelivering number = true := by
      simp only [isDelivering, hmember]
      exact hpast.isDelivering _
    exact absurd (hbusy.symm.trans hover) (by decide)
  | answered hmember _ hbusy =>
    have hbusy : world.isDelivering number = true := by
      simp only [isDelivering, hmember]
      exact hbusy
    exact absurd (hbusy.symm.trans hover) (by decide)
  | ended _ hsettles => exact hsettles

/-- Whatever has become of an errand, the removal of duplicates is as claimed. -/
theorem removes (h : world.Pursues errand deduplicator number (past.trail number))
    (hdeduplicator : duties.deduplicator = some deduplicator)
    (hpositions : deduplicator.positions ≠ []) :
    errand.Removes deduplicator number origin past world where
  takes := (h.interrupted hdeduplicator hpositions).takes
  delivers name bounds countdown session job servedAt attempt hmember := by
    cases h with
    | waits hmember' _ hreaches =>
      cases Option.some.inj (hmember'.symm.trans hmember)
      obtain ⟨-, lookup, taken, hbears⟩ := hreaches
      exact ⟨lookup, hbears.lookups, hbears.merges⟩
    | answered hmember' =>
      rw [hmember] at hmember'
      cases hmember'
    | ended hover =>
      have hbusy : world.isDelivering number = true := by
        simp only [isDelivering, hmember, Point.isDelivering]
      exact absurd (hbusy.symm.trans hover) (by decide)
  handed hover hsmooth := (h.settles hover).handed hsmooth
  accepted hover hsmooth haccepted := by
    obtain ⟨lookup, taken, before, noted, hclears⟩ := (h.settles hover).accepted hsmooth haccepted
    refine ⟨lookup, taken, before, noted, hclears, fun run ↦ ?_⟩
    obtain ⟨rfl, htables⟩ := (Past.tables_of_run run).2 _ _ hclears.changes
    exact htables
  unread lookup hlookup hunread := by
    have hchanges := (h.interrupted hdeduplicator hpositions).unread lookup hlookup hunread
    exact ⟨hchanges, fun run ↦ (Past.tables_of_run run).1 hchanges⟩

end World.Pursues

/-- The removal of duplicates is exact. A worker whose deduplicator names some columns claims a row
that can be read, and the delivery goes on until the worker is done with it, with the breaker closed
when it turns to the duplicates. The other workers may do what they like, and others may write. -/
theorem removes_duplicates (hdeduplicator : duties.deduplicator = some deduplicator)
    (hpositions : deduplicator.positions ≠ []) {start world : World duties} {number : Nat}
    {past : Past duties} {name : String} {bounds : Bounds} {countdown : Int} {session : Nat}
    {cycle : Cycle} {queue : String} {rest : List String} {notBefore begun servedAt : Instant}
    {attempt : Attempt} {chance : Chance} {row : Row} {job : Job α} (hsound : start.Sound)
    (hmember : start.members[number]? = some
      ⟨⟨name, bounds, countdown, .polling session cycle (.claiming queue rest notBefore begun)⟩,
        none, servedAt, attempt⟩)
    (hclaim : (start.server.exchange session start.now chance.mishap
      (.claim queue notBefore)).2 = .ok (some row))
    (hreads : duties.Reads row job)
    (run : OpenRun (start.step (.answer number chance)) past world)
    (hdelivers : ∀ pair ∈ past, pair.1.isDelivering number = true)
    (hclosed : past.FindsClosed number) :
    ∃ errand : Errand duties, errand.session = session ∧ errand.entry.row = row ∧
      errand.job = job ∧ errand.Begins start (start.step (.answer number chance)) ∧
      errand.Removes deduplicator number (start.step (.answer number chance)) past world := by
  obtain ⟨errand, hsession, hrow, hjob, hbegins, hstart⟩ :=
    hsound.pursues deduplicator hmember hclaim hreads
  refine ⟨errand, hsession, hrow, hjob, hbegins, ?_⟩
  exact (run.pursues hdeduplicator hpositions (hsound.step _) hstart hdelivers hclosed).removes
    hdeduplicator hpositions

namespace Sample

/-- Jobs with the same first cell are duplicates, and a duplicate is merged by appending it. -/
def concatenating : Duties (List Cell) :=
  Sample.duties (some ⟨[0], (·.take 1), fun job skipped ↦ .ok (job ++ skipped)⟩)

/-- Of four rows with the same first cell, one is claimed by another worker and one is put off. The
second is about to be claimed. -/
def contendingMoves : List Move :=
  [.produce (row 0 [.whole 7]) ⟨0⟩, .produce (row 1 [.whole 7, .whole 1]) ⟨0⟩,
    .produce (row 2 [.whole 7, .whole 2]) ⟨0⟩, .produce (row 3 [.whole 8, .whole 3]) ⟨0⟩,
    .produce (row 100 [.whole 7, .whole 4]) ⟨0⟩, .start, .resume 1, .resume 0] ++
    rounds 1 (smooth 4) ++ rounds 0 (smooth 3)

def contending : World concatenating :=
  ((World.initial concatenating 2 shared ⟨10000000000⟩).play contendingMoves).2

def concatenatingMoves : List Move :=
  [.resume 0] ++ rounds 0 (smooth 2) ++ [.write 0 "done" none] ++ rounds 0 (smooth 3)

def concatenated : Past concatenating × World concatenating :=
  (contending.step (.answer 0 .plain)).play concatenatingMoves

end Sample

theorem removes_duplicates_of_concatenatingMoves :
    (Sample.concatenated.1.lookups 0).map Lookup.rows = [[Sample.row 2 [.whole 7, .whole 2]]] ∧
    (Sample.concatenated.1.journal 0).isSmooth = true ∧
    (Sample.concatenated.1.journal 0).reception? = some .accepted ∧
    Sample.concatenated.2.tables =
      ⟨[⟨0, ⟨0⟩, Sample.row 0 [.whole 7]⟩, ⟨3, ⟨0⟩, Sample.row 3 [.whole 8, .whole 3]⟩,
        ⟨4, ⟨0⟩, Sample.row 100 [.whole 7, .whole 4]⟩], [], [(5, "done")]⟩ ∧
    ∃ errand : Errand Sample.concatenating, errand.session = 1 ∧
      errand.entry.row = Sample.row 1 [.whole 7, .whole 1] ∧
      errand.job = ⟨⟨"a", .ofInstant ⟨0⟩, .ofInstant ⟨1000000000⟩, 1⟩, [.whole 7, .whole 1]⟩ ∧
      errand.Begins Sample.contending (Sample.contending.step (.answer 0 .plain)) ∧
      errand.Removes ⟨[0], (·.take 1), fun job skipped ↦ .ok (job ++ skipped)⟩ 0
        (Sample.contending.step (.answer 0 .plain)) Sample.concatenated.1
        Sample.concatenated.2 := by
  have hclosed : ∀ pair ∈ Sample.concatenated.1,
      pair.1.shared.breaker.closedAt pair.1.now.millis = true := by decide +kernel
  refine ⟨by decide +kernel, by decide +kernel, by decide +kernel, by decide +kernel, ?_⟩
  exact removes_duplicates rfl (by decide)
    (World.Sound.of_run (Run.play _ Sample.contendingMoves)) rfl rfl ⟨rfl, rfl⟩
    (.of_run (Run.play _ Sample.concatenatingMoves)) (by decide +kernel)
    fun pair hpair _ _ _ _ ↦ hclosed pair hpair

end TableQueue
