import TableQueue.Proofs.Retries.Bounds

/-!
# Jobs that always fail

The counter of a row stops at the largest 32-bit number, and a limit may be set beyond it. Up to
there a job that always fails is archived after as many deliveries as its tries leave it. Beyond, no
counter reaches the limit: the row waits in the queue before and after every delivery, its tries come
to a stand, and no run has it archived.
-/

namespace TableQueue

variable {α : Type} {duties : Duties α}

/-- The counter of tries in closed form. -/
theorem JobMeta.iterate_nextTry_of_le {stored : Int} (h : stored ≤ maxTries) (returns : Nat) :
    nextTry^[returns] stored = min maxTries (stored + returns) := by
  cases returns with
  | zero => simp [h]
  | succ returns => rw [iterate_nextTry, Nat.cast_succ, add_assoc]

theorem Row.triesAfter_eq {row : Row} {stored : Int} (hstored : row.tries = some stored)
    (hrange : stored ≤ JobMeta.maxTries) (returns : Nat) :
    row.triesAfter returns = some (min JobMeta.maxTries (stored + returns)) := by
  calc row.triesAfter returns
      = some (JobMeta.nextTry^[returns] stored) := by rw [triesAfter, hstored, Option.map_some]
    _ = some (min JobMeta.maxTries (stored + returns)) := by
      rw [JobMeta.iterate_nextTry_of_le hrange]

namespace Life

def Fails (life : Life α) : Prop :=
  ∀ delivery ∈ life.deliveries, delivery.reception.isFinal = false

/-- A copy of the row is in the queue, with the tries of so many deliveries. -/
def WaitsWith (life : Life α) (store : Store) (tries : Int) (returns : Nat) : Prop :=
  ∃ entry ∈ store.queue, life.fate = .waiting entry.number returns ∧
    entry.row.columns = life.row.columns ∧ entry.row.tries = some tries

def IsArchived (life : Life α) (store : Store) : Prop :=
  ∃ number archivedRow, life.fate = .archived number ∧ (number, archivedRow) ∈ store.archive ∧
    archivedRow.columns = life.row.columns

theorem not_isWith_of_isCalm {world : World duties} (hcalm : world.isCalm) (life : Life α) :
    ¬ ∃ worker, life.IsWith world worker := by
  rintro ⟨worker, trial, htrial, -⟩
  rw [World.trial?_of_isCalm hcalm] at htrial
  cases htrial

end Life

namespace Life.Tracked

variable {life : Life α} {archive : List (Nat × ArchivedRow)} {trial? : Nat → Option (Trial α)}
  {stored : Int}

/-! ## A limit that the counter reaches -/

/-- No row is delivered more often than its limit allows. -/
theorem length_le_lastDelivery (h : life.Tracked duties archive trial?)
    (hmax : duties.settings.maxTries ≤ JobMeta.maxTries) (hstored : life.row.tries = some stored) :
    life.deliveries.length ≤ duties.settings.lastDelivery stored := by
  by_contra hbeyond
  have hpos : 1 ≤ duties.settings.lastDelivery stored := le_max_left ..
  obtain ⟨i, hi⟩ : ∃ i : Nat, duties.settings.lastDelivery stored = i + 1 :=
    ⟨(duties.settings.lastDelivery stored - 1).toNat, by omega⟩
  have hdelivery : life.deliveries[i]? = some life.deliveries[i] :=
    List.getElem?_eq_getElem (by omega)
  have hstops := h.stops hmax hstored hdelivery (.inr hi.le)
  omega

/-- A job that always fails is archived with its last delivery and waits before. -/
theorem archived_or_waits {world : World duties} {events : List (Event α)}
    (h : life.Tracked duties world.server.store.archive world.trial?)
    (hmax : duties.settings.maxTries ≤ JobMeta.maxTries) (hstored : life.row.tries = some stored)
    (hrange : stored ≤ JobMeta.maxTries)
    (hholds : life.fate.Holds duties events world.server.store life.row) (hfails : life.Fails) :
    (∃ worker, life.IsWith world worker) ∨
      (life.deliveries.length = duties.settings.lastDelivery stored ∧
        life.IsArchived world.server.store) ∨
      (life.deliveries.length < duties.settings.lastDelivery stored ∧
        life.WaitsWith world.server.store (min JobMeta.maxTries (stored + life.deliveries.length))
          life.deliveries.length) := by
  have hfail (delivery : Delivery α) (hlast : life.deliveries.getLast? = some delivery) :
      delivery.reception.isFinal = false := hfails delivery (List.mem_of_getLast? hlast)
  rcases (h.unfolds hmax hstored hholds).settles with hwith | hsettled
  · exact .inl hwith
  · cases hsettled with
    | waiting _ hbefore hfate hentry hnumber hcolumns htries =>
      rw [Row.triesAfter_eq hstored hrange] at htries
      exact .inr (.inr ⟨hbefore, _, hentry, hnumber ▸ hfate, hcolumns, htries⟩)
    | accepted hlast => exact absurd (hfail _ hlast) Bool.true_eq_false_eq_False
    | archived hlast _ hended hfate hmem hcolumns =>
      have hused := hended.resolve_left (Bool.eq_false_iff.1 (hfail _ hlast))
      have hbound := h.length_le_lastDelivery hmax hstored
      exact .inr (.inl ⟨by omega, _, _, hfate, hmem, hcolumns⟩)

/-! ## A limit beyond the counter -/

/-- No failure of a delivery uses up the tries. -/
theorem disposition_ne_archive (h : life.Tracked duties archive trial?)
    (hmax : JobMeta.maxTries < duties.settings.maxTries) (hstored : life.row.tries = some stored)
    {i : Nat} {delivery : Delivery α} (hdelivery : life.deliveries[i]? = some delivery)
    (hfails : delivery.reception.isFinal = false) {failure : JobFailure}
    (hfailure : delivery.reception.failure? = some failure) :
    duties.settings.disposition delivery.job.details failure ≠ .archive := by
  rw [ne_eq, Reception.disposition_eq_archive_iff hfailure, h.tries_eq hstored hdelivery, hfails]
  simp only [Bool.false_eq_true, false_or, Int.not_le]
  omega

/-- The row of a job that always fails is in the queue, be its latest delivery under way or not. -/
theorem waits {world : World duties} {events : List (Event α)}
    (h : life.Tracked duties world.server.store.archive world.trial?)
    (hmax : JobMeta.maxTries < duties.settings.maxTries) (hstored : life.row.tries = some stored)
    (hrange : stored ≤ JobMeta.maxTries)
    (hholds : life.fate.Holds duties events world.server.store life.row) (hfails : life.Fails) :
    ∃ returns : Nat,
      life.WaitsWith world.server.store (min JobMeta.maxTries (stored + returns)) returns ∧
        (life.deliveries.length = returns ∨
          life.deliveries.length = returns + 1 ∧ ∃ worker, life.IsWith world worker) := by
  obtain ⟨earlier, latest, hdeliveries, -, hfollows⟩ := h.follows
  have hlatest (delivery : Delivery α) (hlast : latest = [delivery]) :
      life.deliveries[earlier.length]? = some delivery ∧ delivery.reception.isFinal = false :=
    ⟨by simp [hdeliveries, hlast], hfails delivery (by simp [hdeliveries, hlast])⟩
  have hwaits {number returns : Nat} (hfate : life.fate = .waiting number returns) :
      life.WaitsWith world.server.store (min JobMeta.maxTries (stored + returns)) returns := by
    have hcopy := hholds
    rw [hfate] at hcopy
    obtain ⟨entry, hentry, rfl, hcolumns, htries⟩ := hcopy
    rw [Row.triesAfter_eq hstored hrange] at htries
    exact ⟨entry, hentry, hfate, hcolumns, htries⟩
  generalize hfate : life.fate = fate at hfollows
  -- Any other fate is that of a delivery which was accepted or after which the job was to be archived.
  cases hfollows with
  | waits => exact ⟨_, hwaits hfate, .inl (by simp [hdeliveries])⟩
  | @tried number worker trial htrial hnumber =>
    refine ⟨_, hwaits hfate, .inr ⟨by simp [hdeliveries], worker, trial, htrial, ?_, .inr ?_⟩⟩
    · simp [hdeliveries]
    · refine ⟨number, hnumber, ?_⟩
      rw [Ticket.queueNumber?, hfate]
      rfl
  | done =>
    obtain ⟨-, hfinal⟩ := hlatest _ rfl
    cases hfinal
  | leaving _ _ hfailure hdisposition | archived _ _ _ hfailure hdisposition =>
    obtain ⟨hlast, hfinal⟩ := hlatest _ rfl
    exact absurd hdisposition (h.disposition_ne_archive hmax hstored hlast hfinal hfailure)

end Life.Tracked

/-! ## Retries end up to the counter, and not beyond -/

section Run

variable {workers : Nat} {shared : Shared} {now : Instant} {past : Past duties}
  {world : World duties} {life : Life α} {stored : Int}

/-- In a run without deduplication in which no statement fails and no worker loses its connection, a
job that always fails is archived with its last delivery if the counter of its row reaches the limit.
If the limit lies beyond, its row is in the queue at every moment, however often it was delivered. -/
theorem exhausts_tries (halone : duties.deduplicator = none)
    (hcodec : duties.codec.PreservesEnqueued past.events)
    (run : Run (fun world move ↦ world.isSteady move) (World.initial duties workers shared now) past
      world)
    (hlife : life ∈ Life.ofEvents past.events) (hstored : life.row.tries = some stored)
    (hrange : stored ≤ JobMeta.maxTries) (hfails : life.Fails) :
    (duties.settings.maxTries ≤ JobMeta.maxTries →
      life.deliveries.length ≤ duties.settings.lastDelivery stored ∧
      ((∃ worker, life.IsWith world worker) ∨
        (life.deliveries.length = duties.settings.lastDelivery stored ∧
          life.IsArchived world.server.store) ∨
        (life.deliveries.length < duties.settings.lastDelivery stored ∧
          life.WaitsWith world.server.store (min JobMeta.maxTries (stored + life.deliveries.length))
            life.deliveries.length))) ∧
    (JobMeta.maxTries < duties.settings.maxTries →
      ∃ returns : Nat,
        life.WaitsWith world.server.store (min JobMeta.maxTries (stored + returns)) returns ∧
          (life.deliveries.length = returns ∨
            life.deliveries.length = returns + 1 ∧ ∃ worker, life.IsWith world worker)) := by
  have htracked := World.tracksLives_of_run halone hcodec run life hlife
  have hbalanced := balanced_of_run halone hcodec (run.mono fun _ _ _ ↦ trivial)
  have hholds := hbalanced.holds life.toTicket (Life.toTicket_mem hlife)
  refine ⟨fun hmax ↦ ⟨htracked.length_le_lastDelivery hmax hstored, ?_⟩, fun hmax ↦ ?_⟩
  · exact htracked.archived_or_waits hmax hstored hrange hholds hfails
  · exact htracked.waits hmax hstored hrange hholds hfails

end Run

namespace Sample

/-- The limit is the least one that no counter reaches. -/
def boundless : Duties (List Cell) :=
  { Sample.duties none with
    settings := { (Sample.duties none).settings with maxTries := 2147483648 } }

/-- A row that has been tried almost as often as can be counted is delivered three times. -/
def poisonedMoves : List Move :=
  [.produce { row 0 [.whole 0] with tries := some 2147483646 } ⟨0⟩, .start, .resume 0] ++
    rounds 0 (smooth 5 ++ [rejecting (.retryable ["first"])] ++ smooth 3) ++
    rounds 0 (smooth 3 ++ [dying] ++ smooth 3) ++
    rounds 0 (smooth 3 ++ [rejecting (.retryable ["last"])] ++ smooth 3)

end Sample

def Sample.poisonedRun : Past Sample.boundless × World Sample.boundless :=
  (World.initial Sample.boundless 1 Sample.shared ⟨10000000000⟩).play poisonedMoves

theorem Sample.retriedRun_isRun : Run (fun world move ↦ world.isSteady move)
    (World.initial (Sample.duties none) 2 Sample.shared ⟨10000000000⟩) Sample.retriedRun.1
    Sample.retriedRun.2 :=
  Run.play_of_all World.isSteady _ Sample.retriedMoves (by decide +kernel)

theorem Sample.poisonedRun_isRun : Run (fun world move ↦ world.isSteady move)
    (World.initial Sample.boundless 1 Sample.shared ⟨10000000000⟩) Sample.poisonedRun.1
    Sample.poisonedRun.2 :=
  Run.play_of_all World.isSteady _ Sample.poisonedMoves (by decide +kernel)

/-- The row without tries is archived with its third delivery, and the one that has been tried almost
as often as can be counted waits after three as before. -/
theorem exhausts_tries_of_poisonedRun :
    (∃ life ∈ Life.ofEvents Sample.retriedRun.1.events, life.row.tries = some 0 ∧ life.Fails ∧
      life.deliveries.length = 3 ∧ life.IsArchived Sample.retriedRun.2.server.store) ∧
    ∃ life ∈ Life.ofEvents Sample.poisonedRun.1.events, life.row.tries = some 2147483646 ∧
      life.Fails ∧ life.deliveries.length = 3 ∧
      life.WaitsWith Sample.poisonedRun.2.server.store 2147483647 3 := by
  constructor
  · obtain ⟨life, hlife, hstored, hfails, hlength⟩ :
        ∃ life ∈ Life.ofEvents Sample.retriedRun.1.events, life.row.tries = some 0 ∧
          (∀ delivery ∈ life.deliveries, delivery.reception.isFinal = false) ∧
          life.deliveries.length = 3 := by decide +kernel
    have hcalm : Sample.retriedRun.2.isCalm := by decide +kernel
    have hended := ((exhausts_tries rfl (fun _ _ _ h ↦ (Except.ok.inj h).symm)
      Sample.retriedRun_isRun hlife hstored (by decide) hfails).1 (by decide)).2
    obtain ⟨-, harchived⟩ | ⟨hbefore, -⟩ := hended.resolve_left (life.not_isWith_of_isCalm hcalm)
    · exact ⟨life, hlife, hstored, hfails, hlength, harchived⟩
    · rw [hlength] at hbefore
      exact absurd hbefore (by decide)
  · obtain ⟨life, hlife, hstored, hfails, hlength⟩ :
        ∃ life ∈ Life.ofEvents Sample.poisonedRun.1.events, life.row.tries = some 2147483646 ∧
          (∀ delivery ∈ life.deliveries, delivery.reception.isFinal = false) ∧
          life.deliveries.length = 3 := by decide +kernel
    have hcalm : Sample.poisonedRun.2.isCalm := by decide +kernel
    obtain ⟨returns, hwaits, hreturns⟩ := (exhausts_tries rfl (fun _ _ _ h ↦ (Except.ok.inj h).symm)
      Sample.poisonedRun_isRun hlife hstored (by decide) hfails).2 (by decide)
    have hsettled := hreturns.resolve_right fun hwith ↦ life.not_isWith_of_isCalm hcalm hwith.2
    obtain rfl : returns = 3 := hsettled.symm.trans hlength
    exact ⟨life, hlife, hstored, hfails, hlength, hwaits⟩

/-- The limit is a valid setting, and three deliveries do not use it up; nor does any run with one. -/
theorem never_archives_of_boundless :
    Sample.boundless.settings.validated = .ok Sample.boundless.settings ∧
    (Life.ofEvents Sample.poisonedRun.1.events).map (fun life ↦
        (life.deliveries.map fun delivery ↦ delivery.job.details.tries, life.fate)) =
      [([2147483647, 2147483647, 2147483647], .waiting 3 3)] ∧
    ∀ {workers : Nat} {shared : Shared} {now : Instant} {past : Past Sample.boundless}
      {world : World Sample.boundless},
      Run (fun world move ↦ world.isSteady move)
        (World.initial Sample.boundless workers shared now) past world →
      ∀ life ∈ Life.ofEvents past.events, ∀ stored ≤ JobMeta.maxTries,
        life.row.tries = some stored → life.Fails → ¬ life.IsArchived world.server.store := by
  refine ⟨rfl, by decide +kernel, fun {_ _ _ past _} run life hlife stored hrange hstored hfails harchived ↦ ?_⟩
  have hcodec : Sample.boundless.codec.PreservesEnqueued past.events :=
    fun _ _ _ h ↦ (Except.ok.inj h).symm
  have htracked := World.tracksLives_of_run rfl hcodec run life hlife
  have hbalanced := balanced_of_run rfl hcodec (run.mono fun _ _ _ ↦ trivial)
  obtain ⟨returns, ⟨entry, -, hwaits, -⟩, -⟩ := htracked.waits (by decide) hstored hrange
    (hbalanced.holds life.toTicket (Life.toTicket_mem hlife)) hfails
  obtain ⟨number, archivedRow, hfate, -⟩ := harchived
  rw [hwaits] at hfate
  cases hfate

end TableQueue
