import TableQueue.Proofs.Countdown

/-!
# No row is passed over for long

A bound can hide a row: one that is added later with an earlier eligibility time, or one that was
locked or invisible when the bound was found. A pass that begins without bounds hides no row. It
looks at the queues in turn, finds a bound of each that is no later than any eligible row that it
can see, and claims the first row that is not locked. So it does not get past a row that stays free,
unless it meets an error; and after so many passes as the countdown allows there is such a pass.
What others do to the tables in the meantime does not matter.
-/

namespace TableQueue

variable {α : Type} {duties : Duties α}

/-! ## Free rows -/

namespace Store

variable {store : Store} {session : Nat} {now : Instant} {entry : Entry} {queue : String}
  {notBefore : Instant}

/-- A row that a session could claim: it is committed and eligible, and no other session has deleted
it. -/
structure IsFree (store : Store) (session : Nat) (now : Instant) (entry : Entry) : Prop where
  mem : entry ∈ store.queue
  visible : entry.visibleFrom ≤ now
  eligible : entry.row.dequeueAfter ≤ now
  unlocked : store.isLocked session entry.number = false

instance : Decidable (store.IsFree session now entry) :=
  decidable_of_iff (entry ∈ store.queue ∧ entry.visibleFrom ≤ now ∧
      entry.row.dequeueAfter ≤ now ∧ store.isLocked session entry.number = false)
    ⟨fun ⟨hmem, hvisible, heligible, hunlocked⟩ ↦ ⟨hmem, hvisible, heligible, hunlocked⟩,
      fun h ↦ ⟨h.mem, h.visible, h.eligible, h.unlocked⟩⟩

/-- Where there is an entry, there is one that becomes eligible first. -/
theorem exists_earliest {entries : List Entry} (h : entry ∈ entries) :
    ∃ first, earliest entries = some first ∧
      first.row.dequeueAfter ≤ entry.row.dequeueAfter := by
  cases hfirst : earliest entries with
  | none =>
    rw [earliest_eq_none_iff.1 hfirst] at h
    exact absurd h List.not_mem_nil
  | some first => exact ⟨first, rfl, le_of_earliest hfirst h⟩

theorem mem_visible_of_active (hmem : entry ∈ store.queue) (hvisible : entry.visibleFrom ≤ now)
    (hactive : store.transaction session = .active .none none) :
    entry ∈ store.visible session now := by
  rw [mem_visible, hactive]
  exact ⟨.inl hmem, List.not_mem_nil, hvisible⟩

/-- A probe of the queue of an eligible row finds a bound, and one that does not hide the row. -/
theorem probed_of_mem (hmem : entry ∈ store.queue) (hvisible : entry.visibleFrom ≤ now)
    (heligible : isEligible entry.row queue now = true)
    (hactive : store.transaction session = .active .none none) :
    ∃ oldest, (store.execute session now (.oldest queue)).2 = .ok (some oldest) ∧
      oldest ≤ entry.row.dequeueAfter := by
  have hshown : entry ∈ (store.visible session now).filter fun other ↦
      isEligible other.row queue now :=
    List.mem_filter.2 ⟨mem_visible_of_active hmem hvisible hactive, heligible⟩
  obtain ⟨first, hfirst, hle⟩ := exists_earliest hshown
  exact ⟨first.row.dequeueAfter, by simp only [execute, hfirst, Option.map_some], hle⟩

theorem IsFree.isEligible (h : store.IsFree session now entry) :
    isEligible entry.row entry.row.queue now = true := by
  simpa [Store.isEligible] using h.eligible

/-- A claim with a bound that does not hide a free row takes that row or an earlier one. -/
theorem IsFree.claimed (h : store.IsFree session now entry)
    (hactive : store.transaction session = .active .none none)
    (hbound : notBefore ≤ entry.row.dequeueAfter) :
    ∃ first, store.claimed session entry.row.queue notBefore now = some first ∧
      first.row.dequeueAfter ≤ entry.row.dequeueAfter := by
  apply exists_earliest
  simpa [mem_takable, mem_visible_of_active h.mem h.visible hactive, h.unlocked, Store.isEligible]
    using And.intro h.eligible hbound

end Store

namespace Point

variable {server server' : Server} {attempt : Attempt} {session : Nat} {cycle : Cycle}
  {queue : String} {rest : List String} {begun notBefore now : Instant} {chance : Chance}
  {entry : Entry}

/-- A probe finds a bound if it can see a row, and one that does not hide it. -/
theorem Fits.probes_le {found : Option Instant}
    (hfits : (polling session cycle (.probing queue rest begun) : Point α).Fits duties server
      attempt)
    (hmem : entry ∈ server.store.queue) (hvisible : entry.visibleFrom ≤ now)
    (heligible : Store.isEligible entry.row queue now = true)
    (hanswer : server.answer now chance (.execute session (.oldest queue) : Call α) =
      (server', some (.ok found))) :
    ∃ oldest, found = some oldest ∧ oldest ≤ entry.row.dequeueAfter := by
  obtain ⟨hactive, found', rfl, hperform⟩ := hfits.perform rfl hanswer
  rw [Store.perform_of_active now hactive] at hperform
  obtain ⟨oldest, hoffered, hle⟩ := Store.probed_of_mem hmem hvisible heligible hactive
  rw [hperform] at hoffered
  exact ⟨oldest, Except.ok.inj hoffered, hle⟩

/-- What a claim finds, and that it finds something if there is a free row that the bound does not
hide. -/
theorem Fits.claims_free {found : Option Row}
    (hfits : (polling session cycle (.claiming queue rest notBefore begun) : Point α).Fits duties
      server attempt)
    (hfree : server.store.IsFree session now entry)
    (hbound : queue = entry.row.queue → notBefore ≤ entry.row.dequeueAfter)
    (hanswer : server.answer now chance (.execute session (.claim queue notBefore) : Call α) =
      (server', some (.ok found))) :
    (∀ row, found = some row → row.queue = queue) ∧ (queue = entry.row.queue →
      ∃ row, found = some row ∧ row.dequeueAfter ≤ entry.row.dequeueAfter) := by
  obtain ⟨hactive, found', rfl, hperform⟩ := hfits.perform rfl hanswer
  rw [Store.perform_of_active now hactive] at hperform
  cases hclaimed : server.store.claimed session queue notBefore now with
  | none =>
    rw [Store.execute_claim_of_none hclaimed] at hperform
    obtain rfl := Except.ok.inj (congrArg Prod.snd hperform)
    refine ⟨nofun, ?_⟩
    rintro rfl
    obtain ⟨first, hfirst, -⟩ := hfree.claimed hactive (hbound rfl)
    rw [hclaimed] at hfirst
    cases hfirst
  | some claimed =>
    rw [Store.execute_claim_of_some hclaimed] at hperform
    obtain rfl := Except.ok.inj (congrArg Prod.snd hperform)
    refine ⟨?_, ?_⟩
    · rintro row ⟨⟩
      exact (Store.mem_of_claimed hclaimed).2.1
    · rintro rfl
      obtain ⟨first, hfirst, hle⟩ := hfree.claimed hactive (hbound rfl)
      obtain rfl := Option.some.inj (hclaimed.symm.trans hfirst)
      exact ⟨_, rfl, hle⟩

end Point

/-! ## Passes without bounds -/

/-- A job that comes no later than a row in the order in which a pass looks for jobs: it is of a
queue that is declared before, or of the same queue and not eligible later. -/
def Job.Precedes (names : List String) (row : Row) (job : Job α) : Prop :=
  names.idxOf job.details.queue < names.idxOf row.queue ∨
    job.details.queue = row.queue ∧ job.details.dequeueAfter.instant ≤ row.dequeueAfter

/-- Some queues are left, the queue of a row among them, and only queues before them are remembered.
-/
def Bounds.Leave (names : List String) (row : Row) (bounds : Bounds) (queues : List String) :
    Prop :=
  ∃ seen, names = seen ++ queues ∧ row.queue ∉ seen ∧ ∀ pair ∈ bounds, pair.1 ∈ seen

/-- A pass that has begun without bounds and has not got past a row. -/
def PollStage.Sweeps (names : List String) (row : Row) (bounds : Bounds) : PollStage → Prop
  | .beginning => bounds = []
  | .probing queue rest _ => bounds.Leave names row (queue :: rest)
  | .bounding queue rest _ => bounds.Leave names row (queue :: rest) ∧ queue ≠ row.queue
  | .replanning queue rest bound => bounds.Leave names row (queue :: rest) ∧
    (queue = row.queue → bound ≤ row.dequeueAfter)
  -- The bound of the queue that is looked at is remembered by now.
  | .claiming queue rest notBefore _ => ∃ seen, names = seen ++ queue :: rest ∧
    row.queue ∉ seen ∧ (∀ pair ∈ bounds, pair.1 ∈ seen ∨ pair.1 = queue) ∧
      (queue = row.queue → notBefore ≤ row.dequeueAfter)
  | .abandoning => False

namespace Point

/-- Where such a pass leads: it goes on, or it ends with a job that precedes the row or with an
error. -/
inductive Sweeps (names : List String) (row : Row) (bounds : Bounds) : Point α → Prop where
  | on {session : Nat} {cycle : Cycle} {stage : PollStage} : stage ≠ .beginning →
      stage.Sweeps names row bounds → Sweeps names row bounds (.polling session cycle stage)
  | taken {session : Nat} {job : Job α} : job.Precedes names row →
      Sweeps names row bounds (.working session job .saving)
  | failed {session : Nat} : Sweeps names row bounds (.closing session false)

variable {names : List String} {row : Row} {bounds bounds' : Bounds} {point : Point α}
  {server server' : Server} {attempt : Attempt} {session : Nat} {cycle : Cycle} {queue : String}
  {rest queues seen : List String} {bound now : Instant} {chance : Chance} {entry : Entry}
  {job : Job α}

/-- A pass that is given up for an error does not get past the row. -/
theorem GivesUp.sweeps (h : GivesUp session bounds bounds' point) :
    point.Sweeps names row bounds' := by
  obtain ⟨-, rfl⟩ := h
  exact .failed

/-- A pass that turns to the next queue has not got past the row. -/
theorem Searches.sweeps (h : Searches session cycle bounds queues bounds' point)
    (hmem : row.queue ∈ names) (hleave : bounds.Leave names row queues) :
    point.Sweeps names row bounds' := by
  obtain ⟨rfl, h⟩ := h
  obtain ⟨seen, hnames, hrow, hbounds⟩ := hleave
  cases queues with
  | nil =>
    rw [hnames, List.append_nil] at hmem
    exact absurd hmem hrow
  | cons queue rest =>
    cases hlookup : bounds'.lookup queue with
    | none =>
      simp only [hlookup] at h
      obtain ⟨begun, rfl⟩ := h
      exact .on nofun ⟨seen, hnames, hrow, hbounds⟩
    | some bound =>
      simp only [hlookup] at h
      obtain ⟨begun, rfl⟩ := h
      -- A queue that is declared twice is remembered when its turn comes again.
      obtain ⟨before, after, hsplit, -⟩ := List.lookup_eq_some_iff.1 hlookup
      have hseen : queue ∈ seen := hbounds (queue, bound) (by simp [hsplit])
      exact .on nofun ⟨seen, hnames, hrow, fun pair hpair ↦ .inl (hbounds pair hpair),
        fun hqueue ↦ absurd (hqueue ▸ hseen) hrow⟩

/-- A claim with a bound below the row has not got past it. -/
theorem Claims.sweeps (h : Claims session cycle bounds queue rest bound bounds' point)
    (hleave : bounds.Leave names row (queue :: rest))
    (hbound : queue = row.queue → bound ≤ row.dequeueAfter) :
    point.Sweeps names row bounds' := by
  obtain ⟨rfl, begun, rfl⟩ := h
  obtain ⟨seen, hnames, hrow, hbounds⟩ := hleave
  refine .on nofun ⟨seen, hnames, hrow, fun pair hpair ↦ ?_, hbound⟩
  obtain ⟨hqueue, -⟩ | ⟨-, hold⟩ := Bounds.mem_remember hpair
  · exact .inr hqueue
  · exact .inl (hbounds pair hold)

theorem Finds.sweeps (h : Finds session cycle bounds queue rest bound bounds' point)
    (hleave : bounds.Leave names row (queue :: rest))
    (hbound : queue = row.queue → bound ≤ row.dequeueAfter) :
    point.Sweeps names row bounds' := by
  rcases h with h | ⟨rfl, rfl⟩
  · exact h.sweeps hleave hbound
  · exact .on nofun ⟨hleave, hbound⟩

/-- The queue that is looked at is not declared after the queue of the row. -/
theorem precedes_of_reads {claimed : Row} (hreads : duties.Reads claimed job)
    (hclaimed : claimed.queue = queue) (hnames : names = seen ++ queue :: rest)
    (hrow : row.queue ∉ seen)
    (hle : queue = row.queue → claimed.dequeueAfter ≤ row.dequeueAfter) :
    job.Precedes names row := by
  obtain ⟨_, _, -, -, hdetails⟩ := Row.metadata_eq_ok hreads.1
  have hqueue : job.details.queue = queue := by
    rw [hdetails]
    exact hclaimed
  by_cases hsame : queue = row.queue
  · refine .inr ⟨hqueue.trans hsame, ?_⟩
    rw [Row.instant_of_metadata hreads.1]
    exact hle hsame
  · refine .inl ?_
    have hbefore : names.idxOf queue ≤ seen.length := by
      rw [hnames, List.idxOf_append]
      split
      · exact List.idxOf_le_length
      · simp
    have hafter : seen.length < names.idxOf row.queue := by
      rw [hnames, List.idxOf_append_of_notMem hrow, List.idxOf_cons_ne _ hsame]
      omega
    rw [hqueue]
    omega

/-- As long as a row is free, a pass without bounds does not get past it. -/
theorem PollLeads.sweeps {stage : PollStage} {answer : (@pollCall α session stage).Answer}
    (hfits : (polling session cycle stage : Point α).Fits duties server attempt)
    (hfree : server.store.IsFree session now entry)
    (hmem : entry.row.queue ∈ duties.settings.queueNames)
    (hsweeps : stage.Sweeps duties.settings.queueNames entry.row bounds)
    (hanswer : server.answer now chance (pollCall session stage) = (server', some answer))
    (hleads : PollLeads duties bounds session cycle stage answer bounds' point) :
    point.Sweeps duties.settings.queueNames entry.row bounds' := by
  cases stage with
  | beginning =>
    rcases answer with error | ⟨⟩
    · exact GivesUp.sweeps hleads
    · obtain rfl : bounds = [] := hsweeps
      exact Searches.sweeps hleads hmem ⟨[], rfl, List.not_mem_nil, nofun⟩
  | probing queue rest begun =>
    rcases answer with error | _ | oldest
    · exact GivesUp.sweeps hleads
    · obtain ⟨rfl, rfl⟩ := hleads
      refine .on nofun ⟨hsweeps, fun hqueue ↦ ?_⟩
      obtain ⟨_, hfound, -⟩ := hfits.probes_le hfree.mem hfree.visible
        (hqueue ▸ hfree.isEligible) hanswer
      cases hfound
    · refine Finds.sweeps hleads hsweeps fun hqueue ↦ ?_
      obtain ⟨_, hfound, hle⟩ := hfits.probes_le hfree.mem hfree.visible
        (hqueue ▸ hfree.isEligible) hanswer
      exact Option.some.inj hfound ▸ hle
  | bounding queue rest begun =>
    rcases answer with error | recent
    · exact GivesUp.sweeps hleads
    · exact Finds.sweeps hleads hsweeps.1 fun hqueue ↦ absurd hqueue hsweeps.2
  | replanning queue rest bound =>
    rcases answer with error | ⟨⟩
    · exact GivesUp.sweeps hleads
    · exact Claims.sweeps hleads hsweeps.1 hsweeps.2
  | claiming queue rest notBefore begun =>
    obtain ⟨seen, hnames, hrow, hbounds, hbound⟩ := hsweeps
    rcases answer with error | found
    · exact GivesUp.sweeps hleads
    · obtain ⟨hof, hfinds⟩ := hfits.claims_free hfree hbound hanswer
      cases found with
      | none =>
        have hother : entry.row.queue ≠ queue := by
          rintro rfl
          obtain ⟨_, hfound, -⟩ := hfinds rfl
          cases hfound
        refine Searches.sweeps hleads hmem ⟨seen ++ [queue], ?_, ?_, fun pair hpair ↦ ?_⟩
        · simpa using hnames
        · simpa using ⟨hrow, hother⟩
        · simpa using hbounds pair hpair
      | some claimed =>
        rcases hleads with hleads | ⟨job, hreads, rfl, rfl⟩
        · exact hleads.sweeps
        · refine .taken (precedes_of_reads hreads (hof claimed rfl) hnames hrow fun hqueue ↦ ?_)
          obtain ⟨_, hfound, hle⟩ := hfinds hqueue
          exact Option.some.inj hfound ▸ hle
  | abandoning => exact hsweeps.elim

end Point

/-! ## Counting passes -/

namespace Transition

def endsPass (transition : Transition α) : Bool :=
  transition.source.pollSession?.isSome &&
    (transition.target.pollSession?.isNone || transition.target.isBeginning)

theorem countP_endsPass (transition : Transition α) :
    [transition].countP endsPass = transition.endsPass.toNat := by
  rw [List.countP_singleton]
  cases transition.endsPass <;> rfl

/-- Whether a pass ends with an error, which costs the worker its connection. -/
def failsPass (transition : Transition α) : Bool :=
  match transition.target with
  | .closing _ false => transition.source.pollSession?.isSome
  | _ => false

def Takes (duties : Duties α) (row : Row) (transition : Transition α) : Prop :=
  ∃ session job, transition.target = .working session job .saving ∧
    job.Precedes duties.settings.queueNames row

end Transition

namespace Point

variable {point : Point α}

theorem exists_beginning (h : point.isBeginning = true) :
    ∃ session cycle, point = polling session cycle .beginning := by
  cases point with
  | polling session cycle stage =>
    cases stage <;> first
      | exact ⟨session, cycle, rfl⟩
      | cases h
  | idle | starting | atConnectGate | connecting | atFailureGate | asleep | working | rollingBack
    | closing | crashed => cases h

theorem isSome_pollSession?_of_isBeginning (h : point.isBeginning = true) :
    point.pollSession?.isSome := by
  obtain ⟨session, cycle, rfl⟩ := exists_beginning h
  rfl

theorem exists_polling (h : point.pollSession?.isSome) :
    ∃ session cycle stage, point = polling session cycle stage := by
  cases point with
  | polling session cycle stage => exact ⟨session, cycle, stage, rfl⟩
  | idle | starting | atConnectGate | connecting | atFailureGate | asleep | working | rollingBack
    | closing | crashed => cases h

/-- The call of a worker in a pass is not a pause. -/
theorem call_ne_pause (h : point.pollSession?.isSome) : point.call duties ≠ .pause := by
  obtain ⟨session, cycle, stage, rfl⟩ := exists_polling h
  cases stage <;> nofun

end Point

/-- How far a worker is, after some passes, from claiming a row or a job that precedes it. -/
inductive Member.Approaches (row : Row) (passes : Nat) (member : Member duties) : Prop where
  /-- It is in a pass without bounds, and its call is open. -/
  | sweeping {session : Nat} {cycle : Cycle} {stage : PollStage} :
      passes < duties.settings.rescanPeriod → member.answer? = none →
      member.worker.point = .polling session cycle stage →
      stage.Sweeps duties.settings.queueNames row member.worker.bounds →
      Approaches row passes member
  /-- It is in a pass without bounds, and its call is answered. -/
  | answered {answer : (member.worker.call duties).Answer} :
      passes < duties.settings.rescanPeriod → member.answer? = some answer →
      member.worker.point.pollSession?.isSome →
      (∀ bounds point, member.worker.point.Leads duties member.worker.bounds answer bounds point →
        point.Sweeps duties.settings.queueNames row bounds) → Approaches row passes member
  /-- It is in a pass that has been counted. -/
  | passing : member.worker.point.pollSession?.isSome → 1 ≤ member.worker.countdown →
      member.worker.countdown + passes + 1 ≤ duties.settings.rescanPeriod →
      Approaches row passes member
  /-- It is not in a pass. -/
  | between : member.worker.point.pollSession? = none → passes < duties.settings.rescanPeriod →
      member.worker.countdown + passes ≤ duties.settings.rescanPeriod → Approaches row passes member

namespace Member.Approaches

variable {member : Member duties} {row : Row} {passes : Nat}

/-- Before the period is over there is such a pass. -/
theorem lt_rescanPeriod (h : member.Approaches row passes) :
    passes < duties.settings.rescanPeriod := by
  cases h with
  | sweeping hlt | answered hlt | between _ hlt => exact hlt
  | passing _ hleft hwithin => omega

/-- At the beginning of a pass nothing is lost yet. -/
theorem of_isBeginning (hbegins : member.worker.point.isBeginning = true)
    (hintime : member.worker.IsInTime duties) (hvalid : duties.settings.IsValid)
    (hmem : row.queue ∈ duties.settings.queueNames) : member.Approaches row 0 := by
  have hperiod : 0 < duties.settings.rescanPeriod :=
    Nat.lt_of_lt_of_le hvalid.one_le_rescanEvery (Nat.le_max_left _ _)
  rcases hintime.begun hbegins with hbounds | ⟨hleft, hwithin⟩
  · obtain ⟨session, cycle, hpoint⟩ := Point.exists_beginning hbegins
    obtain ⟨⟨name, bounds, countdown, point⟩, answer?, servedAt, attempt⟩ := member
    subst hpoint hbounds
    cases answer? with
    | none => exact .sweeping hperiod rfl rfl rfl
    | some answer =>
      refine .answered hperiod rfl rfl fun bounds point hleads ↦ ?_
      rcases answer with error | ⟨⟩
      · exact Point.GivesUp.sweeps hleads
      · exact Point.Searches.sweeps hleads hmem ⟨[], rfl, List.not_mem_nil, nofun⟩
  · exact .passing (Point.isSome_pollSession?_of_isBeginning hbegins) hleft (by omega)

/-- A worker whose call is answered is no further away, if the row is free while it is in a pass. -/
theorem answer {world : World duties} {entry : Entry} (h : member.Approaches entry.row passes)
    (hsound : world.Sound) (hmember : member ∈ world.members) (hopen : member.answer? = none)
    (hfree : ∀ session, member.worker.point.pollSession? = some session →
      world.server.store.IsFree session world.now entry)
    (hmem : entry.row.queue ∈ duties.settings.queueNames) (chance : Chance) (attempt : Attempt) :
    (⟨member.worker, (world.server.answer world.now chance (member.worker.call duties)).2,
      world.now, attempt⟩ : Member duties).Approaches entry.row passes := by
  cases h with
  | sweeping hlt _ hpoint hsweeps =>
    have hfits := hsound.fits member hmember
    obtain ⟨⟨name, bounds, countdown, point⟩, answer?, servedAt, attempt'⟩ := member
    subst hpoint
    obtain rfl : answer? = none := hopen
    have hfits := hfits _ _ ⟨rfl, rfl⟩
    generalize hanswer : world.server.answer world.now chance _ = result
    obtain ⟨server', _ | answer⟩ := result
    · exact absurd (Server.pause_of_answer_none hanswer).1 (Point.call_ne_pause rfl)
    · refine .answered hlt rfl rfl fun bounds' point' hleads ↦ ?_
      exact Point.PollLeads.sweeps hfits (hfree _ rfl) hmem hsweeps hanswer hleads
  | answered _ hanswered => simp [hopen] at hanswered
  | passing hpoll hleft hwithin => exact .passing hpoll hleft hwithin
  | between hnone hlt hwithin => exact .between hnone hlt hwithin

/-- A start is no step back. -/
theorem spawn (h : member.Approaches row passes) (hidle : member.worker.point = .idle) :
    member.spawn.Approaches row passes := by
  cases h with
  | sweeping _ _ hpoint =>
    rw [hidle] at hpoint
    cases hpoint
  | answered _ _ hpoll | passing hpoll =>
    rw [hidle] at hpoll
    cases hpoll
  | between _ hlt hwithin => exact .between rfl hlt hwithin

variable {source : Point α} {worker : Worker α} {countdown : Int}

/-- A pass without bounds goes on, unless it claims the row or a job that precedes it. -/
theorem of_sweeps
    (hsweeps : worker.point.Sweeps duties.settings.queueNames row worker.bounds)
    (hlt : passes < duties.settings.rescanPeriod) (hsource : source.pollSession?.isSome)
    (hclean : Transition.failsPass ⟨source, worker.point⟩ = false) (servedAt : Instant)
    (attempt : Attempt) :
    Transition.Takes duties row ⟨source, worker.point⟩ ∨
      (⟨worker, none, servedAt, attempt⟩ : Member duties).Approaches row
        (passes + (Transition.endsPass ⟨source, worker.point⟩).toNat) := by
  generalize htarget : worker.point = target at hsweeps hclean ⊢
  cases hsweeps with
  | @on session cycle stage hstage hsweeps =>
    have hends : Transition.endsPass ⟨source, .polling session cycle stage⟩ = false := by
      cases stage <;> first
        | exact absurd rfl hstage
        | exact Bool.and_false _
    rw [hends]
    exact .inr (.sweeping hlt rfl htarget hsweeps)
  | taken hprecedes => exact .inl ⟨_, _, rfl, hprecedes⟩
  | failed =>
    rw [Transition.failsPass, hsource] at hclean
    cases hclean

/-- A pass that has been counted goes on, or it ends and the worker is closer by one pass. -/
theorem of_passing (hcounts : Counts duties source worker countdown)
    (hsource : source.pollSession?.isSome) (hleft : 1 ≤ countdown)
    (hwithin : countdown + passes + 1 ≤ duties.settings.rescanPeriod) (servedAt : Instant)
    (attempt : Attempt) :
    (⟨worker, none, servedAt, attempt⟩ : Member duties).Approaches row
      (passes + (Transition.endsPass ⟨source, worker.point⟩).toNat) := by
  have hends : Transition.endsPass ⟨source, worker.point⟩ =
      (worker.point.pollSession?.isNone || worker.point.isBeginning) := by
    rw [Transition.endsPass, hsource, Bool.true_and]
  rw [hends]
  cases hcounts with
  | cleared hbegins hbounds =>
    obtain ⟨session, cycle, hpoint⟩ := Point.exists_beginning hbegins
    rw [hbegins, Bool.or_true, Bool.toNat_true]
    exact .sweeping (by omega) rfl hpoint hbounds
  | counted hbegins hleft' hcounted =>
    rw [hbegins, Bool.or_true, Bool.toNat_true]
    exact .passing (Point.isSome_pollSession?_of_isBeginning hbegins) hleft' (by dsimp only; omega)
  | kept _ hpoll hnot hsame =>
    rw [hnot, Option.isNone_eq_false_iff.2 hpoll, Bool.or_false, Bool.toNat_false]
    exact .passing hpoll (by dsimp only; omega) (by dsimp only; omega)
  | rested hnone hsame =>
    rw [hnone, Option.isNone_none, Bool.true_or, Bool.toNat_true]
    exact .between hnone (by omega) (by dsimp only; omega)
  | expired hnone hzero =>
    rw [hnone, Option.isNone_none, Bool.true_or, Bool.toNat_true]
    exact .between hnone (by omega) (by dsimp only; omega)

/-- Between passes a worker stays, or it begins a pass, which brings it no closer yet. -/
theorem of_between (hcounts : Counts duties source worker countdown)
    (hsource : source.pollSession? = none) (hlt : passes < duties.settings.rescanPeriod)
    (hwithin : countdown + passes ≤ duties.settings.rescanPeriod) (servedAt : Instant)
    (attempt : Attempt) :
    (⟨worker, none, servedAt, attempt⟩ : Member duties).Approaches row
      (passes + (Transition.endsPass ⟨source, worker.point⟩).toNat) := by
  have hends : Transition.endsPass ⟨source, worker.point⟩ = false := by
    rw [Transition.endsPass, hsource, Option.isSome_none, Bool.false_and]
  rw [hends, Bool.toNat_false, Nat.add_zero]
  cases hcounts with
  | cleared hbegins hbounds =>
    obtain ⟨session, cycle, hpoint⟩ := Point.exists_beginning hbegins
    exact .sweeping hlt rfl hpoint hbounds
  | counted hbegins hleft hcounted =>
    exact .passing (Point.isSome_pollSession?_of_isBeginning hbegins) hleft (by dsimp only; omega)
  | kept hpoll => simp [hsource] at hpoll
  | rested hnone hsame => exact .between hnone hlt (by dsimp only; omega)
  | expired hnone hzero => exact .between hnone hlt (by dsimp only; omega)

/-- A worker that goes on takes the row or a job that precedes it, or it is closer by the pass that
ends, if one does. -/
theorem resume {shared : Shared} {moment : Moment} {answer : (member.worker.call duties).Answer}
    (h : member.Approaches row passes) (hready : member.ready shared moment = some answer)
    (hworker : worker = (member.worker.resume duties moment shared answer).worker)
    (hclean : Transition.failsPass ⟨member.worker.point, worker.point⟩ = false) (servedAt : Instant)
    (attempt : Attempt) :
    Transition.Takes duties row ⟨member.worker.point, worker.point⟩ ∨
      (⟨worker, none, servedAt, attempt⟩ : Member duties).Approaches row
        (passes + (Transition.endsPass ⟨member.worker.point, worker.point⟩).toNat) := by
  have hcounts := member.worker.resume_counts duties moment shared answer
  have hleads := member.worker.resume_leads duties moment shared answer
  rw [← hworker] at hcounts hleads
  have hanswered (hpoll : member.worker.point.pollSession?.isSome) : member.answer? = some answer :=
    (Member.ready_cases hready).resolve_right fun hpause ↦ Point.call_ne_pause hpoll hpause.2
  cases h with
  | sweeping _ hopen hpoint =>
    have hsome := hanswered (by rw [hpoint]; rfl)
    simp [hopen] at hsome
  | answered hlt hsome hpoll hsweeps =>
    obtain rfl := Option.some.inj (hsome.symm.trans (hanswered hpoll))
    exact of_sweeps (hsweeps _ _ hleads) hlt hpoll hclean servedAt attempt
  | passing hpoll hleft hwithin =>
    exact .inr (of_passing hcounts hpoll hleft hwithin servedAt attempt)
  | between hnone hlt hwithin =>
    exact .inr (of_between hcounts hnone hlt hwithin servedAt attempt)

end Member.Approaches

/-! ## Runs -/

def World.pollSession? (world : World duties) (number : Nat) : Option Nat :=
  (world.members[number]?).bind fun member ↦ member.worker.point.pollSession?

namespace OpenRun

variable {start world : World duties} {past : Past duties} {number : Nat} {member : Member duties}
  {entry : Entry}

/-- As long as a worker has not taken a free row or a job that precedes it, it is closer by each
pass that has ended. -/
theorem takes_or_approaches (run : OpenRun start past world) (hstart : start.Sound)
    (hmember : start.members[number]? = some member) (happroaches : member.Approaches entry.row 0)
    (hmem : entry.row.queue ∈ duties.settings.queueNames)
    (hfree : ∀ pair ∈ past, ∀ session ∈ pair.1.pollSession? number,
      pair.1.server.store.IsFree session pair.1.now entry)
    (hclean : ∀ transition ∈ past.transitions number, transition.failsPass = false) :
    (∃ transition ∈ past.transitions number, transition.Takes duties entry.row) ∨
      ∃ member, world.members[number]? = some member ∧ member.Approaches entry.row
        ((past.transitions number).countP Transition.endsPass) := by
  induction run with
  | rest => exact .inr ⟨member, hmember, happroaches⟩
  | write _ _ ih => exact ih hfree hclean
  | @move past world move run' ih =>
    rw [Past.transitions_cons] at hclean ⊢
    simp only [List.mem_append] at hclean ⊢
    obtain ⟨transition, htransition, htakes⟩ | ⟨member', hmember', happroaches'⟩ :=
      ih (fun pair hpair ↦ hfree pair (List.mem_cons_of_mem _ hpair))
        fun transition htransition ↦ hclean transition (.inl htransition)
    · exact .inl ⟨transition, .inl htransition, htakes⟩
    have hsound := run'.sound hstart
    have hfree' := hfree (world, move) List.mem_cons_self
    obtain ⟨member'', hmember'', hstep⟩ := hsound.proceeds hmember' move
    have hclean' (transition : Transition α)
        (h : world.transition? number move = some transition) : transition.failsPass = false :=
      hclean transition (.inr (by simp [h]))
    rcases hstep with hproceeds | ⟨hidle, hnone, rfl⟩
    · generalize world.transition? number move = transition? at hproceeds hclean' ⊢
      cases hproceeds with
      | rested => exact .inr ⟨_, hmember'', by simpa using happroaches'⟩
      | @answered chance attempt hopen =>
        refine .inr ⟨_, hmember'', ?_⟩
        have hanswered := happroaches'.answer hsound (List.mem_of_getElem? hmember') hopen
          (fun session hsession ↦ hfree' session ?_) hmem chance attempt
        · simpa using hanswered
        · simp [World.pollSession?, hmember', hsession]
      | @resumed answer worker hready hworker =>
        have hresumed := happroaches'.resume hready hworker (hclean' _ rfl) member'.servedAt
          member'.attempt
        rcases hresumed with htakes | hcloser
        · exact .inl ⟨_, .inr (List.mem_singleton.2 rfl), htakes⟩
        · refine .inr ⟨_, hmember'', ?_⟩
          rw [List.countP_append, Option.toList_some, Transition.countP_endsPass]
          exact hcloser
    · refine .inr ⟨_, hmember'', ?_⟩
      simpa [hnone] using happroaches'.spawn hidle

/-- No row is passed over for long. A row of a declared queue that is free while a worker makes so
many passes, none of which meets an error, is claimed in one of them, or a job that precedes it is;
whatever the other workers do in the meantime, and whatever others write to the tables. -/
theorem takes_within_rescanPeriod {workers : Nat} {shared : Shared} {now : Instant}
    {earlier : Past duties} (hvalid : duties.settings.IsValid)
    (hstart : OpenRun (World.initial duties workers shared now) earlier start)
    (hmember : start.members[number]? = some member)
    (hbegins : member.worker.point.isBeginning = true) (run : OpenRun start past world)
    (hmem : entry.row.queue ∈ duties.settings.queueNames)
    (hfree : ∀ pair ∈ past, ∀ session ∈ pair.1.pollSession? number,
      pair.1.server.store.IsFree session pair.1.now entry)
    (hclean : ∀ transition ∈ past.transitions number, transition.failsPass = false)
    (hpasses : max duties.settings.rescanEvery duties.settings.idleRescanEvery ≤
      (past.transitions number).countP Transition.endsPass) :
    ∃ transition ∈ past.transitions number, transition.Takes duties entry.row := by
  have hintime := hstart.isInTime member (List.mem_of_getElem? hmember)
  have happroaches := Member.Approaches.of_isBeginning hbegins hintime hvalid hmem
  rcases run.takes_or_approaches (hstart.sound (.initial ..)) hmember happroaches hmem hfree hclean
    with htakes | ⟨member', -, happroaches'⟩
  · exact htakes
  · exact absurd happroaches'.lt_rescanPeriod (Nat.not_lt.2 hpasses)

end OpenRun

namespace Sample

def brisk : Duties (List Cell) :=
  ⟨{ Settings.default with queueNames := ["a"], rescanEvery := 2, idleRescanEvery := 2 },
    ⟨.ok, id⟩, none⟩

/-- A worker has served two of three rows and begins a pass, with the second as its bound. -/
def servingMoves : List Move :=
  [.produce (row 5 [.whole 0]) ⟨0⟩, .produce (row 6 [.whole 1]) ⟨0⟩,
    .produce (row 7 [.whole 2]) ⟨0⟩, .start, .resume 0] ++ rounds 0 (smooth 15)

def serving : Past brisk × World brisk :=
  (World.initial brisk 1 shared ⟨10000000000⟩).play servingMoves

/-- Somebody brings back a row that was eligible before all of them. -/
def latecomer : Entry := ⟨3, ⟨0⟩, row 3 [.whole 3]⟩

def joined : World brisk :=
  serving.2.withServer { serving.2.server with
    store := serving.2.server.store.produce latecomer.row latecomer.visibleFrom }

/-- The third row is served, and the next pass finds the latecomer. -/
def catchingUp : Past brisk × World brisk := joined.play (rounds 0 (smooth 9))

end Sample

theorem takes_within_rescanPeriod_of_latecomer :
    (Sample.catchingUp.1.transitions 0).countP Transition.endsPass = 2 ∧
    ∃ transition ∈ Sample.catchingUp.1.transitions 0,
      transition.Takes Sample.brisk Sample.latecomer.row :=
  have hserving := (Run.play (World.initial Sample.brisk 1 Sample.shared ⟨10000000000⟩)
    Sample.servingMoves)
  ⟨by decide +kernel,
    OpenRun.takes_within_rescanPeriod ⟨by decide, by decide, by decide, by decide⟩
      ((OpenRun.of_run hserving).write
        ((World.Sound.of_run hserving).server.store.tolerates_produce _ _))
      rfl rfl (.of_run (Run.play Sample.joined (Sample.rounds 0 (Sample.smooth 9))))
      (by decide) (by decide +kernel) (by decide +kernel) (by decide +kernel)⟩

end TableQueue
