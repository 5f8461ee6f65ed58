import TableQueue.Proofs.Cadence
import TableQueue.Proofs.Rescans

/-!
# What a worker leaves behind when it falls asleep

A worker that finds nothing falls asleep only after a pass that has begun without bounds. Such a pass
probes each queue and then claims with the bound that the probe has found, which hides none of the
rows that the probe could see. So none of them is left for the worker when the claim finds nothing,
whatever others have done to the tables in between.
-/

namespace TableQueue

variable {α : Type} {duties : Duties α}

/-! ## Probes and claims -/

namespace Sight

/-- A row that a probe could see: it was visible and eligible in the queue of the probe. A row that is
changed later is another row. -/
structure Shows (probe : Sight duties) (entry : Entry) : Prop where
  mem : entry ∈ probe.world.server.store.queue
  visible : entry.visibleFrom ≤ probe.world.now
  eligible : Store.isEligible entry.row probe.queue probe.world.now = true

/-- Of the rows that a probe could see, all that were still there when a claim was made were
locked. -/
def Exhausts (claim probe : Sight duties) : Prop :=
  ∀ entry, probe.Shows entry → entry ∈ claim.world.server.store.queue →
    claim.world.server.store.isLocked claim.session entry.number = true

/-- A bound hides no row that a probe could see. -/
def Underlies (probe : Sight duties) (bound : Instant) : Prop :=
  ∀ entry, probe.Shows entry → bound ≤ entry.row.dequeueAfter

end Sight

/-- In some queues nothing was left of what the probes could see when the claims were made. -/
structure Exhausts (queues : List String) (sights : List (Sight duties)) : Prop where
  probed : ∀ queue ∈ queues, ∃ probe ∈ sights, probe.isClaim = false ∧ probe.queue = queue
  claimed : ∀ queue ∈ queues, ∃ claim ∈ sights, claim.isClaim = true ∧ claim.queue = queue
  left : ∀ probe ∈ sights, ∀ claim ∈ sights, probe.isClaim = false → claim.isClaim = true →
    claim.queue = probe.queue → claim.Exhausts probe

/-! ## Passes that begin without bounds -/

/-- What has been seen in some queues, and in one more whose bound is not remembered yet. -/
structure Explores (seen : List String) (present? : Option String) (now : Instant)
    (bounds : Bounds) (sights : List (Sight duties)) : Prop where
  exhausts : Exhausts seen sights
  remembered : ∀ sight ∈ sights,
    (∃ pair ∈ bounds, pair.1 = sight.queue) ∨ present? = some sight.queue
  probed : ∀ pair ∈ bounds, ∃ probe ∈ sights, probe.isClaim = false ∧ probe.queue = pair.1
  bounded : ∀ pair ∈ bounds, ∀ probe ∈ sights, probe.isClaim = false → probe.queue = pair.1 →
    probe.Underlies pair.2
  past : ∀ sight ∈ sights, sight.world.now ≤ now

/-- A bound has been found for a queue and is not remembered yet. -/
def Discovers (names : List String) (now : Instant) (bounds : Bounds)
    (sights : List (Sight duties)) (queue : String) (rest : List String) (bound : Instant) : Prop :=
  ∃ seen, names = seen ++ queue :: rest ∧ Explores seen (some queue) now bounds sights ∧
    (∃ probe ∈ sights, probe.isClaim = false ∧ probe.queue = queue) ∧
    ∀ probe ∈ sights, probe.isClaim = false → probe.queue = queue → probe.Underlies bound

/-- What has been seen in a pass that began without bounds. -/
def PollStage.Explores (names : List String) (now : Instant) (bounds : Bounds)
    (sights : List (Sight duties)) : PollStage → Prop
  | .beginning => bounds = [] ∧ sights = []
  | .probing queue rest _ => ∃ seen, names = seen ++ queue :: rest ∧
    TableQueue.Explores seen none now bounds sights ∧ ∀ pair ∈ bounds, pair.1 ≠ queue
  -- The probe could see nothing, so that any bound will do.
  | .bounding queue rest _ => ∀ bound, Discovers names now bounds sights queue rest bound
  | .replanning queue rest bound => Discovers names now bounds sights queue rest bound
  | .claiming queue rest notBefore _ => ∃ seen, names = seen ++ queue :: rest ∧
    TableQueue.Explores seen none now bounds sights ∧ (queue, notBefore) ∈ bounds
  | .abandoning => Exhausts names sights

/-- Where such a pass leads, as long as it goes on. -/
def Point.Explores (names : List String) (now : Instant) (bounds : Bounds)
    (sights : List (Sight duties)) : Point α → Prop
  | polling _ _ stage => stage ≠ .beginning → stage.Explores names now bounds sights
  | _ => True

namespace Explores

variable {seen names rest : List String} {present? : Option String} {now now' : Instant}
  {bounds : Bounds} {sights : List (Sight duties)} {queue : String} {bound : Instant}
  {probe claim : Sight duties}

/-- Nothing has been seen at the beginning. -/
theorem nil : Explores [] present? now [] ([] : List (Sight duties)) :=
  have hnone {β : Type} {p : β → Prop} : ∀ element ∈ ([] : List β), p element :=
    fun _ h ↦ absurd h List.not_mem_nil
  ⟨⟨hnone, hnone, hnone⟩, hnone, hnone, hnone, hnone⟩

theorem mono (h : Explores seen present? now bounds sights) (hle : now ≤ now') :
    Explores seen present? now' bounds sights :=
  ⟨h.exhausts, h.remembered, h.probed, h.bounded,
    fun sight hsight ↦ Int.le_trans (h.past sight hsight) hle⟩

/-- A queue without a bound has not been looked into. -/
theorem queue_ne (h : Explores seen none now bounds sights) (hqueue : ∀ pair ∈ bounds, pair.1 ≠ queue)
    {sight : Sight duties} (hsight : sight ∈ sights) : sight.queue ≠ queue := by
  rcases h.remembered sight hsight with ⟨pair, hpair, hremembered⟩ | hpresent
  · exact hremembered ▸ hqueue pair hpair
  · cases hpresent

/-- A queue without a bound is probed. -/
theorem cons_probe (h : Explores seen none now bounds sights) (hqueue : ∀ pair ∈ bounds, pair.1 ≠ queue)
    (hprobe : probe.isClaim = false) (hof : probe.queue = queue) (hnow : probe.world.now ≤ now) :
    Explores seen (some queue) now bounds (probe :: sights) := by
  have hother (pair : String × Instant) (hpair : pair ∈ bounds) : probe.queue ≠ pair.1 := by
    rw [hof]
    exact (hqueue pair hpair).symm
  refine ⟨⟨fun other hmem ↦ ?_, fun other hmem ↦ ?_, ?_⟩, ?_, fun pair hpair ↦ ?_, ?_, ?_⟩
  · obtain ⟨sight, hsight, hof⟩ := h.exhausts.probed other hmem
    exact ⟨sight, List.mem_cons_of_mem _ hsight, hof⟩
  · obtain ⟨sight, hsight, hof⟩ := h.exhausts.claimed other hmem
    exact ⟨sight, List.mem_cons_of_mem _ hsight, hof⟩
  · intro first hfirst claim hclaim hisProbe hisClaim hsame
    rcases List.mem_cons.1 hclaim with rfl | hclaimed
    · simp [hprobe] at hisClaim
    · rcases List.mem_cons.1 hfirst with rfl | hprobed
      · exact absurd (hsame.trans hof) (h.queue_ne hqueue hclaimed)
      · exact h.exhausts.left first hprobed claim hclaimed hisProbe hisClaim hsame
  · intro sight hsight
    rcases List.mem_cons.1 hsight with rfl | hsight
    · exact .inr (congrArg some hof.symm)
    · exact .inl ((h.remembered sight hsight).resolve_right nofun)
  · obtain ⟨sight, hsight, hof⟩ := h.probed pair hpair
    exact ⟨sight, List.mem_cons_of_mem _ hsight, hof⟩
  · intro pair hpair first hfirst hisProbe hsame
    rcases List.mem_cons.1 hfirst with rfl | hfirst
    · exact absurd hsame (hother pair hpair)
    · exact h.bounded pair hpair first hfirst hisProbe hsame
  · intro sight hsight
    rcases List.mem_cons.1 hsight with rfl | hsight
    · exact hnow
    · exact h.past sight hsight

/-- A probe that hides nothing behind a bound discovers it. -/
theorem discovers (h : Explores seen none now bounds sights) (hnames : names = seen ++ queue :: rest)
    (hqueue : ∀ pair ∈ bounds, pair.1 ≠ queue) (hprobe : probe.isClaim = false)
    (hof : probe.queue = queue) (hnow : probe.world.now ≤ now) (hbound : probe.Underlies bound) :
    Discovers names now bounds (probe :: sights) queue rest bound := by
  refine ⟨seen, hnames, h.cons_probe hqueue hprobe hof hnow,
    ⟨probe, List.mem_cons_self, hprobe, hof⟩, ?_⟩
  intro other hother _ hsame
  rcases List.mem_cons.1 hother with rfl | hother
  · exact hbound
  · exact absurd hsame (h.queue_ne hqueue hother)

/-- A bound that has been discovered is remembered. -/
theorem of_discovers (h : Discovers names now bounds sights queue rest bound) :
    ∃ seen, names = seen ++ queue :: rest ∧
      Explores seen none now (bounds.remember queue bound) sights ∧
        (queue, bound) ∈ bounds.remember queue bound := by
  obtain ⟨seen, hnames, hexplores, hprobed, hbound⟩ := h
  refine ⟨seen, hnames, ⟨hexplores.exhausts, fun sight hsight ↦ .inl ?_, fun pair hpair ↦ ?_,
    fun pair hpair ↦ ?_, hexplores.past⟩, List.mem_cons_self⟩
  · by_cases hsame : sight.queue = queue
    · exact ⟨(queue, bound), List.mem_cons_self, hsame.symm⟩
    · rcases hexplores.remembered sight hsight with ⟨pair, hpair, hof⟩ | hpresent
      · refine ⟨pair, List.mem_cons_of_mem _ (List.mem_filter.2 ⟨hpair, ?_⟩), hof⟩
        simpa [hof] using hsame
      · exact absurd (Option.some.inj hpresent).symm hsame
  · obtain ⟨rfl, rfl⟩ | ⟨-, hold⟩ := Bounds.mem_remember hpair
    · exact hprobed
    · exact hexplores.probed pair hold
  · obtain ⟨hqueue, hlimit⟩ | ⟨-, hold⟩ := Bounds.mem_remember hpair
    · rw [hqueue, hlimit]
      exact hbound
    · exact hexplores.bounded pair hold

/-- A queue from which a claim gets nothing is exhausted. -/
theorem cons_claim (h : Explores seen none now bounds sights) (hbound : (queue, bound) ∈ bounds)
    (hclaim : claim.isClaim = true) (hof : claim.queue = queue) (hnow : claim.world.now ≤ now)
    (hexhausts : ∀ probe ∈ sights, probe.isClaim = false → probe.queue = queue →
      claim.Exhausts probe) :
    Explores (seen ++ [queue]) none now bounds (claim :: sights) := by
  refine ⟨⟨fun other hmem ↦ ?_, fun other hmem ↦ ?_, ?_⟩, ?_, fun pair hpair ↦ ?_, ?_, ?_⟩
  · rcases List.mem_append.1 hmem with hold | hnew
    · obtain ⟨sight, hsight, hof⟩ := h.exhausts.probed other hold
      exact ⟨sight, List.mem_cons_of_mem _ hsight, hof⟩
    · obtain ⟨sight, hsight, hof⟩ := h.probed _ hbound
      rw [List.mem_singleton.1 hnew]
      exact ⟨sight, List.mem_cons_of_mem _ hsight, hof⟩
  · rcases List.mem_append.1 hmem with hold | hnew
    · obtain ⟨sight, hsight, hof⟩ := h.exhausts.claimed other hold
      exact ⟨sight, List.mem_cons_of_mem _ hsight, hof⟩
    · rw [List.mem_singleton.1 hnew]
      exact ⟨claim, List.mem_cons_self, hclaim, hof⟩
  · intro probe hprobe other hother hisProbe hisClaim hsame
    rcases List.mem_cons.1 hprobe with rfl | hprobed
    · simp [hclaim] at hisProbe
    · rcases List.mem_cons.1 hother with rfl | hclaimed
      · exact hexhausts probe hprobed hisProbe (hsame.symm.trans hof)
      · exact h.exhausts.left probe hprobed other hclaimed hisProbe hisClaim hsame
  · intro sight hsight
    rcases List.mem_cons.1 hsight with rfl | hsight
    · exact .inl ⟨_, hbound, hof.symm⟩
    · exact h.remembered sight hsight
  · obtain ⟨sight, hsight, hof⟩ := h.probed pair hpair
    exact ⟨sight, List.mem_cons_of_mem _ hsight, hof⟩
  · intro pair hpair probe hprobe hisProbe hsame
    rcases List.mem_cons.1 hprobe with rfl | hprobe
    · simp [hclaim] at hisProbe
    · exact h.bounded pair hpair probe hprobe hisProbe hsame
  · intro sight hsight
    rcases List.mem_cons.1 hsight with rfl | hsight
    · exact hnow
    · exact h.past sight hsight

end Explores

/-! ## Where such a pass leads -/

namespace Point

variable {names seen queues rest : List String} {now : Instant} {bounds bounds' : Bounds}
  {sights : List (Sight duties)} {point : Point α} {session : Nat} {cycle : Cycle} {queue : String}
  {bound : Instant} {world : World duties} {server' : Server} {attempt : Attempt} {chance : Chance}

theorem IsResting.explores (h : point.IsResting session) :
    point.Explores names now bounds sights := by
  cases point with
  | closing | atFailureGate | asleep => trivial
  | polling other cycle stage =>
    cases stage <;> first
      | exact fun hne ↦ absurd rfl hne
      | exact h.elim
  | idle | starting | atConnectGate | connecting | working | rollingBack | crashed => exact h.elim

theorem GivesUp.explores (h : GivesUp session bounds bounds' point) :
    point.Explores names now bounds' sights := by
  rw [h.2]
  trivial

/-- A pass that turns to the next queue has left nothing in those before it. -/
theorem Searches.explores (h : Searches session cycle bounds queues bounds' point)
    (hnames : names = seen ++ queues) (hexplores : TableQueue.Explores seen none now bounds sights) :
    point.Explores names now bounds' sights := by
  obtain ⟨rfl, h⟩ := h
  cases queues with
  | nil =>
    rw [List.append_nil] at hnames
    rw [h, hnames]
    exact fun _ ↦ hexplores.exhausts
  | cons queue rest =>
    cases hlookup : bounds'.lookup queue with
    | none =>
      simp only [hlookup] at h
      obtain ⟨begun, rfl⟩ := h
      refine fun _ ↦ ⟨seen, hnames, hexplores, fun pair hpair hsame ↦ ?_⟩
      have hne := List.lookup_eq_none_iff.1 hlookup pair hpair
      simp [hsame] at hne
    | some bound =>
      simp only [hlookup] at h
      obtain ⟨begun, rfl⟩ := h
      obtain ⟨before, after, hsplit, -⟩ := List.lookup_eq_some_iff.1 hlookup
      exact fun _ ↦ ⟨seen, hnames, hexplores, by simp [hsplit]⟩

/-- A claim follows the bound that has been found for its queue. -/
theorem Claims.explores (h : Claims session cycle bounds queue rest bound bounds' point)
    (hdiscovers : Discovers names now bounds sights queue rest bound) :
    point.Explores names now bounds' sights := by
  obtain ⟨rfl, begun, rfl⟩ := h
  exact fun _ ↦ TableQueue.Explores.of_discovers hdiscovers

theorem Finds.explores (h : Finds session cycle bounds queue rest bound bounds' point)
    (hdiscovers : Discovers names now bounds sights queue rest bound) :
    point.Explores names now bounds' sights := by
  rcases h with h | ⟨rfl, rfl⟩
  · exact h.explores hdiscovers
  · exact fun _ ↦ hdiscovers

/-- A probe that sees nothing hides nothing, and one that finds a bound hides nothing behind it. -/
theorem Fits.underlies (probe : Sight duties) {begun : Instant} {found : Option Instant}
    (hfits : (polling session cycle (.probing queue rest begun) : Point α).Fits duties
      probe.world.server attempt) (hof : probe.queue = queue)
    (hanswer : probe.world.server.answer probe.world.now chance
      (.execute session (.oldest queue) : Call α) = (server', some (.ok found)))
    (hbound : ∀ oldest, found = some oldest → bound = oldest) : probe.Underlies bound := by
  intro entry hshown
  obtain ⟨oldest, hfound, hle⟩ := hfits.probes_le hshown.mem hshown.visible
    (hof ▸ hshown.eligible) hanswer
  exact hbound oldest hfound ▸ hle

/-- A claim that gets nothing leaves nothing of what was visible before, unless the bound hides it.
-/
theorem Fits.exhausts (claim probe : Sight duties) {notBefore begun : Instant}
    (hfits : (polling session cycle (.claiming queue rest notBefore begun) : Point α).Fits duties
      claim.world.server attempt) (hsession : claim.session = session)
    (hof : probe.queue = queue) (hnow : probe.world.now ≤ claim.world.now)
    (hbound : probe.Underlies notBefore)
    (hanswer : claim.world.server.answer claim.world.now chance
      (.execute session (.claim queue notBefore) : Call α) = (server', some (.ok none))) :
    claim.Exhausts probe := by
  intro entry hshown hmem
  by_contra hlocked
  obtain ⟨hqueue, heligible⟩ : entry.row.queue = queue ∧
      entry.row.dequeueAfter ≤ probe.world.now := by
    simpa [Store.isEligible, hof] using hshown.eligible
  have hfree : claim.world.server.store.IsFree session claim.world.now entry :=
    ⟨hmem, Int.le_trans hshown.visible hnow, Int.le_trans heligible hnow,
      hsession ▸ Bool.eq_false_iff.2 hlocked⟩
  obtain ⟨-, hfinds⟩ := hfits.claims_free hfree (fun _ ↦ hbound entry hshown) hanswer
  obtain ⟨_, hfound, -⟩ := hfinds hqueue.symm
  cases hfound

/-- A pass that began without bounds goes on. -/
theorem PollLeads.explores {stage : PollStage} {answer : (@pollCall α session stage).Answer}
    (hfits : (polling session cycle stage : Point α).Fits duties world.server attempt)
    (hexplores : stage.Explores duties.settings.queueNames world.now bounds sights)
    (hanswer : world.server.answer world.now chance (pollCall session stage) =
      (server', some answer))
    (hleads : PollLeads duties bounds session cycle stage answer bounds' point) :
    point.Explores duties.settings.queueNames world.now bounds'
      (((polling session cycle stage : Point α).sight? world answer).toList ++ sights) := by
  cases stage with
  | beginning =>
    rcases answer with error | ⟨⟩
    · exact GivesUp.explores hleads
    · obtain ⟨rfl, rfl⟩ := hexplores
      exact Searches.explores hleads rfl .nil
  | probing queue rest begun =>
    rcases answer with error | found
    · exact GivesUp.explores hleads
    · obtain ⟨seen, hnames, hseen, hqueue⟩ := hexplores
      have hdiscovers (bound : Instant) (hbound : ∀ oldest, found = some oldest → bound = oldest) :
          Discovers duties.settings.queueNames world.now bounds
            (⟨false, world, session, queue⟩ :: sights) queue rest bound :=
        hseen.discovers hnames hqueue rfl rfl (Int.le_refl _)
          (Fits.underlies ⟨false, world, session, queue⟩ hfits rfl hanswer hbound)
      cases found with
      | none =>
        obtain ⟨rfl, rfl⟩ := hleads
        exact fun _ bound ↦ hdiscovers bound nofun
      | some oldest => exact Finds.explores hleads (hdiscovers oldest fun _ h ↦ Option.some.inj h)
  | bounding queue rest begun =>
    rcases answer with error | recent
    · exact GivesUp.explores hleads
    · exact Finds.explores hleads (hexplores recent)
  | replanning queue rest bound =>
    rcases answer with error | ⟨⟩
    · exact GivesUp.explores hleads
    · exact Claims.explores hleads hexplores
  | claiming queue rest notBefore begun =>
    rcases answer with error | _ | row
    · exact GivesUp.explores hleads
    · obtain ⟨seen, hnames, hseen, hbound⟩ := hexplores
      refine Searches.explores hleads (hnames.trans (List.append_cons ..))
        (hseen.cons_claim hbound rfl rfl (Int.le_refl _) fun probe hprobe hisProbe hof ↦ ?_)
      exact Fits.exhausts ⟨true, world, session, queue⟩ probe hfits rfl hof
        (hseen.past probe hprobe) (hseen.bounded _ hbound probe hprobe hisProbe hof) hanswer
    · rcases hleads with hleads | ⟨job, -, -, rfl⟩
      · exact hleads.explores
      · trivial
  | abandoning =>
    rcases answer with error | ⟨⟩
    · exact GivesUp.explores hleads
    · exact hleads.1.explores

end Point

/-! ## A worker in such a pass -/

/-- What a member says about a pass that began without bounds, while the pass is under way. -/
inductive Member.Explores (now : Instant) (sights : List (Sight duties)) (member : Member duties) :
    Prop where
  | asking {session : Nat} {cycle : Cycle} {stage : PollStage} :
      member.answer? = none → member.worker.point = .polling session cycle stage →
      stage.Explores duties.settings.queueNames now member.worker.bounds sights →
      Member.Explores now sights member
  | answered {answer : (member.worker.call duties).Answer} {session : Nat} {cycle : Cycle}
      {stage : PollStage} :
      member.answer? = some answer → member.worker.point = .polling session cycle stage →
      (stage = .abandoning → Exhausts duties.settings.queueNames sights) →
      (∀ bounds point, member.worker.point.Leads duties member.worker.bounds answer bounds point →
        point.Explores duties.settings.queueNames now bounds sights) →
      Member.Explores now sights member
  | away : member.worker.point.pollSession? = none → Member.Explores now sights member

theorem PollStage.Explores.mono {names : List String} {now now' : Instant} {bounds : Bounds}
    {sights : List (Sight duties)} {stage : PollStage}
    (h : stage.Explores names now bounds sights) (hle : now ≤ now') :
    stage.Explores names now' bounds sights := by
  have hdiscovers {queue : String} {rest : List String} {bound : Instant}
      (h : Discovers names now bounds sights queue rest bound) :
      Discovers names now' bounds sights queue rest bound := by
    obtain ⟨seen, hnames, hseen, hfound⟩ := h
    exact ⟨seen, hnames, hseen.mono hle, hfound⟩
  cases stage with
  | beginning | abandoning => exact h
  | probing =>
    obtain ⟨seen, hnames, hseen, hqueue⟩ := h
    exact ⟨seen, hnames, hseen.mono hle, hqueue⟩
  | bounding => exact fun bound ↦ hdiscovers (h bound)
  | replanning => exact hdiscovers h
  | claiming =>
    obtain ⟨seen, hnames, hseen, hbound⟩ := h
    exact ⟨seen, hnames, hseen.mono hle, hbound⟩

theorem Point.Explores.mono {names : List String} {now now' : Instant} {bounds : Bounds}
    {sights : List (Sight duties)} {point : Point α} (h : point.Explores names now bounds sights)
    (hle : now ≤ now') : point.Explores names now' bounds sights := by
  cases point with
  | polling => exact fun hstage ↦ (h hstage).mono hle
  | idle | starting | atConnectGate | connecting | atFailureGate | asleep | working | rollingBack
    | closing | crashed => trivial

namespace Member.Explores

variable {now now' : Instant} {sights : List (Sight duties)} {member : Member duties}
  {world : World duties}

theorem mono (h : member.Explores now sights) (hle : now ≤ now') (servedAt : Instant)
    (attempt : Attempt) :
    (⟨member.worker, member.answer?, servedAt, attempt⟩ : Member duties).Explores now' sights := by
  cases h with
  | asking hopen hpoint hstage => exact .asking hopen hpoint (hstage.mono hle)
  | answered hanswer hpoint hgiven hahead =>
    exact .answered hanswer hpoint hgiven fun bounds point hleads ↦
      (hahead bounds point hleads).mono hle
  | away hnone => exact .away hnone

/-- A call is answered. -/
theorem answer (h : member.Explores world.now sights) (hsound : world.Sound)
    (hmember : member ∈ world.members) (hopen : member.answer? = none) {chance : Chance}
    {answer : (member.worker.call duties).Answer}
    (hanswer : (world.server.answer world.now chance (member.worker.call duties)).2 = some answer)
    (attempt : Attempt) :
    (⟨member.worker, some answer, world.now, attempt⟩ : Member duties).Explores world.now
      ((member.worker.point.sight? world answer).toList ++ sights) := by
  cases h with
  | @asking session cycle stage _ hpoint hstage =>
    have hfits := hsound.fits member hmember
    obtain ⟨⟨name, bounds, countdown, point⟩, answer?, servedAt, attempt'⟩ := member
    subst hpoint
    obtain rfl : answer? = none := hopen
    have hfits := hfits _ _ ⟨rfl, rfl⟩
    refine .answered rfl rfl (fun habandoning ↦ ?_) fun bounds' point' hleads ↦ ?_
    · subst habandoning
      exact hstage
    · exact Point.PollLeads.explores hfits hstage (Prod.ext rfl hanswer) hleads
  | answered hanswered =>
    rw [hopen] at hanswered
    cases hanswered
  | away hnone => exact .away hnone

/-- The pass goes on. -/
theorem resume (h : member.Explores world.now sights)
    {answer : (member.worker.call duties).Answer} {turn : Turn α}
    (hready : member.ready world.shared world.moment = some answer)
    (hturn : turn = member.worker.resume duties world.moment world.shared answer)
    (hgoes : turn.worker.point.pollSession?.isSome → member.worker.point.pollSession?.isSome ∧
      turn.worker.point.isBeginning = false) (servedAt : Instant) (attempt : Attempt) :
    (⟨turn.worker, none, servedAt, attempt⟩ : Member duties).Explores world.now sights := by
  cases htarget : turn.worker.point.pollSession? with
  | none => exact .away htarget
  | some session =>
    obtain ⟨hpoll, hbeginning⟩ := hgoes (by rw [htarget]; rfl)
    obtain ⟨session, cycle, stage, hpoint⟩ := Point.exists_polling (by rw [htarget]; rfl)
    obtain hanswered | ⟨-, hpause⟩ := ready_cases hready
    · have hleads := member.worker.resume_leads duties world.moment world.shared answer
      rw [← hturn, hpoint] at hleads
      rw [hpoint] at hbeginning
      cases h with
      | asking hopen =>
        rw [hopen] at hanswered
        cases hanswered
      | answered hanswered' _ _ hahead =>
        obtain rfl := Option.some.inj (hanswered.symm.trans hanswered')
        refine .asking rfl hpoint (hahead _ _ hleads fun hstage ↦ ?_)
        rw [hstage] at hbeginning
        cases hbeginning
      | away hnone =>
        rw [hnone] at hpoll
        cases hpoll
    · exact absurd hpause (Point.call_ne_pause hpoll)

/-- A pass that is given up has left nothing. -/
theorem exhausts (h : member.Explores now sights) {session : Nat} {cycle : Cycle}
    (hpoint : member.worker.point = .polling session cycle .abandoning) :
    Exhausts duties.settings.queueNames sights := by
  cases h with
  | asking _ hpoint' hstage =>
    rw [hpoint] at hpoint'
    cases hpoint'
    exact hstage
  | answered _ hpoint' hgiven =>
    rw [hpoint] at hpoint'
    cases hpoint'
    exact hgiven rfl
  | away hnone =>
    rw [hpoint] at hnone
    cases hnone

end Member.Explores

/-- A pass that goes on was under way before. -/
theorem Paces.goesOn {source : Point α} {turn : Turn α} {countdown : Int}
    (h : Paces duties source turn countdown) (hpoll : turn.worker.point.pollSession?.isSome)
    (hbeginning : turn.worker.point.isBeginning = false) : source.pollSession?.isSome := by
  cases h with
  | first _ hpoint | awoken _ hpoint | again _ hpoint =>
    rw [hpoint] at hbeginning
    cases hbeginning
  | kept hsource =>
    rw [hsource]
    rfl
  | expired _ hpoint | dozed _ _ _ hpoint =>
    rw [hpoint] at hpoll
    cases hpoll
  | sleptOn hpoint => rwa [hpoint] at hpoll
  | rested _ hnone =>
    rw [hnone] at hpoll
    cases hpoll

/-- Only an empty pass of a search in which the bounds have been cleared makes a worker fall asleep.
-/
theorem Paces.fallsAsleep {source : Point α} {turn : Turn α} {countdown : Int}
    (h : Paces duties source turn countdown) (hasleep : turn.worker.point.isAsleep = true)
    (hawake : source.isAsleep = false) :
    ∃ session cycle, source = .polling session cycle .abandoning ∧
      cycle.waits = true ∧ cycle.hasCleared = true := by
  cases h with
  | first _ hpoint | awoken _ hpoint | again _ hpoint | expired _ hpoint | kept _ _ hpoint =>
    rw [hpoint] at hasleep
    cases hasleep
  | dozed hsource hwaits hcleared => exact ⟨_, _, hsource, hwaits, hcleared⟩
  | sleptOn _ hslept =>
    rw [hawake] at hslept
    cases hslept
  | rested _ _ hnot =>
    rw [hnot] at hasleep
    cases hasleep

/-! ## Runs -/

def Incident.fallsAsleep : Incident duties → Bool
  | .resumed _ source turn => turn.worker.point.isAsleep && !source.isAsleep
  | .answered .. => false

/-- A pass of a search that goes on was empty although it began without bounds, and it has left
nothing of what it could see. -/
structure Pass.IsThorough (queues : List String) (pass : Pass duties) : Prop where
  waits : pass.waits = true
  empty : pass.isEmpty = true
  clears : pass.clears = true
  unbounded : pass.bounds = []
  exhausts : Exhausts queues pass.sights

namespace OpenRun

variable {workers number : Nat} {shared : Shared} {now : Instant} {past : Past duties}
  {world : World duties} {member : Member duties} {pass : Pass duties}
  {earlier : List (Pass duties)}

/-- Whatever the others do and whoever else writes, a worker knows what is left behind by a pass that
began without bounds. -/
theorem explores (run : OpenRun (World.initial duties workers shared now) past world)
    (hmember : world.members[number]? = some member) (hpasses : past.passes number = pass :: earlier)
    (hclears : pass.clears = true) : member.Explores world.now pass.sights := by
  refine @OpenRun.preserves_member _ _ _ number _ _ (fun past world member ↦
    ∀ pass earlier, past.passes number = pass :: earlier → pass.clears = true →
      member.Explores world.now pass.sights) (fun name pass earlier hpasses ↦ ?_) ?_
    (fun _ _ _ _ _ h ↦ h) _ _ run _ hmember pass earlier hpasses hclears
  · cases hpasses
  · intro past world move member member' run hmember h hundergoes pass' earlier hpasses hclears
    have hnow := world.now_le_step move
    have htallies := run.tallies hmember
    have hsound := run.sound (.initial ..)
    simp only [Past.passes, Past.incidents_cons] at h htallies hpasses
    generalize world.incident? number move = incident? at hundergoes hpasses
    cases hundergoes with
    | rested servedAt attempt => exact (h _ _ hpasses hclears).mono hnow servedAt attempt
    | spawned => exact .away rfl
    | @answered chance answer attempt hopen hanswer =>
      obtain ⟨pass, hbefore, rfl⟩ := Worker.Tallies.exists_of_modifyHead hpasses
      exact ((h _ _ hbefore hclears).answer hsound (List.mem_of_getElem? hmember) hopen hanswer
        attempt).mono hnow _ _
    | @resumed answer turn hready hturn =>
      have hpaces := member.worker.resume_paces duties world.moment world.shared answer
      rw [← hturn] at hpaces
      have hlawful := (htallies.resume world hpaces).lawful
      simp only [Option.toList_some, List.cons_append, List.nil_append] at hpasses
      cases hbegins : turn.worker.point.isBeginning with
      | true =>
        obtain ⟨session, cycle, hpoint⟩ := Point.exists_beginning hbegins
        rw [hpasses] at hlawful
        rw [Worker.Tallies.passes_of_beginning hpoint] at hpasses
        obtain ⟨rfl, -⟩ := List.cons.inj hpasses
        exact .asking rfl hpoint ⟨hlawful.2.1 hclears, rfl⟩
      | false =>
        rw [Worker.Tallies.passes_of_not_beginning hbegins] at hpasses
        obtain ⟨pass, hbefore, rfl⟩ := Worker.Tallies.exists_of_modifyHead hpasses
        obtain ⟨result?, hafter⟩ := pass.after_cases member.worker.point turn.worker.point
        rw [hafter] at hclears ⊢
        exact ((h _ _ hbefore hclears).resume hready hturn
          (fun hpoll ↦ ⟨hpaces.goesOn hpoll hbegins, hbegins⟩) member.servedAt
            member.attempt).mono hnow _ _

/-- Before a worker falls asleep for the first time in a search, it has passed over the queues without
bounds, and nothing of what it could see was left for it: not if others have added rows in the
meantime, nor if they have taken some. -/
theorem thorough_before_sleep
    (run : OpenRun (World.initial duties workers shared now) past world) {move : Move}
    (hsleep : (world.incident? number move).any Incident.fallsAsleep = true)
    (hfirst : ∀ pass ∈ (Past.passes ((world, move) :: past) number).head?, pass.hasSlept = false) :
    ∃ pass earlier, Past.passes ((world, move) :: past) number = pass :: earlier ∧
      pass.IsThorough duties.settings.queueNames := by
  obtain ⟨incident, hincident, hsleep⟩ := (Option.any_eq_true _ _).1 hsleep
  have hsound := run.sound (.initial ..)
  obtain ⟨member, hmember⟩ := World.exists_member_of_incident? hincident
  obtain ⟨member', -, hundergoes⟩ := hsound.undergoes hmember move
  have htallies := run.tallies hmember
  have hexplores {pass : Pass duties} {earlier : List (Pass duties)} :=
    @explores _ _ _ number _ _ _ _ _ pass earlier run hmember
  simp only [Past.passes, Past.incidents_cons, hincident, Option.toList_some, List.cons_append,
    List.nil_append] at hfirst htallies hexplores ⊢
  rw [hincident] at hundergoes
  cases hundergoes with
  | answered => cases hsleep
  | @resumed answer turn hready hturn =>
    obtain ⟨hasleep, hawake⟩ : turn.worker.point.isAsleep = true ∧
        member.worker.point.isAsleep = false := by
      simpa [Incident.fallsAsleep] using hsleep
    have hpaces := member.worker.resume_paces duties world.moment world.shared answer
    rw [← hturn] at hpaces
    obtain ⟨session, cycle, hsource, hwaits, hcleared⟩ := hpaces.fallsAsleep hasleep hawake
    have hrecounts := htallies.recounts
    rw [hsource] at hrecounts
    obtain ⟨pass, earlier, hpasses, -, hpassWaits, hpassCleared⟩ := hrecounts
    have hempties : member.worker.point.empties turn.worker.point = true := by
      rw [hsource]
      cases htarget : turn.worker.point <;> rw [htarget] at hasleep <;>
        first | rfl | cases hasleep
    have hafter : pass.after member.worker.point turn.worker.point =
        { pass with result? := some .nothing } := by
      rw [Pass.after, if_neg (by rw [hsource]; exact Bool.false_ne_true), if_pos hempties]
    rw [Worker.Tallies.passes_of_not_beginning
      (Point.isBeginning_of_pollSession?_none (Point.pollSession?_of_isAsleep hasleep)), hpasses,
      List.modifyHead_cons, hafter] at hfirst ⊢
    have hslept : pass.hasSlept = false := hfirst { pass with result? := some .nothing } rfl
    -- Either this very pass has cleared the bounds or the search has slept before, which it has not.
    have hclears : pass.clears = true := by simpa [hslept, hcleared] using hpassCleared
    have hmem : pass ∈ Incident.passes (past.incidents number) := hpasses ▸ List.mem_cons_self
    exact ⟨_, earlier, rfl, hpassWaits.trans hwaits, by simp [Pass.isEmpty], hclears,
      @Pass.Lawful.bounds_eq_nil _ _ _ _ pass htallies.lawful hmem hclears,
      (hexplores hpasses hclears).exhausts hsource⟩

end OpenRun

namespace Sample

/-- A worker has claimed the only row when another one looks for jobs, twice and in vain. -/
def drowsyMoves : List Move :=
  [.produce (row 5 [.whole 0]) ⟨0⟩, .start, .resume 0, .resume 1] ++ rounds 0 (smooth 4) ++
    rounds 1 (smooth 8) ++ [.answer 1 .plain]

def drowsy : Past (paced 1 2) × World (paced 1 2) :=
  (World.initial (paced 1 2) 2 shared ⟨10000000000⟩).play drowsyMoves

end Sample

theorem thorough_before_sleep_of_drowsy :
    (Sample.drowsy.2.incident? 1 (.resume 1)).any Incident.fallsAsleep = true ∧
    (∀ pass ∈ (Past.passes ((Sample.drowsy.2, .resume 1) :: Sample.drowsy.1) 1).head?,
      pass.hasSlept = false) ∧
    ∃ pass earlier, Past.passes ((Sample.drowsy.2, .resume 1) :: Sample.drowsy.1) 1 =
      pass :: earlier ∧ pass.IsThorough ["a"] :=
  have hsleep : (Sample.drowsy.2.incident? 1 (.resume 1)).any Incident.fallsAsleep = true := by
    decide +kernel
  have hfirst : ∀ pass ∈ (Past.passes ((Sample.drowsy.2, .resume 1) :: Sample.drowsy.1) 1).head?,
      pass.hasSlept = false := by
    decide +kernel
  ⟨hsleep, hfirst,
    OpenRun.thorough_before_sleep (.of_run (Run.play _ Sample.drowsyMoves)) hsleep hfirst⟩

end TableQueue
