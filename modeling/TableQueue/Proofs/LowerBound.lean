import TableQueue.Proofs.Store.Offers
import TableQueue.Proofs.World.Sound

/-!
# Remembered bounds

A worker remembers for each queue an instant and never looks for rows before it. While it is the only
worker and rows that others add do not become visible after they are eligible, each remembered
instant is a lower bound of its queue, through probes, claims, put-backs, reconnects and restarts.
-/

namespace TableQueue

variable {α : Type} {duties : Duties α}

/-! ## What answers offer -/

def Call.inserted? (now : Instant) : Call α → Option Row
  | .execute _ statement => statement.inserted? now
  | _ => none

namespace Server

variable {server : Server} {session : Nat} {now : Instant} {entry : Entry}

theorem offers_of_disconnect {state : ConnectionState}
    (h : (server.disconnect session state).store.Offers entry) : server.store.Offers entry :=
  Store.offers_of_setIdle h

theorem offers_of_bury {point : Point α} (h : (server.bury point).store.Offers entry) :
    server.store.Offers entry := by
  obtain heq | ⟨_, _, -, heq⟩ := server.bury_cases point <;> rw [heq] at h
  · exact h
  · exact offers_of_disconnect h

theorem offers_of_exchange (hsound : server.Sound) {mishap : Option Mishap} {statement : Statement}
    (h : (server.exchange session now mishap statement).1.store.Offers entry) :
    server.store.Offers entry ∨
      entry.visibleFrom = now ∧ statement.inserted? now = some entry.row := by
  unfold exchange at h
  split at h
  · have hprepared := (@confined_prepare server session statement).sound hsound
    rw [← prepare_store server session statement]
    rcases mishap with _ | text | _ | rows
    · exact hprepared.store.offers_of_perform h
    · exact .inl (Store.offers_of_refuse h)
    · exact .inl (offers_of_disconnect h)
    · exact hprepared.store.offers_of_perform h
  · exact .inl h

/-- A row that is offered after an answer was offered before, or the call has just inserted it. -/
theorem offers_of_answer (hsound : server.Sound) {chance : Chance} {call : Call α}
    (h : (server.answer now chance call).1.store.Offers entry) :
    server.store.Offers entry ∨
      entry.visibleFrom = now ∧ call.inserted? now = some entry.row := by
  cases call with
  | pause | deliver => exact .inl h
  | connect =>
    simp only [answer] at h
    split at h <;> exact .inl h
  | execute session statement => exact offers_of_exchange hsound h
  | deallocate session =>
    simp only [answer, deallocate] at h
    split at h
    · split at h <;> exact .inl h
    · exact .inl h
  | close session =>
    simp only [answer, close] at h
    split at h
    · exact .inl (Store.offers_of_setIdle h)
    · exact .inl h

end Server

/-! ## Remembered bounds -/

def Bounds.Hold (bounds : Bounds) (store : Store) (now : Instant) : Prop :=
  ∀ queue bound, (queue, bound) ∈ bounds → store.IsLowerBound now queue bound

/-- What a worker at a point presupposes, besides what it remembers. -/
def Point.Expects (store : Store) (now servedAt : Instant) (bounds : Bounds) : Point α → Prop
  -- The probe was answered at `servedAt` and has found nothing.
  | polling _ _ (.bounding queue _ _) => store.IsLowerBound now queue servedAt
  | polling _ _ (.replanning queue _ bound) | polling _ _ (.claiming queue _ bound _) =>
    store.IsLowerBound now queue bound
  | working _ job _ => ∀ bound, (job.details.queue, bound) ∈ bounds →
    bound ≤ job.details.dequeueAfter.instant
  | _ => True

structure Point.Bounded (store : Store) (now servedAt : Instant) (bounds : Bounds)
    (point : Point α) : Prop where
  holds : bounds.Hold store now
  expects : point.Expects store now servedAt bounds

namespace Bounds

variable {bounds : Bounds} {store : Store} {now : Instant} {queue : String} {bound : Instant}

theorem Hold.nil : Bounds.Hold [] store now := fun _ _ h ↦ absurd h List.not_mem_nil

/-- A remembered instant is a lower bound. -/
theorem Hold.lookup (h : bounds.Hold store now) (hlookup : bounds.lookup queue = some bound) :
    store.IsLowerBound now queue bound := by
  obtain ⟨before, after, hsplit, -⟩ := List.lookup_eq_some_iff.1 hlookup
  exact h queue bound (by simp [hsplit])

theorem mem_remember {other : String} {bound' : Instant}
    (h : (other, bound') ∈ bounds.remember queue bound) :
    other = queue ∧ bound' = bound ∨ other ≠ queue ∧ (other, bound') ∈ bounds := by
  rcases List.mem_cons.1 h with heq | hmem
  · exact .inl (Prod.mk.inj heq)
  · have hne := List.mem_filter.1 hmem
    exact .inr ⟨by simpa using hne.2, hne.1⟩

/-- A lower bound may be remembered. -/
theorem Hold.remember (h : bounds.Hold store now) (hbound : store.IsLowerBound now queue bound) :
    (bounds.remember queue bound).Hold store now := by
  intro other bound' hmem
  obtain ⟨rfl, rfl⟩ | ⟨-, hold⟩ := mem_remember hmem
  · exact hbound
  · exact h other bound' hold

end Bounds

namespace Point

variable {server server' : Server} {store store' : Store} {now now' servedAt servedAt' : Instant}
  {bounds bounds' : Bounds} {point : Point α} {session : Nat} {cycle : Cycle} {queue : String}
  {rest : List String} {bound : Instant} {attempt : Attempt} {job : Job α} {chance : Chance}
  {point' : Point α}

/-! ## Where no lower bound is expected -/

theorem IsUnconnected.bounded (h : point.IsUnconnected) (hholds : bounds.Hold store now) :
    point.Bounded store now servedAt bounds :=
  ⟨hholds, by cases point <;> trivial⟩

theorem IsResting.bounded (h : point.IsResting session) (hholds : bounds.Hold store now) :
    point.Bounded store now servedAt bounds := by
  refine ⟨hholds, ?_⟩
  cases point with
  | closing | atFailureGate | asleep => trivial
  | polling other cycle stage => cases stage <;> trivial
  | idle | starting | atConnectGate | connecting | working | rollingBack | crashed => exact h.elim

theorem Rests.bounded (h : Rests session bounds bounds' point) (hholds : bounds.Hold store now) :
    point.Bounded store now servedAt bounds' := by
  refine h.1.bounded ?_
  rcases h.2 with rfl | rfl
  · exact hholds
  · exact Bounds.Hold.nil

theorem GivesUp.bounded (h : GivesUp session bounds bounds' point)
    (hholds : bounds.Hold store now) : point.Bounded store now servedAt bounds' := by
  obtain ⟨rfl, rfl⟩ := h
  exact ⟨hholds, trivial⟩

theorem Fails.bounded (h : Fails session bounds bounds' point) (hholds : bounds.Hold store now) :
    point.Bounded store now servedAt bounds' := by
  obtain ⟨rfl, _, rfl⟩ := h
  exact ⟨hholds, trivial⟩

/-! ## Time passes and rows are added -/

/-- Bounds outlive any change that only adds rows of the future. -/
theorem Bounded.mono (h : point.Bounded store now servedAt bounds) (hnow : now ≤ now')
    (hoffers : ∀ entry, store'.Offers entry →
      store.Offers entry ∨ now ≤ entry.row.dequeueAfter) :
    point.Bounded store' now' servedAt bounds := by
  have hstays {queue : String} {bound : Instant} (hbound : store.IsLowerBound now queue bound) :
      store'.IsLowerBound now' queue bound :=
    hbound.mono hnow fun entry hentry ↦ (hoffers entry hentry).imp_right fun hlate _ ↦
      Int.le_trans hbound.past hlate
  refine ⟨fun queue bound hmem ↦ hstays (h.holds queue bound hmem), ?_⟩
  have hexpects := h.expects
  cases point with
  | idle | starting | atConnectGate | connecting | atFailureGate | asleep | rollingBack | closing
    | crashed => trivial
  | polling session cycle stage =>
    cases stage with
    | bounding | replanning | claiming => exact hstays hexpects
    | beginning | probing | abandoning => trivial
  | working => exact hexpects

/-! ## A search -/

theorem Searches.bounded {queues : List String}
    (h : Searches session cycle bounds queues bounds' point) (hholds : bounds.Hold store now) :
    point.Bounded store now servedAt bounds' := by
  obtain ⟨rfl, h⟩ := h
  refine ⟨hholds, ?_⟩
  split at h
  · rw [h]
    trivial
  · split at h
    · next bound hlookup =>
      obtain ⟨_, rfl⟩ := h
      exact hholds.lookup hlookup
    · obtain ⟨_, rfl⟩ := h
      trivial

theorem Claims.bounded (h : Claims session cycle bounds queue rest bound bounds' point)
    (hholds : bounds.Hold store now) (hbound : store.IsLowerBound now queue bound) :
    point.Bounded store now servedAt bounds' := by
  obtain ⟨rfl, _, rfl⟩ := h
  exact ⟨hholds.remember hbound, hbound⟩

theorem Finds.bounded (h : Finds session cycle bounds queue rest bound bounds' point)
    (hholds : bounds.Hold store now) (hbound : store.IsLowerBound now queue bound) :
    point.Bounded store now servedAt bounds' := by
  rcases h with h | ⟨rfl, rfl⟩
  · exact h.bounded hholds hbound
  · exact ⟨hholds, hbound⟩

/-- An answer that inserts nothing leaves lower bounds as they are. -/
theorem IsLowerBound.answered (h : server.store.IsLowerBound now queue bound)
    (hserver : server.Sound) {call : Call α} (hinserted : call.inserted? now = none) :
    (server.answer now chance call).1.store.IsLowerBound now queue bound :=
  h.mono (Int.le_refl _) fun _ hoffers ↦
    .inl ((Server.offers_of_answer hserver hoffers).elim id fun hnew ↦ by
      rw [hinserted] at hnew
      cases hnew.2)

/-- The probe finds the instant at which the first eligible row became eligible. -/
theorem Fits.probes {begun : Instant} {found : Option Instant}
    (hfits : (polling session cycle (.probing queue rest begun) : Point α).Fits duties server attempt)
    (hquiet : server.store.IsQuiet)
    (hanswer : server.answer now chance (.execute session (.oldest queue) : Call α) =
      (server', some (.ok found))) :
    found = (Store.earliest (server.store.eligible queue now)).map fun entry ↦
      entry.row.dequeueAfter := by
  obtain ⟨hactive, found', hfound, hperform⟩ := hfits.perform rfl hanswer
  cases hfound
  rw [Store.perform_of_active now hactive] at hperform
  have heq := Except.ok.inj (congrArg Prod.snd hperform)
  rw [← heq, hquiet.probed_eq]

/-- A worker that has found nothing goes on as if it had found a row half a second ago. -/
theorem Fits.recalls {begun recent : Instant}
    (hfits : (polling session cycle (.bounding queue rest begun) : Point α).Fits duties server
      attempt)
    (hanswer : server.answer now chance (.execute session .recent : Call α) =
      (server', some (.ok recent))) :
    recent = now.before (Span.ofMillis 500) := by
  obtain ⟨hactive, recent', hrecent, hperform⟩ := hfits.perform rfl hanswer
  cases hrecent
  rw [Store.perform_of_active now hactive] at hperform
  exact (Except.ok.inj (congrArg Prod.snd hperform)).symm

/-- A job became eligible at the instant that is remembered when it is claimed. -/
theorem le_of_mem_remember {row : Row} (hreads : duties.Reads row job) (hqueue : row.queue = queue)
    (hmem : (job.details.queue, bound) ∈ bounds.remember queue row.dequeueAfter) :
    bound ≤ job.details.dequeueAfter.instant := by
  obtain ⟨_, _, -, -, hdetails⟩ := Row.metadata_eq_ok hreads.1
  have hsame : job.details.queue = queue := by
    rw [hdetails]
    exact hqueue
  rw [Row.instant_of_metadata hreads.1]
  obtain ⟨-, rfl⟩ | ⟨hne, -⟩ := Bounds.mem_remember hmem
  · exact Int.le_refl _
  · exact absurd hsame hne

/-- The claim takes the first eligible row. -/
theorem Fits.claims {notBefore begun : Instant} {found : Option Row}
    (hfits : (polling session cycle (.claiming queue rest notBefore begun) : Point α).Fits duties
      server attempt) (hserver : server.Sound)
    (hquiet : (server.store.transaction session).changes = .none → server.store.IsQuiet)
    (hbound : server.store.IsLowerBound now queue notBefore)
    (hanswer : server.answer now chance (.execute session (.claim queue notBefore) : Call α) =
      (server', some (.ok found))) :
    found = (Store.earliest (server.store.eligible queue now)).map Entry.row := by
  obtain ⟨hactive, found', hfound, hperform⟩ := hfits.perform rfl hanswer
  cases hfound
  have hclaimed := hbound.claimed_eq (hquiet (congrArg Transaction.changes hactive)) hserver.store
    session
  rw [Store.perform_of_active now hactive] at hperform
  rw [← hclaimed]
  cases hrow : server.store.claimed session queue notBefore now with
  | none =>
    rw [Store.execute_claim_of_none hrow] at hperform
    exact (Except.ok.inj (congrArg Prod.snd hperform)).symm
  | some entry =>
    rw [Store.execute_claim_of_some hrow] at hperform
    exact (Except.ok.inj (congrArg Prod.snd hperform)).symm

/-- No statement of a pass offers a row below a lower bound. -/
theorem IsLowerBound.polled (h : server.store.IsLowerBound now queue bound) (hserver : server.Sound)
    {stage : PollStage} {answer? : Option (@pollCall α session stage).Answer}
    (hanswer : server.answer now chance (pollCall session stage) = (server', answer?)) :
    server'.store.IsLowerBound now queue bound := by
  have hinserted : (pollCall session stage : Call α).inserted? now = none := by
    cases stage <;> rfl
  have hanswered := @IsLowerBound.answered α server now queue bound chance h hserver _ hinserted
  rw [hanswer] at hanswered
  exact hanswered

/-- A probe finds a lower bound, or the worker remembers when it was made. -/
theorem PollLeads.bounded_of_probed {begun : Instant} {oldest : Option Instant}
    (hfits : (polling session cycle (.probing queue rest begun) : Point α).Fits duties server attempt)
    (hserver : server.Sound) (hpunctual : server.store.IsPunctual now)
    (hquiet : (server.store.transaction session).changes = .none → server.store.IsQuiet)
    (hanswer : server.answer now chance (@pollCall α session (.probing queue rest begun)) =
      (server', some (.ok oldest))) (hholds : bounds.Hold server'.store now)
    (hleads : PollLeads duties bounds session cycle (.probing queue rest begun) (.ok oldest) bounds'
      point) : point.Bounded server'.store now now bounds' := by
  have hcalm := hquiet (congrArg Transaction.changes (hfits.perform rfl hanswer).1)
  have hfound := hfits.probes hcalm hanswer
  cases hearliest : Store.earliest (server.store.eligible queue now) with
  | none =>
    have hbound := Store.isLowerBound_of_eligible_nil hcalm hpunctual hearliest
    rw [hearliest] at hfound
    subst hfound
    obtain ⟨rfl, rfl⟩ := hleads
    exact ⟨hholds, IsLowerBound.polled hbound hserver hanswer⟩
  | some entry =>
    have hbound := Store.isLowerBound_of_earliest hcalm hpunctual hearliest
    rw [hearliest] at hfound
    subst hfound
    exact Finds.bounded hleads hholds (IsLowerBound.polled hbound hserver hanswer)

/-- Half a second ago is a lower bound for a queue that was probed no longer ago. -/
theorem isLowerBound_before (h : server.store.IsLowerBound now queue servedAt)
    (hsoon : now ≤ servedAt.after (Span.ofMillis 500)) :
    server.store.IsLowerBound now queue (now.before (Span.ofMillis 500)) := by
  refine ⟨?_, fun entry hentry hqueue ↦ ?_⟩
  · simp only [Instant.le_iff, Instant.before]
    omega
  · have hle := h.le entry hentry hqueue
    simp only [Instant.le_iff, Instant.before, Instant.after] at *
    omega

/-- A turn in a pass remembers lower bounds only. -/
theorem PollLeads.bounded {stage : PollStage} {answer : (@pollCall α session stage).Answer}
    (h : (polling session cycle stage : Point α).Bounded server.store now servedAt bounds)
    (hfits : (polling session cycle stage : Point α).Fits duties server attempt)
    (hserver : server.Sound) (hpunctual : server.store.IsPunctual now)
    (hquiet : (server.store.transaction session).changes = .none → server.store.IsQuiet)
    (htimely : ∀ queue rest begun, stage = .bounding queue rest begun →
      now ≤ servedAt.after (Span.ofMillis 500))
    (hanswer : server.answer now chance (pollCall session stage) = (server', some answer))
    (hleads : PollLeads duties bounds session cycle stage answer bounds' point) :
    point.Bounded server'.store now now bounds' := by
  have hstays {queue : String} {bound : Instant}
      (hbound : server.store.IsLowerBound now queue bound) :
      server'.store.IsLowerBound now queue bound := IsLowerBound.polled hbound hserver hanswer
  have hholds : bounds.Hold server'.store now := fun queue bound hmem ↦
    hstays (h.holds queue bound hmem)
  cases stage with
  | beginning =>
    rcases answer with error | ⟨⟩
    · exact GivesUp.bounded hleads hholds
    · exact Searches.bounded hleads hholds
  | probing queue rest begun =>
    rcases answer with error | oldest
    · exact GivesUp.bounded hleads hholds
    · exact PollLeads.bounded_of_probed hfits hserver hpunctual hquiet hanswer hholds hleads
  | bounding queue rest begun =>
    rcases answer with error | recent
    · exact GivesUp.bounded hleads hholds
    · obtain rfl := hfits.recalls hanswer
      exact Finds.bounded hleads hholds
        (hstays (isLowerBound_before h.expects (htimely queue rest begun rfl)))
  | replanning queue rest bound =>
    rcases answer with error | ⟨⟩
    · exact GivesUp.bounded hleads hholds
    · exact Claims.bounded hleads hholds (hstays h.expects)
  | claiming queue rest notBefore begun =>
    rcases answer with error | found
    · exact GivesUp.bounded hleads hholds
    · have hfound := hfits.claims hserver hquiet h.expects hanswer
      cases found with
      | none => exact Searches.bounded hleads hholds
      | some row =>
        rcases hleads with hleads | ⟨job, hreads, rfl, rfl⟩
        · exact hleads.bounded hholds
        · obtain ⟨entry, hearliest, rfl⟩ := Option.map_eq_some_iff.1 hfound.symm
          have hqueue : entry.row.queue = queue :=
            (Store.mem_eligible.1 (Store.mem_of_earliest hearliest)).2.2.1
          have hcalm := hquiet (congrArg Transaction.changes (hfits.perform rfl hanswer).1)
          exact ⟨hholds.remember
            (hstays (Store.isLowerBound_of_earliest hcalm hpunctual hearliest)),
            fun bound ↦ le_of_mem_remember hreads hqueue⟩
  | abandoning =>
    rcases answer with error | ⟨⟩
    · exact GivesUp.bounded hleads hholds
    · exact Rests.bounded hleads hholds

/-! ## The work on a job -/

theorem Goes.bounded {stage : JobStage} {job' : Job α}
    (h : Goes session job' bounds stage bounds' point) (hdetails : job'.details = job.details)
    (hholds : bounds.Hold store now)
    (hjob : ∀ bound, (job.details.queue, bound) ∈ bounds →
      bound ≤ job.details.dequeueAfter.instant) : point.Bounded store now servedAt bounds' := by
  obtain ⟨rfl, rfl⟩ := h
  refine ⟨hholds, ?_⟩
  rw [← hdetails] at hjob
  exact hjob

theorem Disposes.bounded {failure : JobFailure}
    (h : Disposes duties session job failure bounds bounds' point) (hholds : bounds.Hold store now)
    (hjob : ∀ bound, (job.details.queue, bound) ∈ bounds →
      bound ≤ job.details.dequeueAfter.instant) : point.Bounded store now servedAt bounds' := by
  unfold Disposes at h
  split at h
  · obtain ⟨_, h⟩ := h
    exact h.bounded rfl hholds hjob
  · obtain ⟨_, h⟩ := h
    exact h.bounded rfl hholds hjob
  · exact h.bounded rfl hholds hjob

/-- A row that is put back or off does not become eligible before the bound of its queue. -/
theorem Bounded.inserted (h : point.Bounded store now servedAt bounds) {row : Row}
    (hinserted : (point.call duties).inserted? now = some row)
    (hbound : (queue, bound) ∈ bounds) (hqueue : row.queue = queue) :
    bound ≤ row.dequeueAfter := by
  cases point with
  | idle | starting | atConnectGate | connecting | atFailureGate | asleep | rollingBack | closing
    | crashed => cases hinserted
  | polling session cycle stage => cases stage <;> cases hinserted
  | working session job stage =>
    cases stage with
    | puttingOff failure delayMillis begun =>
      obtain rfl := Option.some.inj hinserted
      have hpast := (h.holds queue bound hbound).past
      simp only [Instant.le_iff, Instant.after] at *
      omega
    | puttingBack failure begun =>
      obtain rfl := Option.some.inj hinserted
      obtain rfl := hqueue
      exact h.expects bound hbound
    | saving | deduplicating | delivering | releasing | committingSuccess | undoing
      | committingPutOff | committingPutBack | committingClaim | beginningArchive | archiving
      | committingArchive => cases hinserted

/-- What is remembered still holds after an answer. -/
theorem Bounded.answered_holds (h : point.Bounded server.store now servedAt bounds)
    (hserver : server.Sound)
    (hanswer : server.answer now chance (point.call duties) = (server', answer?)) :
    bounds.Hold server'.store now := by
  intro queue bound hbound
  apply (h.holds queue bound hbound).mono (Int.le_refl _)
  intro entry hoffers
  have hstore : (server.answer now chance (point.call duties)).1.store = server'.store :=
    congrArg (fun pair ↦ pair.1.store) hanswer
  exact (Server.offers_of_answer hserver (hstore ▸ hoffers)).imp_right fun hnew hqueue ↦
    h.inserted hnew.2 hbound hqueue

/-- A turn at a claimed job keeps the lower bounds. -/
theorem JobLeads.bounded {stage : JobStage} {answer : (jobCall duties session job stage).Answer}
    (h : (working session job stage).Bounded store now servedAt bounds)
    (hholds : bounds.Hold store' now')
    (hleads : JobLeads duties bounds session job stage answer bounds' point) :
    point.Bounded store' now' servedAt' bounds' := by
  have hjob := h.expects
  cases stage with
  | saving =>
    rcases answer with error | ⟨⟩
    · exact Fails.bounded hleads hholds
    · rcases hleads with hleads | ⟨-, _, hleads⟩
      · exact hleads.bounded rfl hholds hjob
      · exact hleads.bounded rfl hholds hjob
  | deduplicating =>
    rcases answer with error | rows
    · exact Fails.bounded hleads hholds
    · rcases hleads with ⟨payload, -, hleads⟩ | hleads | ⟨rfl, _, rfl⟩
      · exact hleads.bounded rfl hholds hjob
      · exact hleads.bounded hholds
      · exact ⟨hholds, trivial⟩
  | delivering =>
    cases hfailure : answer.failure? <;>
    · simp only [JobLeads, hfailure] at hleads
      exact Goes.bounded hleads rfl hholds hjob
  | releasing | committingClaim | puttingOff | puttingBack | archiving =>
    rcases answer with error | reply
    · exact Fails.bounded hleads hholds
    · exact Goes.bounded hleads rfl hholds hjob
  | undoing =>
    rcases answer with error | ⟨⟩
    · exact Fails.bounded hleads hholds
    · exact Disposes.bounded hleads hholds hjob
  | beginningArchive =>
    rcases answer with error | ⟨⟩
    · exact Fails.bounded hleads hholds
    · obtain ⟨_, hleads⟩ := hleads
      exact Goes.bounded hleads rfl hholds hjob
  | committingSuccess | committingPutOff | committingPutBack | committingArchive =>
    rcases answer with error | ⟨⟩
    · exact Fails.bounded hleads hholds
    · exact Rests.bounded hleads hholds

theorem Bounded.unserved (h : point.Bounded store now servedAt bounds)
    (hpause : point.call duties = .pause) : point.Bounded store now servedAt' bounds := by
  refine ⟨h.holds, ?_⟩
  cases point with
  | idle | starting | atConnectGate | atFailureGate | asleep | crashed => trivial
  | connecting | rollingBack | closing => cases hpause
  | polling session cycle stage => cases stage <;> cases hpause
  | working session job stage => cases stage <;> cases hpause

/-- A pause ends. -/
theorem Bounded.paused (h : point.Bounded store now servedAt bounds)
    (hpause : point.call duties = .pause) {answer : (point.call duties).Answer}
    (hleads : point.Leads duties bounds answer bounds' point') :
    point'.Bounded store now servedAt' bounds' := by
  cases point with
  | idle | crashed =>
    obtain ⟨rfl, rfl⟩ := hleads
    exact ⟨h.holds, trivial⟩
  | starting | atConnectGate =>
    obtain ⟨rfl, hleads⟩ := hleads
    exact hleads.bounded h.holds
  | atFailureGate | asleep => exact Rests.bounded hleads h.holds
  | connecting | rollingBack | closing => cases hpause
  | polling session cycle stage => cases stage <;> cases hpause
  | working session job stage => cases stage <;> cases hpause

/-- Wherever an answer leads, what is remembered are lower bounds. -/
theorem Bounded.answered {answer : (point.call duties).Answer}
    (h : point.Bounded server.store now servedAt bounds) (hfits : point.Fits duties server attempt)
    (hserver : server.Sound) (hpunctual : server.store.IsPunctual now)
    (hquiet : ∀ session, point.session? = some session →
      (server.store.transaction session).changes = .none → server.store.IsQuiet)
    (htimely : ∀ session cycle queue rest begun,
      point = polling session cycle (.bounding queue rest begun) →
        now ≤ servedAt.after (Span.ofMillis 500))
    (hanswer : server.answer now chance (point.call duties) = (server', some answer))
    (hleads : point.Leads duties bounds answer bounds' point') :
    point'.Bounded server'.store now now bounds' := by
  have hholds := h.answered_holds hserver hanswer
  cases point with
  | idle | starting | atConnectGate | atFailureGate | asleep | crashed => cases hanswer
  | connecting begun =>
    rcases answer with error | session
    · obtain ⟨rfl, hleads⟩ := hleads
      exact hleads.bounded hholds
    · obtain ⟨rfl, hleads⟩ := hleads
      exact hleads.bounded Bounds.Hold.nil
  | polling session cycle stage =>
    exact PollLeads.bounded h hfits hserver hpunctual (hquiet session rfl)
      (fun queue rest begun hstage ↦ htimely session cycle queue rest begun (hstage ▸ rfl)) hanswer
      hleads
  | working session job stage => exact JobLeads.bounded h hholds hleads
  | rollingBack session fault => exact GivesUp.bounded hleads hholds
  | closing session last =>
    obtain ⟨rfl, hleads⟩ := hleads
    exact hleads.bounded hholds

end Point

/-! ## Runs of a single worker -/

namespace World

/-- Rows are added before they become eligible and are visible by then, and at most half a second
passes between an empty probe and the question for the present. -/
def isTimely (world : World duties) : Move → Bool
  | .produce row visibleFrom =>
    decide (world.now ≤ row.dequeueAfter) && decide (visibleFrom ≤ row.dequeueAfter)
  | .answer number _ =>
    match world.members[number]? with
    | some ⟨⟨_, _, _, .polling _ _ (.bounding ..)⟩, none, servedAt, _⟩ =>
      decide (world.now ≤ servedAt.after (Span.ofMillis 500))
    | _ => true
  | _ => true

/-- A single worker, and rows that are visible from the start. -/
def stocked (duties : Duties α) (rows : List Row) (shared : Shared) (now : Instant) :
    World duties :=
  rows.foldl (fun world row ↦ world.step (.produce row now)) (World.initial duties 1 shared now)

/-- The only worker remembers lower bounds, whatever it goes on to. -/
structure Bounded (world : World duties) : Prop where
  single : world.members.length = 1
  punctual : world.server.store.IsPunctual world.now
  member : ∀ member ∈ world.members, ∀ bounds point, member.Prospect bounds point →
    point.Bounded world.server.store world.now member.servedAt bounds

variable {world : World duties}

/-- No session but that of the only worker has a transaction with changes. -/
theorem Sound.isQuiet (h : world.Sound) (hsingle : world.members.length = 1)
    {member : Member duties} (hmember : member ∈ world.members) {session : Nat}
    (hsession : member.session? = some session)
    (hchanges : (world.server.store.transaction session).changes = .none) :
    world.server.store.IsQuiet := by
  intro other
  by_cases hother : other = session
  · rw [hother, hchanges]
  · have hgone : world.server.isLive other = false := by
      by_contra hlive
      obtain ⟨holder, hholder, hheld⟩ := h.held other (by simpa using hlive)
      obtain ⟨only, honly⟩ := List.length_eq_one_iff.1 hsingle
      rw [honly, List.mem_singleton] at hmember hholder
      rw [hholder, ← hmember, hsession] at hheld
      exact hother (Option.some.inj hheld).symm
    rw [h.server.quiet other hgone]
    rfl

theorem Bounded.withServer (h : world.Bounded) {now : Instant} {server : Server} {crew : Crew}
    {awaited : Option (Instant × List Nat)} (hnow : world.now ≤ now)
    (hoffers : ∀ entry, server.store.Offers entry → world.server.store.Offers entry ∨
      world.now ≤ entry.row.dequeueAfter ∧ entry.visibleFrom ≤ entry.row.dequeueAfter) :
    ({ world with now, server, crew, awaited } : World duties).Bounded where
  single := h.single
  punctual entry hentry := by
    rcases hoffers entry hentry with hold | ⟨-, hvisible⟩
    · exact (h.punctual entry hold).imp_left fun hvisible ↦ Int.le_trans hvisible hnow
    · exact .inr hvisible
  member member hmember bounds point hprospect :=
    (h.member member hmember bounds point hprospect).mono hnow fun entry hentry ↦
      (hoffers entry hentry).imp_right And.left

theorem eq_of_mem_set_single {β : Type} {elements : List β} (hsingle : elements.length = 1)
    {number : Nat} {old new other : β} (hold : elements[number]? = some old)
    (hother : other ∈ elements.set number new) : other = new := by
  obtain ⟨only, honly⟩ := List.length_eq_one_iff.1 hsingle
  have hnumber : number = 0 := by
    have hlt := (List.getElem?_eq_some_iff.1 hold).1
    omega
  simpa only [honly, hnumber, List.set_cons_zero, List.mem_singleton] using hother

/-- The only member is replaced. -/
theorem Bounded.replace (h : world.Bounded) {number : Nat} {member member' : Member duties}
    (hmember : world.members[number]? = some member) {server : Server} (shared : Shared)
    (hpunctual : server.store.IsPunctual world.now)
    (hbounded : ∀ bounds point, member'.Prospect bounds point →
      point.Bounded server.store world.now member'.servedAt bounds) :
    ({ world with server, shared, members := world.members.set number member' } :
      World duties).Bounded where
  single := by rw [List.length_set, h.single]
  punctual := hpunctual
  member other hother := by
    rw [eq_of_mem_set_single h.single hmember hother]
    exact hbounded

/-- An answer keeps the lower bounds. -/
theorem Bounded.answer (h : world.Bounded) (hsound : world.Sound) {number : Nat}
    {worker : Worker α} {servedAt : Instant} {attempt : Attempt} {chance : Chance}
    (hmember : world.members[number]? = some ⟨worker, none, servedAt, attempt⟩)
    (htimely : world.isTimely (.answer number chance)) : (world.answer number chance).Bounded := by
  rw [answer_eq hmember]
  have hbounded := h.member _ (List.mem_of_getElem? hmember) _ _ ⟨rfl, rfl⟩
  have hfits := hsound.fits _ (List.mem_of_getElem? hmember) _ _ ⟨rfl, rfl⟩
  refine h.replace hmember world.shared (fun entry hentry ↦ ?_) fun bounds point hprospect ↦ ?_
  · rcases Server.offers_of_answer hsound.server hentry with hold | ⟨hnew, -⟩
    · exact h.punctual entry hold
    · exact .inl (Int.le_of_eq (congrArg Instant.nanos hnew))
  · generalize hanswer : world.server.answer world.now chance (worker.call duties) = result
      at hprospect ⊢
    obtain ⟨server', _ | reply⟩ := result
    · obtain ⟨hpause, rfl⟩ := Server.pause_of_answer_none hanswer
      obtain ⟨rfl, rfl⟩ := hprospect
      exact hbounded.unserved hpause
    · refine hbounded.answered hfits hsound.server h.punctual (fun session hsession hchanges ↦ ?_)
        (fun session cycle queue rest begun hpoint ↦ ?_) hanswer hprospect
      · exact hsound.isQuiet h.single (List.mem_of_getElem? hmember)
          ((Member.heldSession?_none worker.point).trans hsession) hchanges
      · obtain ⟨name, remembered, countdown, _⟩ := worker
        obtain rfl := hpoint
        simpa only [isTimely, hmember, decide_eq_true_eq] using htimely

/-- A worker that goes on keeps the lower bounds. -/
theorem Bounded.resume (h : world.Bounded) {number : Nat} {member : Member duties}
    {answer : (member.worker.call duties).Answer} (hmember : world.members[number]? = some member)
    (hready : member.ready world.shared world.moment = some answer) :
    (world.resume number).Bounded := by
  rw [resume_eq hmember hready]
  have hleads := member.worker.resume_leads duties world.moment world.shared answer
  dsimp only
  generalize member.worker.resume duties world.moment world.shared answer = turn at hleads ⊢
  have hbounded := h.member member (List.mem_of_getElem? hmember)
  have hoffers {entry : Entry} (hentry : (world.server.bury turn.worker.point).store.Offers entry) :
      world.server.store.Offers entry := Server.offers_of_bury hentry
  refine h.replace hmember turn.shared (fun entry hentry ↦ h.punctual entry (hoffers hentry)) ?_
  rintro bounds point ⟨rfl, rfl⟩
  refine Point.Bounded.mono ?_ (Int.le_refl _) fun entry hentry ↦ .inl (hoffers hentry)
  rcases Member.prospect_of_ready hready with hprospect | ⟨hprospect, hpause⟩
  · exact hbounded _ _ (hprospect _ _ hleads)
  · exact (hbounded _ _ hprospect).paused hpause hleads

theorem Bounded.start (h : world.Bounded) (hsound : world.Sound) {tasks : List Nat}
    (htasks : (world.crew.start world.taskStatus duties.settings.queueNames).2.2 = .ok tasks) :
    world.start.Bounded := by
  rw [start_eq htasks]
  refine ⟨(length_members_foldl_spawn world tasks).trans h.single, h.punctual,
    fun member' hmember' bounds point hprospect ↦ ?_⟩
  obtain ⟨j, hj⟩ := List.getElem?_of_mem hmember'
  rw [getElem?_foldl_spawn, Option.map_eq_some_iff] at hj
  obtain ⟨member, hmember, rfl⟩ := hj
  have hbounded := h.member member (List.mem_of_getElem? hmember)
  by_cases htask : j ∈ tasks
  · rw [if_pos htask] at hprospect ⊢
    have hidle := hsound.idle_of_start htasks htask hmember
    obtain ⟨rfl, rfl⟩ := hprospect
    exact ⟨(hbounded _ _ (Member.prospect_of_idle hidle)).holds, trivial⟩
  · rw [if_neg htask] at hprospect ⊢
    exact hbounded bounds point hprospect

/-- Every timely move keeps the lower bounds. -/
theorem Bounded.of_steps (h : world.Bounded) (hsound : world.Sound) {move : Move}
    {world' : World duties} (htimely : world.isTimely move) (hsteps : Steps world move world') :
    world'.Bounded := by
  have hquiet {server : Server} {crew : Crew} {awaited : Option (Instant × List Nat)}
      (hoffers : ∀ entry, server.store.Offers entry → world.server.store.Offers entry) :
      ({ world with server, crew, awaited } : World duties).Bounded :=
    h.withServer (Int.le_refl _) fun entry hentry ↦ .inl (hoffers entry hentry)
  cases hsteps with
  | refused | unanswered | waiting => exact h
  | stopped | awaited | reclaimed | forgotten | released => exact hquiet fun _ ↦ id
  | passed span =>
    refine h.withServer ?_ fun _ hentry ↦ .inl hentry
    simp only [Instant.le_iff, Instant.after]
    omega
  | produced row visibleFrom =>
    apply h.withServer (Int.le_refl _)
    intro entry hentry
    apply (Store.offers_of_produce hentry).imp_right
    intro hnew
    simp only [isTimely, Bool.and_eq_true, decide_eq_true_eq] at htimely
    rw [hnew.1, hnew.2]
    exact htimely
  | dropped => exact hquiet fun _ ↦ Server.offers_of_disconnect
  | answered chance hmember =>
    rw [← answer_eq hmember]
    exact h.answer hsound hmember htimely
  | wrote text mishap =>
    apply hquiet
    intro entry hentry
    rcases Server.offers_of_exchange hsound.server hentry with hold | ⟨-, hnew⟩
    · exact hold
    · cases hnew
  | resumed hmember hready hturn =>
    subst hturn
    rw [← resume_eq hmember hready]
    exact h.resume hmember hready
  | started _ htasks =>
    rw [← start_eq htasks]
    exact h.start hsound htasks

/-- Every timely move of a single worker leaves what is remembered lower bounds. -/
theorem Bounded.step (h : world.Bounded) (hsound : world.Sound) {move : Move}
    (htimely : world.isTimely move) : (world.step move).Bounded :=
  h.of_steps hsound htimely (world.steps move)

theorem Bounded.initial (duties : Duties α) (shared : Shared) (now : Instant) :
    (World.initial duties 1 shared now).Bounded where
  single := rfl
  punctual entry hentry := by
    rcases hentry with hqueue | ⟨session, hinserted⟩
    · exact absurd hqueue List.not_mem_nil
    · exact absurd hinserted List.not_mem_nil
  member member hmember bounds point hprospect := by
    obtain ⟨number, -, rfl⟩ := List.mem_map.1 hmember
    obtain ⟨rfl, rfl⟩ := hprospect
    exact ⟨Bounds.Hold.nil, trivial⟩

/-- While nothing is remembered, rows may become visible at any time. -/
theorem Bounded.stock (h : world.Bounded) (row : Row)
    (hforgot : ∀ member ∈ world.members, ∀ bounds point, member.Prospect bounds point →
      bounds = [] ∧ point = .idle) : (world.step (.produce row world.now)).Bounded where
  single := h.single
  punctual entry hentry := by
    rcases Store.offers_of_produce hentry with hold | ⟨hvisible, -⟩
    · exact h.punctual entry hold
    · exact .inl (Int.le_of_eq (congrArg Instant.nanos hvisible))
  member member hmember bounds point hprospect := by
    obtain ⟨rfl, rfl⟩ := hforgot member hmember bounds point hprospect
    exact ⟨Bounds.Hold.nil, trivial⟩

theorem stocked_cases (duties : Duties α) (rows : List Row) (shared : Shared) (now : Instant) :
    (stocked duties rows shared now).Sound ∧ (stocked duties rows shared now).Bounded ∧
      (stocked duties rows shared now).members = (World.initial duties 1 shared now).members := by
  have hforgot (member : Member duties)
      (hmember : member ∈ (World.initial duties 1 shared now).members) (bounds : Bounds)
      (point : Point α) (hprospect : member.Prospect bounds point) : bounds = [] ∧ point = .idle := by
    obtain ⟨number, -, rfl⟩ := List.mem_map.1 hmember
    exact hprospect
  have hstocked := List.foldlRecOn rows (fun world row ↦ world.step (.produce row now))
    (motive := fun world : World duties ↦ world.Sound ∧ world.Bounded ∧
      world.members = (World.initial duties 1 shared now).members ∧ world.now = now)
    ⟨Sound.initial duties 1 shared now, Bounded.initial duties shared now, rfl, rfl⟩
    fun world ⟨hsound, hbounded, hmembers, hnow⟩ row _ ↦
      ⟨hsound.step _, hnow ▸ hbounded.stock row (hmembers ▸ hforgot), hmembers, hnow⟩
  exact ⟨hstocked.1, hstocked.2.1, hstocked.2.2.1⟩

theorem Bounded.of_run {rows : List Row} {shared : Shared} {now : Instant} {past : Past duties}
    (run : Run (fun world move ↦ world.isTimely move) (stocked duties rows shared now) past world) :
    world.Sound ∧ world.Bounded := by
  obtain ⟨hsound, hbounded, -⟩ := stocked_cases duties rows shared now
  induction run with
  | rest => exact ⟨hsound, hbounded⟩
  | move _ hmove ih => exact ⟨ih.1.step _, ih.2.step ih.1 hmove⟩

end World

end TableQueue
