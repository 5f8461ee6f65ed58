import TableQueue.Proofs.Cadence
import TableQueue.Proofs.World.Registrations

/-!
# What the failure throttle is told of each job

A worker that takes a job in hand tells the failure throttle of it once, in the end: a success if the
job was accepted and its transaction committed, or if it was rejected for good without blame and its
archive committed; else a failure. Before it takes the next job it has been let through by the
throttle. There is one exception: a worker that dies while it merges duplicates tells nobody.
-/

namespace TableQueue

variable {α : Type} {duties : Duties α}

/-! ## Jobs on record -/

inductive Deed where
  /-- The handler is done with it. -/
  | received (reception : Reception)
  /-- The savepoint is released. -/
  | released
  | committed
  /-- It is written to the archive. -/
  | archived
  /-- A rollback has been tried. -/
  | rolledBack
  /-- The failure throttle is told of it. -/
  | registered (success : Bool)
deriving DecidableEq, Repr

def Call.deed? : (call : Call α) → call.Answer → Option Deed
  | .deliver .., reception => some (.received reception)
  | .execute _ (.command .releaseSavepoint), .ok _ => some .released
  | .execute _ (.command .commit), .ok _ => some .committed
  | .execute _ (.archive ..), .ok _ => some .archived
  | .execute _ (.command .rollback), _ => some .rolledBack
  | _, _ => none

namespace Point

def handles : Point α → Bool
  | working .. | rollingBack .. => true
  | _ => false

def isCrashed : Point α → Bool
  | crashed .. => true
  | _ => false

def taken? : Point α → Option (Job α)
  | working _ job .saving => some job
  | _ => none

def deed? (point : Point α) (answer : (point.call duties).Answer) : Option Deed :=
  if point.handles then (point.call duties).deed? answer else none

end Point

/-- A job that was taken in hand, as it is on record. -/
structure Handling (α : Type) where
  job : Job α
  /-- Whether the failure throttle has let the worker through since it was last told of a job. -/
  admitted : Bool
  /-- The latest first. -/
  deeds : List Deed

/-- Something is done about a job. -/
def Handling.add (deed? : Option Deed) (handling : Handling α) : Handling α :=
  { handling with deeds := deed?.toList ++ handling.deeds }

namespace Incident

def registration? : Incident duties → Option Bool
  | .answered .. => none
  | .resumed _ source turn => source.registration? turn.worker.point

def isAdmitted : List (Incident duties) → Bool
  | [] => false
  | .answered .. :: earlier => isAdmitted earlier
  | .resumed world source turn :: earlier =>
    !source.persists && turn.worker.point.isBeginning &&
        (turn.shared.failureThrottle.consult world.now).isNone ||
      (source.registration? turn.worker.point).isNone && isAdmitted earlier

def handlings : List (Incident duties) → List (Handling α)
  | [] => []
  | .answered _ point answer :: earlier =>
    (handlings earlier).modifyHead (.add (point.deed? answer))
  | .resumed _ source turn :: earlier =>
    (turn.worker.point.taken?.toList.map fun job ↦ ⟨job, isAdmitted earlier, []⟩) ++
      (handlings earlier).modifyHead
        (.add ((source.registration? turn.worker.point).map .registered))

end Incident

/-- The jobs that a worker has taken in hand in a run, the latest first. -/
def Past.handlings (past : Past duties) (number : Nat) : List (Handling α) :=
  Incident.handlings (past.incidents number)

/-- What a worker has told the failure throttle in a run, the latest first. -/
def Past.registrations (past : Past duties) (number : Nat) : List Bool :=
  (past.incidents number).filterMap Incident.registration?

/-! ## Accounts -/

namespace Deed

/-- The failure throttle has not been told yet. -/
def Pends (deeds : List Deed) : Prop := ∀ success, .registered success ∉ deeds

/-- The job was accepted, released from its savepoint and committed, or it was rejected for good
without blame and its archive was committed. -/
def Succeeds (deeds : List Deed) : Prop :=
  .received .accepted ∈ deeds ∧ .released ∈ deeds ∧ .committed ∈ deeds ∨
    (∃ cause, .received (.rejected (.fatal cause false)) ∈ deeds) ∧
      ∃ earlier, deeds = .committed :: .archived :: earlier

def registration? : Deed → Option Bool
  | registered success => some success
  | received _ | released | committed | archived | rolledBack => none

/-- The failure throttle has been told once, after a commit or a rollback and last of all, and what
it was told is right. -/
def Accounted (deeds : List Deed) : Prop :=
  ∃ success before, deeds = .registered success :: before ∧ Pends before ∧
    (before.head? = some .committed ∨ before.head? = some .rolledBack) ∧
      (success = true ↔ Succeeds before)

end Deed

/-- The jobs that a worker has no longer in hand. -/
def Point.finished (point : Point α) (handlings : List (Handling α)) : List (Handling α) :=
  if point.handles then handlings.tail else handlings

/-! ## The work on a job -/

/-- What is on record about a job at a stage of the work on it. -/
def JobStage.Accounts (deeds : List Deed) : JobStage → Prop
  | .saving | .deduplicating _ | .delivering => deeds = []
  | .releasing => deeds = [.received .accepted]
  | .committingSuccess => deeds = [.released, .received .accepted]
  | .undoing failure | .committingClaim failure =>
    ∃ reception, reception.failure? = some failure ∧ deeds = [.received reception]
  | .puttingOff failure .. | .committingPutOff failure | .puttingBack failure _
  | .committingPutBack failure => failure.throttles = true ∧
    ∃ reception, reception.failure? = some failure ∧ deeds = [.received reception]
  | .beginningArchive failure | .archiving failure _ =>
    ∃ reception, reception.failure? = some failure ∧ deeds = [.committed, .received reception]
  | .committingArchive failure => ∃ reception, reception.failure? = some failure ∧
    deeds = [.archived, .committed, .received reception]

/-- What is on record about the job in hand. -/
def Point.Accounts (deeds : List Deed) : Point α → Prop
  | working _ _ stage => stage.Accounts deeds
  | rollingBack .. => Deed.Pends deeds ∧ ¬ Deed.Succeeds (.rolledBack :: deeds)
  | _ => False

/-- What becomes of the job in hand when the worker goes on. -/
inductive Point.Reckons (deeds : List Deed) (source target : Point α) : Prop where
  | on : target.handles = true → target.taken? = none → source.registration? target = none →
      target.Accounts deeds → Reckons deeds source target
  | through {success : Bool} : target.handles = false → target.isCrashed = false →
      source.registration? target = some success → Deed.Accounted (.registered success :: deeds) →
      Reckons deeds source target
  | down : target.isCrashed = true → source.registration? target = none → deeds = [] →
      Reckons deeds source target

/-- A job in hand is pending, and it will not have succeeded if it is rolled back. -/
theorem JobStage.Accounts.pends {deeds : List Deed} {stage : JobStage} (h : stage.Accounts deeds) :
    Deed.Pends deeds ∧ ¬ Deed.Succeeds (.rolledBack :: deeds) := by
  cases stage with
  | saving | deduplicating | delivering | releasing | committingSuccess =>
    obtain rfl := h
    simp [Deed.Pends, Deed.Succeeds]
  | undoing | committingClaim | beginningArchive | archiving | committingArchive =>
    obtain ⟨reception, -, rfl⟩ := h
    simp [Deed.Pends, Deed.Succeeds]
  | puttingOff | committingPutOff | puttingBack | committingPutBack =>
    obtain ⟨-, reception, -, rfl⟩ := h
    simp [Deed.Pends, Deed.Succeeds]

namespace Point

variable {deeds : List Deed} {bounds bounds' : Bounds} {session : Nat} {job job' : Job α}
  {stage stage' : JobStage} {target : Point α} {failure : JobFailure}

theorem Goes.reckons (h : Goes session job' bounds stage' bounds' target)
    (hsaving : (working session job' stage').taken? = none) (hstage : stage.registration? = none)
    (haccounts : stage'.Accounts deeds) : Reckons deeds (working session job stage) target := by
  obtain ⟨-, rfl⟩ := h
  exact .on rfl hsaving hstage haccounts

theorem Fails.reckons (h : Fails session bounds bounds' target) (haccounts : stage.Accounts deeds) :
    Reckons deeds (working session job stage) target := by
  obtain ⟨-, _, rfl⟩ := h
  exact .on rfl rfl rfl haccounts.pends

theorem Rests.reckons {success : Bool} (h : Rests session bounds bounds' target)
    (hstage : stage.registration? = some success) (haccounts : stage.Accounts deeds)
    (hsuccess : success = true ↔ Deed.Succeeds (.committed :: deeds)) :
    Reckons (.committed :: deeds) (working session job stage) target := by
  have hpends : Deed.Pends (.committed :: deeds) := by
    intro success hmem
    rcases List.mem_cons.1 hmem with heq | hmem
    · cases heq
    · exact haccounts.pends.1 success hmem
  have haccounted : Deed.Accounted (.registered success :: .committed :: deeds) :=
    ⟨success, _, rfl, hpends, .inl rfl, hsuccess⟩
  have hresting := h.1
  cases target with
  | closing | atFailureGate | asleep | polling => exact .through rfl rfl hstage haccounted
  | idle | starting | atConnectGate | connecting | working | rollingBack | crashed =>
    exact hresting.elim

/-- A failure that is put off or put back counts against the throttle. -/
theorem Disposes.reckons {reception : Reception}
    (h : Disposes duties session job failure bounds bounds' target)
    (hfailure : reception.failure? = some failure) :
    Reckons [.received reception] (working session job (.undoing failure)) target := by
  unfold Disposes at h
  split at h
  · next delay hdisposition =>
    obtain ⟨_, h⟩ := h
    refine h.reckons rfl rfl ⟨?_, reception, hfailure, rfl⟩
    cases failure with
    | fatal => simp [Settings.disposition] at hdisposition
    | retryable | postponed => rfl
  · next hdisposition =>
    obtain ⟨_, h⟩ := h
    refine h.reckons rfl rfl ⟨?_, reception, hfailure, rfl⟩
    cases failure with
    | fatal => simp [Settings.disposition] at hdisposition
    | retryable | postponed => rfl
  · exact h.reckons rfl rfl ⟨reception, hfailure, rfl⟩

/-- A job that is archived is a success if it was rejected for good without blame. -/
theorem succeeds_of_archive {reception : Reception} (hfailure : reception.failure? = some failure) :
    (!failure.throttles) = true ↔
      Deed.Succeeds [.committed, .archived, .committed, .received reception] := by
  cases reception with
  | accepted => cases hfailure
  | rejected rejection =>
    obtain rfl := Option.some.inj hfailure
    cases rejection with
    | fatal cause throttled => cases throttled <;> simp [Deed.Succeeds, JobFailure.throttles]
    | retryable | postponed => simp [Deed.Succeeds, JobFailure.throttles]
  | died text =>
    cases text <;>
    · obtain rfl := Option.some.inj hfailure
      simp [Deed.Succeeds, JobFailure.throttles]

/-- A job that was delivered is accepted or rejected, and nothing else has been done about it. -/
theorem reckons_of_delivered {reception : Reception}
    (hleads : JobLeads duties bounds session job .delivering reception bounds' target) :
    Reckons [.received reception] (working session job .delivering) target := by
  cases hfailure : reception.failure? with
  | none =>
    simp only [JobLeads, hfailure] at hleads
    refine Goes.reckons hleads rfl rfl ?_
    cases reception with
    | accepted => rfl
    | rejected => cases hfailure
    | died text => cases text <;> cases hfailure
  | some failure =>
    simp only [JobLeads, hfailure] at hleads
    exact Goes.reckons hleads rfl rfl ⟨reception, hfailure, rfl⟩

/-- A turn at any stage of a claimed job keeps its accounts. -/
theorem JobLeads.reckons {answer : (jobCall duties session job stage).Answer}
    (haccounts : stage.Accounts deeds)
    (hleads : JobLeads duties bounds session job stage answer bounds' target) :
    Reckons (((working session job stage).deed? answer).toList ++ deeds)
      (working session job stage) target := by
  cases stage with
  | saving =>
    obtain rfl := haccounts
    rcases answer with error | ⟨⟩
    · exact Fails.reckons hleads rfl
    · rcases hleads with hleads | ⟨-, _, hleads⟩ <;> exact hleads.reckons rfl rfl rfl
  | deduplicating =>
    obtain rfl := haccounts
    rcases answer with error | rows
    · exact Fails.reckons hleads rfl
    · rcases hleads with ⟨_, -, hleads⟩ | hleads | ⟨-, _, rfl⟩
      · exact hleads.reckons rfl rfl rfl
      · exact Fails.reckons hleads rfl
      · exact .down rfl rfl rfl
  | delivering =>
    obtain rfl := haccounts
    exact reckons_of_delivered hleads
  | releasing =>
    rcases answer with error | ⟨⟩
    · exact Fails.reckons hleads haccounts
    · obtain rfl := haccounts
      exact Goes.reckons hleads rfl rfl rfl
  | committingSuccess =>
    rcases answer with error | ⟨⟩
    · exact Fails.reckons hleads haccounts
    · obtain rfl := haccounts
      exact Rests.reckons hleads rfl rfl (by simp [Deed.Succeeds])
  | undoing failure =>
    rcases answer with error | ⟨⟩
    · exact Fails.reckons hleads haccounts
    · obtain ⟨reception, hfailure, rfl⟩ := haccounts
      exact Disposes.reckons hleads hfailure
  | puttingOff | puttingBack =>
    rcases answer with error | rows
    · exact Fails.reckons hleads haccounts
    · exact Goes.reckons hleads rfl rfl haccounts
  | committingPutOff failure | committingPutBack failure =>
    rcases answer with error | ⟨⟩
    · exact Fails.reckons hleads haccounts
    · obtain ⟨hthrottles, reception, hfailure, rfl⟩ := haccounts
      exact Rests.reckons hleads rfl ⟨hthrottles, reception, hfailure, rfl⟩
        (by simp [Deed.Succeeds, hthrottles])
  | beginningArchive failure =>
    rcases answer with error | ⟨⟩
    · exact Fails.reckons hleads haccounts
    · obtain ⟨_, hleads⟩ := hleads
      exact Goes.reckons hleads rfl rfl haccounts
  | committingClaim failure | archiving failure =>
    rcases answer with error | reply
    · exact Fails.reckons hleads haccounts
    · obtain ⟨reception, hfailure, rfl⟩ := haccounts
      exact Goes.reckons hleads rfl rfl ⟨reception, hfailure, rfl⟩
  | committingArchive failure =>
    rcases answer with error | ⟨⟩
    · exact Fails.reckons hleads haccounts
    · obtain ⟨reception, hfailure, rfl⟩ := haccounts
      exact Rests.reckons hleads rfl ⟨reception, hfailure, rfl⟩ (succeeds_of_archive hfailure)

/-- What becomes of a job in hand when a call is answered and the worker goes on. -/
theorem Leads.reckons {point : Point α} {answer : (point.call duties).Answer}
    (haccounts : point.Accounts deeds)
    (hleads : point.Leads duties bounds answer bounds' target) :
    Reckons ((point.deed? answer).toList ++ deeds) point target := by
  cases point with
  | working => exact JobLeads.reckons haccounts hleads
  | rollingBack session fault =>
    obtain ⟨hpends, hsucceeds⟩ := haccounts
    obtain ⟨-, rfl⟩ := hleads
    have hpends' : Deed.Pends (.rolledBack :: deeds) := by
      intro success hmem
      rcases List.mem_cons.1 hmem with heq | hmem
      · cases heq
      · exact hpends success hmem
    exact .through rfl rfl rfl
      ⟨false, _, rfl, hpends', .inr rfl, iff_of_false Bool.false_ne_true hsucceeds⟩
  | idle | starting | atConnectGate | connecting | atFailureGate | asleep | polling | closing
    | crashed => exact haccounts.elim

theorem IsUnconnected.isFree (h : target.IsUnconnected) :
    target.handles = false ∧ target.isCrashed = false := by
  cases target <;> first | exact ⟨rfl, rfl⟩ | exact h.elim

theorem IsResting.isFree (h : target.IsResting session) :
    target.handles = false ∧ target.isCrashed = false := by
  cases target <;> first | exact ⟨rfl, rfl⟩ | exact h.elim

theorem Leads.eq_of_isCrashed {point : Point α} {answer : (point.call duties).Answer}
    (hleads : point.Leads duties bounds answer bounds' target) (hcrashed : point.isCrashed = true) :
    target = point := by
  cases point with
  | crashed => exact hleads.2
  | idle | starting | atConnectGate | connecting | atFailureGate | asleep | polling | working
    | rollingBack | closing => cases hcrashed

/-- A job is taken in hand only at the end of a pass. -/
theorem Leads.takes {point : Point α} {answer : (point.call duties).Answer}
    (hleads : point.Leads duties bounds answer bounds' target) (hhandles : point.handles = false)
    (hcrashed : point.isCrashed = false) :
    target.handles = false ∧ target.isCrashed = false ∧ target.taken? = none ∨
      point.pollSession?.isSome ∧ target.Accounts [] ∧ target.taken?.isSome := by
  have hfree (h : target.handles = false ∧ target.isCrashed = false) :
      target.handles = false ∧ target.isCrashed = false ∧ target.taken? = none := by
    refine ⟨h.1, h.2, ?_⟩
    cases target <;> first | rfl | cases h.1
  cases point with
  | idle =>
    rw [hleads.2]
    exact .inl ⟨rfl, rfl, rfl⟩
  | starting | atConnectGate | closing => exact .inl (hfree hleads.2.isFree)
  | connecting =>
    rcases answer with error | session
    · exact .inl (hfree hleads.2.isFree)
    · exact .inl (hfree hleads.2.isFree)
  | atFailureGate | asleep => exact .inl (hfree hleads.1.isFree)
  | polling =>
    cases PollLeads.pollTarget hleads with
    | goesOn | givesUp => exact .inl ⟨rfl, rfl, rfl⟩
    | takes job => exact .inr ⟨rfl, rfl, rfl⟩
    | rests _ hresting => exact .inl (hfree hresting.isFree)
  | working | rollingBack => cases hhandles
  | crashed => cases hcrashed

end Point

/-! ## A worker and its accounts -/

theorem Call.deed?_bind_registration? (call : Call α) (answer : call.Answer) :
    (call.deed? answer).bind Deed.registration? = none := by
  unfold deed?
  split <;> rfl

theorem Point.deed?_bind_registration? (point : Point α) (answer : (point.call duties).Answer) :
    (point.deed? answer).bind Deed.registration? = none := by
  unfold deed?
  split
  · exact Call.deed?_bind_registration? _ answer
  · rfl

theorem Point.taken?_of_handles {point : Point α} (h : point.handles = false) :
    point.taken? = none := by
  cases point <;> first | rfl | cases h

theorem Point.handles_of_isCrashed {point : Point α} (h : point.isCrashed = true) :
    point.handles = false := by
  cases point <;> first | rfl | cases h

theorem Point.Accounts.handles {point : Point α} {deeds : List Deed} (h : point.Accounts deeds) :
    point.handles = true := by
  cases point <;> first | rfl | exact h.elim

theorem Point.Accounts.call_ne_pause {point : Point α} {deeds : List Deed}
    (h : point.Accounts deeds) : point.call duties ≠ .pause := by
  cases point with
  | working session job stage => cases stage <;> nofun
  | rollingBack => nofun
  | idle | starting | atConnectGate | connecting | atFailureGate | asleep | polling | closing
    | crashed => exact h.elim

theorem Point.deed?_of_handles {point : Point α} (h : point.handles = false)
    (answer : (point.call duties).Answer) : point.deed? answer = none := by
  rw [deed?, if_neg (Bool.eq_false_iff.1 h)]

theorem Point.registration?_of_handles {source : Point α} (h : source.handles = false)
    (target : Point α) : source.registration? target = none := by
  cases source <;> first | rfl | cases h

namespace Handling

def told (handlings : List (Handling α)) : List Bool :=
  handlings.flatMap fun handling ↦ handling.deeds.filterMap Deed.registration?

/-- What is done about a job adds to what was told only if it is a registration. -/
theorem told_add (deed? : Option Deed) (handling : Handling α) (earlier : List (Handling α)) :
    told (handling.add deed? :: earlier) =
      (deed?.bind Deed.registration?).toList ++ told (handling :: earlier) := by
  cases deed? with
  | none => rfl
  | some deed => cases deed <;> rfl

theorem told_modifyHead {deed? : Option Deed} (h : deed?.bind Deed.registration? = none)
    (handlings : List (Handling α)) : told (handlings.modifyHead (.add deed?)) = told handlings := by
  cases handlings with
  | nil => rfl
  | cons handling earlier =>
    rw [List.modifyHead_cons, told_add, h, Option.toList_none, List.nil_append]

theorem modifyHead_add_none (handlings : List (Handling α)) :
    handlings.modifyHead (.add none) = handlings := by
  cases handlings <;> rfl

/-- Taking a job in hand tells nothing. -/
theorem told_taken (taken? : Option (Job α)) (admitted : Bool) (handlings : List (Handling α)) :
    told ((taken?.toList.map fun job ↦ ⟨job, admitted, []⟩) ++ handlings) = told handlings := by
  cases taken? <;> rfl

theorem admitted_modifyHead {handlings : List (Handling α)} (deed? : Option Deed)
    (h : ∀ handling ∈ handlings, handling.admitted = true) :
    ∀ handling ∈ handlings.modifyHead (.add deed?), handling.admitted = true := by
  cases handlings with
  | nil => exact h
  | cons handling earlier => simpa [add] using h

end Handling

/-- What is on record about the jobs of a member, by where it is. -/
inductive Member.Books (member : Member duties) : List (Handling α) → Prop where
  /-- A job is in hand. -/
  | asking {handling : Handling α} {earlier : List (Handling α)} : member.answer? = none →
      member.worker.point.Accounts handling.deeds → (∀ other ∈ earlier, Deed.Accounted other.deeds) →
      Member.Books member (handling :: earlier)
  /-- A job is in hand, and the latest deed is not settled yet. -/
  | answered {handling : Handling α} {earlier : List (Handling α)} {before : List Deed}
      {answer : (member.worker.call duties).Answer} : member.answer? = some answer →
      member.worker.point.Accounts before →
      handling.deeds = (member.worker.point.deed? answer).toList ++ before →
      (∀ other ∈ earlier, Deed.Accounted other.deeds) → Member.Books member (handling :: earlier)
  | crashed {handling : Handling α} {earlier : List (Handling α)} :
      member.worker.point.isCrashed = true → handling.deeds = [] →
      (∀ other ∈ earlier, Deed.Accounted other.deeds) → Member.Books member (handling :: earlier)
  | free {handlings : List (Handling α)} : member.worker.point.handles = false →
      member.worker.point.isCrashed = false → (∀ other ∈ handlings, Deed.Accounted other.deeds) →
      Member.Books member handlings

def Point.searches (point : Point α) : Bool := point.pollSession?.isSome || point.isAsleep

theorem Point.searches_iff {point : Point α} :
    point.searches = true ↔ point.pollSession?.isSome ∨ point.isAsleep = true := by
  simp [searches]

/-- A search goes on, or it begins. -/
theorem Paces.searches {source : Point α} {turn : Turn α} {countdown : Int}
    (h : Paces duties source turn countdown) (hsearches : turn.worker.point.searches = true) :
    source.persists = false ∧ turn.worker.point.isBeginning = true ∨ source.searches = true := by
  cases h with
  | first hsource hpoint =>
    refine .inl ⟨hsource, ?_⟩
    rw [hpoint]
    rfl
  | awoken hasleep => exact .inr (Point.searches_iff.2 (.inr hasleep))
  | again howes | expired howes =>
    refine .inr (Point.searches_iff.2 (.inl ?_))
    cases source with
    | polling => rfl
    | idle | starting | atConnectGate | connecting | atFailureGate | asleep | working | rollingBack
      | closing | crashed => cases howes
  | kept hsource | dozed hsource =>
    rw [hsource]
    exact .inr rfl
  | sleptOn hpoint =>
    rw [hpoint] at hsearches
    exact .inr hsearches
  | rested _ hnone hawake =>
    rcases Point.searches_iff.1 hsearches with hpoll | hasleep
    · rw [hnone] at hpoll
      cases hpoll
    · rw [hawake] at hasleep
      cases hasleep

/-- The accounts of a member are in order. -/
structure Member.IsHonest (member : Member duties) (incidents : List (Incident duties)) : Prop where
  books : member.Books (Incident.handlings incidents)
  told : Handling.told (Incident.handlings incidents) = incidents.filterMap Incident.registration?
  admitted : ∀ handling ∈ Incident.handlings incidents, handling.admitted = true
  searching : member.worker.point.searches = true → Incident.isAdmitted incidents = true

namespace Member.IsHonest

variable {member : Member duties} {incidents : List (Incident duties)} {world : World duties}

theorem rest (h : member.IsHonest incidents) (servedAt : Instant) (attempt : Attempt) :
    (⟨member.worker, member.answer?, servedAt, attempt⟩ : Member duties).IsHonest incidents := by
  obtain ⟨hbooks, htold, hadmitted, hsearching⟩ := h
  refine ⟨?_, htold, hadmitted, hsearching⟩
  generalize Incident.handlings incidents = handlings at hbooks ⊢
  cases hbooks with
  | asking hopen haccounts hearlier => exact .asking hopen haccounts hearlier
  | answered hanswered haccounts hdeeds hearlier =>
    exact .answered hanswered haccounts hdeeds hearlier
  | crashed hcrashed hdeeds hearlier => exact .crashed hcrashed hdeeds hearlier
  | free hhandles hcrashed haccounted => exact .free hhandles hcrashed haccounted

/-- An idle worker is started. -/
theorem spawn (h : member.IsHonest incidents) (hidle : member.worker.point = .idle) :
    member.spawn.IsHonest incidents := by
  obtain ⟨hbooks, htold, hadmitted, -⟩ := h
  refine ⟨.free rfl rfl ?_, htold, hadmitted, nofun⟩
  generalize Incident.handlings incidents = handlings at hbooks ⊢
  cases hbooks with
  | free _ _ haccounted => exact haccounted
  | asking _ haccounts | answered _ haccounts =>
    rw [hidle] at haccounts
    exact haccounts.elim
  | crashed hcrashed =>
    rw [hidle] at hcrashed
    cases hcrashed

/-- A call is answered. -/
theorem answer (h : member.IsHonest incidents) (hopen : member.answer? = none)
    (answer : (member.worker.call duties).Answer) (servedAt : Instant) (attempt : Attempt) :
    (⟨member.worker, some answer, servedAt, attempt⟩ : Member duties).IsHonest
      (.answered world member.worker.point answer :: incidents) := by
  obtain ⟨hbooks, htold, hadmitted, hsearching⟩ := h
  refine ⟨?_, ?_, Handling.admitted_modifyHead _ hadmitted, hsearching⟩
  · unfold Incident.handlings
    generalize Incident.handlings incidents = handlings at hbooks ⊢
    cases hbooks with
    | asking _ haccounts hearlier => exact .answered rfl haccounts rfl hearlier
    | answered hanswered =>
      rw [hopen] at hanswered
      cases hanswered
    | crashed hcrashed hdeeds hearlier =>
      have hnone : member.worker.point.deed? answer = none :=
        Point.deed?_of_handles (Point.handles_of_isCrashed hcrashed) answer
      rw [hnone, Handling.modifyHead_add_none]
      exact .crashed hcrashed hdeeds hearlier
    | free hhandles hcrashed haccounted =>
      have hnone : member.worker.point.deed? answer = none :=
        Point.deed?_of_handles hhandles answer
      rw [hnone, Handling.modifyHead_add_none]
      exact .free hhandles hcrashed haccounted
  · exact (Handling.told_modifyHead (Point.deed?_bind_registration? _ answer) _).trans htold

variable {reply : (member.worker.call duties).Answer} {turn : Turn α}

/-- A member that goes on keeps its books. -/
theorem resume_books (h : member.Books (Incident.handlings incidents))
    (hready : member.ready world.shared world.moment = some reply)
    (hleads : member.worker.point.Leads duties member.worker.bounds reply turn.worker.bounds
      turn.worker.point) (servedAt : Instant) (attempt : Attempt) :
    (⟨turn.worker, none, servedAt, attempt⟩ : Member duties).Books
      (Incident.handlings (.resumed world member.worker.point turn :: incidents)) := by
  unfold Incident.handlings
  generalize Incident.handlings incidents = handlings at h ⊢
  cases h with
  | asking hopen haccounts =>
    obtain hanswered | ⟨-, hpause⟩ := Member.ready_cases hready
    · rw [hopen] at hanswered
      cases hanswered
    · exact absurd hpause haccounts.call_ne_pause
  | @answered handling earlier before answer hanswered haccounts hdeeds hearlier =>
    obtain hreply | ⟨hopen, -⟩ := Member.ready_cases hready
    · obtain rfl := Option.some.inj (hanswered.symm.trans hreply)
      have hreckons := Point.Leads.reckons haccounts hleads
      rw [← hdeeds] at hreckons
      cases hreckons with
      | on _ htaken hnone haccounts' =>
        rw [htaken, hnone]
        exact .asking rfl haccounts' hearlier
      | @through success hhandles hcrashed hregistered haccounted =>
        rw [Point.taken?_of_handles hhandles, hregistered]
        exact .free hhandles hcrashed (List.forall_mem_cons.2 ⟨haccounted, hearlier⟩)
      | down hcrashed hnone hempty =>
        rw [Point.taken?_of_handles (Point.handles_of_isCrashed hcrashed), hnone]
        exact .crashed hcrashed hempty hearlier
    · rw [hopen] at hanswered
      cases hanswered
  | crashed hcrashed hdeeds hearlier =>
    have hsame := Point.Leads.eq_of_isCrashed hleads hcrashed
    have hnone : member.worker.point.registration? turn.worker.point = none :=
      Point.registration?_of_handles (Point.handles_of_isCrashed hcrashed) _
    rw [← hsame] at hcrashed
    rw [Point.taken?_of_handles (Point.handles_of_isCrashed hcrashed), hnone]
    exact .crashed hcrashed hdeeds hearlier
  | free hhandles hcrashed haccounted =>
    have hnone : member.worker.point.registration? turn.worker.point = none :=
      Point.registration?_of_handles hhandles _
    rw [hnone, Option.map_none, Handling.modifyHead_add_none]
    obtain ⟨hhandles', hcrashed', htaken⟩ | ⟨-, haccounts, htaken⟩ :=
      hleads.takes hhandles hcrashed
    · rw [htaken]
      exact .free hhandles' hcrashed' haccounted
    · obtain ⟨job, htaken⟩ := Option.isSome_iff_exists.1 htaken
      rw [htaken]
      exact .asking rfl haccounts haccounted

/-- Only a member without a job in hand takes one. -/
theorem isSome_pollSession? {handlings : List (Handling α)} (h : member.Books handlings)
    (hleads : member.worker.point.Leads duties member.worker.bounds reply turn.worker.bounds
      turn.worker.point) (htaken : turn.worker.point.taken?.isSome) :
    member.worker.point.pollSession?.isSome := by
  have hnone {deeds : List Deed} (haccounts : member.worker.point.Accounts deeds) :
      turn.worker.point.taken? = none := by
    cases Point.Leads.reckons haccounts hleads with
    | on _ hnone => exact hnone
    | through hhandles => exact Point.taken?_of_handles hhandles
    | down hcrashed => exact Point.taken?_of_handles (Point.handles_of_isCrashed hcrashed)
  cases h with
  | asking _ haccounts | answered _ haccounts =>
    rw [hnone haccounts] at htaken
    cases htaken
  | crashed hcrashed =>
    rw [Point.Leads.eq_of_isCrashed hleads hcrashed,
      Point.taken?_of_handles (Point.handles_of_isCrashed hcrashed)] at htaken
    cases htaken
  | free hhandles hcrashed =>
    obtain ⟨-, -, hnone⟩ | ⟨hpoll, -, -⟩ := hleads.takes hhandles hcrashed
    · rw [hnone] at htaken
      cases htaken
    · exact hpoll

/-- A member that has a job in hand has it on record as the latest one. -/
theorem exists_cons {handlings : List (Handling α)} (h : member.Books handlings)
    (hhandles : member.worker.point.handles = true) :
    ∃ handling earlier, handlings = handling :: earlier := by
  cases h with
  | asking | answered | crashed => exact ⟨_, _, rfl⟩
  | free hfree =>
    rw [hfree] at hhandles
    cases hhandles

/-- A worker goes on. -/
theorem resume (h : member.IsHonest incidents)
    (hready : member.ready world.shared world.moment = some reply)
    (hturn : turn = member.worker.resume duties world.moment world.shared reply)
    (servedAt : Instant) (attempt : Attempt) :
    (⟨turn.worker, none, servedAt, attempt⟩ : Member duties).IsHonest
      (.resumed world member.worker.point turn :: incidents) := by
  have hleads := member.worker.resume_leads duties world.moment world.shared reply
  have hpaces := member.worker.resume_paces duties world.moment world.shared reply
  have hadmits := member.worker.resume_admits duties world.moment world.shared reply
  rw [← hturn] at hleads hpaces hadmits
  refine ⟨resume_books h.books hready hleads servedAt attempt, ?_, ?_, fun hsearches ↦ ?_⟩
  · rw [Incident.handlings, Handling.told_taken, List.filterMap_cons, Incident.registration?,
      ← h.told]
    cases hregistered : member.worker.point.registration? turn.worker.point with
    | none => exact Handling.told_modifyHead rfl _
    | some success =>
      have hhandles : member.worker.point.handles = true := by
        by_contra hnot
        rw [Point.registration?_of_handles (Bool.eq_false_iff.2 hnot)] at hregistered
        cases hregistered
      obtain ⟨handling, earlier, hcons⟩ := exists_cons h.books hhandles
      rw [hcons]
      exact Handling.told_add _ handling earlier
  · intro handling hhandling
    rcases List.mem_append.1 hhandling with hnew | hold
    · obtain ⟨job, hjob, rfl⟩ := List.mem_map.1 hnew
      refine h.searching (Point.searches_iff.2 (.inl (isSome_pollSession? h.books hleads ?_)))
      exact Option.isSome_iff_exists.2 ⟨job, Option.mem_toList.1 hjob⟩
    · exact Handling.admitted_modifyHead _ h.admitted handling hold
  -- A search that begins has just been admitted, and nothing is told during one that goes on.
  · rw [Incident.isAdmitted, Bool.or_eq_true, Bool.and_eq_true, Bool.and_eq_true, Bool.and_eq_true]
    obtain ⟨hpersists, hbegins⟩ | hsearched := hpaces.searches hsearches
    · refine .inl ⟨⟨by rw [hpersists]; rfl, hbegins⟩, ?_⟩
      exact Option.isNone_iff_eq_none.2 (hadmits hpersists hbegins)
    · refine .inr ⟨Option.isNone_iff_eq_none.2 ?_, h.searching hsearched⟩
      rcases Point.searches_iff.1 hsearched with hpoll | hasleep
      · exact Point.registration?_of_pollSession? hpoll
      · exact Point.registration?_of_isAsleep hasleep

end Member.IsHonest

/-- The accounts of every worker are in order, whatever the others do and whoever else writes. -/
theorem OpenRun.isHonest {workers number : Nat} {shared : Shared} {now : Instant}
    {past : Past duties} {world : World duties} {member : Member duties}
    (run : OpenRun (World.initial duties workers shared now) past world)
    (hmember : world.members[number]? = some member) :
    member.IsHonest (past.incidents number) := by
  refine @OpenRun.preserves_member _ _ _ number _ _ (fun past _ member ↦
    member.IsHonest (past.incidents number)) (fun name ↦ ?_) ?_ (fun _ _ _ _ _ h ↦ h) _ _ run _
      hmember
  · exact ⟨.free rfl rfl nofun, rfl, nofun, nofun⟩
  · intro past world move member member' _ _ h hundergoes
    rw [Past.incidents_cons]
    generalize world.incident? number move = incident? at hundergoes ⊢
    cases hundergoes with
    | rested servedAt attempt => exact h.rest servedAt attempt
    | spawned hidle => exact h.spawn hidle
    | answered attempt hopen => exact h.answer hopen _ _ _
    | resumed hready hturn => exact h.resume hready hturn _ _

/-- What a worker tells the failure throttle of its jobs. -/
structure KeepsAccounts (point : Point α) (handlings : List (Handling α))
    (registrations : List Bool) : Prop where
  /-- Each job that is no longer in hand has been told of, once and rightly, if and only if the worker
  has not died. -/
  accounted_iff : (∀ handling ∈ point.finished handlings, Deed.Accounted handling.deeds) ↔
    point.isCrashed = false
  /-- Of no job is anything told before the end. -/
  accounted_or_pends : ∀ handling ∈ handlings,
    Deed.Accounted handling.deeds ∨ Deed.Pends handling.deeds
  /-- The throttle is told of nothing else. -/
  told : Handling.told handlings = registrations
  /-- Before each job the worker was let through by the throttle, after it had told of the one before.
  -/
  admitted : ∀ handling ∈ handlings, handling.admitted = true

/-- A job about which the failure throttle has not been told is not accounted for. -/
theorem Deed.not_accounted_of_pends {deeds : List Deed} (h : Pends deeds) : ¬ Accounted deeds := by
  rintro ⟨success, before, rfl, -⟩
  exact h success List.mem_cons_self

/-- While a job is in hand the failure throttle has not been told about it. -/
theorem Point.Accounts.pends {point : Point α} {deeds : List Deed} (h : point.Accounts deeds) :
    Deed.Pends deeds := by
  cases point with
  | working => exact (JobStage.Accounts.pends h).1
  | rollingBack => exact h.1
  | idle | starting | atConnectGate | connecting | atFailureGate | asleep | polling | closing
    | crashed => exact h.elim

theorem Point.pends_of_deed? {point : Point α} {answer : (point.call duties).Answer}
    {deeds : List Deed} (h : Deed.Pends deeds) :
    Deed.Pends ((point.deed? answer).toList ++ deeds) := by
  intro success hmem
  rcases List.mem_append.1 hmem with hnew | hold
  · have hnone := point.deed?_bind_registration? answer
    rw [Option.mem_toList.1 hnew] at hnone
    cases hnone
  · exact h success hold

/-- What a member says about its jobs. -/
theorem Member.Books.keepsAccounts {member : Member duties} {handlings : List (Handling α)}
    (h : member.Books handlings) :
    ((∀ handling ∈ member.worker.point.finished handlings, Deed.Accounted handling.deeds) ↔
      member.worker.point.isCrashed = false) ∧
    ∀ handling ∈ handlings, Deed.Accounted handling.deeds ∨ Deed.Pends handling.deeds := by
  have hinHand {deeds : List Deed} {handling : Handling α} {earlier : List (Handling α)}
      (haccounts : member.worker.point.Accounts deeds) (hpends : Deed.Pends handling.deeds)
      (hearlier : ∀ other ∈ earlier, Deed.Accounted other.deeds) :
      ((∀ other ∈ member.worker.point.finished (handling :: earlier), Deed.Accounted other.deeds) ↔
        member.worker.point.isCrashed = false) ∧
      ∀ other ∈ handling :: earlier, Deed.Accounted other.deeds ∨ Deed.Pends other.deeds := by
    have hhandles := haccounts.handles
    refine ⟨iff_of_true ?_ ?_,
      List.forall_mem_cons.2 ⟨.inr hpends, fun other h ↦ .inl (hearlier other h)⟩⟩
    · rw [Point.finished, if_pos hhandles]
      exact hearlier
    · by_contra hcrashed
      rw [Point.handles_of_isCrashed (by simpa using hcrashed)] at hhandles
      cases hhandles
  cases h with
  | asking _ haccounts hearlier => exact hinHand haccounts haccounts.pends hearlier
  | answered _ haccounts hdeeds hearlier =>
    exact hinHand haccounts (hdeeds ▸ Point.pends_of_deed? haccounts.pends) hearlier
  | @crashed handling earlier hcrashed hdeeds hearlier =>
    have hpends : Deed.Pends handling.deeds := by
      rw [hdeeds]
      exact fun _ ↦ List.not_mem_nil
    refine ⟨iff_of_false (fun haccounted ↦ ?_) (by simp [hcrashed]), ?_⟩
    · have hhandles := Point.handles_of_isCrashed hcrashed
      rw [Point.finished, if_neg (Bool.eq_false_iff.1 hhandles)] at haccounted
      exact Deed.not_accounted_of_pends hpends (haccounted handling List.mem_cons_self)
    · exact List.forall_mem_cons.2 ⟨.inr hpends, fun other h ↦ .inl (hearlier other h)⟩
  | free hhandles hcrashed haccounted =>
    rw [Point.finished, if_neg (Bool.eq_false_iff.1 hhandles)]
    exact ⟨iff_of_true haccounted hcrashed, fun other h ↦ .inl (haccounted other h)⟩

/-- Whatever becomes of its jobs and whatever statements fail, whatever the others do and whoever else
writes, the failure throttle hears of each job of a worker once, rightly and in the end, unless the
worker dies while it merges duplicates. -/
theorem OpenRun.keeps_accounts {workers number : Nat} {shared : Shared} {now : Instant}
    {past : Past duties} {world : World duties} {member : Member duties}
    (run : OpenRun (World.initial duties workers shared now) past world)
    (hmember : world.members[number]? = some member) :
    KeepsAccounts member.worker.point (past.handlings number) (past.registrations number) ∧
      world.shared.failureThrottle = shared.failureThrottle.registerAll past.jobReports := by
  have hhonest := run.isHonest hmember
  obtain ⟨hiff, hor⟩ := hhonest.books.keepsAccounts
  exact ⟨⟨hiff, hor, hhonest.told, hhonest.admitted⟩, run.failureThrottle_eq⟩

namespace Sample

def mortal : Duties (List Cell) := Sample.duties (some ⟨[0], id, fun _ _ ↦ .error "no"⟩)

/-- A worker has a job accepted and another one rejected, and then takes one that has a duplicate. -/
def fatalMergeMoves : List Move :=
  [.produce (row 1 [.whole 0]) ⟨0⟩, .produce (row 2 [.whole 1]) ⟨0⟩,
    .produce (row 3 [.whole 2]) ⟨0⟩, .produce (row 4 [.whole 2]) ⟨0⟩, .start, .resume 0] ++
  rounds 0 (smooth 13 ++ [rejecting (.fatal [] false)] ++ smooth 9)

def fatalMerge : Past mortal × World mortal :=
  (World.initial mortal 1 shared ⟨10000000000⟩).play fatalMergeMoves

end Sample

theorem keeps_accounts_of_fatalMerge :
    (Sample.fatalMerge.1.handlings 0).map Handling.deeds =
      [[],
        [.registered true, .committed, .archived, .committed,
          .received (.rejected (.fatal [] false))],
        [.registered true, .committed, .released, .received .accepted]] ∧
    ∃ member, Sample.fatalMerge.2.members[0]? = some member ∧
      KeepsAccounts member.worker.point (Sample.fatalMerge.1.handlings 0)
        (Sample.fatalMerge.1.registrations 0) ∧
      Sample.fatalMerge.2.shared.failureThrottle =
        Sample.shared.failureThrottle.registerAll Sample.fatalMerge.1.jobReports := by
  have hsome : Sample.fatalMerge.2.members[0]?.isSome = true := by decide +kernel
  obtain ⟨member, hmember⟩ := Option.isSome_iff_exists.1 hsome
  exact ⟨by decide +kernel, member, hmember,
    OpenRun.keeps_accounts (.of_run (Run.play _ Sample.fatalMergeMoves)) hmember⟩

/-- A worker that has died has no job in hand any more, and nobody has been told of the last one. -/
theorem tells_nobody_of_fatalMerge :
    (∀ member ∈ Sample.fatalMerge.2.members, member.worker.point.handles = false) ∧
      ¬ ∀ handling ∈ Sample.fatalMerge.1.handlings 0, Deed.Accounted handling.deeds := by
  refine ⟨by decide +kernel, fun haccounted ↦ ?_⟩
  have hpends : ∃ handling ∈ Sample.fatalMerge.1.handlings 0, handling.deeds = [] := by
    decide +kernel
  obtain ⟨handling, hhandling, hdeeds⟩ := hpends
  refine Deed.not_accounted_of_pends ?_ (haccounted handling hhandling)
  rw [hdeeds]
  exact fun _ ↦ List.not_mem_nil

end TableQueue
