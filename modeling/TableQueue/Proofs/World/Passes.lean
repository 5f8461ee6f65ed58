import TableQueue.Proofs.Countdown
import TableQueue.Proofs.World.Incidents

/-!
# The passes of a worker

What a worker does in search of jobs is a list of passes, read off its incidents. The countdown that
the worker carries from pass to pass is a function of that list: it says which pass is the next to
clear the bounds, and from it follows whether some passes in a row contain one that does.
-/

namespace TableQueue

variable {α : Type} {duties : Duties α}

/-! ## Passes on record -/

/-- A probe or a claim that has been carried out. -/
structure Sight (duties : Duties α) where
  isClaim : Bool
  /-- The world in which it was carried out. -/
  world : World duties
  session : Nat
  queue : String

/-- How a pass ends that meets no error. -/
inductive PassResult where
  | job
  | nothing
deriving DecidableEq

structure Pass (duties : Duties α) where
  /-- Whether its search goes on after an empty pass. -/
  waits : Bool
  /-- Whether an earlier pass of its search was empty. -/
  continues : Bool
  /-- Whether the worker has slept in its search before it. -/
  hasSlept : Bool
  /-- Whether the bounds are cleared when it begins. -/
  clears : Bool
  /-- The bounds with which it begins. -/
  bounds : Bounds
  /-- The probes and claims that were carried out in it, the latest first. -/
  sights : List (Sight duties)
  result? : Option PassResult

/-- The probe or the claim that is carried out when a call is answered. -/
def Point.sight? (world : World duties) :
    (point : Point α) → (point.call duties).Answer → Option (Sight duties)
  | polling session _ (.probing queue _ _), .ok _ => some ⟨false, world, session, queue⟩
  | polling session _ (.claiming queue _ _ _), .ok _ => some ⟨true, world, session, queue⟩
  | _, _ => none

/-- Whether a pass ends with a job. -/
def Point.yields : Point α → Point α → Bool
  | polling _ _ (.claiming ..), working .. => true
  | _, _ => false

namespace Pass

def yields (pass : Pass duties) : Bool := pass.result? = some .job

def isEmpty (pass : Pass duties) : Bool := pass.result? = some .nothing

/-- The next pass has to clear the bounds, because the search goes on and they have not been cleared
in it. -/
def owes (pass : Pass duties) : Bool :=
  pass.waits && pass.isEmpty && !(pass.clears || pass.hasSlept)

/-- A pass that begins when a worker leaves a point. -/
def begun (source : Point α) (turn : Turn α) (cycle : Cycle) (earlier : List (Pass duties)) :
    Pass duties where
  waits := cycle.waits
  continues := source.persists
  hasSlept := source.isAsleep || source.persists && earlier.head?.any hasSlept
  clears := turn.clears
  bounds := turn.worker.bounds
  sights := []
  result? := none

/-- A pass once the worker has gone from one point to another. -/
def after (source target : Point α) (pass : Pass duties) : Pass duties :=
  if source.yields target then { pass with result? := some .job }
  else if source.empties target then { pass with result? := some .nothing }
  else pass

def see (world : World duties) (point : Point α) (answer : (point.call duties).Answer)
    (pass : Pass duties) : Pass duties :=
  { pass with sights := (point.sight? world answer).toList ++ pass.sights }

end Pass

namespace Incident

def passes : List (Incident duties) → List (Pass duties)
  | [] => []
  | .answered world point answer :: earlier => (passes earlier).modifyHead (.see world point answer)
  | .resumed _ source turn :: earlier =>
    let passes := (passes earlier).modifyHead (.after source turn.worker.point)
    match turn.worker.point with
    | .polling _ cycle .beginning => .begun source turn cycle passes :: passes
    | _ => passes

end Incident

def Past.passes (past : Past duties) (number : Nat) : List (Pass duties) :=
  Incident.passes (past.incidents number)

/-! ## The countdown of a list of passes -/

namespace Pass

variable {settings : Settings} {passes earlier window : List (Pass duties)} {pass : Pass duties}

def remaining (settings : Settings) : List (Pass duties) → Nat
  | [] => settings.rescanEvery
  | pass :: earlier =>
    if pass.owes then 0
    else if pass.clears then
      if pass.continues then settings.idleRescanEvery else settings.rescanEvery
    else remaining settings earlier - 1

/-- The passes clear the bounds when the countdown is over, and only then. -/
def Lawful (settings : Settings) : List (Pass duties) → Prop
  | [] => True
  | pass :: earlier => (pass.clears = true ↔ remaining settings earlier ≤ 1) ∧
    (pass.clears = true → pass.bounds = []) ∧ Lawful settings earlier

/-- The countdown is never above the longer of the two intervals. -/
theorem remaining_le (settings : Settings) (passes : List (Pass duties)) :
    remaining settings passes ≤ max settings.rescanEvery settings.idleRescanEvery := by
  induction passes with
  | nil => exact Nat.le_max_left _ _
  | cons pass earlier ih =>
    unfold remaining
    split
    · exact Nat.zero_le _
    · split
      · split
        · exact Nat.le_max_right _ _
        · exact Nat.le_max_left _ _
      · exact (Nat.sub_le _ _).trans ih

theorem Lawful.of_append (h : Lawful settings (window ++ earlier)) : Lawful settings earlier := by
  induction window with
  | nil => exact h
  | cons _ _ ih => exact ih h.2.2

/-- A pass that clears the bounds begins without any. -/
theorem Lawful.bounds_eq_nil (h : Lawful settings passes) (hmem : pass ∈ passes)
    (hclears : pass.clears = true) : pass.bounds = [] := by
  induction passes with
  | nil => cases hmem
  | cons _ _ ih =>
    rcases List.mem_cons.1 hmem with rfl | hmem
    · exact h.2.1 hclears
    · exact ih h.2.2 hmem

/-- As long as no pass clears the bounds, each brings the next that does closer by one. -/
theorem remaining_append (howes : ∀ pass ∈ window, pass.owes = false)
    (hclears : ∀ pass ∈ window, pass.clears = false) :
    remaining settings (window ++ earlier) = remaining settings earlier - window.length := by
  induction window with
  | nil => rfl
  | cons pass rest ih =>
    have hrest := ih (fun other hother ↦ howes other (List.mem_cons_of_mem _ hother))
      fun other hother ↦ hclears other (List.mem_cons_of_mem _ hother)
    simp only [List.cons_append, remaining, howes pass List.mem_cons_self,
      hclears pass List.mem_cons_self, Bool.false_eq_true, if_false, hrest, List.length_cons]
    omega

/-- Some passes in a row contain one that clears the bounds if and only if the countdown at their
beginning is within their number. -/
theorem Lawful.exists_clears_iff (h : Lawful settings (window ++ earlier)) (hne : window ≠ [])
    (howes : ∀ pass ∈ window, pass.owes = false) :
    (∃ pass ∈ window, pass.clears = true) ↔ remaining settings earlier ≤ window.length := by
  induction window with
  | nil => exact absurd rfl hne
  | cons pass rest ih =>
    rw [List.cons_append] at h
    obtain ⟨hpass, -, hrest⟩ := h
    have howes' (other : Pass duties) (hother : other ∈ rest) : other.owes = false :=
      howes other (List.mem_cons_of_mem _ hother)
    by_cases hsome : ∃ other ∈ rest, other.clears = true
    · have hle := (ih hrest (fun hnil ↦ by simp [hnil] at hsome) howes').1 hsome
      obtain ⟨other, hother, hclears⟩ := hsome
      exact iff_of_true ⟨other, List.mem_cons_of_mem _ hother, hclears⟩ (Nat.le_succ_of_le hle)
    -- Otherwise the countdown has come down to the latest pass by one for each before it.
    · have hnone (other : Pass duties) (hother : other ∈ rest) : other.clears = false :=
        Bool.eq_false_iff.2 fun hclears ↦ hsome ⟨other, hother, hclears⟩
      rw [remaining_append howes' hnone] at hpass
      have hhead : (∃ other ∈ pass :: rest, other.clears = true) ↔ pass.clears = true := by
        simp only [List.mem_cons, exists_eq_or_imp, hsome, or_false]
      rw [hhead, hpass, List.length_cons]
      omega

/-- Among so many passes in a row of some kind there is always one that clears the bounds. -/
def Regular (kind : Pass duties → Bool) (count : Nat) (passes : List (Pass duties)) : Prop :=
  ∀ later window earlier, passes = later ++ window ++ earlier → window.length = count →
    (∀ pass ∈ window, kind pass = true) → ∃ pass ∈ window, pass.clears = true

/-- Wherever so many passes in a row are of some kind, the countdown at their beginning is within
that number. -/
def Timely (settings : Settings) (kind : Pass duties → Bool) (count : Nat)
    (passes : List (Pass duties)) : Prop :=
  ∀ later window earlier, passes = later ++ window ++ earlier → window.length = count →
    (∀ pass ∈ window, kind pass = true) → remaining settings earlier ≤ count

/-- Passes of a kind are regular just if the countdown is timely wherever they begin. -/
theorem Lawful.regular_iff (h : Lawful settings passes) {kind : Pass duties → Bool} {count : Nat}
    (hkind : ∀ pass, kind pass = true → pass.owes = false) (hcount : 1 ≤ count) :
    Regular kind count passes ↔ Timely settings kind count passes := by
  have hiff (later window earlier : List (Pass duties))
      (hsplit : passes = later ++ window ++ earlier) (hlength : window.length = count)
      (hall : ∀ pass ∈ window, kind pass = true) :
      (∃ pass ∈ window, pass.clears = true) ↔ remaining settings earlier ≤ count := by
    rw [hsplit, List.append_assoc] at h
    rw [← hlength]
    refine h.of_append.exists_clears_iff (fun hnil ↦ ?_) fun pass hpass ↦
      hkind pass (hall pass hpass)
    rw [hnil] at hlength
    exact absurd hcount (by simp [← hlength])
  constructor
  · intro hregular later window earlier hsplit hlength hall
    exact (hiff later window earlier hsplit hlength hall).1
      (hregular later window earlier hsplit hlength hall)
  · intro htimely later window earlier hsplit hlength hall
    exact (hiff later window earlier hsplit hlength hall).2
      (htimely later window earlier hsplit hlength hall)

/-- Within the longer of the two intervals every countdown is timely. -/
theorem timely_of_le {kind : Pass duties → Bool} {count : Nat}
    (hcount : max settings.rescanEvery settings.idleRescanEvery ≤ count) :
    Timely settings kind count passes :=
  fun _ _ earlier _ _ _ ↦ (remaining_le settings earlier).trans hcount

theorem owes_of_yields (h : pass.yields = true) : pass.owes = false := by
  have hjob : pass.result? = some .job := by simpa [yields] using h
  simp [owes, isEmpty, hjob]

theorem owes_of_hasSlept (h : pass.hasSlept = true) : pass.owes = false := by
  simp [owes, h]

end Pass

/-! ## The countdown of a worker -/

/-- What a point says about the pass that is under way. -/
def Point.Recounts (passes : List (Pass duties)) : Point α → Prop
  | polling _ cycle _ => ∃ pass earlier, passes = pass :: earlier ∧ pass.result? = none ∧
    pass.waits = cycle.waits ∧ (pass.clears || pass.hasSlept) = cycle.hasCleared
  | _ => True

theorem Point.recounts_of_pollSession? {point : Point α} (h : point.pollSession? = none)
    (passes : List (Pass duties)) : point.Recounts passes := by
  cases point with
  | polling => cases h
  | idle | starting | atConnectGate | connecting | atFailureGate | asleep | working | rollingBack
    | closing | crashed => trivial

theorem Point.Recounts.see {point source : Point α} {passes : List (Pass duties)}
    (h : point.Recounts passes) (world : World duties) (answer : (source.call duties).Answer) :
    point.Recounts (passes.modifyHead (.see world source answer)) := by
  cases point with
  | polling session cycle stage =>
    obtain ⟨pass, earlier, rfl, hpass⟩ := h
    exact ⟨_, _, rfl, hpass⟩
  | idle | starting | atConnectGate | connecting | atFailureGate | asleep | working | rollingBack
    | closing | crashed => trivial

theorem Point.owesRescan_of_isAsleep {point : Point α} (h : point.isAsleep = true) :
    point.owesRescan = false ∧ point.persists = true := by
  cases point <;> first | exact ⟨rfl, rfl⟩ | cases h

theorem Point.isAsleep_of_persists {point : Point α} (h : point.persists = false) :
    point.isAsleep = false := by
  cases point with
  | asleep => cases h
  | idle | starting | atConnectGate | connecting | atFailureGate | polling | working | rollingBack
    | closing | crashed => rfl

theorem Point.pollSession?_of_isAsleep {point : Point α} (h : point.isAsleep = true) :
    point.pollSession? = none := by
  cases point <;> first | rfl | cases h

/-- A pass that owes a rescan is empty, unless the rollback fails. -/
theorem Point.empties_of_owesRescan {source target : Point α} (howes : source.owesRescan = true)
    (htarget : ∀ session, target ≠ .closing session false) :
    source.empties target = true ∧ source.persists = true := by
  cases source with
  | polling session cycle stage =>
    cases stage with
    | abandoning =>
      refine ⟨?_, (Bool.and_eq_true_iff.1 howes).1⟩
      cases target with
      | closing session last =>
        cases last with
        | true => rfl
        | false => exact absurd rfl (htarget session)
      | idle | starting | atConnectGate | connecting | atFailureGate | asleep | polling | working
        | rollingBack | crashed => rfl
    | beginning | probing | bounding | replanning | claiming => cases howes
  | idle | starting | atConnectGate | connecting | atFailureGate | asleep | working | rollingBack
    | closing | crashed => cases howes

namespace Pass

variable {settings : Settings} {passes earlier : List (Pass duties)} {pass : Pass duties}
  {source target : Point α}

/-- What is on record besides about the latest pass does not matter to the law. -/
theorem Lawful.modifyHead {change : Pass duties → Pass duties} (h : Lawful settings passes)
    (hclears : ∀ pass, (change pass).clears = pass.clears)
    (hbounds : ∀ pass, (change pass).bounds = pass.bounds) :
    Lawful settings (passes.modifyHead change) := by
  cases passes with
  | nil => exact h
  | cons pass earlier =>
    rw [List.modifyHead_cons]
    refine ⟨?_, ?_, h.2.2⟩
    · rw [hclears]
      exact h.1
    · rw [hclears, hbounds]
      exact h.2.1

theorem after_cases (source target : Point α) (pass : Pass duties) :
    ∃ result?, pass.after source target = { pass with result? } := by
  unfold after
  split
  · exact ⟨_, rfl⟩
  · split
    · exact ⟨_, rfl⟩
    · exact ⟨pass.result?, rfl⟩

/-- What a worker goes on to does not change whether its passes are lawful. -/
theorem Lawful.after (h : Lawful settings passes) (source target : Point α) :
    Lawful settings (passes.modifyHead (.after source target)) := by
  refine h.modifyHead (fun pass ↦ ?_) fun pass ↦ ?_ <;>
  · obtain ⟨result?, hafter⟩ := pass.after_cases source target
    rw [hafter]

/-- A pass that goes on owes nothing yet; an empty one owes what the point says at which it is given
up. -/
theorem owes_after {session : Nat} {cycle : Cycle} {stage : PollStage}
    (hrecounts : (.polling session cycle stage : Point α).Recounts (pass :: earlier)) :
    pass.owes = false ∧ (pass.after (.polling session cycle stage) target).owes =
      ((.polling session cycle stage : Point α).empties target &&
        (.polling session cycle stage : Point α).owesRescan) := by
  obtain ⟨_, _, heq, hresult, hwaits, hcleared⟩ := hrecounts
  obtain ⟨rfl, rfl⟩ := List.cons.inj heq
  have hopen : pass.owes = false := by simp [owes, isEmpty, hresult]
  refine ⟨hopen, ?_⟩
  cases stage with
  | abandoning =>
    cases hempties : (.polling session cycle .abandoning : Point α).empties target with
    | true =>
      have hafter : pass.after (.polling session cycle .abandoning) target =
          { pass with result? := some .nothing } := by
        rw [after, if_neg (by exact Bool.false_ne_true), if_pos hempties]
      simp [hafter, owes, isEmpty, Point.owesRescan, hwaits, hcleared]
    | false =>
      have hafter : pass.after (.polling session cycle .abandoning) target = pass := by
        rw [after, if_neg (by exact Bool.false_ne_true), if_neg (Bool.eq_false_iff.1 hempties)]
      rw [hafter, hopen, Bool.false_and]
  | claiming queue rest notBefore begun =>
    have hnothing : (.polling session cycle (.claiming queue rest notBefore begun) :
        Point α).owesRescan = false := rfl
    rw [hnothing, Bool.and_false]
    cases target with
    | working => simp [after, Point.yields, owes, isEmpty]
    | idle | starting | atConnectGate | connecting | atFailureGate | asleep | polling | rollingBack
      | closing | crashed => exact hopen
  | beginning | probing | bounding | replanning => exact hopen

/-- What becomes of the latest pass matters to the countdown only if that pass owes a rescan. -/
theorem remaining_after_cons (source target : Point α) (pass : Pass duties)
    (earlier : List (Pass duties)) :
    remaining settings (pass.after source target :: earlier) =
      if (pass.after source target).owes then 0
      else if pass.clears then
        if pass.continues then settings.idleRescanEvery else settings.rescanEvery
      else remaining settings earlier - 1 := by
  obtain ⟨result?, hafter⟩ := pass.after_cases source target
  rw [hafter, remaining]

theorem modifyHead_after (hsource : source.pollSession? = none) (target : Point α)
    (passes : List (Pass duties)) : passes.modifyHead (.after source target) = passes := by
  have hafter (pass : Pass duties) : pass.after source target = pass := by
    cases source with
    | polling => cases hsource
    | idle | starting | atConnectGate | connecting | atFailureGate | asleep | working | rollingBack
      | closing | crashed => rfl
  cases passes with
  | nil => rfl
  | cons pass earlier => rw [List.modifyHead_cons, hafter]

/-- A turn that leaves no empty pass behind, or one that owes nothing, does not touch the
countdown. -/
theorem remaining_after (hrecounts : source.Recounts passes)
    (howes : source.owesRescan = false ∨ source.empties target = false) :
    remaining settings (passes.modifyHead (.after source target)) = remaining settings passes := by
  cases source with
  | idle | starting | atConnectGate | connecting | atFailureGate | asleep | working | rollingBack
    | closing | crashed => rw [modifyHead_after rfl]
  | polling session cycle stage =>
    obtain ⟨pass, earlier, rfl, -⟩ := id hrecounts
    obtain ⟨hopen, hafter⟩ := @owes_after _ _ _ _ target _ _ _ hrecounts
    have hnothing : (pass.after (.polling session cycle stage) target).owes = false := by
      rw [hafter]
      rcases howes with howes | hempties
      · rw [howes, Bool.and_false]
      · rw [hempties, Bool.false_and]
    rw [List.modifyHead_cons, remaining_after_cons, hnothing, remaining, hopen]

/-- An empty pass that owes a rescan leaves the countdown at its end. -/
theorem remaining_after_of_owes (hrecounts : source.Recounts passes)
    (howes : source.owesRescan = true) (hempties : source.empties target = true) :
    remaining settings (passes.modifyHead (.after source target)) = 0 := by
  cases source with
  | polling session cycle stage =>
    obtain ⟨pass, earlier, rfl, -⟩ := id hrecounts
    obtain ⟨-, hafter⟩ := @owes_after _ _ _ _ target _ _ _ hrecounts
    rw [List.modifyHead_cons, remaining_after_cons, hafter, howes, hempties]
    rfl
  | idle | starting | atConnectGate | connecting | atFailureGate | asleep | working | rollingBack
    | closing | crashed => cases howes

end Pass

/-- The countdown of a worker is that of its passes. -/
structure Worker.Tallies (duties : Duties α) (worker : Worker α) (passes : List (Pass duties)) :
    Prop where
  lawful : Pass.Lawful duties.settings passes
  countdown : worker.countdown = Pass.remaining duties.settings passes
  recounts : worker.point.Recounts passes

namespace Worker.Tallies

variable {worker : Worker α} {passes : List (Pass duties)} {turn : Turn α} {world : World duties}
  {incidents : List (Incident duties)}

/-- A pass begins, after the passes on record have come to so many. -/
theorem begin {cycle cycle' : Cycle} {countdown : Int} {session : Nat}
    (hlawful : Pass.Lawful duties.settings passes)
    (hcountdown : countdown = Pass.remaining duties.settings passes)
    (hticks : turn.Ticks duties.settings cycle countdown)
    (hpoint : turn.worker.point = .polling session cycle' .beginning)
    {source : Point α} (hidle : cycle.isIdle = source.persists)
    (hcleared : ((Pass.begun source turn cycle' passes).clears ||
      (Pass.begun source turn cycle' passes).hasSlept) = cycle'.hasCleared) :
    turn.worker.Tallies duties (.begun source turn cycle' passes :: passes) := by
  have hclears : turn.clears = true ↔ Pass.remaining duties.settings passes ≤ 1 := by
    rw [hticks.clears_iff, hcountdown]
    exact Int.ofNat_le
  refine ⟨⟨hclears, fun h ↦ (hticks.cleared h).1, hlawful⟩, ?_, ?_⟩
  · have howes : (Pass.begun source turn cycle' passes).owes = false := by
      simp [Pass.owes, Pass.isEmpty, Pass.begun]
    rw [Pass.remaining, howes]
    cases h : turn.clears with
    | true =>
      rw [(hticks.cleared h).2, Cycle.reload, hidle]
      simp only [Pass.begun, h, Bool.false_eq_true, if_false, if_true]
    | false =>
      have hleft : ¬ Pass.remaining duties.settings passes ≤ 1 := by
        rw [← hclears, h]
        exact Bool.false_ne_true
      rw [hticks.counted h, hcountdown]
      simp only [Pass.begun, h, Bool.false_eq_true, if_false]
      omega
  · rw [hpoint]
    exact ⟨_, _, rfl, rfl, rfl, hcleared⟩

/-- The passes are kept when no pass begins. -/
theorem rest (hlawful : Pass.Lawful duties.settings passes)
    (hcountdown : turn.worker.countdown = Pass.remaining duties.settings passes)
    (hpoint : turn.worker.point.pollSession? = none) :
    turn.worker.Tallies duties passes :=
  ⟨hlawful, hcountdown, Point.recounts_of_pollSession? hpoint passes⟩

/-- A worker that comes to the beginning of a pass begins one. -/
theorem passes_of_beginning {source : Point α} {session : Nat} {cycle : Cycle}
    (hpoint : turn.worker.point = .polling session cycle .beginning) :
    Incident.passes (.resumed world source turn :: incidents) =
      .begun source turn cycle
          ((Incident.passes incidents).modifyHead (.after source turn.worker.point)) ::
        (Incident.passes incidents).modifyHead (.after source turn.worker.point) := by
  simp only [Incident.passes, hpoint]

/-- A worker that goes on elsewhere keeps to its pass. -/
theorem passes_of_not_beginning {source : Point α}
    (hpoint : turn.worker.point.isBeginning = false) :
    Incident.passes (.resumed world source turn :: incidents) =
      (Incident.passes incidents).modifyHead (.after source turn.worker.point) := by
  simp only [Incident.passes]
  split
  · next hbegins =>
    rw [hbegins] at hpoint
    cases hpoint
  · rfl

/-- What has become of the latest pass was another one before. -/
theorem exists_of_modifyHead {change : Pass duties → Pass duties} {pass' : Pass duties}
    {earlier : List (Pass duties)} (h : passes.modifyHead change = pass' :: earlier) :
    ∃ pass, passes = pass :: earlier ∧ pass' = change pass := by
  cases passes with
  | nil => cases h
  | cons pass others =>
    obtain ⟨rfl, rfl⟩ := List.cons.inj h
    exact ⟨pass, rfl, rfl⟩

/-- A turn that leaves no empty pass behind, or one that owes nothing, keeps the countdown. -/
theorem countdown_after (h : worker.Tallies duties passes) {target : Point α}
    (howes : worker.point.owesRescan = false ∨ worker.point.empties target = false) :
    worker.countdown =
      Pass.remaining duties.settings (passes.modifyHead (.after worker.point target)) := by
  rw [h.countdown, Pass.remaining_after h.recounts howes]

/-- An empty pass that owes a rescan leaves the countdown at its end. -/
theorem countdown_after_of_owes (h : worker.Tallies duties passes) {target : Point α}
    (howes : worker.point.owesRescan = true)
    (htarget : ∀ session, target ≠ .closing session false) :
    (0 : Int) =
      Pass.remaining duties.settings (passes.modifyHead (.after worker.point target)) := by
  rw [Pass.remaining_after_of_owes h.recounts howes (Point.empties_of_owesRescan howes htarget).1]
  rfl

/-- A pass that goes on stays the latest one. -/
theorem keep (h : worker.Tallies duties (Incident.passes incidents)) (world : World duties)
    {session : Nat} {cycle : Cycle} {stage stage' : PollStage}
    (hsource : worker.point = .polling session cycle stage) (hstage : stage ≠ .abandoning)
    (hpoint : turn.worker.point = .polling session cycle stage') (hstage' : stage' ≠ .beginning)
    (hsame : turn.worker.countdown = worker.countdown) :
    turn.worker.Tallies duties
      (Incident.passes (.resumed world worker.point turn :: incidents)) := by
  have howes : worker.point.owesRescan = false := by
    rw [hsource]
    cases stage <;> first | rfl | exact absurd rfl hstage
  have hafter (pass : Pass duties) : pass.after worker.point turn.worker.point = pass := by
    rw [hsource, hpoint]
    cases stage <;> first | rfl | exact absurd rfl hstage
  have hgoesOn : turn.worker.point.isBeginning = false := by
    rw [hpoint]
    cases stage' <;> first | rfl | exact absurd rfl hstage'
  have hrecounts := h.recounts
  rw [hsource] at hrecounts
  obtain ⟨pass, earlier, hpasses, hpass⟩ := hrecounts
  rw [passes_of_not_beginning hgoesOn]
  refine ⟨h.lawful.after _ _, hsame.trans (h.countdown_after (.inl howes)), ?_⟩
  rw [hpasses, List.modifyHead_cons, hafter, hpoint]
  exact ⟨pass, earlier, rfl, hpass⟩

/-- A worker that goes on keeps its countdown. -/
theorem resume (h : worker.Tallies duties (Incident.passes incidents)) (world : World duties)
    (hpaces : Paces duties worker.point turn worker.countdown) :
    turn.worker.Tallies duties
      (Incident.passes (.resumed world worker.point turn :: incidents)) := by
  have hlawful := h.lawful.after worker.point turn.worker.point
  cases hpaces with
  | first hsource hpoint hticks =>
    have howes := Point.owesRescan_of_persists hsource
    rw [passes_of_beginning hpoint]
    refine begin hlawful (h.countdown_after (.inl howes)) hticks hpoint hsource.symm ?_
    simp only [Pass.begun, hsource, Point.isAsleep_of_persists hsource, Bool.false_and,
      Bool.or_false]
  | awoken hasleep hpoint hticks =>
    obtain ⟨howes, hpersists⟩ := Point.owesRescan_of_isAsleep hasleep
    rw [passes_of_beginning hpoint]
    refine begin hlawful (h.countdown_after (.inl howes)) hticks hpoint hpersists.symm ?_
    simp only [Pass.begun, hasleep, Bool.true_or, Bool.or_true]
  | again howes hpoint hticks =>
    have htarget (session : Nat) : turn.worker.point ≠ .closing session false := by
      rw [hpoint]
      nofun
    rw [passes_of_beginning hpoint]
    refine begin hlawful (h.countdown_after_of_owes howes htarget) hticks hpoint
      (Point.empties_of_owesRescan howes htarget).2.symm ?_
    simp only [Pass.begun, hticks.clears_iff.2 (show (0 : Int) ≤ 1 by decide), Bool.true_or]
  | expired howes hpoint hzero =>
    have htarget (session : Nat) : turn.worker.point ≠ .closing session false := by
      rw [hpoint]
      nofun
    rw [passes_of_not_beginning (by rw [hpoint]; rfl)]
    exact rest hlawful (hzero.trans (h.countdown_after_of_owes howes htarget)) (by rw [hpoint]; rfl)
  | kept hsource hstage hpoint hstage' hsame =>
    exact h.keep world hsource hstage hpoint hstage' hsame
  | dozed hsource _ hcleared hpoint hsame =>
    have howes : worker.point.owesRescan = false := by
      rw [hsource]
      simp [Point.owesRescan, hcleared]
    rw [passes_of_not_beginning (by rw [hpoint]; rfl)]
    exact rest hlawful (hsame.trans (h.countdown_after (.inl howes))) (by rw [hpoint]; rfl)
  | sleptOn hpoint hasleep hsame =>
    have hnone := Point.pollSession?_of_isAsleep hasleep
    rw [← hpoint] at hnone
    have howes := (Point.owesRescan_of_isAsleep hasleep).1
    rw [passes_of_not_beginning (Point.isBeginning_of_pollSession?_none hnone)]
    exact rest hlawful (hsame.trans (h.countdown_after (.inl howes))) hnone
  | rested howes hpoint hawake hsame =>
    rw [passes_of_not_beginning (Point.isBeginning_of_pollSession?_none hpoint)]
    exact rest hlawful (hsame.trans (h.countdown_after howes)) hpoint

/-- What is seen in a pass does not matter. -/
theorem answer (h : worker.Tallies duties (Incident.passes incidents)) (world : World duties)
    (answer : (worker.point.call duties).Answer) : worker.Tallies duties
      (Incident.passes (.answered world worker.point answer :: incidents)) := by
  unfold Incident.passes
  refine ⟨h.lawful.modifyHead (fun _ ↦ rfl) fun _ ↦ rfl, ?_, h.recounts.see world answer⟩
  rw [h.countdown]
  cases Incident.passes incidents <;> rfl

end Worker.Tallies

/-- Every worker keeps its countdown, whatever the others do and whoever else writes. -/
theorem OpenRun.tallies {workers number : Nat} {shared : Shared} {now : Instant}
    {past : Past duties} {world : World duties} {member : Member duties}
    (run : OpenRun (World.initial duties workers shared now) past world)
    (hmember : world.members[number]? = some member) :
    member.worker.Tallies duties (past.passes number) := by
  refine @OpenRun.preserves_member _ _ _ number _ _ (fun past _ member ↦
    member.worker.Tallies duties (past.passes number)) (fun name ↦ ?_) ?_ (fun _ _ _ _ _ h ↦ h)
    _ _ run _ hmember
  · exact ⟨trivial, rfl, trivial⟩
  · intro past world move member member' _ _ h hundergoes
    simp only [Past.passes, Past.incidents_cons] at h ⊢
    generalize world.incident? number move = incident? at hundergoes ⊢
    cases hundergoes with
    | rested => exact h
    | spawned hidle => exact ⟨h.lawful, h.countdown, trivial⟩
    | answered => exact h.answer world _
    | resumed hready hturn =>
      subst hturn
      exact h.resume world (member.worker.resume_paces duties _ _ _)

end TableQueue
