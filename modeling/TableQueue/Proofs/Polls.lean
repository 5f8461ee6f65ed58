import TableQueue.Proofs.LowerBound

/-!
# Passes over the queues

A pass looks into the declared queues one after another until a claim finds a row. Each look of a
single worker finds what a look without the remembered bound would find: the row of the queue that
became eligible first. So a job that is worked on comes from the first queue with an eligible row,
and a pass is given up only after every queue was found empty.
-/

namespace TableQueue

variable {α : Type} {duties : Duties α}

/-! ## Looks -/

/-- A claim that has been carried out. -/
structure Look (duties : Duties α) where
  /-- The world in which it was carried out. -/
  world : World duties
  session : Nat
  queue : String
  found : Option Row

/-- The session and the queue of a claim that has been carried out, and what it has found. -/
def Point.found? (duties : Duties α) :
    (point : Point α) → Option (point.call duties).Answer → Option (Nat × String × Option Row)
  | polling session _ (.claiming queue _ _ _), some (.ok found) => some (session, queue, found)
  | _, _ => none

def Point.isBeginning : Point α → Bool
  | polling _ _ .beginning => true
  | _ => false

namespace World

def look? (world : World duties) : Move → Option (Look duties)
  | .answer number chance =>
    match world.members[number]? with
    | some ⟨worker, none, _, _⟩ =>
      (worker.point.found? duties
        (world.server.answer world.now chance (worker.call duties)).2).map
          fun (session, queue, found) ↦ ⟨world, session, queue, found⟩
    | _ => none
  | _ => none

def beginsPass (world : World duties) : Move → Bool
  | .answer number _ =>
    match world.members[number]? with
    | some ⟨worker, none, _, _⟩ => worker.point.isBeginning
    | _ => false
  | _ => false

end World

/-- The claims that were carried out since the latest pass began. -/
def Past.looks : Past duties → List (Look duties)
  | [] => []
  | (world, move) :: past =>
    if world.beginsPass move then [] else Past.looks past ++ (world.look? move).toList

/-- The looks of the present pass once the call at a point is answered. -/
def Point.looksAfter (world : World duties) (looks : List (Look duties)) (point : Point α)
    (answer? : Option (point.call duties).Answer) : List (Look duties) :=
  if point.isBeginning then []
  else looks ++ ((point.found? duties answer?).map
    fun (session, queue, found) ↦ Look.mk world session queue found).toList

/-- A claim has found the row that became eligible first, and so would have a claim that considers
all rows of the queue. -/
structure Look.IsPlain (look : Look duties) : Prop where
  earliest : look.found =
    (Store.earliest (look.world.server.store.eligible look.queue look.world.now)).map Entry.row
  unbounded : look.found = (Store.earliest
    ((look.world.server.store.takable look.session look.world.now).filter fun entry ↦
      Store.isEligible entry.row look.queue look.world.now)).map Entry.row

/-! ## The order of looks -/

/-- What a point says about the looks of the present pass. -/
def Point.Follows (looks : List (Look duties)) : Point α → Prop
  | polling _ _ (.probing queue rest _) | polling _ _ (.bounding queue rest _)
  | polling _ _ (.replanning queue rest _) | polling _ _ (.claiming queue rest _ _) =>
    duties.settings.queueNames = looks.map Look.queue ++ queue :: rest ∧
      ∀ look ∈ looks, look.found = none
  | polling _ _ .abandoning => duties.settings.queueNames = looks.map Look.queue ∧
    ∀ look ∈ looks, look.found = none
  | working _ job _ => ∃ before last rest, looks = before ++ [last] ∧
    duties.settings.queueNames = before.map Look.queue ++ last.queue :: rest ∧
      (∀ look ∈ before, look.found = none) ∧
        ∃ row, last.found = some row ∧ row.metadata = .ok job.details
  | _ => True

namespace Point

variable {bounds bounds' : Bounds} {point point' : Point α} {session : Nat} {cycle : Cycle}
  {looks : List (Look duties)} {job : Job α}

theorem IsUnconnected.follows (h : point.IsUnconnected) : point.Follows looks := by
  cases point <;> trivial

theorem IsResting.follows (h : point.IsResting session) : point.Follows looks := by
  cases point with
  | closing | atFailureGate | asleep => trivial
  | polling other cycle stage => cases stage <;> trivial
  | idle | starting | atConnectGate | connecting | working | rollingBack | crashed => exact h.elim

theorem GivesUp.follows (h : GivesUp session bounds bounds' point) : point.Follows looks := by
  rw [h.2]
  trivial

theorem Fails.follows (h : Fails session bounds bounds' point) : point.Follows looks := by
  obtain ⟨-, _, rfl⟩ := h
  trivial

theorem Searches.follows {queues : List String}
    (h : Searches session cycle bounds queues bounds' point)
    (hqueues : duties.settings.queueNames = looks.map Look.queue ++ queues)
    (hempty : ∀ look ∈ looks, look.found = none) : point.Follows looks := by
  obtain ⟨-, h⟩ := h
  split at h
  · rw [h]
    exact ⟨by simpa using hqueues, hempty⟩
  · split at h <;>
    · obtain ⟨_, rfl⟩ := h
      exact ⟨hqueues, hempty⟩

theorem Claims.follows {queue : String} {rest : List String} {bound : Instant}
    (h : Claims session cycle bounds queue rest bound bounds' point)
    (hqueues : duties.settings.queueNames = looks.map Look.queue ++ queue :: rest ∧
      ∀ look ∈ looks, look.found = none) : point.Follows looks := by
  obtain ⟨-, _, rfl⟩ := h
  exact hqueues

theorem Finds.follows {queue : String} {rest : List String} {bound : Instant}
    (h : Finds session cycle bounds queue rest bound bounds' point)
    (hqueues : duties.settings.queueNames = looks.map Look.queue ++ queue :: rest ∧
      ∀ look ∈ looks, look.found = none) : point.Follows looks := by
  rcases h with h | ⟨-, rfl⟩
  · exact h.follows hqueues
  · exact hqueues

theorem Goes.follows {stage stage' : JobStage} (h : Goes session job bounds stage' bounds' point)
    (hlooks : (working session job stage).Follows looks) : point.Follows looks := by
  rw [h.2]
  exact hlooks

theorem Disposes.follows {stage : JobStage} {failure : JobFailure}
    (h : Disposes duties session job failure bounds bounds' point)
    (hlooks : (working session job stage).Follows looks) : point.Follows looks := by
  unfold Disposes at h
  split at h
  · obtain ⟨_, h⟩ := h
    exact h.follows hlooks
  · obtain ⟨_, h⟩ := h
    exact h.follows hlooks
  · exact h.follows hlooks

/-- A turn in a pass keeps its looks in order. -/
theorem PollLeads.follows {stage : PollStage} {answer : (@pollCall α session stage).Answer}
    (hlooks : (polling session cycle stage : Point α).Follows looks) (world : World duties)
    (hleads : PollLeads duties bounds session cycle stage answer bounds' point) :
    point.Follows ((polling session cycle stage).looksAfter world looks (some answer)) := by
  have hsame (hbeginning : (polling session cycle stage : Point α).isBeginning = false)
      (hfound : (polling session cycle stage).found? duties (some answer) = none) :
      (polling session cycle stage).looksAfter world looks (some answer) = looks := by
    simp [looksAfter, hbeginning, hfound]
  cases stage with
  | beginning =>
    rcases answer with error | ⟨⟩
    · exact GivesUp.follows hleads
    · exact Searches.follows hleads rfl fun look hlook ↦ absurd hlook List.not_mem_nil
  | probing queue rest begun =>
    rw [hsame rfl rfl]
    rcases answer with error | _ | oldest
    · exact GivesUp.follows hleads
    · rw [hleads.2]
      exact hlooks
    · exact Finds.follows hleads hlooks
  | bounding queue rest begun =>
    rw [hsame rfl rfl]
    rcases answer with error | recent
    · exact GivesUp.follows hleads
    · exact Finds.follows hleads hlooks
  | replanning queue rest bound =>
    rw [hsame rfl rfl]
    rcases answer with error | ⟨⟩
    · exact GivesUp.follows hleads
    · exact Claims.follows hleads hlooks
  | claiming queue rest notBefore begun =>
    obtain ⟨hqueues, hempty⟩ := hlooks
    rcases answer with error | _ | row
    · exact GivesUp.follows hleads
    · refine Searches.follows hleads ?_ fun look hlook ↦ ?_
      · simpa [looksAfter, isBeginning, found?] using hqueues
      · rcases List.mem_append.1 hlook with hold | hnew
        · exact hempty look hold
        · rw [List.mem_singleton.1 hnew]
    · rcases hleads with hleads | ⟨job, hreads, -, rfl⟩
      · exact hleads.follows
      · exact ⟨looks, ⟨world, session, queue, some row⟩, rest, rfl, hqueues, hempty, row, rfl,
          hreads.1⟩
  | abandoning =>
    rcases answer with error | ⟨⟩
    · exact GivesUp.follows hleads
    · exact hleads.1.follows

/-- A turn at a claimed job keeps the looks in order. -/
theorem JobLeads.follows {stage : JobStage} {answer : (jobCall duties session job stage).Answer}
    (hlooks : (working session job stage).Follows looks)
    (hleads : JobLeads duties bounds session job stage answer bounds' point) :
    point.Follows looks := by
  cases stage with
  | saving =>
    rcases answer with error | ⟨⟩
    · exact Fails.follows hleads
    · rcases hleads with hleads | ⟨-, _, hleads⟩ <;> exact hleads.follows hlooks
  | deduplicating =>
    rcases answer with error | rows
    · exact Fails.follows hleads
    · rcases hleads with ⟨payload, -, hleads⟩ | hleads | ⟨-, _, rfl⟩
      · rw [hleads.2]
        exact hlooks
      · exact hleads.follows
      · trivial
  | delivering =>
    cases hfailure : answer.failure? <;>
    · simp only [JobLeads, hfailure] at hleads
      exact Goes.follows hleads hlooks
  | releasing | committingClaim | puttingOff | puttingBack | archiving =>
    rcases answer with error | reply
    · exact Fails.follows hleads
    · exact Goes.follows hleads hlooks
  | undoing =>
    rcases answer with error | ⟨⟩
    · exact Fails.follows hleads
    · exact Disposes.follows hleads hlooks
  | beginningArchive =>
    rcases answer with error | ⟨⟩
    · exact Fails.follows hleads
    · obtain ⟨_, hleads⟩ := hleads
      exact Goes.follows hleads hlooks
  | committingSuccess | committingPutOff | committingPutBack | committingArchive =>
    rcases answer with error | ⟨⟩
    · exact Fails.follows hleads
    · exact hleads.1.follows

theorem looksAfter_of_pause {world : World duties} (hpause : point.call duties = .pause)
    (answer? : Option (point.call duties).Answer) : point.looksAfter world looks answer? = looks := by
  cases point with
  | idle | starting | atConnectGate | atFailureGate | asleep | crashed => exact List.append_nil looks
  | connecting | rollingBack | closing => cases hpause
  | polling session cycle stage => cases stage <;> cases hpause
  | working session job stage => cases stage <;> cases hpause

/-- Wherever an answer leads, the looks of the pass are in order. -/
theorem Leads.follows {answer : (point.call duties).Answer} (hlooks : point.Follows looks)
    (world : World duties) (hleads : point.Leads duties bounds answer bounds' point') :
    point'.Follows (point.looksAfter world looks (some answer)) := by
  cases point with
  | idle | crashed =>
    rw [hleads.2]
    trivial
  | starting | atConnectGate | closing => exact hleads.2.follows
  | connecting =>
    rcases answer with error | session
    · exact hleads.2.follows
    · exact hleads.2.follows
  | atFailureGate | asleep => exact hleads.1.follows
  | rollingBack => exact GivesUp.follows hleads
  | polling => exact PollLeads.follows hlooks world hleads
  | working session job stage =>
    have hsame : (working session job stage).looksAfter world looks (some answer) = looks :=
      List.append_nil looks
    rw [hsame]
    exact JobLeads.follows hlooks hleads

end Point

/-! ## Passes of a single worker -/

namespace World

variable {world : World duties} {looks : List (Look duties)}

/-- Whatever the only member goes on to, the looks of the present pass are in order. -/
structure Follows (world : World duties) (looks : List (Look duties)) : Prop where
  single : world.members.length = 1
  member : ∀ member ∈ world.members, ∀ bounds point, member.Prospect bounds point →
    point.Follows looks

theorem Follows.replace {looks' : List (Look duties)} (h : world.Follows looks) {number : Nat}
    {member member' : Member duties} (hmember : world.members[number]? = some member)
    (server : Server) (shared : Shared)
    (hfollows : ∀ bounds point, member'.Prospect bounds point → point.Follows looks') :
    ({ world with server, shared, members := world.members.set number member' } :
      World duties).Follows looks' where
  single := by rw [List.length_set, h.single]
  member other hother := by
    rw [eq_of_mem_set_single h.single hmember hother]
    exact hfollows

/-- An answer keeps the looks in order. -/
theorem Follows.answer (h : world.Follows looks) {number : Nat} {worker : Worker α}
    {servedAt : Instant} {attempt : Attempt}
    (hmember : world.members[number]? = some ⟨worker, none, servedAt, attempt⟩) (chance : Chance) :
    (world.answer number chance).Follows (worker.point.looksAfter world looks
      (world.server.answer world.now chance (worker.call duties)).2) := by
  rw [answer_eq hmember]
  have hfollows := h.member _ (List.mem_of_getElem? hmember) _ _ ⟨rfl, rfl⟩
  apply h.replace hmember _ world.shared
  intro bounds point hprospect
  generalize hanswer : world.server.answer world.now chance (worker.call duties) = result
    at hprospect ⊢
  obtain ⟨server', _ | reply⟩ := result
  · obtain ⟨hpause, -⟩ := Server.pause_of_answer_none hanswer
    obtain ⟨-, rfl⟩ := hprospect
    change Point.Follows (worker.point.looksAfter world looks none) worker.point
    rw [Point.looksAfter_of_pause hpause]
    exact hfollows
  · exact Point.Leads.follows hfollows world hprospect

/-- A worker that goes on keeps the looks in order. -/
theorem Follows.resume (h : world.Follows looks) {number : Nat} {member : Member duties}
    {answer : (member.worker.call duties).Answer} (hmember : world.members[number]? = some member)
    (hready : member.ready world.shared world.moment = some answer) :
    (world.resume number).Follows looks := by
  rw [resume_eq hmember hready]
  have hleads := member.worker.resume_leads duties world.moment world.shared answer
  dsimp only
  generalize member.worker.resume duties world.moment world.shared answer = turn at hleads ⊢
  refine h.replace hmember _ _ ?_
  rintro bounds point ⟨-, rfl⟩
  have hfollows := h.member member (List.mem_of_getElem? hmember)
  rcases Member.prospect_of_ready hready with hprospect | ⟨hprospect, hpause⟩
  · exact hfollows _ _ (hprospect _ _ hleads)
  · have hafter := Point.Leads.follows (hfollows _ _ hprospect) world hleads
    rw [Point.looksAfter_of_pause hpause] at hafter
    exact hafter

theorem Follows.start (h : world.Follows looks) {tasks : List Nat}
    (htasks : (world.crew.start world.taskStatus duties.settings.queueNames).2.2 = .ok tasks) :
    world.start.Follows looks := by
  rw [start_eq htasks]
  refine ⟨(length_members_foldl_spawn world tasks).trans h.single,
    fun member' hmember' bounds point hprospect ↦ ?_⟩
  obtain ⟨j, hj⟩ := List.getElem?_of_mem hmember'
  rw [getElem?_foldl_spawn, Option.map_eq_some_iff] at hj
  obtain ⟨member, hmember, rfl⟩ := hj
  by_cases htask : j ∈ tasks
  · rw [if_pos htask] at hprospect
    rw [hprospect.2]
    trivial
  · rw [if_neg htask] at hprospect
    exact h.member member (List.mem_of_getElem? hmember) bounds point hprospect

theorem looks_of_isRefusable {move : Move} (h : move.isRefusable) (past : Past duties) :
    Past.looks ((world, move) :: past) = Past.looks past := by
  cases move with
  | drop | write | resume | start | stop | await => exact List.append_nil _
  | pass | produce | answer | endAwait | release => cases h

theorem looks_of_unanswered {number : Nat} {chance : Chance}
    (h : ∀ worker servedAt attempt,
      world.members[number]? ≠ some ⟨worker, none, servedAt, attempt⟩) (past : Past duties) :
    Past.looks ((world, .answer number chance) :: past) = Past.looks past := by
  cases hmember : world.members[number]? with
  | none => simp [Past.looks, beginsPass, look?, hmember]
  | some member =>
    obtain ⟨worker, _ | reply, servedAt, attempt⟩ := member
    · exact absurd hmember (h worker servedAt attempt)
    · simp [Past.looks, beginsPass, look?, hmember]

theorem looks_of_answered {number : Nat} {worker : Worker α} {servedAt : Instant}
    {attempt : Attempt} (hmember : world.members[number]? = some ⟨worker, none, servedAt, attempt⟩)
    (chance : Chance) (past : Past duties) :
    Past.looks ((world, .answer number chance) :: past) =
      worker.point.looksAfter world (Past.looks past)
        (world.server.answer world.now chance (worker.call duties)).2 := by
  simp only [Past.looks, beginsPass, look?, hmember, Point.looksAfter]

/-- Every move keeps the looks in order. -/
theorem Follows.of_steps {past : Past duties} (h : world.Follows (Past.looks past)) {move : Move}
    {world' : World duties} (hsteps : Steps world move world') :
    world'.Follows (Past.looks ((world, move) :: past)) := by
  have hkept {world' : World duties} (hlooks : Past.looks ((world, move) :: past) = Past.looks past)
      (hfollows : world'.Follows (Past.looks past)) :
      world'.Follows (Past.looks ((world, move) :: past)) := by
    rwa [hlooks]
  have hsame {now : Instant} {server : Server} {crew : Crew}
      {awaited : Option (Instant × List Nat)} :
      ({ world with now, server, crew, awaited } : World duties).Follows (Past.looks past) :=
    ⟨h.single, h.member⟩
  cases hsteps with
  | refused hrefusable => exact hkept (looks_of_isRefusable hrefusable past) h
  | unanswered hopen => exact hkept (looks_of_unanswered hopen past) h
  | passed | produced | dropped | wrote | stopped | awaited | waiting | reclaimed | forgotten
    | released => exact hkept (List.append_nil _) hsame
  | answered chance hmember =>
    rw [looks_of_answered hmember, ← answer_eq hmember]
    exact h.answer hmember chance
  | resumed hmember hready hturn =>
    subst hturn
    rw [← resume_eq hmember hready]
    exact hkept (List.append_nil _) (h.resume hmember hready)
  | started _ htasks =>
    rw [← start_eq htasks]
    exact hkept (List.append_nil _) (h.start htasks)

/-- Every move leaves the looks of the present pass in order. -/
theorem Follows.step {past : Past duties} (h : world.Follows (Past.looks past)) (move : Move) :
    (world.step move).Follows (Past.looks ((world, move) :: past)) :=
  h.of_steps (world.steps move)

end World

/-- Only a claim that has been carried out finds anything. -/
theorem Point.of_found {point : Point α} {answer? : Option (point.call duties).Answer}
    {session : Nat} {queue : String} {found : Option Row}
    (h : point.found? duties answer? = some (session, queue, found)) :
    ∃ cycle rest notBefore begun, point = polling session cycle (.claiming queue rest notBefore begun)
      ∧ HEq answer? (some (.ok found) : Option (Except DatabaseError (Option Row))) := by
  cases point with
  | idle | starting | atConnectGate | connecting | atFailureGate | asleep | working | rollingBack
    | closing | crashed => cases h
  | polling other cycle stage =>
    cases stage with
    | beginning | probing | bounding | replanning | abandoning => cases h
    | claiming other' rest notBefore begun =>
      rcases answer? with _ | error | row
      · cases h
      · cases h
      · cases h
        exact ⟨cycle, rest, notBefore, begun, rfl, HEq.rfl⟩

namespace World

variable {world : World duties}

/-- A claim that is carried out finds what it would find without a bound. -/
theorem Bounded.isPlain_of_look (h : world.Bounded) (hsound : world.Sound) {move : Move}
    {look : Look duties} (hlook : world.look? move = some look) : look.world = world ∧ look.IsPlain := by
  cases move with
  | pass | produce | drop | write | resume | start | stop | await | endAwait | release => cases hlook
  | answer number chance =>
    simp only [look?] at hlook
    split at hlook
    · next worker servedAt attempt hmember =>
      obtain ⟨⟨session, queue, found⟩, hfound, rfl⟩ := Option.map_eq_some_iff.1 hlook
      refine ⟨rfl, ?_⟩
      have hbounded := h.member _ (List.mem_of_getElem? hmember) _ _ ⟨rfl, rfl⟩
      have hfits := hsound.fits _ (List.mem_of_getElem? hmember) _ _ ⟨rfl, rfl⟩
      obtain ⟨cycle, rest, notBefore, begun, hpoint, hanswer⟩ := Point.of_found hfound
      obtain ⟨name, bounds, countdown, _⟩ := worker
      obtain rfl := hpoint
      have hanswer : world.server.answer world.now chance
          (.execute session (.claim queue notBefore) : Call α) =
            (_, some (.ok found)) := Prod.ext rfl (eq_of_heq hanswer)
      have hquiet : world.server.store.IsQuiet := by
        obtain ⟨hactive, -⟩ := hfits.perform rfl hanswer
        exact hsound.isQuiet h.single (List.mem_of_getElem? hmember)
          (Member.heldSession?_none _) (congrArg Transaction.changes hactive)
      have hclaims := hfits.claims hsound.server (fun _ ↦ hquiet) hbounded.expects hanswer
      refine ⟨hclaims, hclaims.trans ?_⟩
      simp only
      rw [hquiet.takable_eq hsound.server.store, hquiet.probed_eq]
    · cases hlook

end World

theorem Past.mem_of_mem_looks {past : Past duties} {look : Look duties}
    (h : look ∈ Past.looks past) :
    ∃ earlier move, (earlier, move) ∈ past ∧ World.look? earlier move = some look := by
  induction past with
  | nil => exact absurd h List.not_mem_nil
  | cons pair past ih =>
    obtain ⟨world, move⟩ := pair
    unfold Past.looks at h
    split at h
    · exact absurd h List.not_mem_nil
    · rcases List.mem_append.1 h with hold | hnew
      · obtain ⟨earlier, move', hmem, hlook⟩ := ih hold
        exact ⟨earlier, move', List.mem_cons_of_mem _ hmem, hlook⟩
      · exact ⟨world, move, List.mem_cons_self, by simpa using hnew⟩

/-- A plain look finds nothing only where nothing is eligible. -/
theorem Look.IsPlain.eligible_eq_nil {look : Look duties} (h : look.IsPlain)
    (hfound : look.found = none) :
    look.world.server.store.eligible look.queue look.world.now = [] := by
  have hnone := h.earliest
  rw [hfound] at hnone
  exact Store.earliest_eq_none_iff.1 (Option.map_eq_none_iff.1 hnone.symm)

/-- A plain look finds a row that became eligible no later than any other. -/
theorem Look.IsPlain.le {look : Look duties} (h : look.IsPlain) {row : Row}
    (hfound : look.found = some row) {entry : Entry}
    (hentry : entry ∈ look.world.server.store.queue) (hqueue : entry.row.queue = look.queue)
    (hvisible : entry.visibleFrom ≤ look.world.now) : row.dequeueAfter ≤ entry.row.dequeueAfter := by
  have hearliest := h.earliest
  rw [hfound] at hearliest
  obtain ⟨first, hfirst, rfl⟩ := Option.map_eq_some_iff.1 hearliest.symm
  by_cases heligible : entry.row.dequeueAfter ≤ look.world.now
  · exact Store.le_of_earliest hfirst
      (Store.mem_eligible.2 ⟨hentry, hvisible, hqueue, heligible⟩)
  · have hpast := (Store.mem_eligible.1 (Store.mem_of_earliest hfirst)).2.2.2
    simp only [Instant.le_iff] at *
    omega

/-- The polls of a single worker, next to what they would be without remembered bounds. -/
structure PollsPlainly (past : Past duties) (world : World duties) : Prop where
  /-- Every claim that was carried out has found the row that had become eligible first, if there was
  one, just as if it had no bound. -/
  claims : ∀ earlier move look, (earlier, move) ∈ past → World.look? earlier move = some look →
    look.world = earlier ∧ look.IsPlain
  /-- No visible row of the queue became eligible before the row that a claim has found. -/
  ordered : ∀ earlier move look row, (earlier, move) ∈ past →
    World.look? earlier move = some look → look.found = some row →
      ∀ entry ∈ earlier.server.store.queue, entry.row.queue = look.queue →
        entry.visibleFrom ≤ earlier.now → row.dequeueAfter ≤ entry.row.dequeueAfter
  /-- The looks of a pass are claims that were carried out. -/
  looks : ∀ look ∈ Past.looks past,
    ∃ earlier move, (earlier, move) ∈ past ∧ World.look? earlier move = some look
  /-- A job comes from the first declared queue in which the pass has found an eligible row. -/
  delivered : ∀ member ∈ world.members, member.answer? = none → ∀ session job stage,
    member.worker.point = .working session job stage →
      ∃ before last rest, Past.looks past = before ++ [last] ∧
        duties.settings.queueNames = before.map Look.queue ++ last.queue :: rest ∧
        (∀ look ∈ before, look.world.server.store.eligible look.queue look.world.now = []) ∧
        ∃ row, last.found = some row ∧ row.metadata = .ok job.details
  /-- A pass is given up when it has found no eligible row in any declared queue. -/
  abandoned : ∀ member ∈ world.members, member.answer? = none → ∀ session cycle,
    member.worker.point = .polling session cycle .abandoning →
      duties.settings.queueNames = (Past.looks past).map Look.queue ∧
        ∀ look ∈ Past.looks past,
          look.world.server.store.eligible look.queue look.world.now = []

/-- The looks of the present pass are in order throughout a run. -/
theorem World.follows_of_run {rows : List Row} {shared : Shared} {now : Instant}
    {allowed : World duties → Move → Prop} {past : Past duties} {world : World duties}
    (run : Run allowed (World.stocked duties rows shared now) past world) :
    world.Follows (Past.looks past) := by
  induction run with
  | rest =>
    obtain ⟨-, hbounded, hmembers⟩ := World.stocked_cases duties rows shared now
    refine ⟨hbounded.single, fun member hmember bounds point hprospect ↦ ?_⟩
    rw [hmembers] at hmember
    obtain ⟨number, -, rfl⟩ := List.mem_map.1 hmember
    rw [hprospect.2]
    trivial
  | move _ _ ih => exact ih.step _

/-- However long a single worker runs, whatever fails and however its handler receives jobs, it polls
as it would without remembered bounds. -/
theorem polls_plainly {rows : List Row} {shared : Shared} {now : Instant} {past : Past duties}
    {world : World duties}
    (run : Run (fun world move ↦ world.isTimely move) (World.stocked duties rows shared now) past
      world) : PollsPlainly past world := by
  have hclaims (earlier : World duties) (move : Move) (look : Look duties)
      (hmem : (earlier, move) ∈ past) (hlook : World.look? earlier move = some look) :
      look.world = earlier ∧ look.IsPlain := by
    obtain ⟨past', run'⟩ := run.of_mem hmem
    obtain ⟨hsound, hbounded⟩ := World.Bounded.of_run run'
    exact hbounded.isPlain_of_look hsound hlook
  have hlooks (look : Look duties) (hmem : look ∈ Past.looks past) : look.IsPlain := by
    obtain ⟨earlier, move, hpast, hlook⟩ := Past.mem_of_mem_looks hmem
    exact (hclaims earlier move look hpast hlook).2
  have hfollows := World.follows_of_run run
  have hpoint (member : Member duties) (hmember : member ∈ world.members)
      (hopen : member.answer? = none) : member.worker.point.Follows (Past.looks past) := by
    refine hfollows.member member hmember member.worker.bounds _ ?_
    unfold Member.Prospect
    rw [hopen]
    exact ⟨rfl, rfl⟩
  refine ⟨hclaims, ?_, fun look hmem ↦ Past.mem_of_mem_looks hmem, ?_, ?_⟩
  · intro earlier move look row hmem hlook hfound entry hentry hqueue hvisible
    obtain ⟨rfl, hplain⟩ := hclaims earlier move look hmem hlook
    exact hplain.le hfound hentry hqueue hvisible
  · intro member hmember hopen session job stage hworking
    have hlooked := hpoint member hmember hopen
    rw [hworking] at hlooked
    obtain ⟨before, last, rest, hsplit, hqueues, hempty, hfound⟩ := hlooked
    refine ⟨before, last, rest, hsplit, hqueues, fun look hlook ↦ ?_, hfound⟩
    refine (hlooks look ?_).eligible_eq_nil (hempty look hlook)
    rw [hsplit]
    exact List.mem_append_left _ hlook
  · intro member hmember hopen session cycle habandoning
    have hlooked := hpoint member hmember hopen
    rw [habandoning] at hlooked
    exact ⟨hlooked.1, fun look hlook ↦ (hlooks look hlook).eligible_eq_nil (hlooked.2 look hlook)⟩

/-- Two rows are there at the start. The first is put back and claimed again before the second, and
a row that is added later comes last. Then a pass finds nothing, and so does a rescan. -/
def Sample.timelyRun : Past (Sample.duties none) × World (Sample.duties none) :=
  (World.stocked (Sample.duties none) [row 5 [.whole 1], row 6 [.whole 2]] Sample.shared
    ⟨10000000000⟩).play
      ([.start, .resume 0] ++ rounds 0 (smooth 5 ++ [rejecting (.retryable ["no"])] ++ smooth 3) ++
        [.produce (row 20 [.whole 3]) ⟨0⟩] ++ rounds 0 (smooth 12) ++
        [.pass (Span.ofSeconds 60)] ++ rounds 0 (smooth 13))

theorem polls_plainly_of_timelyRun :
    ((Sample.timelyRun.1.reverse.filterMap fun (world, move) ↦ world.look? move).map
        fun look ↦ look.found.map Row.job) =
      [some [.whole 1], some [.whole 1], some [.whole 2], some [.whole 3], none, none] ∧
    PollsPlainly Sample.timelyRun.1 Sample.timelyRun.2 :=
  ⟨by decide +kernel, polls_plainly (Run.play_of_all World.isTimely _ _ (by decide +kernel))⟩

end TableQueue
