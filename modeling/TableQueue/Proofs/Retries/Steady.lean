import TableQueue.Proofs.Retries.Trials

/-!
# Steady runs

In a steady run no statement fails and no worker loses its connection, for the next statement on a
lost connection fails. Without deduplication every move then either leaves all attempts as they are,
or something happens to the job of one worker, and its attempt begins, goes on or is settled. At no
moment do two attempts hold the same row.
-/

namespace TableQueue

variable {α : Type} {duties : Duties α}

namespace World

def isConnected (world : World duties) : Bool :=
  world.members.all fun member ↦ member.session?.all world.server.isLive

def isSteady (world : World duties) (move : Move) : Bool :=
  world.isSmooth move && (world.step move).isConnected

def trial? (world : World duties) (number : Nat) : Option (Trial α) :=
  match world.members[number]? with
  | some member => member.worker.point.trial? duties world.server.store member.attempt member.answer?
  | none => none

/-- What a move means for the attempts under way. -/
inductive Advances (world world' : World duties) : Option (Event α) → Prop where
  | none : (∀ j, world'.trial? j = world.trial? j) → Advances world world' none
  | enqueued {number : Nat} {row : Row} : (∀ j, world'.trial? j = world.trial? j) →
      Advances world world' (some (.enqueued number row))
  | happened {worker : Nat} {changes : Changes} {attempt : Attempt} {happening : Happening α} :
      Tries duties world.server.store changes.deleted (some happening) (world.trial? worker)
        (world'.trial? worker) →
      (∀ j ≠ worker, world'.trial? j = world.trial? j) →
      Advances world world' (some (.happened worker changes attempt happening))

variable {world world' : World duties}

theorem isLive_of_isConnected (h : world.isConnected) {member : Member duties}
    (hmember : member ∈ world.members) {session : Nat} (hsession : member.session? = some session) :
    world.server.isLive session = true := by
  have hall := List.all_eq_true.1 h member hmember
  rw [hsession] at hall
  exact hall

theorem isConnected_initial (duties : Duties α) (workers : Nat) (shared : Shared) (now : Instant) :
    (World.initial duties workers shared now).isConnected := by
  apply List.all_eq_true.2
  intro member hmember
  obtain ⟨number, -, rfl⟩ := List.mem_map.1 hmember
  rfl

/-- The attempt of a member that stays as it is goes on unchanged, unless its connection is lost. -/
theorem trial?_of_spares (hconnected : world'.isConnected) {j : Nat}
    (hsame : world'.members[j]? = world.members[j]?)
    (hspares : ∀ member, world.members[j]? = some member → ∀ session,
      member.session? = some session → world.server.Spares session world'.server) :
    world'.trial? j = world.trial? j := by
  unfold trial?
  rw [hsame]
  cases hmember : world.members[j]? with
  | none => rfl
  | some member =>
    apply Point.trial?_congr
    intro session hsession
    have hlive := isLive_of_isConnected hconnected
      (List.mem_of_getElem? (hsame.trans hmember)) hsession
    exact (hspares member hmember session hsession hlive).2.1

/-- One member gets an answer or goes on. -/
theorem advances_replace {number session : Nat} {member member' : Member duties} {server : Server}
    {happening? : Option (Happening α)} (hsound : world.Sound)
    (hmember : world.members[number]? = some member) (shared : Shared) (changes : Changes)
    (attempt : Attempt)
    (hconnected : ({ world with server, shared, members := world.members.set number member' } :
      World duties).isConnected)
    (htries : Tries duties world.server.store (world.server.store.transaction session).changes.deleted
      happening?
      (member.worker.point.trial? duties world.server.store member.attempt member.answer?)
      (member'.worker.point.trial? duties server.store member'.attempt member'.answer?))
    (hchanges : happening?.isSome → (world.server.store.transaction session).changes = changes)
    (hspares : ∀ session < world.server.connections.length, member.session? ≠ some session →
      world.server.Spares session server) :
    Advances world { world with server, shared, members := world.members.set number member' }
      (happening?.map (.happened number changes attempt)) := by
  have hothers (j : Nat) (hj : j ≠ number) :
      ({ world with server, shared, members := world.members.set number member' } :
        World duties).trial? j = world.trial? j := by
    refine trial?_of_spares hconnected (List.getElem?_set_ne (Ne.symm hj)) fun other hother ↦ ?_
    intro session hsession
    refine hspares session (hsound.known other (List.mem_of_getElem? hother) session hsession) ?_
    exact fun hmine ↦ hj (hsound.apart j number other member session hother hmember hsession hmine)
  have hbefore : world.trial? number =
      member.worker.point.trial? duties world.server.store member.attempt member.answer? := by
    simp only [trial?, hmember]
  have hafter : ({ world with server, shared, members := world.members.set number member' } :
      World duties).trial? number =
        member'.worker.point.trial? duties server.store member'.attempt member'.answer? := by
    simp only [trial?, List.getElem?_set_self (List.getElem?_eq_some_iff.1 hmember).1]
  rw [← hbefore, ← hafter] at htries
  cases happening? with
  | none =>
    generalize hold : world.trial? number = before at htries
    generalize hnew : ({ world with server, shared, members := world.members.set number member' } :
      World duties).trial? number = after at htries
    cases htries with
    | quiet =>
      refine .none fun j ↦ ?_
      by_cases hj : j = number
      · rw [hj, hold, hnew]
      · exact hothers j hj
  | some happening => exact .happened (hchanges rfl ▸ htries) hothers

/-- An answer advances the attempt of its worker as its event says. -/
theorem Sound.advances_answer (hsound : world.Sound) (halone : duties.deduplicator = none)
    {number : Nat} {worker : Worker α} {servedAt : Instant} {attempt : Attempt}
    (hmember : world.members[number]? = some ⟨worker, none, servedAt, attempt⟩) {chance : Chance}
    (hconnected : world.isConnected) (hafter : (world.answer number chance).isConnected)
    (hsmooth : world.isSmooth (.answer number chance)) (hdisposed : worker.point.Disposed duties) :
    Advances world (world.answer number chance) (world.event? (.answer number chance)) := by
  have hfits := hsound.fits _ (List.mem_of_getElem? hmember) _ _ ⟨rfl, rfl⟩
  have hheld : worker.point.heldSession? duties none = worker.point.session? :=
    Member.heldSession?_none worker.point
  have hanswers := @Server.answers α duties world.server world.now chance worker.point
  have hsmooth : (worker.call duties).isFailed
      (world.server.answer world.now chance (worker.call duties)).2 = false := by
    simp only [isSmooth, hmember] at hsmooth
    simpa using hsmooth
  have htries := @Point.Fits.tries α duties worker.point (worker.point.session?.getD 0)
    world.server attempt hfits halone
    (fun session hsession ↦ isLive_of_isConnected hconnected (List.mem_of_getElem? hmember)
      (hheld.trans hsession)) hdisposed world.now chance hsmooth
    fun other hother ↦ by rw [hother]; rfl
  have hevent : world.event? (.answer number chance) = (worker.point.happening? duties
      (world.server.answer world.now chance (worker.call duties)).2).map
        (.happened number (world.changesAt worker.point) attempt) := by
    simp only [event?, hmember]
  rw [answer_eq hmember] at hafter ⊢
  rw [hevent]
  refine advances_replace hsound hmember world.shared _ attempt hafter htries
    (fun hsome ↦ changes_of_happening? hsome) fun session hknown hnot ↦ ?_
  exact hanswers.spares hsound.server session hknown fun hmine ↦ hnot (hheld.trans hmine)

/-- A worker that goes on keeps its attempt. -/
theorem Sound.advances_resume (hsound : world.Sound) {number : Nat} {member : Member duties}
    {answer : (member.worker.call duties).Answer} (hmember : world.members[number]? = some member)
    (hready : member.ready world.shared world.moment = some answer)
    (hconnected : (world.resume number).isConnected) :
    Advances world (world.resume number) none := by
  rw [resume_eq hmember hready] at hconnected ⊢
  have hleads := member.worker.resume_leads duties world.moment world.shared answer
  dsimp only at hconnected ⊢
  generalize member.worker.resume duties world.moment world.shared answer = turn
    at hleads hconnected ⊢
  have hsame : turn.worker.point.trial? duties (world.server.bury turn.worker.point).store
      member.attempt none =
        member.worker.point.trial? duties world.server.store member.attempt member.answer? := by
    rw [hleads.trial? world.server]
    rcases Member.ready_cases hready with hanswered | ⟨-, hpause⟩
    · rw [hanswered]
      rfl
    · calc member.worker.point.trial? duties world.server.store member.attempt (some answer) =
              none := Point.trial?_of_pause hpause _
        _ = member.worker.point.trial? duties world.server.store member.attempt member.answer? :=
            (Point.trial?_of_pause hpause _).symm
  have htries : Tries duties world.server.store (world.server.store.transaction 0).changes.deleted
      none (member.worker.point.trial? duties world.server.store member.attempt member.answer?)
      (turn.worker.point.trial? duties (world.server.bury turn.worker.point).store member.attempt
        none) := hsame ▸ .quiet
  exact advances_replace hsound hmember turn.shared .none member.attempt hconnected htries
    (fun hsome ↦ nomatch hsome) fun session _ _ ↦ Server.spares_bury _ _ session

theorem Sound.advances_start (hsound : world.Sound) {tasks : List Nat}
    (htasks : (world.crew.start world.taskStatus duties.settings.queueNames).2.2 = .ok tasks) :
    Advances world world.start none := by
  rw [start_eq htasks]
  refine .none fun j ↦ ?_
  unfold trial?
  simp only [getElem?_foldl_spawn]
  cases hmember : world.members[j]? with
  | none => rfl
  | some member =>
    by_cases hj : j ∈ tasks
    · have hidle := hsound.idle_of_start htasks hj hmember
      obtain ⟨⟨name, bounds, countdown, point⟩, answer?, servedAt, attempt⟩ := member
      subst hidle
      simp only [Option.map_some, if_pos hj]
      rfl
    · simp only [Option.map_some, if_neg hj]

/-- A handler that writes has not received its job yet. -/
theorem Sound.advances_write (hsound : world.Sound) {number session : Nat} {job : Job α}
    {worker : Worker α} {servedAt : Instant} {attempt : Attempt} {mishap : Option Mishap}
    {text : String} (hpoint : worker.point = .working session job .delivering)
    (hmember : world.members[number]? = some ⟨worker, none, servedAt, attempt⟩)
    (hconnected : ({ world with
      server := (world.server.exchange session world.now mishap (.note text)).1 } :
        World duties).isConnected) :
    Advances world { world with
      server := (world.server.exchange session world.now mishap (.note text)).1 } none := by
  refine .none fun j ↦ ?_
  by_cases hj : j = number
  · have hnone : worker.point.tried? duties none = none := by
      rw [hpoint]
      rfl
    simp only [trial?, hj, hmember]
    exact (Point.trial?_of_none hnone).trans (Point.trial?_of_none hnone).symm
  · refine trial?_of_spares hconnected rfl fun other hother session' hsession ↦ ?_
    refine Server.confined_exchange.spares hsound.server session' fun hsame ↦ hj ?_
    have hmine : (⟨worker, none, servedAt, attempt⟩ : Member duties).session? = some session := by
      refine (Member.heldSession?_none worker.point).trans ?_
      rw [hpoint]
      rfl
    exact hsound.apart j number other _ session hother hmember (hsame ▸ hsession) hmine

/-- What every move of a steady run means for the attempts under way. -/
theorem Sound.advances (hsound : world.Sound) (halone : duties.deduplicator = none)
    (hdisposed : ∀ member ∈ world.members, member.worker.point.Disposed duties)
    (hconnected : world.isConnected) {move : Move} (hsteady : world.isSteady move) :
    Advances world (world.step move) (world.event? move) := by
  obtain ⟨hsmooth, hafter⟩ := Bool.and_eq_true_iff.1 hsteady
  have hsteps := world.steps move
  generalize world.step move = world' at hafter hsteps ⊢
  cases hsteps with
  | refused hrefusable =>
    rw [event?_of_isRefusable hrefusable]
    exact .none fun _ ↦ rfl
  | unanswered hopen =>
    rw [event?_of_unanswered hopen]
    exact .none fun _ ↦ rfl
  | passed | stopped | awaited | waiting | reclaimed | forgotten | released =>
    exact .none fun _ ↦ rfl
  | produced => exact .enqueued fun _ ↦ rfl
  | dropped =>
    exact .none fun j ↦ trial?_of_spares hafter rfl fun _ _ session _ ↦
      Server.spares_disconnect (by decide) session
  | wrote text mishap hpoint hmember => exact hsound.advances_write hpoint hmember hafter
  | answered chance hmember =>
    rw [← answer_eq hmember] at hafter ⊢
    exact hsound.advances_answer halone hmember hconnected hafter hsmooth
      (hdisposed _ (List.mem_of_getElem? hmember))
  | resumed hmember hready hturn =>
    subst hturn
    rw [← resume_eq hmember hready] at hafter ⊢
    exact hsound.advances_resume hmember hready hafter
  | started _ htasks =>
    rw [← start_eq htasks]
    exact hsound.advances_start htasks

theorem disposed_step (h : ∀ member ∈ world.members, member.worker.point.Disposed duties)
    (move : Move) : ∀ member ∈ (world.step move).members, member.worker.point.Disposed duties := by
  have hsteps := world.steps move
  generalize world.step move = world' at hsteps ⊢
  intro member hmember
  obtain ⟨j, hj⟩ := List.getElem?_of_mem hmember
  cases hsteps with
  | refused | passed | produced | dropped | unanswered | wrote | stopped | awaited | waiting
    | reclaimed | forgotten | released => exact h member hmember
  | answered chance hold =>
    rcases getElem?_set_cases hold _ j member hj with ⟨-, rfl⟩ | ⟨-, hother⟩
    · have hbefore := h _ (List.mem_of_getElem? hold)
      exact hbefore
    · exact h member (List.mem_of_getElem? hother)
  | @resumed number old answer turn hold hready hturn =>
    rcases getElem?_set_cases hold _ j member hj with ⟨-, rfl⟩ | ⟨-, hother⟩
    · have hleads := old.worker.resume_leads duties world.moment world.shared answer
      rw [hturn]
      exact hleads.carries.disposed (h old (List.mem_of_getElem? hold))
    · exact h member (List.mem_of_getElem? hother)
  | started _ htasks =>
    rw [getElem?_foldl_spawn] at hj
    obtain ⟨old, hold, rfl⟩ := Option.map_eq_some_iff.1 hj
    split
    · trivial
    · exact h old (List.mem_of_getElem? hold)

/-- What a point presupposes about a decision holds throughout a run. -/
theorem disposed_of_run {allowed : World duties → Move → Prop} {workers : Nat} {shared : Shared}
    {now : Instant} {past : Past duties}
    (run : Run allowed (World.initial duties workers shared now) past world) :
    ∀ member ∈ world.members, member.worker.point.Disposed duties := by
  induction run with
  | rest =>
    intro member hmember
    obtain ⟨number, -, rfl⟩ := List.mem_map.1 hmember
    trivial
  | move _ _ ih => exact disposed_step ih _

/-- In a steady run every connection that is held is live. -/
theorem isConnected_of_run {workers : Nat} {shared : Shared} {now : Instant} {past : Past duties}
    (run : Run (fun world move ↦ world.isSteady move) (World.initial duties workers shared now) past
      world) : world.isConnected := by
  cases run with
  | rest => exact isConnected_initial duties workers shared now
  | move _ hsteady => exact (Bool.and_eq_true_iff.1 hsteady).2

theorem exists_session_of_trial? {number : Nat} {trial : Trial α}
    (h : world.trial? number = some trial) :
    ∃ member session, world.members[number]? = some member ∧ member.session? = some session ∧
      member.worker.point.tried? duties member.answer? = some trial.job ∧
      trial.deleted = (world.server.store.transaction session).changes.deleted := by
  cases hmember : world.members[number]? with
  | none => simp [trial?, hmember] at h
  | some member =>
    simp only [trial?, hmember, Point.trial?, Option.bind_eq_bind, Option.bind_eq_some_iff] at h
    obtain ⟨job, hjob, reception, -, session, hsession, htrial⟩ := h
    obtain rfl := Option.some.inj htrial
    exact ⟨member, session, rfl, (Point.heldSession?_of_tried? hjob).trans hsession, hjob, rfl⟩

/-- While no delivery is in progress no attempt is under way. -/
theorem trial?_of_isCalm (h : world.isCalm) (number : Nat) : world.trial? number = none := by
  cases htrial : world.trial? number with
  | none => rfl
  | some trial =>
    obtain ⟨member, session, hmember, -, htried, -⟩ := exists_session_of_trial? htrial
    have hcalm := List.all_eq_true.1 h member (List.mem_of_getElem? hmember)
    have hnone := Point.tried?_of_isWorking (by simpa using hcalm) member.answer?
    cases hnone.symm.trans htried

/-- No two attempts hold the same row. -/
theorem Sound.eq_of_trial? (hsound : world.Sound) {i j : Nat} {trial other : Trial α}
    (hi : world.trial? i = some trial) (hj : world.trial? j = some other) {number : Nat}
    (hnumber : number ∈ trial.deleted) (hnumber' : number ∈ other.deleted) : i = j := by
  obtain ⟨member, session, hmember, hsession, -, hdeleted⟩ := exists_session_of_trial? hi
  obtain ⟨member', session', hmember', hsession', -, hdeleted'⟩ := exists_session_of_trial? hj
  by_cases hsame : session = session'
  · subst hsame
    exact hsound.apart i j member member' session hmember hmember' hsession hsession'
  · rw [hdeleted] at hnumber
    rw [hdeleted'] at hnumber'
    exact absurd hnumber'
      ((hsound.server.store.admits session).unlocked session' (Ne.symm hsame) number hnumber)

/-- The rows that an attempt holds are in the queue. -/
theorem Sound.mem_queue_of_trial? (hsound : world.Sound) (hconnected : world.isConnected)
    {worker : Nat} {trial : Trial α} (h : world.trial? worker = some trial) {number : Nat}
    (hnumber : number ∈ trial.deleted) :
    number ∈ world.server.store.queue.map Entry.number := by
  obtain ⟨member, session, hmember, hsession, htried, hdeleted⟩ := exists_session_of_trial? h
  have hmember := List.mem_of_getElem? hmember
  have hprospect : ∃ bounds point, member.Prospect bounds point ∧
      point.tried? duties none = some trial.job := by
    rw [← htried]
    exact member.exists_prospect world.moment world.shared
  obtain ⟨bounds, point, hprospect, hpoint⟩ := hprospect
  have hfits := hsound.fits member hmember bounds point hprospect
  have hsame := hprospect.session?.trans hsession
  cases point with
  | working other job stage =>
    obtain rfl : other = session := Option.some.inj hsame
    have hsuits := hfits fun other' hother ↦ by
      rw [← Option.some.inj hother]
      exact isLive_of_isConnected hconnected hmember hsession
    rw [hdeleted] at hnumber
    exact hsuits.2.mem_queue hnumber
  | idle | starting | atConnectGate | connecting | atFailureGate | asleep | polling | rollingBack
    | closing | crashed => cases hpoint

end World

end TableQueue
