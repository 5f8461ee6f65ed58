import TableQueue.Proofs.World.Registry
import TableQueue.Proofs.World.Stopping

/-!
# Hung workers

A supervisor asks which workers have been in a database call for longer than some age. How long a
worker has been in its call can be read off the run: the call began when the worker turned to it,
and it lasts until the worker goes on. The answer lists, in order and without repetition, the
workers whose connect, probe, claim, deletion of duplicates or insertion is older than that. It
lists nobody else; but it passes over workers whose command of the transaction hangs. So the answer
is complete exactly if no command is older than the age.
-/

namespace TableQueue

variable {α : Type} {duties : Duties α}

/-! ## Calls along a run -/

/-- The instant at which a worker turned to the call that it is in. The second statement of a probe
belongs to the same call. -/
def Past.inCallSince? : Past duties → Nat → Option Instant
  | [], _ => none
  | (world, move) :: past, number =>
    match world.transition? number move with
    | some transition =>
      if transition.target.isBounding then Past.inCallSince? past number else some world.now
    | none => Past.inCallSince? past number

/-- A worker has been in its call for longer than some age. -/
def Past.IsOlder (past : Past duties) (number : Nat) (age : Span) (now : Instant) : Prop :=
  ∃ since, past.inCallSince? number = some since ∧ age < now.since since

def Call.isOwn (call : Call α) : Bool := call.isTracked || call.isCommand

/-- No call of the registry is a command. -/
theorem Call.isCommand_of_isTracked {call : Call α} (h : call.isTracked = true) :
    call.isCommand = false := by
  cases call with
  | execute session statement =>
    cases statement with
    | command => cases h
    | oldest | recent | claim | takeDuplicates | putBack | putOff | archive | note => rfl
  | pause | connect | deallocate | deliver | close => rfl

/-- Workers have names of their own. -/
theorem Crew.workerName_inj {i j : Nat} : Crew.workerName i = Crew.workerName j ↔ i = j := by
  refine ⟨fun h ↦ ?_, congrArg Crew.workerName⟩
  have htext : toString i = toString j := by simpa [Crew.workerName] using h
  have hdigits : Nat.toDigits 10 i = Nat.toDigits 10 j := by
    simpa only [Nat.toString_eq_repr, Nat.toList_repr] using congrArg String.toList htext
  rw [← Nat.ofDigitChars_toDigits (n := i) (by decide) (Nat.le_refl 10), hdigits,
    Nat.ofDigitChars_toDigits (by decide) (Nat.le_refl 10)]

/-- The name of a member and the beginning of the call that the registry has to have. -/
def Member.entry (member : Member duties) : String × Option Instant :=
  (member.worker.name, member.worker.point.trackedSince?)

namespace World

variable {world world' : World duties} {past : Past duties} {number : Nat} {move : Move}

/-- The registry lists the tracked calls of the members, each from the instant at which its worker
turned to it. -/
structure Registers (past : Past duties) (world : World duties) : Prop where
  named : ∀ number member, world.members[number]? = some member →
    member.worker.name = Crew.workerName number
  entries : ∀ number member, world.members[number]? = some member →
    world.shared.health.entries (Crew.workerName number) =
      (member.worker.point.trackedSince?.map (Crew.workerName number, ·)).toList
  strangers : ∀ name, (∀ number < world.members.length, name ≠ Crew.workerName number) →
    world.shared.health.entries name = []
  since : ∀ number member begun, world.members[number]? = some member →
    member.worker.point.trackedSince? = some begun → past.inCallSince? number = some begun

theorem Registers.initial (duties : Duties α) (workers : Nat) {shared : Shared}
    (hcalls : shared.health.calls = []) (now : Instant) :
    (World.initial duties workers shared now).Registers [] := by
  have hentries (name : String) : shared.health.entries name = [] := by
    rw [Health.entries, hcalls, List.filter_nil]
  have hmember (number : Nat) (member : Member duties)
      (h : (World.initial duties workers shared now).members[number]? = some member) :
      member = Member.ofName duties (Crew.workerName number) now := by
    simp only [World.initial, List.getElem?_map, Option.map_eq_some_iff] at h
    obtain ⟨other, hother, rfl⟩ := h
    rw [(List.getElem?_eq_some_iff.1 hother).2.symm, List.getElem_range]
  refine ⟨fun number member h ↦ ?_, fun number member h ↦ ?_, fun name _ ↦ hentries name,
    fun number member begun h hbegun ↦ ?_⟩
  · rw [hmember number member h]
    rfl
  · rw [hmember number member h]
    exact hentries _
  · rw [hmember number member h] at hbegun
    cases hbegun

/-- A move in which no member goes on and no tracked call begins or ends. -/
theorem Registers.of_eq (h : world.Registers past)
    (htransition : ∀ number, world.transition? number move = none)
    (hmembers : ∀ number : Nat, (world'.members[number]?).map Member.entry =
      (world.members[number]?).map Member.entry)
    (hlength : world'.members.length = world.members.length)
    (hhealth : world'.shared.health = world.shared.health) :
    world'.Registers ((world, move) :: past) := by
  have hbefore (number : Nat) (member' : Member duties)
      (hmember' : world'.members[number]? = some member') :
      ∃ member, world.members[number]? = some member ∧ member.worker.name = member'.worker.name ∧
        member.worker.point.trackedSince? = member'.worker.point.trackedSince? := by
    have hsame := hmembers number
    rw [hmember', Option.map_some, eq_comm, Option.map_eq_some_iff] at hsame
    obtain ⟨member, hmember, hentry⟩ := hsame
    obtain ⟨hname, hsince⟩ := Prod.mk.inj hentry
    exact ⟨member, hmember, hname, hsince⟩
  refine ⟨fun number member' hmember' ↦ ?_, fun number member' hmember' ↦ ?_, fun name hname ↦ ?_,
    fun number member' begun hmember' hbegun ↦ ?_⟩
  · obtain ⟨member, hmember, hname, -⟩ := hbefore number member' hmember'
    rw [← hname, h.named number member hmember]
  · obtain ⟨member, hmember, -, hsince⟩ := hbefore number member' hmember'
    rw [hhealth, h.entries number member hmember, hsince]
  · rw [hhealth]
    exact h.strangers name (hlength ▸ hname)
  · obtain ⟨member, hmember, -, hsince⟩ := hbefore number member' hmember'
    simp only [Past.inCallSince?, htransition]
    exact h.since number member begun hmember (hsince.trans hbegun)

/-- A member goes on. -/
theorem Registers.resume (h : world.Registers past) {member : Member duties}
    {answer : (member.worker.call duties).Answer} (hmember : world.members[number]? = some member)
    (hready : member.ready world.shared world.moment = some answer) :
    (world.resume number).Registers ((world, .resume number) :: past) := by
  have hentry := h.entries number member hmember
  rw [← h.named number member hmember] at hentry
  obtain ⟨⟨hname, hentries⟩, hbegins⟩ :=
    member.worker.resume_registers duties world.moment world.shared answer hentry
  rw [h.named number member hmember] at hname hentries
  have hself : world.transition? number (.resume number) = some ⟨member.worker.point,
      (member.worker.resume duties world.moment world.shared answer).worker.point⟩ := by
    simp only [transition?, if_true, hmember, hready, Option.map_some]
  have hother (j : Nat) (hj : j ≠ number) : world.transition? j (.resume number) = none := by
    simp only [transition?, if_neg (Ne.symm hj)]
  rw [resume_eq hmember hready]
  dsimp only
  generalize member.worker.resume duties world.moment world.shared answer = turn
    at hname hentries hbegins hself ⊢
  have hbefore (j : Nat) (member' : Member duties) := getElem?_set_cases hmember
    (⟨turn.worker, none, member.servedAt, member.attempt⟩ : Member duties) j member'
  refine ⟨fun j member' hmember' ↦ ?_, fun j member' hmember' ↦ ?_, fun name hstranger ↦ ?_,
    fun j member' begun hmember' hbegun ↦ ?_⟩
  · rcases hbefore j member' hmember' with ⟨rfl, rfl⟩ | ⟨-, hold⟩
    · exact hname
    · exact h.named j member' hold
  · rcases hbefore j member' hmember' with ⟨rfl, rfl⟩ | ⟨hj, hold⟩
    · exact (hentries _).trans (if_pos rfl)
    · refine (hentries _).trans ((if_neg fun hsame ↦ hj (Crew.workerName_inj.1 hsame)).trans ?_)
      exact h.entries j member' hold
  · rw [List.length_set] at hstranger
    have hknown : name ≠ Crew.workerName number :=
      hstranger number (List.getElem?_eq_some_iff.1 hmember).1
    exact (hentries name).trans ((if_neg hknown).trans (h.strangers name hstranger))
  · rcases hbefore j member' hmember' with ⟨rfl, rfl⟩ | ⟨hj, hold⟩
    · have hbegun' := hbegins begun hbegun
      simp only [Past.inCallSince?, hself]
      split at hbegun'
      · next hbounding =>
        rw [if_pos hbounding]
        exact h.since j member begun hmember hbegun'
      · next hbounding =>
        rw [if_neg hbounding, hbegun']
        rfl
    · simp only [Past.inCallSince?, hother j hj]
      exact h.since j member' begun hold hbegun

/-- Every move keeps the registry right. -/
theorem Registers.step (h : world.Registers past) (hsound : world.Sound) (move : Move) :
    (world.step move).Registers ((world, move) :: past) := by
  have hrest (hnone : ∀ number, world.transition? number move = none) :
      world.Registers ((world, move) :: past) := h.of_eq hnone (fun _ ↦ rfl) rfl rfl
  have hsteps := world.steps move
  cases move with
  | resume number =>
    obtain ⟨member, answer, hmember, hready⟩ | ⟨hsame, hnone⟩ := world.resume_cases number
    · exact h.resume hmember hready
    · rw [World.step, hsame]
      exact hrest hnone
  | answer number chance =>
    generalize world.step (.answer number chance) = world' at hsteps ⊢
    cases hsteps with
    | refused | unanswered => exact hrest fun _ ↦ rfl
    | answered chance hmember =>
      refine h.of_eq (fun _ ↦ rfl) (fun j ↦ ?_) List.length_set rfl
      by_cases hj : number = j
      · subst hj
        rw [List.getElem?_set_self (List.getElem?_eq_some_iff.1 hmember).1, hmember]
        rfl
      · rw [List.getElem?_set_ne hj]
  | start =>
    generalize world.step .start = world' at hsteps ⊢
    cases hsteps with
    | refused => exact hrest fun _ ↦ rfl
    | started hadmits htasks =>
      refine h.of_eq (fun _ ↦ rfl) (fun j ↦ ?_) (length_members_foldl_spawn world _) rfl
      rw [getElem?_foldl_spawn, Option.map_map]
      refine Option.map_congr fun member hmember ↦ ?_
      dsimp only [Function.comp_apply]
      split
      · next htask =>
        simp only [Member.entry, Member.spawn, hsound.idle_of_start htasks htask hmember]
        rfl
      · rfl
  | pass | produce | drop | write | stop | await | endAwait | release =>
    generalize world.step _ = world' at hsteps ⊢
    cases hsteps <;> exact h.of_eq (fun _ ↦ rfl) (fun _ ↦ rfl) rfl rfl

/-- The registry lists the tracked calls of the members throughout a run. -/
theorem registers_of_run {allowed : World duties → Move → Prop} {workers : Nat} {shared : Shared}
    {now : Instant} (hcalls : shared.health.calls = [])
    (run : Run allowed (World.initial duties workers shared now) past world) :
    world.Registers past := by
  induction run with
  | rest => exact Registers.initial duties workers hcalls now
  | move run' _ ih => exact ih.step (Sound.of_run run') _

/-- No worker has two entries. -/
theorem Registers.length_entries_le (h : world.Registers past) (name : String) :
    (world.shared.health.entries name).length ≤ 1 := by
  by_cases hstranger : ∀ number < world.members.length, name ≠ Crew.workerName number
  · rw [h.strangers name hstranger]
    exact Nat.zero_le 1
  · obtain ⟨number, hnumber, rfl⟩ : ∃ number, ∃ _ : number < world.members.length,
        name = Crew.workerName number := by simpa using hstranger
    rw [h.entries number _ (List.getElem?_eq_getElem hnumber)]
    cases (world.members[number]).worker.point.trackedSince? <;> simp

/-- A worker counts as hung exactly if it has been in a tracked call for long enough. -/
theorem Registers.mem_hungSince (h : world.Registers past) {member : Member duties}
    (hmember : world.members[number]? = some member) (age : Span) :
    Crew.workerName number ∈ world.shared.health.hungSince age world.now ↔
      (member.worker.call duties).isTracked = true ∧ past.IsOlder number age world.now := by
  rw [Health.mem_hungSince, h.entries number member hmember, Worker.call,
    ← Point.isSome_trackedSince?]
  cases hsince : member.worker.point.trackedSince? with
  | none => simp
  | some begun =>
    have hin := h.since number member begun hmember hsince
    simp [Past.IsOlder, hin]

end World

/-- The workers that are listed as hung, in strictly ascending order, are workers of the crew that
have been in a tracked call for longer than the age. Nobody else is listed, and in particular nobody
who waits for time to pass, whose handler has a job, or whose run is over. The list has everyone who
has been in a database call for longer than the age exactly if no command is among these calls. -/
theorem lists_hung_iff {workers : Nat} {shared : Shared} {now : Instant} {past : Past duties}
    {world : World duties} (hcalls : shared.health.calls = [])
    (run : Run Anything (World.initial duties workers shared now) past world) (age : Span) :
    (world.shared.health.hungSince age world.now).Pairwise (· < ·) ∧
    (∀ name ∈ world.shared.health.hungSince age world.now,
      ∃ number < world.members.length, name = Crew.workerName number) ∧
    (∀ number member, world.members[number]? = some member →
      (Crew.workerName number ∈ world.shared.health.hungSince age world.now ↔
        (member.worker.call duties).isTracked = true ∧ past.IsOlder number age world.now)) ∧
    ((∀ number member, world.members[number]? = some member →
      (Crew.workerName number ∈ world.shared.health.hungSince age world.now ↔
        (member.worker.call duties).isOwn = true ∧ past.IsOlder number age world.now)) ↔
      ∀ number member, world.members[number]? = some member →
        (member.worker.call duties).isCommand = true → ¬ past.IsOlder number age world.now) := by
  have hregisters := World.registers_of_run hcalls run
  refine ⟨Health.pairwise_hungSince hregisters.length_entries_le, fun name hname ↦ ?_,
    fun number member hmember ↦ hregisters.mem_hungSince hmember age, fun h ↦ ?_, fun h ↦ ?_⟩
  · by_contra hstranger
    obtain ⟨begun, hmem, -⟩ := Health.mem_hungSince.1 hname
    rw [hregisters.strangers name fun number hnumber hsame ↦
      hstranger ⟨number, hnumber, hsame⟩] at hmem
    cases hmem
  · intro number member hmember hcommand holder
    have hlisted := (h number member hmember).2 ⟨by simp [Call.isOwn, hcommand], holder⟩
    have htracked := ((hregisters.mem_hungSince hmember age).1 hlisted).1
    exact Bool.false_ne_true ((Call.isCommand_of_isTracked htracked).symm.trans hcommand)
  · intro number member hmember
    rw [hregisters.mem_hungSince hmember age, Call.isOwn, Bool.or_eq_true, or_and_right]
    exact ⟨.inl, fun hown ↦ hown.resolve_right fun ⟨hcommand, holder⟩ ↦
      h number member hmember hcommand holder⟩

namespace Sample

def connectingMoves : List Move := [.start, .resume 0, .pass (Span.ofSeconds 120)]

def beginningMoves : List Move :=
  [.start, .resume 0, .answer 0 .plain, .resume 0, .pass (Span.ofSeconds 120)]

end Sample

theorem lists_hung_iff_of_connectingMoves :
    Crew.workerName 0 ∈ ((World.initial (Sample.duties none) 1 Sample.shared ⟨0⟩).play
      Sample.connectingMoves).2.shared.health.hungSince (Span.ofSeconds 60) ⟨120000000000⟩ :=
  ((lists_hung_iff rfl (Run.play (World.initial (Sample.duties none) 1 Sample.shared ⟨0⟩)
    Sample.connectingMoves) (Span.ofSeconds 60)).2.2.1 0 _ rfl).2
      ⟨rfl, ⟨0⟩, by decide +kernel, by decide +kernel⟩

/-- A worker that waits for two minutes for its transaction to begin is not listed as hung. -/
theorem misses_hung_of_beginningMoves :
    ∃ past world member, Run Anything (World.initial (Sample.duties none) 1 Sample.shared ⟨0⟩) past
        world ∧
      world.members[0]? = some member ∧ (member.worker.call (Sample.duties none)).isOwn = true ∧
      past.IsOlder 0 (Span.ofSeconds 60) world.now ∧
      world.shared.health.hungSince (Span.ofSeconds 60) world.now = [] :=
  ⟨_, _, _, Run.play _ Sample.beginningMoves, rfl, rfl, ⟨⟨0⟩, by decide +kernel, by decide +kernel⟩,
    by decide +kernel⟩

end TableQueue
