import TableQueue.Proofs.World.Open

/-!
# What happens to one worker

A worker that runs undergoes two kinds of things: its call is answered, and it goes on with a turn.
These are its incidents, each kept with the world in which it came about. A property of one worker
over a whole run, whatever the other workers do and whoever else writes, is a property of the list
of its incidents.
-/

namespace TableQueue

variable {α : Type} {duties : Duties α}

inductive Incident (duties : Duties α) where
  /-- Its call is answered. -/
  | answered (world : World duties) (point : Point α) (answer : (point.call duties).Answer)
  /-- It goes on. -/
  | resumed (world : World duties) (point : Point α) (turn : Turn α)

namespace World

def incident? (world : World duties) (number : Nat) : Move → Option (Incident duties)
  | .answer other chance =>
    if other = number then
      match world.members[number]? with
      | some ⟨worker, none, _, _⟩ =>
        (world.server.answer world.now chance (worker.call duties)).2.map
          (.answered world worker.point)
      | _ => none
    else none
  | .resume other =>
    if other = number then
      match world.members[number]? with
      | some member => (member.ready world.shared world.moment).map fun answer ↦
          .resumed world member.worker.point
            (member.worker.resume duties world.moment world.shared answer)
      | none => none
    else none
  | _ => none

end World

def Past.incidents (past : Past duties) (number : Nat) : List (Incident duties) :=
  past.filterMap fun (world, move) ↦ world.incident? number move

theorem Past.incidents_cons (world : World duties) (move : Move) (past : Past duties)
    (number : Nat) : Past.incidents ((world, move) :: past) number =
      (world.incident? number move).toList ++ past.incidents number := by
  cases hincident : world.incident? number move <;> simp [Past.incidents, hincident]

namespace World

variable {world : World duties} {number : Nat} {member : Member duties}

/-- What a member is after a move, by what has happened to it. -/
inductive Undergoes (world : World duties) (member : Member duties) :
    Option (Incident duties) → Member duties → Prop where
  /-- Nothing has happened. A worker that waits for time to pass may have been asked in vain. -/
  | rested (servedAt : Instant) (attempt : Attempt) :
      Undergoes world member none ⟨member.worker, member.answer?, servedAt, attempt⟩
  | spawned : member.worker.point = .idle → Undergoes world member none member.spawn
  | answered {chance : Chance} {answer : (member.worker.call duties).Answer}
      (attempt : Attempt) : member.answer? = none →
      (world.server.answer world.now chance (member.worker.call duties)).2 = some answer →
      Undergoes world member (some (.answered world member.worker.point answer))
        ⟨member.worker, some answer, world.now, attempt⟩
  | resumed {answer : (member.worker.call duties).Answer} {turn : Turn α} :
      member.ready world.shared world.moment = some answer →
      turn = member.worker.resume duties world.moment world.shared answer →
      Undergoes world member (some (.resumed world member.worker.point turn))
        ⟨turn.worker, none, member.servedAt, member.attempt⟩

/-- An answer is an incident to the worker that gets it. -/
theorem undergoes_answer (hmember : world.members[number]? = some member) (other : Nat)
    (chance : Chance) : ∃ member', (world.answer other chance).members[number]? = some member' ∧
      world.Undergoes member (world.incident? number (.answer other chance)) member' := by
  by_cases hnumber : other = number
  · subst hnumber
    obtain ⟨worker, _ | reply, servedAt, attempt⟩ := member
    · rw [answer_eq hmember]
      refine ⟨_, List.getElem?_set_self (List.getElem?_eq_some_iff.1 hmember).1, ?_⟩
      simp only [incident?, hmember, if_true]
      generalize hanswer : world.server.answer world.now chance (worker.call duties) = result
      obtain ⟨server', _ | answer⟩ := result
      · exact .rested world.now _
      · exact .answered _ rfl (congrArg Prod.snd hanswer)
    · simp only [answer, incident?, hmember, if_true]
      exact ⟨_, rfl, .rested servedAt attempt⟩
  · simp only [incident?, if_neg hnumber]
    refine ⟨member, ?_, .rested member.servedAt member.attempt⟩
    unfold answer
    split
    · exact (List.getElem?_set_ne hnumber).trans hmember
    · exact hmember

/-- Going on is an incident to the worker that does. -/
theorem undergoes_resume (hmember : world.members[number]? = some member) (other : Nat) :
    ∃ member', (world.resume other).members[number]? = some member' ∧
      world.Undergoes member (world.incident? number (.resume other)) member' := by
  by_cases hnumber : other = number
  · subst hnumber
    simp only [incident?, if_true, hmember]
    cases hready : member.ready world.shared world.moment with
    | none =>
      simp only [resume, hmember, hready]
      exact ⟨member, rfl, .rested member.servedAt member.attempt⟩
    | some answer =>
      rw [resume_eq hmember hready]
      exact ⟨_, List.getElem?_set_self (List.getElem?_eq_some_iff.1 hmember).1,
        .resumed hready rfl⟩
  · simp only [incident?, if_neg hnumber]
    refine ⟨member, ?_, .rested member.servedAt member.attempt⟩
    unfold resume
    split
    · split
      · exact (List.getElem?_set_ne hnumber).trans hmember
      · exact hmember
    · exact hmember

theorem exists_member_of_incident? {move : Move} {incident : Incident duties}
    (h : world.incident? number move = some incident) :
    ∃ member, world.members[number]? = some member := by
  cases hmember : world.members[number]? with
  | some member => exact ⟨member, rfl⟩
  | none => cases move <;> simp [incident?, hmember] at h

/-- Every move does to a member what its incident says. -/
theorem Sound.undergoes (h : world.Sound) (hmember : world.members[number]? = some member)
    (move : Move) : ∃ member', (world.step move).members[number]? = some member' ∧
      world.Undergoes member (world.incident? number move) member' := by
  cases move with
  | answer other chance => exact undergoes_answer hmember other chance
  | resume other => exact undergoes_resume hmember other
  | start | pass | produce | drop | write | stop | await | endAwait | release =>
    obtain ⟨member', hmember', hproceeds | ⟨hidle, -, rfl⟩⟩ := h.proceeds hmember _
    · refine ⟨member', hmember', ?_⟩
      cases hproceeds
      exact .rested member.servedAt member.attempt
    · exact ⟨_, hmember', .spawned hidle⟩

end World

/-- What holds of a member at the start and is preserved by what it undergoes and by every write of
others holds of it in the end. -/
theorem OpenRun.preserves_member {workers number : Nat} {shared : Shared} {now : Instant}
    {invariant : Past duties → World duties → Member duties → Prop}
    (hstart : ∀ name, invariant [] (World.initial duties workers shared now)
      (Member.ofName duties name now))
    (hmove : ∀ past world move member member',
      OpenRun (World.initial duties workers shared now) past world →
      world.members[number]? = some member → invariant past world member →
      world.Undergoes member (world.incident? number move) member' →
      invariant ((world, move) :: past) (world.step move) member')
    (hwrite : ∀ past world store member, world.server.store.Tolerates store →
      invariant past world member →
      invariant past (world.withServer { world.server with store }) member)
    {past : Past duties} {world : World duties}
    (run : OpenRun (World.initial duties workers shared now) past world) {member : Member duties}
    (hmember : world.members[number]? = some member) : invariant past world member := by
  induction run generalizing member with
  | rest =>
    obtain ⟨index, -, rfl⟩ := List.mem_map.1 (List.mem_of_getElem? hmember)
    exact hstart _
  | write _ hstore ih => exact hwrite _ _ _ _ hstore (ih hmember)
  | @move past world move run' ih =>
    have hlength := world.length_members_step move
    obtain ⟨before, hbefore⟩ : ∃ before, world.members[number]? = some before := by
      have hlt := (List.getElem?_eq_some_iff.1 hmember).1
      exact ⟨_, List.getElem?_eq_getElem (hlength ▸ hlt)⟩
    obtain ⟨member', hmember', hundergoes⟩ := (run'.sound (.initial ..)).undergoes hbefore move
    obtain rfl := Option.some.inj (hmember'.symm.trans hmember)
    exact hmove _ _ _ _ _ run' hbefore (ih hbefore) hundergoes

end TableQueue
