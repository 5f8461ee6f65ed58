import TableQueue.Proofs.World.Sound
import TableQueue.Rehearsal.Basic

/-!
# Rehearsals are runs

A rehearsal is played by a director, a script and a plot, which settle everything that a world leaves
open. It makes no difference to the crew: whatever scene a rehearsal comes to, some run of the world
comes to a world that looks the same. So what holds after every run holds in every rehearsal.

The clock of a rehearsal and the order in which its players act are a choice of moves. A call that is
made but whose answer is not due yet counts as answered in the world, where the worker does not go
on before it moves.
-/

namespace TableQueue

/-- Only a worker with a job waits for a handler. -/
theorem Point.eq_of_call_eq_deliver {α : Type} {duties : Duties α} {point : Point α} {session : Nat}
    {job : Job α} (h : point.call duties = .deliver session job) :
    point = .working session job .delivering := by
  cases point with
  | idle | starting | atConnectGate | connecting | atFailureGate | asleep | rollingBack | closing
    | crashed => cases h
  | polling session cycle stage => cases stage <;> cases h
  | working session job stage => cases stage <;> cases h; rfl

namespace Rehearsal

variable {setup : Setup}

/-- The answer that a call has got, even if it is not due yet. -/
def Standing.answer? {call : Call Cells} : Standing call → Option call.Answer
  | .answered _ answer => some answer
  | .fresh | .acting .. | .pausing .. => none

/-- A worker with the answer to its call. -/
structure Posture (duties : Duties Cells) where
  worker : Worker Cells
  answer? : Option (worker.call duties).Answer

def Player.posture {duties : Duties Cells} (player : Player duties) : Posture duties :=
  ⟨player.worker, player.standing.answer?⟩

def memberPosture {duties : Duties Cells} (member : Member duties) : Posture duties :=
  ⟨member.worker, member.answer?⟩

namespace Scene

/-! ## Scenes that look the same -/

/-- Two scenes differ in nothing but the script, the counts and the trace. -/
structure Alike (scene scene' : Scene setup) : Prop where
  now : scene.now = scene'.now
  server : scene.server = scene'.server
  shared : scene.shared = scene'.shared
  crew : scene.crew = scene'.crew
  players : scene.players = scene'.players

structure Shows (scene : Scene setup) (world : World setup.duties) : Prop where
  now : world.now = scene.now
  server : world.server = scene.server
  shared : world.shared = scene.shared
  crew : world.crew = scene.crew
  members : world.members.map memberPosture = scene.players.map Player.posture

def withServer (scene : Scene setup) (server : Server) : Scene setup := { scene with server }

def enqueueAll (scene : Scene setup) (drafts : List Draft) : Scene setup :=
  scene.withServer { scene.server with
    store := drafts.foldl (fun store draft ↦ Draft.insertInto draft store scene.now)
      scene.server.store }

/-- Stops the crew unless it has been given up, or does nothing. -/
def stoppedIf (scene : Scene setup) (stops : Bool) : Scene setup :=
  if stops && !scene.crew.isReleased then { scene with crew := scene.crew.stop.1 } else scene

variable {scene scene' scene'' : Scene setup} {world : World setup.duties}

theorem Alike.refl (scene : Scene setup) : scene.Alike scene := ⟨rfl, rfl, rfl, rfl, rfl⟩

theorem Alike.trans (h : scene.Alike scene') (h' : scene'.Alike scene'') : scene.Alike scene'' :=
  ⟨h.now.trans h'.now, h.server.trans h'.server, h.shared.trans h'.shared, h.crew.trans h'.crew,
    h.players.trans h'.players⟩

theorem Alike.shows (h : scene.Alike scene') (hshows : scene'.Shows world) : scene.Shows world :=
  ⟨hshows.now.trans h.now.symm, hshows.server.trans h.server.symm,
    hshows.shared.trans h.shared.symm, hshows.crew.trans h.crew.symm, by rw [h.players, hshows.members]⟩

theorem alike_record (scene : Scene setup) (happening : Happening) :
    (scene.record happening).Alike scene := ⟨rfl, rfl, rfl, rfl, rfl⟩

theorem alike_recordAll (scene : Scene setup) (happenings : List Happening) :
    (scene.recordAll happenings).Alike scene := by
  unfold recordAll
  induction happenings generalizing scene with
  | nil => exact .refl _
  | cons happening rest ih => exact (ih (scene.record happening)).trans (alike_record _ _)

theorem alike_logAll (scene : Scene setup) (events : List Log.Event) :
    (scene.logAll events).Alike scene := alike_recordAll _ _

theorem Alike.stoppedIf (h : scene.Alike scene') (stops : Bool) :
    (scene.stoppedIf stops).Alike (scene'.stoppedIf stops) := by
  unfold Scene.stoppedIf
  rw [h.crew]
  split
  · exact ⟨h.now, h.server, h.shared, rfl, h.players⟩
  · exact h

theorem alike_stopFrom (scene : Scene setup) (source : StopSource) :
    (scene.stopFrom source).Alike (scene.stoppedIf true) := by
  unfold stopFrom Scene.stoppedIf
  split
  · next hreleased =>
    simp only [hreleased, Bool.not_true, Bool.and_false, Bool.false_eq_true, if_false]
    exact .refl _
  · next hreleased =>
    simp only [hreleased, Bool.not_false, Bool.and_self, if_true]
    exact (alike_record _ _).trans (alike_logAll _ _)

theorem exists_alike_arrive (scene : Scene setup) (happening : Happening) :
    ∃ stops, (scene.arrive happening).Alike (scene.stoppedIf stops) := by
  simp only [arrive]
  split
  · refine ⟨true, (alike_stopFrom _ _).trans (Alike.stoppedIf ?_ true)⟩
    exact ⟨rfl, rfl, rfl, rfl, rfl⟩
  · exact ⟨false, ⟨rfl, rfl, rfl, rfl, rfl⟩⟩

/-- A statement is sent as in a world, with some mishap. -/
theorem exists_alike_send (scene : Scene setup) (session : Nat) (statement : Statement) :
    ∃ mishap stops,
      (scene.send session statement).1.Alike
        ((scene.withServer
          (scene.server.exchange session scene.now mishap statement).1).stoppedIf stops) ∧
      (scene.send session statement).2.2 =
        (scene.server.exchange session scene.now mishap statement).2 := by
  cases hlive : scene.server.isLive session with
  | false =>
    refine ⟨none, false, ?_⟩
    simp only [send, Server.exchange, hlive, Bool.not_false, if_true, Bool.false_eq_true, if_false,
      and_true]
    exact .refl _
  | true =>
    let plot := setup.adversity.plot? statement.name (scene.count statement.name).2
    let served := (scene.server.prepare session statement).1.serve session scene.now
      (plot.map Adversity.mishap) statement
    have hexchange : scene.server.exchange session scene.now (plot.map Adversity.mishap) statement =
        served := by
      simp only [Server.exchange, hlive, if_true, served]
    have hserved : Alike { (scene.count statement.name).1 with server := served.1 }
        (scene.withServer served.1) := ⟨rfl, rfl, rfl, rfl, rfl⟩
    simp only [send, hlive, Bool.not_true, Bool.false_eq_true, if_false]
    obtain ⟨stops, halike⟩ := exists_alike_arrive
      { (scene.count statement.name).1 with server := served.1 } _
    refine ⟨plot.map Adversity.mishap, stops, ?_⟩
    rw [hexchange]
    exact ⟨halike.trans (hserved.stoppedIf stops), rfl⟩

/-- A connect is made as in a world, with some outcome. -/
theorem exists_alike_connect (scene : Scene setup) :
    ∃ chance stops,
      scene.connect.1.Alike
        ((scene.withServer (scene.server.answer scene.now chance (.connect : Call Cells)).1).stoppedIf
          stops) ∧
      some scene.connect.2.2 = (scene.server.answer scene.now chance (.connect : Call Cells)).2 := by
  cases hplot : setup.adversity.plot? Adversity.connecting
      (scene.count Adversity.connecting).2 with
  | some plot =>
    refine ⟨{ Chance.plain with refusal := some (Adversity.connectError plot) }, false, ?_⟩
    simp only [Scene.connect, hplot]
    exact ⟨⟨rfl, rfl, rfl, rfl, rfl⟩, rfl⟩
  | none =>
    refine ⟨.plain, false, ?_⟩
    simp only [Scene.connect, hplot]
    exact ⟨⟨rfl, rfl, rfl, rfl, rfl⟩, rfl⟩

theorem alike_deallocate (scene : Scene setup) (session : Nat) :
    (scene.deallocate session).1.Alike
        (scene.withServer
          (scene.server.answer scene.now .plain (.deallocate session : Call Cells)).1) ∧
      some (scene.deallocate session).2 =
        (scene.server.answer scene.now .plain (.deallocate session : Call Cells)).2 := by
  cases hlive : scene.server.isLive session with
  | false =>
    simp only [deallocate, Server.answer, hlive, Bool.not_false, if_true, Bool.false_eq_true,
      if_false, and_true]
    exact .refl _
  | true =>
    simp only [deallocate, Server.answer, hlive, Bool.not_true, Bool.false_eq_true, if_false, if_true,
      and_true]
    exact ⟨rfl, rfl, rfl, rfl, rfl⟩

/-! ## How a call goes on -/

/-- What becomes of a call that is not answered: it is answered, or a handler goes on with a job. A
handler enqueues rows and may write a text. -/
inductive Proceeds (scene : Scene setup) (call : Call Cells) (scene' : Scene setup) :
    Option call.Answer → Prop where
  | answered (chance : Chance) (stops : Bool)
      (halike : scene'.Alike
        ((scene.withServer (scene.server.answer scene.now chance call).1).stoppedIf stops)) :
      Proceeds scene call scene' (scene.server.answer scene.now chance call).2
  | enqueued (drafts : List Draft) (halike : scene'.Alike (scene.enqueueAll drafts)) :
      Proceeds scene call scene' none
  | wrote {session : Nat} {job : Job Cells} (hcall : call = .deliver session job)
      (drafts : List Draft) (text : String) (mishap : Option Mishap) (stops : Bool)
      (halike : scene'.Alike (((scene.enqueueAll drafts).withServer
        ((scene.enqueueAll drafts).server.exchange session scene.now mishap
          (.note text)).1).stoppedIf stops)) :
      Proceeds scene call scene' none

theorem Proceeds.stays {call : Call Cells} : Proceeds scene call scene none :=
  .enqueued [] ⟨rfl, rfl, rfl, rfl, rfl⟩

/-- A handler goes on after it has enqueued rows. -/
theorem proceeds_continueAct {call : Call Cells} {session : Nat} {job : Job Cells}
    (hcall : call = .deliver session job) {drafts : List Draft}
    (halike : scene'.Alike (scene.enqueueAll drafts)) (act : Act) :
    Proceeds scene call (@continueAct setup call scene' session act).1
      (@continueAct setup call scene' session act).2.answer? := by
  unfold continueAct
  split
  · exact .enqueued drafts halike
  · next _ text rest _ =>
    obtain ⟨mishap, stops, hsent, -⟩ := exists_alike_send scene' session (.note text)
    refine .wrote hcall drafts text mishap stops (hsent.trans (Alike.stoppedIf ?_ stops))
    have hexchange : scene'.server.exchange session scene'.now mishap (.note text) =
        (scene.enqueueAll drafts).server.exchange session scene.now mishap (.note text) := by
      rw [halike.server, halike.now]
      rfl
    refine ⟨halike.now, ?_, halike.shared, halike.crew, halike.players⟩
    simp only [withServer, hexchange]

/-- The delivery of a job is answered as in a world, after some writes. -/
theorem proceeds_deliver (scene : Scene setup) {call : Call Cells} {session : Nat} {job : Job Cells}
    (hcall : call = .deliver session job) :
    Proceeds scene call (@deliver setup call scene session job).1
      (@deliver setup call scene session job).2.answer? := by
  unfold deliver
  refine @proceeds_continueAct setup scene _ call session job hcall
    (setup.script.next scene.progress job.payload).1.enqueued ?_ _
  exact ⟨rfl, rfl, rfl, rfl, rfl⟩

/-- A call that is made goes on as in a world. -/
theorem proceeds_advance (scene : Scene setup) (call : Call Cells) (standing : Standing call)
    (hopen : standing.answer? = none) :
    Proceeds scene call (scene.advance call standing).1 (scene.advance call standing).2.answer? := by
  cases standing with
  | answered due answer => cases hopen
  | fresh =>
    cases call with
    | pause => exact .stays
    | connect =>
      obtain ⟨chance, stops, halike, hanswer⟩ := exists_alike_connect scene
      simp only [advance, Standing.answer?]
      rw [hanswer]
      exact .answered chance stops halike
    | execute session statement =>
      obtain ⟨mishap, stops, halike, hanswer⟩ := exists_alike_send scene session statement
      simp only [advance, Standing.answer?]
      rw [hanswer]
      exact .answered { Chance.plain with mishap } stops halike
    | deallocate session =>
      obtain ⟨halike, hanswer⟩ := alike_deallocate scene session
      simp only [advance, Standing.answer?]
      rw [hanswer]
      exact .answered .plain false halike
    | deliver session job => exact proceeds_deliver scene rfl
    | close session =>
      exact .answered .plain false ⟨rfl, rfl, rfl, rfl, rfl⟩
  | acting due act =>
    cases call with
    | deliver session job =>
      simp only [advance]
      split
      · next error _ _ =>
        exact .answered { Chance.plain with reception := .rejected (writeFailure error) } false
          (.refl scene)
      · exact @proceeds_continueAct setup scene scene _ session job rfl [] (.refl scene) act
    | pause | connect | execute | deallocate | close => exact .stays
  | pausing due act =>
    cases call with
    | deliver session job =>
      have halike : Alike (if act.performance.stops then scene.stopFrom .handler else scene)
          (scene.stoppedIf act.performance.stops) := by
        cases act.performance.stops with
        | true => exact alike_stopFrom scene .handler
        | false => exact .refl scene
      exact .answered { Chance.plain with reception := act.performance.reception }
        act.performance.stops halike
    | pause | connect | execute | deallocate | close => exact .stays

/-! ## Worlds that look like a scene -/

theorem Shows.getElem? (h : scene.Shows world) (number : Nat) :
    (world.members[number]?).map memberPosture = (scene.players[number]?).map Player.posture := by
  rw [← List.getElem?_map, ← List.getElem?_map, h.members]

/-- Every player has a member. -/
theorem Shows.exists_member (h : scene.Shows world) {number : Nat} {player : Player setup.duties}
    (hplayer : scene.players[number]? = some player) :
    ∃ servedAt attempt,
      world.members[number]? = some ⟨player.worker, player.standing.answer?, servedAt, attempt⟩ := by
  have hposture := h.getElem? number
  rw [hplayer, Option.map_some, Option.map_eq_some_iff] at hposture
  obtain ⟨⟨worker, answer?, servedAt, attempt⟩, hmember, heq⟩ := hposture
  cases heq
  exact ⟨servedAt, attempt, hmember⟩

/-- A world sees the tasks as the scene does that it looks like. -/
theorem Shows.taskStatus (h : scene.Shows world) : world.taskStatus = scene.taskStatus := by
  funext number
  cases hplayer : scene.players[number]? with
  | none =>
    have hmember := h.getElem? number
    rw [hplayer, Option.map_none, Option.map_eq_none_iff] at hmember
    simp only [World.taskStatus, Scene.taskStatus, hmember, hplayer]
  | some player =>
    obtain ⟨servedAt, attempt, hmember⟩ := h.exists_member hplayer
    simp only [World.taskStatus, Scene.taskStatus, hmember, hplayer]

theorem Shows.areOver (h : scene.Shows world) (tasks : List Nat) :
    world.areOver tasks = areOver tasks scene := by
  rw [World.areOver, Scene.areOver, h.taskStatus]

theorem Shows.moment (h : scene.Shows world) : world.moment = scene.moment := by
  rw [World.moment, Scene.moment, h.now, h.crew]

def withPlayer (scene : Scene setup) (number : Nat) (player : Player setup.duties) : Scene setup :=
  { scene with players := scene.players.set number player }

theorem Alike.withPlayer (h : scene.Alike scene') (number : Nat) (player : Player setup.duties) :
    (scene.withPlayer number player).Alike (scene'.withPlayer number player) :=
  ⟨h.now, h.server, h.shared, h.crew, by rw [Scene.withPlayer, Scene.withPlayer, h.players]⟩

theorem withPlayer_stoppedIf (scene : Scene setup) (stops : Bool) (number : Nat)
    (player : Player setup.duties) :
    (scene.stoppedIf stops).withPlayer number player =
      (scene.withPlayer number player).stoppedIf stops := by
  cases hstops : stops && !scene.crew.isReleased <;>
    simp only [Scene.stoppedIf, Scene.withPlayer, hstops, if_true, Bool.false_eq_true, if_false]

/-- To replace a player by one with the same posture makes no difference. -/
theorem Shows.withPlayer (h : scene.Shows world) {number : Nat} {player player' : Player setup.duties}
    (hplayer : scene.players[number]? = some player) (hposture : player'.posture = player.posture) :
    (scene.withPlayer number player').Shows world := by
  refine ⟨h.now, h.server, h.shared, h.crew, ?_⟩
  obtain ⟨hlt, rfl⟩ := List.getElem?_eq_some_iff.1 hplayer
  have hlt' : number < (scene.players.map Player.posture).length := by rwa [List.length_map]
  have hsame : (scene.players[number]).posture = (scene.players.map Player.posture)[number] := by
    rw [List.getElem_map]
  rw [h.members, Scene.withPlayer, List.map_set, hposture, hsame, List.set_getElem_self]

/-! ## Scenes that runs come to -/

/-- Some run comes to a world that looks like the scene, where somebody waits for some tasks or
nobody waits. -/
def Comes (origin : World setup.duties) (awaited : Option (Instant × List Nat))
    (scene : Scene setup) : Prop :=
  ∃ past world, Run Anything origin past world ∧ scene.Shows world ∧ world.awaited = awaited

variable {origin : World setup.duties} {awaited awaited' : Option (Instant × List Nat)}

theorem Comes.alike (h : Comes origin awaited scene) (halike : scene'.Alike scene) :
    Comes origin awaited scene' := by
  obtain ⟨past, world, run, hshows, hawaited⟩ := h
  exact ⟨past, world, run, halike.shows hshows, hawaited⟩

/-- One more move of the world. -/
theorem Comes.move (h : Comes origin awaited scene) (move : Move)
    (hmove : ∀ world : World setup.duties, scene.Shows world → world.awaited = awaited →
      scene'.Shows (world.step move) ∧ (world.step move).awaited = awaited') :
    Comes origin awaited' scene' := by
  obtain ⟨past, world, run, hshows, hawaited⟩ := h
  exact ⟨(world, move) :: past, world.step move, .move run trivial, hmove world hshows hawaited⟩

theorem Comes.passTo (h : Comes origin awaited scene) (instant : Instant) :
    Comes origin awaited (scene.passTo instant) := by
  refine h.move (.pass (instant.since scene.now)) fun world hshows hawaited ↦ ⟨?_, hawaited⟩
  refine ⟨?_, hshows.server, hshows.shared, hshows.crew, hshows.members⟩
  simp only [World.step, hshows.now, Scene.passTo]

theorem Comes.stoppedIf (h : Comes origin awaited scene) (stops : Bool) :
    Comes origin awaited (scene.stoppedIf stops) := by
  unfold Scene.stoppedIf
  split
  · next hstops =>
    have hreleased : scene.crew.isReleased = false := by simpa using (Bool.and_eq_true_iff.1 hstops).2
    apply h.move .stop
    intro world hshows hawaited
    have hstep : world.step .stop = { world with crew := world.crew.stop.1 } := by
      simp only [World.step, hshows.crew, hreleased, Bool.false_eq_true, if_false]
    rw [hstep, hshows.crew]
    exact ⟨⟨hshows.now, hshows.server, hshows.shared, rfl, hshows.members⟩, hawaited⟩
  · exact h

theorem Comes.enqueueAll (h : Comes origin awaited scene) (drafts : List Draft) :
    Comes origin awaited (scene.enqueueAll drafts) := by
  induction drafts generalizing scene with
  | nil => exact h
  | cons draft rest ih =>
    have hfirst : Comes origin awaited (scene.enqueueAll [draft]) := by
      refine h.move (.produce (draft.row scene.now)
        ((draft.visibleFrom.map (Draft.shift scene.now)).getD scene.now))
        fun world hshows hawaited ↦ ⟨?_, hawaited⟩
      refine ⟨hshows.now, ?_, hshows.shared, hshows.crew, hshows.members⟩
      simp only [World.step, World.withServer, hshows.server]
      rfl
    exact ih hfirst

/-- The call of a player is answered. -/
theorem Comes.answered (h : Comes origin awaited scene) {number : Nat} {player : Player setup.duties}
    (hplayer : scene.players[number]? = some player) (hopen : player.standing.answer? = none)
    (chance : Chance) {standing : Standing (player.worker.call setup.duties)}
    (hstanding : standing.answer? =
      (scene.server.answer scene.now chance (player.worker.call setup.duties)).2) :
    Comes origin awaited
      ((scene.withServer
        (scene.server.answer scene.now chance (player.worker.call setup.duties)).1).withPlayer number
          ⟨player.worker, standing⟩) := by
  apply h.move (.answer number chance)
  intro world hshows hawaited
  obtain ⟨servedAt, attempt, hmember⟩ := hshows.exists_member hplayer
  rw [hopen] at hmember
  rw [World.step, World.answer_eq hmember, hshows.server, hshows.now]
  refine ⟨⟨rfl, rfl, hshows.shared, hshows.crew, ?_⟩, hawaited⟩
  simp only [List.map_set, Scene.withPlayer, Scene.withServer, hshows.members, memberPosture,
    Player.posture, hstanding]

/-- The handler of a player writes. -/
theorem Comes.wrote (h : Comes origin awaited scene) {number session : Nat} {job : Job Cells}
    {player : Player setup.duties} (hplayer : scene.players[number]? = some player)
    (hopen : player.standing.answer? = none)
    (hcall : player.worker.call setup.duties = .deliver session job) (text : String)
    (mishap : Option Mishap) :
    Comes origin awaited
      (scene.withServer (scene.server.exchange session scene.now mishap (.note text)).1) := by
  apply h.move (.write number text mishap)
  intro world hshows hawaited
  obtain ⟨servedAt, attempt, hmember⟩ := hshows.exists_member hplayer
  obtain ⟨⟨name, bounds, countdown, point⟩, standing⟩ := player
  obtain rfl := Point.eq_of_call_eq_deliver hcall
  rw [hopen] at hmember
  have hstep : world.step (.write number text mishap) =
      world.withServer (world.server.exchange session world.now mishap (.note text)).1 := by
    simp only [World.step, World.write, hmember]
  rw [hstep, hshows.server, hshows.now]
  exact ⟨⟨hshows.now, rfl, hshows.shared, hshows.crew, hshows.members⟩, hawaited⟩

/-- A player goes on. -/
theorem Comes.resumed (h : Comes origin awaited scene) {number : Nat} {player : Player setup.duties}
    (hplayer : scene.players[number]? = some player)
    {answer : (player.worker.call setup.duties).Answer}
    (hready : (player.worker.call setup.duties).ready
      (player.worker.isDue scene.shared scene.moment) player.standing.answer? = some answer)
    {turn : Turn Cells}
    (hturn : turn = player.worker.resume setup.duties scene.moment scene.shared answer) :
    Comes origin awaited
      ({ scene with server := scene.server.bury turn.worker.point, shared := turn.shared }.withPlayer
        number ⟨turn.worker, .fresh⟩) := by
  apply h.move (.resume number)
  intro world hshows hawaited
  obtain ⟨servedAt, attempt, hmember⟩ := hshows.exists_member hplayer
  rw [← hshows.shared, ← hshows.moment] at hready hturn
  rw [World.step, World.resume_eq hmember hready, hshows.server]
  simp only [← hturn]
  refine ⟨⟨hshows.now, rfl, rfl, hshows.crew, ?_⟩, hawaited⟩
  simp only [List.map_set, Scene.withPlayer, hshows.members, memberPosture, Player.posture,
    Standing.answer?]
  rw [hturn]

/-! ## Players act -/

theorem answer?_of_pause {now : Instant} {call : Call Cells} (hpause : call = .pause)
    (standing : Standing call) : answer? now call standing ≠ none := by
  subst hpause
  exact Option.some_ne_none ()

theorem answer?_of_ne_pause {now : Instant} {call : Call Cells} (hpause : call ≠ .pause) :
    ∀ standing : Standing call, answer? now call standing =
      match standing with
      | .answered due answer => if due ≤ now then some answer else none
      | .fresh | .acting .. | .pausing .. => none := by
  intro standing
  cases call with
  | pause => exact absurd rfl hpause
  | connect | execute | deallocate | deliver | close => cases standing <;> rfl

theorem isPausing_iff (player : Player setup.duties) :
    isPausing player ↔ player.worker.call setup.duties = .pause := by
  unfold isPausing
  cases player.worker.call setup.duties <;> simp

/-- A player that has its answer goes on in the world as well. -/
theorem ready_of_answer? {player : Player setup.duties} (hacts : scene.canAct player)
    {answer : (player.worker.call setup.duties).Answer}
    (hanswer : answer? scene.now (player.worker.call setup.duties) player.standing = some answer) :
    (player.worker.call setup.duties).ready (player.worker.isDue scene.shared scene.moment)
      player.standing.answer? = some answer := by
  have hready {call : Call Cells} {standing : Standing call} {answer : call.Answer} {due : Bool}
      (hdue : call = .pause → due = true) (hanswer : answer? scene.now call standing = some answer) :
      call.ready due standing.answer? = some answer := by
    cases call with
    | pause =>
      rw [hdue rfl]
      rfl
    | connect | execute | deallocate | deliver | close =>
      cases standing with
      | answered due reply =>
        simp only [answer?] at hanswer
        split at hanswer
        · exact hanswer
        · cases hanswer
      | fresh | acting | pausing => cases hanswer
  refine hready (fun hpause ↦ ?_) hanswer
  rwa [canAct, if_pos ((isPausing_iff player).2 hpause)] at hacts

/-- A player that can act and has no answer is still to be answered. -/
theorem open_of_canAct {player : Player setup.duties} (hacts : scene.canAct player)
    (hanswer : answer? scene.now (player.worker.call setup.duties) player.standing = none) :
    player.standing.answer? = none := by
  have hpause : player.worker.call setup.duties ≠ .pause := fun hpause ↦
    answer?_of_pause hpause _ hanswer
  rw [answer?_of_ne_pause hpause] at hanswer
  rw [canAct, if_neg fun hpausing ↦ hpause ((isPausing_iff player).1 hpausing)] at hacts
  cases hstanding : player.standing with
  | answered due answer =>
    simp only [hstanding, decide_eq_true_eq] at hacts hanswer
    rw [if_pos hacts] at hanswer
    cases hanswer
  | fresh | acting | pausing => rfl

theorem alike_bury (scene : Scene setup) (point : Point Cells) :
    Alike (match point with
      | .crashed session _ => { scene with server := scene.server.disconnect session .lost }
      | _ => scene) (scene.withServer (scene.server.bury point)) := by
  cases point <;> exact ⟨rfl, rfl, rfl, rfl, rfl⟩

/-- A player makes its call or goes on with it. -/
theorem Comes.proceeds (h : Comes origin awaited scene) {number : Nat} {player : Player setup.duties}
    (hplayer : scene.players[number]? = some player) (hopen : player.standing.answer? = none)
    {standing : Standing (player.worker.call setup.duties)} {answer : Option _}
    (hproceeds : Proceeds scene (player.worker.call setup.duties) scene' answer)
    (hanswer : standing.answer? = answer) :
    Comes origin awaited (scene'.withPlayer number ⟨player.worker, standing⟩) := by
  -- While the call stays open, the player may as well not be replaced.
  have hsame {scene : Scene setup} (h : Comes origin awaited scene)
      (hplayer : scene.players[number]? = some player) (hanswer : standing.answer? = none) :
      Comes origin awaited (scene.withPlayer number ⟨player.worker, standing⟩) := by
    obtain ⟨past, world, run, hshows, hawaited⟩ := h
    refine ⟨past, world, run, hshows.withPlayer hplayer ?_, hawaited⟩
    rw [Player.posture, Player.posture, hanswer, hopen]
  cases hproceeds with
  | answered chance stops halike =>
    have hanswered := (h.answered hplayer hopen chance hanswer).stoppedIf stops
    rw [← withPlayer_stoppedIf] at hanswered
    exact hanswered.alike (halike.withPlayer number _)
  | enqueued drafts halike =>
    exact (hsame (h.enqueueAll drafts) hplayer hanswer).alike (halike.withPlayer number _)
  | wrote hcall drafts text mishap stops halike =>
    have hwrote := (hsame ((h.enqueueAll drafts).wrote hplayer hopen hcall text mishap) hplayer
      hanswer).stoppedIf stops
    rw [← withPlayer_stoppedIf] at hwrote
    exact hwrote.alike (halike.withPlayer number _)

/-- What a player does is a run of the world. -/
theorem Comes.actAt (h : Comes origin awaited scene) (number : Nat) :
    Comes origin awaited (scene.actAt number) := by
  unfold Scene.actAt
  split
  · exact h
  · next player hplayer =>
    split
    · next hacts =>
      simp only [act]
      split
      · next answer hanswer =>
        have hresumed := h.resumed hplayer (ready_of_answer? hacts hanswer) rfl
        have hrecorded := alike_recordAll
          { scene with
            shared := (player.worker.resume setup.duties scene.moment scene.shared answer).shared }
          ((player.worker.resume setup.duties scene.moment scene.shared answer).notes.map .noted)
        refine hresumed.alike (Alike.withPlayer ?_ number _)
        refine (alike_bury _ _).trans ⟨hrecorded.now, ?_, hrecorded.shared,
          hrecorded.crew, hrecorded.players⟩
        simp only [withServer, hrecorded.server]
      · next hanswer =>
        have hopen := open_of_canAct hacts hanswer
        exact h.proceeds hplayer hopen (proceeds_advance scene _ player.standing hopen) rfl
    · exact h

theorem Comes.foldl_actAt (h : Comes origin awaited scene) (numbers : List Nat) :
    Comes origin awaited (numbers.foldl Scene.actAt scene) := by
  induction numbers generalizing scene with
  | nil => exact h
  | cons number rest ih => exact ih (h.actAt number)

/-- What all players do is a run of the world. -/
theorem Comes.settle (h : Comes origin awaited scene) (fuel : Nat) :
    Comes origin awaited (scene.settle fuel) := by
  induction fuel generalizing scene with
  | zero => exact h
  | succ fuel ih =>
    unfold Scene.settle
    split
    · exact ih (h.foldl_actAt _)
    · exact h

/-- What happens up to a deadline is a run of the world. -/
theorem Comes.runUntil (h : Comes origin awaited scene) (deadline : Instant)
    (isOver : Scene setup → Bool) (fuel : Nat) :
    Comes origin awaited (scene.runUntil deadline isOver fuel) := by
  induction fuel generalizing scene with
  | zero => exact h.passTo deadline
  | succ fuel ih =>
    have hsettled := h.settle patience
    unfold Scene.runUntil
    dsimp only
    split
    · exact hsettled
    · split
      · exact ih (hsettled.passTo _)
      · exact hsettled.passTo deadline

theorem Comes.run (h : Comes origin awaited scene) (span : Span) :
    Comes origin awaited (scene.run span) := by
  unfold Scene.run
  split
  · exact h
  · exact h.runUntil _ _ _

theorem le_passTo (scene : Scene setup) (instant : Instant) : instant ≤ (scene.passTo instant).now := by
  simp only [Scene.passTo, Instant.le_iff, Instant.after, Instant.since]
  omega

/-- What runs until a deadline stops early only for the condition. -/
theorem isOver_or_le_runUntil (deadline : Instant) (isOver : Scene setup → Bool) (fuel : Nat)
    (scene : Scene setup) :
    isOver (scene.runUntil deadline isOver fuel) ∨
      deadline ≤ (scene.runUntil deadline isOver fuel).now := by
  induction fuel generalizing scene with
  | zero => exact .inr (le_passTo scene deadline)
  | succ fuel ih =>
    unfold Scene.runUntil
    dsimp only
    split
    · next hover => exact .inl hover
    · split
      · exact ih _
      · exact .inr (le_passTo _ deadline)

/-! ## The director -/

theorem Shows.spawn (h : scene.Shows world) (number : Nat) :
    (scene.spawn number).Shows (world.spawn number) := by
  unfold Scene.spawn
  split
  · next player hplayer =>
    obtain ⟨servedAt, attempt, hmember⟩ := h.exists_member hplayer
    simp only [World.spawn, hmember]
    refine ⟨h.now, h.server, h.shared, h.crew, ?_⟩
    simp only [World.withMember, List.map_set, h.members]
    rfl
  · next hplayer =>
    have hmember := h.getElem? number
    rw [hplayer, Option.map_none, Option.map_eq_none_iff] at hmember
    simp only [World.spawn, hmember]
    exact h

theorem Shows.foldl_spawn (h : scene.Shows world) (tasks : List Nat) :
    (tasks.foldl Scene.spawn scene).Shows (tasks.foldl World.spawn world) := by
  induction tasks generalizing scene world with
  | nil => exact h
  | cons task rest ih => exact ih (h.spawn task)

theorem Shows.admitsCall (h : scene.Shows world) (hawaited : world.awaited = none)
    (hreleased : scene.crew.isReleased = false) : world.admitsCall := by
  simp [World.admitsCall, hawaited, h.crew, hreleased]

/-- A start is a move of the world. -/
theorem Comes.start (h : Comes origin none scene) (hreleased : scene.crew.isReleased = false) :
    Comes origin none scene.start.1 := by
  apply h.move .start
  intro world hshows hawaited
  have hstep : world.step .start = world.start := by
    simp only [World.step, hshows.admitsCall hawaited hreleased, if_true]
  rw [hstep, World.start, hshows.crew, hshows.taskStatus]
  have halike := alike_logAll
    { scene with
      crew := (scene.crew.start scene.taskStatus setup.duties.settings.queueNames).1 }
    (scene.crew.start scene.taskStatus setup.duties.settings.queueNames).2.1
  cases hstart : (scene.crew.start scene.taskStatus setup.duties.settings.queueNames).2.2 with
  | ok tasks =>
    simp only [Scene.start, hstart]
    refine ⟨Shows.foldl_spawn (halike.shows ?_) tasks, ?_⟩
    · exact ⟨hshows.now, hshows.server, hshows.shared, rfl, hshows.members⟩
    · rw [World.foldl_spawn]
      exact hawaited
  | error fault =>
    simp only [Scene.start, hstart]
    refine ⟨halike.shows ?_, hawaited⟩
    exact ⟨hshows.now, hshows.server, hshows.shared,
      hshows.crew.trans (Crew.start_of_error hstart).symm, hshows.members⟩

theorem Comes.stop (h : Comes origin awaited scene) (hreleased : scene.crew.isReleased = false) :
    Comes origin awaited scene.stop.1 := by
  have hstopped : scene.stoppedIf true = { scene with crew := scene.crew.stop.1 } := by
    simp only [Scene.stoppedIf, hreleased, Bool.not_false, Bool.and_self, if_true]
  exact (h.stoppedIf true).alike (hstopped ▸ alike_logAll _ scene.crew.stop.2.1)

/-- The waiting ends when the tasks are over or the time is up. -/
theorem Comes.endAwait {deadline : Instant} {tasks : List Nat}
    (h : Comes origin (some (deadline, tasks)) scene)
    (hends : areOver tasks scene ∨ deadline ≤ scene.now) :
    Comes origin none (if areOver tasks scene then
      { scene with crew := (scene.crew.reclaim scene.taskStatus tasks).1 } else scene) := by
  apply h.move .endAwait
  intro world hshows hawaited
  simp only [World.step, World.endAwait, hawaited, hshows.areOver, hshows.now]
  split
  · rw [hshows.crew, hshows.taskStatus]
    exact ⟨⟨rfl, hshows.server, hshows.shared, rfl, hshows.members⟩, rfl⟩
  · next hover =>
    rw [if_pos (hends.resolve_left hover)]
    exact ⟨⟨rfl, hshows.server, hshows.shared, hshows.crew, hshows.members⟩, rfl⟩

/-- A wait for the crew is a run of the world. -/
theorem Comes.await (h : Comes origin none scene) (hreleased : scene.crew.isReleased = false)
    (timeout : Span) : Comes origin none (scene.await timeout).1 := by
  unfold Scene.await
  split
  · exact h
  · next crew tasks hbegin =>
    let deadline := scene.now.afterSleep timeout
    have hwaiting : Comes origin (some (deadline, tasks)) { scene with crew } := by
      apply h.move (.await timeout)
      intro world hshows hawaited
      have hbegin' : world.crew.beginAwait = .ok (crew, tasks) := by rw [hshows.crew, hbegin]
      have hstep : world.step (.await timeout) =
          { world with crew, awaited := some (deadline, tasks) } := by
        simp only [World.step, hshows.admitsCall hawaited hreleased, if_true, World.await, hbegin',
          hshows.now, deadline]
      rw [hstep]
      exact ⟨⟨hshows.now, hshows.server, hshows.shared, rfl, hshows.members⟩, rfl⟩
    let ended : Scene setup :=
      if areOver tasks { scene with crew } || decide (timeout = Span.zero) then { scene with crew }
      else Scene.runUntil deadline (areOver tasks) patience { scene with crew }
    have hended : Comes origin (some (deadline, tasks)) ended ∧
        (areOver tasks ended ∨ deadline ≤ ended.now) := by
      simp only [ended]
      split
      · next hdone =>
        refine ⟨hwaiting, ?_⟩
        rw [Bool.or_eq_true, decide_eq_true_eq] at hdone
        apply hdone.imp_right
        intro hzero
        simp [deadline, hzero, Instant.afterSleep, Instant.after, Span.min, Span.zero]
      · exact ⟨hwaiting.runUntil deadline _ _, isOver_or_le_runUntil deadline _ _ _⟩
    have hover := hended.1.endAwait hended.2
    have hawait : (if areOver tasks ended then
        ({ ended with crew := (ended.crew.reclaim ended.taskStatus tasks).1 }.logAll
          (ended.crew.reclaim ended.taskStatus tasks).2, StepResult.done)
        else (ended.logAll [Crew.timeoutReport timeout], .done)).1.Alike
          (if areOver tasks ended then
            { ended with crew := (ended.crew.reclaim ended.taskStatus tasks).1 } else ended) := by
      split <;> exact alike_logAll _ _
    exact hover.alike hawait

theorem Comes.take (h : Comes origin none scene) (hreleased : scene.crew.isReleased = false)
    (step : Step) : Comes origin none (scene.take step).1 := by
  cases step with
  | start => exact h.start hreleased
  | stop => exact h.stop hreleased
  | await timeout => exact h.await hreleased timeout
  | isRunning | workerCount | hung | hungSince => exact h
  | enqueue draft => exact (h.enqueueAll [draft]).alike ⟨rfl, rfl, rfl, rfl, rfl⟩
  | release =>
    refine h.move .release fun world hshows hawaited ↦ ⟨?_, hawaited⟩
    exact ⟨hshows.now, hshows.server, hshows.shared, congrArg Crew.release hshows.crew,
      hshows.members⟩
  | run span => exact h.run span

/-- A step of the director is a run of the world. -/
theorem Comes.step (h : Comes origin none scene) (direction : Step) :
    Comes origin none (scene.step direction) := by
  unfold Scene.step
  split
  · exact h.run _
  · exact h
  · next _ _ hreleased =>
    dsimp only
    split
    · exact (h.take hreleased _).alike (alike_record _ _)
    · exact h.take hreleased _

theorem Comes.foldl_step (h : Comes origin none scene) (steps : List Step) :
    Comes origin none (steps.foldl Scene.step scene) := by
  induction steps generalizing scene with
  | nil => exact h
  | cons direction rest ih => exact ih (h.step direction)

/-- The first scene looks like a world into which rows have been enqueued. -/
theorem comes_initial (setup : Setup) {plan : Assembly.Plan}
    (hsettings : plan.settings = setup.duties.settings) (rows : List Draft) (now : Instant) :
    Comes (World.initial setup.duties plan.workers (Shared.ofPlan plan) now) none
      (Scene.initial setup plan rows now) := by
  have hempty : Comes (World.initial setup.duties plan.workers (Shared.ofPlan plan) now) none
      (Scene.initial setup plan [] now) := by
    refine ⟨[], _, .rest, ⟨rfl, rfl, rfl, rfl, ?_⟩, rfl⟩
    simp only [World.initial, Scene.initial, List.map_map]
    rw [hsettings]
    rfl
  exact (hempty.enqueueAll rows).alike ⟨rfl, rfl, rfl, rfl, rfl⟩

end Scene

/-- What a rehearsal reports of the tables is what they hold after some run. -/
theorem exists_run_of_play (setup : Setup) {plan : Assembly.Plan}
    (hsettings : plan.settings = setup.duties.settings) (rows : List Draft) (now : Instant)
    (steps : List Step) :
    ∃ past world,
      Run Anything (World.initial setup.duties plan.workers (Shared.ofPlan plan) now) past world ∧
      (play setup plan rows now steps).queue = world.server.store.allEntries ∧
      (play setup plan rows now steps).archive = world.server.store.allArchived.map Prod.snd ∧
      (play setup plan rows now steps).notes = world.server.store.allNotes.map Prod.snd := by
  have hplayed := ((Scene.comes_initial setup hsettings rows now).foldl_step steps).settle
    Scene.patience
  obtain ⟨past, world, run, hshows, -⟩ := hplayed
  refine ⟨past, world, run, ?_⟩
  rw [hshows.server]
  exact ⟨rfl, rfl, rfl⟩

end Rehearsal

end TableQueue
