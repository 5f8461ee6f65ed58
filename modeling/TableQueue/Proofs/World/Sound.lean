import TableQueue.Proofs.World.Answers
import TableQueue.Proofs.World.Steps

/-!
# Sound worlds

In a sound world no two workers hold the same session, every live session is held, and every point
at which a worker may be next fits the server. Every move keeps a world sound, whatever is allowed.
-/

namespace TableQueue

variable {α : Type} {duties : Duties α}

/-! ## What an answer does to the server -/

namespace Server

variable {server server' : Server} {session : Nat} {now : Instant} {chance : Chance}

theorem Sound.produce (h : server.Sound) (row : Row) (visibleFrom : Instant) :
    ({ server with store := server.store.produce row visibleFrom } : Server).Sound :=
  ⟨h.store.produce row visibleFrom, h.numbered, h.quiet⟩

theorem spares_produce (server : Server) (session : Nat) (row : Row) (visibleFrom : Instant) :
    server.Spares session { server with store := server.store.produce row visibleFrom } :=
  fun hlive ↦ ⟨hlive, rfl, fun _ hmem _ ↦ List.mem_append_left _ hmem⟩

theorem confined_deallocate : Confined session server (server.deallocate session).1 := by
  unfold deallocate
  split
  · exact confined_update (fun _ ↦ rfl) fun _ ↦ rfl
  · exact Confined.refl session server

theorem spares_connect (h : server.Sound) {other : Nat} (hother : other ≠ server.connect.2) :
    server.Spares other server.connect.1 := by
  intro hlive
  rw [isLive_connect h, Bool.or_eq_true, beq_iff_eq] at hlive
  exact ⟨hlive.resolve_right hother, rfl, fun _ hmem _ ↦ hmem⟩

theorem bury_cases (server : Server) (point : Point α) :
    server.bury point = server ∨ ∃ session text, point = .crashed session text ∧
      server.bury point = server.disconnect session .lost := by
  cases point with
  | crashed session text => exact .inr ⟨session, text, rfl, rfl⟩
  | idle | starting | atConnectGate | connecting | atFailureGate | asleep | polling | working
    | rollingBack | closing => exact .inl rfl

theorem Sound.bury (h : server.Sound) (point : Point α) : (server.bury point).Sound := by
  obtain heq | ⟨_, _, -, heq⟩ := server.bury_cases point <;> rw [heq]
  · exact h
  · exact (confined_disconnect (by decide)).sound h

theorem sameTables_bury (server : Server) (point : Point α) :
    server.store.SameTables (server.bury point).store := by
  obtain heq | ⟨_, _, -, heq⟩ := server.bury_cases point <;> rw [heq]
  · exact Store.SameTables.refl _
  · exact Store.sameTables_setTransaction _ _ _

theorem length_bury (server : Server) (point : Point α) :
    (server.bury point).connections.length = server.connections.length := by
  obtain heq | ⟨_, _, -, heq⟩ := server.bury_cases point <;> rw [heq]
  exact (confined_disconnect (by decide)).size

theorem spares_bury (server : Server) (point : Point α) (session : Nat) :
    server.Spares session (server.bury point) := by
  obtain heq | ⟨_, _, -, heq⟩ := server.bury_cases point <;> rw [heq]
  · exact Spares.refl session server
  · exact spares_disconnect (by decide) session

/-- Only a pause goes unanswered. -/
theorem pause_of_answer_none {call : Call α} (h : server.answer now chance call = (server', none)) :
    call = .pause ∧ server' = server := by
  cases call with
  | pause => exact ⟨rfl, (Prod.mk.inj h).1.symm⟩
  | connect =>
    cases hrefusal : chance.refusal <;> simp only [answer, hrefusal] at h <;>
      cases (Prod.mk.inj h).2
  | deallocate session =>
    simp only [answer] at h
    split at h <;> cases (Prod.mk.inj h).2
  | execute | deliver | close => cases (Prod.mk.inj h).2

/-- What an answer means for the server and for who holds which session. -/
structure Answers (duties : Duties α) (point : Point α) (server server' : Server)
    (answer? : Option (point.call duties).Answer) : Prop where
  sound : server.Sound → server'.Sound
  size : server.connections.length ≤ server'.connections.length
  spares : server.Sound → ∀ session < server.connections.length, point.session? ≠ some session →
    server.Spares session server'
  held : ∀ session, point.heldSession? duties answer? = some session →
    point.session? = some session ∨
      server.connections.length ≤ session ∧ session < server'.connections.length
  live : server.Sound → ∀ session, server'.isLive session = true →
    point.heldSession? duties answer? = some session ∨
      server.isLive session = true ∧ point.session? ≠ some session

variable {point : Point α} {answer? : Option (point.call duties).Answer}

/-- An answer that concerns only the connection of its worker is a proper one. -/
theorem Answers.of_confined (h : Confined session server server')
    (hsession : point.session? = some session)
    (hheld : point.heldSession? duties answer? = point.session?) :
    Answers duties point server server' answer? where
  sound := h.sound
  size := Nat.le_of_eq h.size.symm
  spares hsound other _ hother :=
    h.spares hsound other fun hsame ↦ hother (hsession.trans (congrArg some hsame.symm))
  held other hother := .inl (hheld.symm.trans hother)
  live hsound other hlive := by
    rw [hheld]
    by_cases hmine : point.session? = some other
    · exact .inl hmine
    · exact .inr ⟨h.isLive_of_isLive hsound hlive, hmine⟩

theorem Answers.of_same (hheld : point.heldSession? duties answer? = point.session?) :
    Answers duties point server server answer? where
  sound := id
  size := Nat.le_refl _
  spares _ other _ _ := Spares.refl other server
  held other hother := .inl (hheld.symm.trans hother)
  live _ other hlive := by
    rw [hheld]
    by_cases hmine : point.session? = some other
    · exact .inl hmine
    · exact .inr ⟨hlive, hmine⟩

theorem answers_connect {begun : Instant} :
    Answers duties (.connecting begun) server server.connect.1 (some (.ok server.connect.2)) where
  sound := Sound.connect
  size := by simp [connect]
  spares hsound other hother _ := spares_connect hsound (Nat.ne_of_lt hother)
  held other hother := by
    rw [← Option.some.inj hother]
    exact .inr ⟨Nat.le_refl _, by simp [connect]⟩
  live hsound other hlive := by
    rw [isLive_connect hsound, Bool.or_eq_true, beq_iff_eq] at hlive
    rcases hlive with hlive | rfl
    · exact .inr ⟨hlive, fun h ↦ by cases h⟩
    · exact .inl rfl

theorem answers_close {last : Bool} (answer : Except DatabaseError Unit) :
    Answers duties (.closing session last) server (server.close session).1 (some answer) where
  sound := confined_close.sound
  size := Nat.le_of_eq confined_close.size.symm
  spares hsound other _ hother :=
    confined_close.spares hsound other fun hsame ↦ hother (congrArg some hsame.symm)
  held other hother := nomatch hother
  live hsound other hlive := by
    refine .inr ⟨confined_close.isLive_of_isLive hsound hlive, fun hsame ↦ ?_⟩
    rw [← Option.some.inj hsame, isLive_close] at hlive
    exact Bool.false_ne_true hlive

/-- Every answer is a proper one. -/
theorem answers (server : Server) (now : Instant) (chance : Chance) (point : Point α) :
    Answers duties point server (server.answer now chance (point.call duties)).1
      (server.answer now chance (point.call duties)).2 := by
  cases point with
  | idle | starting | atConnectGate | atFailureGate | asleep | crashed => exact .of_same rfl
  | connecting begun =>
    cases hrefusal : chance.refusal with
    | some error =>
      have hanswer : server.answer now chance (.connect : Call α) =
          (server, some (.error error)) := by simp only [answer, hrefusal]
      simp only [Point.call, hanswer]
      exact .of_same rfl
    | none =>
      have hanswer : server.answer now chance (.connect : Call α) =
          (server.connect.1, some (.ok server.connect.2)) := by simp only [answer, hrefusal]
      simp only [Point.call, hanswer]
      exact answers_connect
  | polling session cycle stage =>
    cases stage with
    | replanning =>
      simp only [Point.call, Point.pollCall, answer]
      split
      · exact .of_confined confined_deallocate rfl rfl
      · exact .of_same rfl
    | beginning | probing | bounding | claiming | abandoning =>
      exact .of_confined confined_exchange rfl rfl
  | working session job stage =>
    cases stage with
    | delivering => exact .of_same rfl
    | saving | deduplicating | releasing | committingSuccess | undoing | puttingOff
      | committingPutOff | puttingBack | committingPutBack | committingClaim | beginningArchive
      | archiving | committingArchive => exact .of_confined confined_exchange rfl rfl
  | rollingBack session fault => exact .of_confined confined_exchange rfl rfl
  | closing session last => exact answers_close _

end Server

/-! ## Sound worlds -/

/-- After one element of a list is replaced, an element is the new one or one that was there. -/
theorem getElem?_set_cases {β : Type} {elements : List β} {number : Nat} {old : β}
    (hold : elements[number]? = some old) (new : β) (j : Nat) (element : β)
    (h : (elements.set number new)[j]? = some element) :
    j = number ∧ element = new ∨ j ≠ number ∧ elements[j]? = some element := by
  by_cases hj : j = number
  · subst hj
    rw [List.getElem?_set_self (List.getElem?_eq_some_iff.1 hold).1] at h
    exact .inl ⟨rfl, (Option.some.inj h).symm⟩
  · rw [List.getElem?_set_ne (Ne.symm hj)] at h
    exact .inr ⟨hj, h⟩

theorem Call.ready_cases {call : Call α} {due : Bool} {answer? : Option call.Answer}
    {answer : call.Answer} (h : call.ready due answer? = some answer) :
    answer? = some answer ∨ answer? = none ∧ call = .pause := by
  cases call with
  | pause =>
    cases answer? with
    | none => exact .inr ⟨rfl, rfl⟩
    | some => exact .inl rfl
  | connect | execute | deallocate | deliver | close => exact .inl h

theorem Call.attempt_none {call : Call α} (h : call = .pause) (attempt : Attempt) :
    call.attempt none attempt = attempt := by
  subst h
  rfl

namespace Member

variable {member : Member duties} {bounds : Bounds} {point : Point α}

theorem heldSession?_none (point : Point α) : point.heldSession? duties none = point.session? := by
  cases point <;> rfl

theorem session?_of_idle (h : member.worker.point = .idle) : member.session? = none := by
  obtain ⟨⟨name, bounds, countdown, point⟩, answer?, servedAt, attempt⟩ := member
  subst h
  rfl

/-- Wherever a member may be next, it holds the session that it holds now. -/
theorem Prospect.session? (h : member.Prospect bounds point) : point.session? = member.session? := by
  obtain ⟨worker, answer?, servedAt, attempt⟩ := member
  cases answer? with
  | none =>
    rw [h.2]
    exact (heldSession?_none _).symm
  | some answer => exact Point.Leads.session? h

theorem prospect_of_idle (h : member.worker.point = .idle) :
    member.Prospect member.worker.bounds .idle := by
  obtain ⟨⟨name, bounds, countdown, point⟩, answer?, servedAt, attempt⟩ := member
  subst h
  cases answer? <;> exact ⟨rfl, rfl⟩

/-- A member that goes on has been answered, or it has paused. -/
theorem ready_cases {shared : Shared} {moment : Moment}
    {answer : (member.worker.call duties).Answer} (h : member.ready shared moment = some answer) :
    member.answer? = some answer ∨
      member.answer? = none ∧ member.worker.call duties = .pause :=
  Call.ready_cases h

/-- Where a member that goes on comes to was in prospect, unless it has paused. -/
theorem prospect_of_ready {shared : Shared} {moment : Moment}
    {answer : (member.worker.call duties).Answer} (h : member.ready shared moment = some answer) :
    (∀ bounds point, member.worker.point.Leads duties member.worker.bounds answer bounds point →
      member.Prospect bounds point) ∨
    member.Prospect member.worker.bounds member.worker.point ∧
      member.worker.call duties = .pause := by
  unfold Prospect
  rcases ready_cases h with hanswered | ⟨hnone, hpause⟩
  · rw [hanswered]
    exact .inl fun _ _ hleads ↦ hleads
  · rw [hnone]
    exact .inr ⟨⟨rfl, rfl⟩, hpause⟩

theorem heldSession?_of_pause {point : Point α} (h : point.call duties = .pause)
    (answer? : Option (point.call duties).Answer) :
    point.heldSession? duties answer? = point.session? := by
  cases point with
  | connecting | closing => cases h
  | idle | starting | atConnectGate | atFailureGate | asleep | polling | working | rollingBack
    | crashed => rfl

end Member

structure World.Sound (world : World duties) : Prop where
  server : world.server.Sound
  known : ∀ member ∈ world.members, ∀ session, member.session? = some session →
    session < world.server.connections.length
  apart : ∀ (i j : Nat) (member other : Member duties) (session : Nat), world.members[i]? = some member →
    world.members[j]? = some other → member.session? = some session →
      other.session? = some session → i = j
  held : ∀ session, world.server.isLive session = true →
    ∃ member ∈ world.members, member.session? = some session
  fits : ∀ member ∈ world.members, ∀ bounds point, member.Prospect bounds point →
    point.Fits duties world.server member.attempt
  idle : ∀ number ∈ world.crew.idle, ∀ member, world.members[number]? = some member →
    member.worker.point = .idle

namespace World.Sound

variable {world : World duties}

theorem initial (duties : Duties α) (workers : Nat) (shared : Shared) (now : Instant) :
    (World.initial duties workers shared now).Sound where
  server := ⟨Store.sound_empty, fun _ h ↦ absurd h List.not_mem_nil, fun _ _ ↦ rfl⟩
  known member hmember session hsession := by
    obtain ⟨number, -, rfl⟩ := List.mem_map.1 hmember
    cases hsession
  apart i j member other session hmember _ hsession _ := by
    obtain ⟨number, -, rfl⟩ := List.mem_map.1 (List.mem_of_getElem? hmember)
    cases hsession
  held session hlive := absurd hlive Bool.false_ne_true
  fits member hmember bounds point hprospect := by
    obtain ⟨number, -, rfl⟩ := List.mem_map.1 hmember
    rw [hprospect.2]
    exact fun _ ↦ trivial
  idle number _ member hmember := by
    obtain ⟨number, -, rfl⟩ := List.mem_map.1 (List.mem_of_getElem? hmember)
    rfl

/-- The server changes in a way that spares every session. -/
theorem withServer (h : world.Sound) {server : Server} (hserver : server.Sound)
    (hsize : server.connections.length = world.server.connections.length)
    (hspares : ∀ session, world.server.Spares session server) : (world.withServer server).Sound where
  server := hserver
  known member hmember session hsession := hsize ▸ h.known member hmember session hsession
  apart := h.apart
  held session hlive := h.held session (hspares session hlive).1
  fits member hmember bounds point hprospect :=
    (h.fits member hmember bounds point hprospect).spared fun session _ ↦ hspares session
  idle := h.idle

/-- A live session that a member does not hold is held by another one, whatever replaces the
member. -/
theorem exists_holder (h : world.Sound) {number session : Nat} {member : Member duties}
    (hmember : world.members[number]? = some member) (member' : Member duties)
    (hlive : world.server.isLive session = true) (hnot : member.session? ≠ some session) :
    ∃ other ∈ world.members.set number member', other.session? = some session := by
  obtain ⟨other, hother, hheld⟩ := h.held session hlive
  obtain ⟨j, hj⟩ := List.getElem?_of_mem hother
  have hne : j ≠ number := by
    rintro rfl
    rw [hmember] at hj
    exact hnot (Option.some.inj hj ▸ hheld)
  have hkept : (world.members.set number member')[j]? = some other :=
    (List.getElem?_set_ne (Ne.symm hne)).trans hj
  exact ⟨other, List.mem_of_getElem? hkept, hheld⟩

/-- One member changes together with the server. -/
theorem replace (h : world.Sound) {number : Nat} {member member' : Member duties} {server : Server}
    (shared : Shared) (hmember : world.members[number]? = some member) (hserver : server.Sound)
    (hsize : world.server.connections.length ≤ server.connections.length)
    (hsession : ∀ session, member'.session? = some session →
      member.session? = some session ∨
        world.server.connections.length ≤ session ∧ session < server.connections.length)
    (hlive : ∀ session, server.isLive session = true → member'.session? = some session ∨
      world.server.isLive session = true ∧ member.session? ≠ some session)
    (hspares : ∀ session < world.server.connections.length, member.session? ≠ some session →
      world.server.Spares session server)
    (hfits : ∀ bounds point, member'.Prospect bounds point →
      point.Fits duties server member'.attempt)
    (hidle : member.worker.point = .idle → member'.worker.point = .idle) :
    { world with server, shared, members := world.members.set number member' }.Sound := by
  have hbefore (j : Nat) (other : Member duties) := getElem?_set_cases hmember member' j other
  have hstranger {j : Nat} {other : Member duties} {session : Nat} (hj : j ≠ number)
      (hother : world.members[j]? = some other) (hheld : other.session? = some session) :
      session < world.server.connections.length ∧ member.session? ≠ some session :=
    ⟨h.known other (List.mem_of_getElem? hother) session hheld,
      fun hmine ↦ hj (h.apart j number other member session hother hmember hheld hmine)⟩
  have hmine {j : Nat} {other : Member duties} {session : Nat} (hj : j ≠ number)
      (hother : world.members[j]? = some other) (hheld : other.session? = some session) :
      member'.session? ≠ some session := by
    intro hsame
    obtain ⟨hknown, hnot⟩ := hstranger hj hother hheld
    rcases hsession session hsame with hold | ⟨hnew, -⟩
    · exact hnot hold
    · omega
  refine ⟨hserver, fun other hother session hheld ↦ ?_,
    fun i j one other session hone hother hheld hheld' ↦ ?_, fun session hsessionlive ↦ ?_,
    fun other hother bounds point hprospect ↦ ?_, fun j hj other hother ↦ ?_⟩
  · obtain ⟨j, hj⟩ := List.getElem?_of_mem hother
    rcases hbefore _ _ hj with ⟨-, rfl⟩ | ⟨-, hold⟩
    · rcases hsession session hheld with hmine | ⟨-, hlt⟩
      · exact Nat.lt_of_lt_of_le
          (h.known member (List.mem_of_getElem? hmember) session hmine) hsize
      · exact hlt
    · exact Nat.lt_of_lt_of_le (h.known other (List.mem_of_getElem? hold) session hheld) hsize
  · rcases hbefore _ _ hone with ⟨rfl, rfl⟩ | ⟨hi, hold⟩ <;>
      rcases hbefore _ _ hother with ⟨rfl, rfl⟩ | ⟨hj, hold'⟩
    · rfl
    · exact absurd hheld (hmine hj hold' hheld')
    · exact absurd hheld' (hmine hi hold hheld)
    · exact h.apart i j one other session hold hold' hheld hheld'
  · rcases hlive session hsessionlive with hmine | ⟨hold, hnot⟩
    · exact ⟨member', List.mem_of_getElem? (List.getElem?_set_self
        (List.getElem?_eq_some_iff.1 hmember).1), hmine⟩
    · exact h.exists_holder hmember member' hold hnot
  · obtain ⟨j, hj⟩ := List.getElem?_of_mem hother
    rcases hbefore _ _ hj with ⟨-, rfl⟩ | ⟨hne, hold⟩
    · exact hfits bounds point hprospect
    · refine (h.fits other (List.mem_of_getElem? hold) bounds point hprospect).spared
        fun session hheld ↦ ?_
      obtain ⟨hknown, hnot⟩ := hstranger hne hold (hprospect.session? ▸ hheld)
      exact hspares session hknown hnot
  · rcases hbefore _ _ hother with ⟨rfl, rfl⟩ | ⟨-, hold⟩
    · exact hidle (h.idle j hj member hmember)
    · exact h.idle j hj other hold

end World.Sound

/-! ## Moves -/

namespace World

variable {world world' : World duties} {number : Nat}

/-- An answer keeps a world sound. -/
theorem Sound.answer (h : world.Sound) {worker : Worker α} {servedAt : Instant} {attempt : Attempt}
    (hmember : world.members[number]? = some ⟨worker, none, servedAt, attempt⟩) (chance : Chance) :
    (world.answer number chance).Sound := by
  rw [answer_eq hmember]
  have hanswers := @Server.answers α duties world.server world.now chance worker.point
  have hfits := h.fits _ (List.mem_of_getElem? hmember) _ _ ⟨rfl, rfl⟩
  have hheld : worker.point.heldSession? duties none = worker.point.session? :=
    Member.heldSession?_none worker.point
  refine h.replace _ hmember (hanswers.sound h.server) hanswers.size ?_ ?_ ?_ ?_ id
  · intro session hsession
    exact (hanswers.held session hsession).imp_left hheld.trans
  · intro session hlive
    exact (hanswers.live h.server session hlive).imp_right fun ⟨hold, hnot⟩ ↦
      ⟨hold, fun hmine ↦ hnot (hheld.symm.trans hmine)⟩
  · intro session hknown hnot
    exact hanswers.spares h.server session hknown fun hmine ↦ hnot (hheld.trans hmine)
  · intro bounds point hprospect
    generalize hanswer : world.server.answer world.now chance (worker.call duties) = result
      at hprospect ⊢
    obtain ⟨server', _ | reply⟩ := result
    · obtain ⟨hpause, rfl⟩ := Server.pause_of_answer_none hanswer
      obtain ⟨-, rfl⟩ := hprospect
      rw [Call.attempt_none hpause]
      exact hfits
    · exact hfits.answered h.server hanswer hprospect

/-- A worker that goes on keeps a world sound. -/
theorem Sound.resume (h : world.Sound) {member : Member duties}
    {answer : (member.worker.call duties).Answer} (hmember : world.members[number]? = some member)
    (hready : member.ready world.shared world.moment = some answer) :
    (world.resume number).Sound := by
  rw [resume_eq hmember hready]
  have hleads := member.worker.resume_leads duties world.moment world.shared answer
  dsimp only
  generalize member.worker.resume duties world.moment world.shared answer = turn at hleads ⊢
  have hfits := h.fits member (List.mem_of_getElem? hmember)
  obtain ⟨hsession, hfits⟩ : turn.worker.point.session? = member.session? ∧
      turn.worker.point.Fits duties world.server member.attempt := by
    rcases Member.prospect_of_ready hready with hprospect | ⟨hprospect, hpause⟩
    · exact ⟨(hprospect _ _ hleads).session?, hfits _ _ (hprospect _ _ hleads)⟩
    · refine ⟨hleads.session?.trans ?_, (hfits _ _ hprospect).paused hpause hleads⟩
      exact (Member.heldSession?_of_pause hpause _).trans hprospect.session?
  have hspares := Server.spares_bury world.server turn.worker.point
  refine h.replace _ hmember (h.server.bury _) (Nat.le_of_eq (Server.length_bury _ _).symm)
    (fun session hheld ↦ .inl ?_) (fun session hlive ↦ ?_) (fun session _ _ ↦ hspares session)
    ?_ hleads.idle
  · rw [← hsession]
    exact (Member.heldSession?_none _).symm.trans hheld
  · by_cases hmine : member.session? = some session
    · exact .inl ((Member.heldSession?_none _).trans (hsession.trans hmine))
    · exact .inr ⟨(hspares session hlive).1, hmine⟩
  · rintro bounds point ⟨-, rfl⟩
    exact hfits.spared fun session _ ↦ hspares session

/-- The handler of a member writes. -/
theorem Sound.write (h : world.Sound) {worker : Worker α} {session : Nat} {job : Job α}
    {servedAt : Instant} {attempt : Attempt} (hpoint : worker.point = .working session job .delivering)
    (hmember : world.members[number]? = some ⟨worker, none, servedAt, attempt⟩)
    (mishap : Option Mishap) (text : String) :
    (world.withServer (world.server.exchange session world.now mishap (.note text)).1).Sound := by
  have hself : world.members.set number ⟨worker, none, servedAt, attempt⟩ = world.members := by
    obtain ⟨hlt, hget⟩ := List.getElem?_eq_some_iff.1 hmember
    rw [← hget, List.set_getElem_self]
  have hheld : (⟨worker, none, servedAt, attempt⟩ : Member duties).session? = some session := by
    refine (Member.heldSession?_none worker.point).trans ?_
    rw [hpoint]
    rfl
  have hconfined := @Server.confined_exchange world.server session world.now mishap (.note text)
  have hfits := h.fits _ (List.mem_of_getElem? hmember) _ _ ⟨rfl, rfl⟩
  have hreplaced := h.replace world.shared hmember (hconfined.sound h.server)
    (Nat.le_of_eq hconfined.size.symm) (fun _ hother ↦ .inl hother)
    (fun other hlive ↦ ?_) (fun other _ hother ↦ ?_) (fun bounds point hprospect ↦ ?_) id
  · rw [hself] at hreplaced
    exact hreplaced
  · by_cases hmine : other = session
    · exact .inl (hmine ▸ hheld)
    · refine .inr ⟨hconfined.isLive_of_isLive h.server hlive, fun hsame ↦ hmine ?_⟩
      exact Option.some.inj (hsame.symm.trans hheld)
  · refine hconfined.spares h.server other fun hsame ↦ hother ?_
    rw [hheld, hsame]
  · rw [hprospect.2]
    rw [hpoint] at hfits ⊢
    exact hfits.noted

/-- The members whose tasks a start begins are not running. -/
theorem Sound.idle_of_start (h : world.Sound) {tasks : List Nat}
    (htasks : (world.crew.start world.taskStatus duties.settings.queueNames).2.2 = .ok tasks)
    {member : Member duties} (hnumber : number ∈ tasks)
    (hmember : world.members[number]? = some member) : member.worker.point = .idle := by
  obtain ⟨-, hfinished, htasks, -⟩ := Crew.start_of_ok htasks
  rw [htasks, List.mem_append, List.mem_filter] at hnumber
  rcases hnumber with hidle | ⟨htask, hcrash⟩
  · exact h.idle number hidle member hmember
  · have hunfinished := hfinished number htask
    rw [taskStatus_of_getElem? hmember] at hcrash hunfinished
    exact point_of_taskStatus hunfinished (by simpa using hcrash)

/-- A start keeps a world sound. -/
theorem Sound.start (h : world.Sound) {tasks : List Nat}
    (htasks : (world.crew.start world.taskStatus duties.settings.queueNames).2.2 = .ok tasks) :
    world.start.Sound := by
  rw [start_eq htasks]
  have hbefore (j : Nat) (member' : Member duties)
      (hmember' : (tasks.foldl spawn world).members[j]? = some member') :
      (∃ member : Member duties, member' = member.spawn) ∨ world.members[j]? = some member' := by
    rw [getElem?_foldl_spawn, Option.map_eq_some_iff] at hmember'
    obtain ⟨member, hmember, heq⟩ := hmember'
    by_cases hj : j ∈ tasks
    · exact .inl ⟨member, by rw [← heq, if_pos hj]⟩
    · rw [if_neg hj] at heq
      exact .inr (heq ▸ hmember)
  have hholder (j : Nat) (member' : Member duties) (session : Nat)
      (hmember' : (tasks.foldl spawn world).members[j]? = some member')
      (hheld : member'.session? = some session) : world.members[j]? = some member' := by
    rcases hbefore j member' hmember' with ⟨member, rfl⟩ | hold
    · cases hheld
    · exact hold
  refine ⟨h.server, fun member' hmember' session hheld ↦ ?_,
    fun i j member' other' session hmember' hother' hheld hheld' ↦ ?_, fun session hlive ↦ ?_,
    fun member' hmember' bounds point hprospect ↦ ?_, fun j hj ↦ absurd hj List.not_mem_nil⟩
  · obtain ⟨j, hj⟩ := List.getElem?_of_mem hmember'
    exact h.known member' (List.mem_of_getElem? (hholder j member' session hj hheld)) session hheld
  · exact h.apart i j member' other' session (hholder i member' session hmember' hheld)
      (hholder j other' session hother' hheld') hheld hheld'
  · obtain ⟨member, hmember, hheld⟩ := h.held session hlive
    obtain ⟨j, hj⟩ := List.getElem?_of_mem hmember
    have hrunning : j ∉ tasks := by
      intro htask
      rw [Member.session?_of_idle (h.idle_of_start htasks htask hj)] at hheld
      cases hheld
    have hkept : (tasks.foldl spawn world).members[j]? = some member := by
      rw [getElem?_foldl_spawn, hj, Option.map_some, if_neg hrunning]
    exact ⟨member, List.mem_of_getElem? hkept, hheld⟩
  · obtain ⟨j, hj⟩ := List.getElem?_of_mem hmember'
    rcases hbefore j member' hj with ⟨member, rfl⟩ | hold
    · rw [hprospect.2]
      exact fun _ ↦ trivial
    · exact h.fits member' (List.mem_of_getElem? hold) bounds point hprospect

/-- Workers whose tasks are over may be idle ones. -/
theorem Sound.reclaim (h : world.Sound) {tasks : List Nat} (hover : world.areOver tasks) :
    ({ world with
      crew := { world.crew with
        idle := world.crew.idle ++ tasks.filter fun task ↦ !(world.taskStatus task).isCrash }
      awaited := none } : World duties).Sound := by
  refine ⟨h.server, h.known, h.apart, h.held, h.fits, fun number hnumber member hmember ↦ ?_⟩
  rcases List.mem_append.1 hnumber with hidle | htask
  · exact h.idle number hidle member hmember
  · obtain ⟨htask, hcrash⟩ := List.mem_filter.1 htask
    have hunfinished : world.taskStatus number ≠ .unfinished := by
      simpa using List.all_eq_true.1 hover number htask
    have hstatus : world.taskStatus number = member.worker.taskStatus :=
      taskStatus_of_getElem? hmember
    rw [hstatus] at hcrash hunfinished
    exact point_of_taskStatus hunfinished (by simpa using hcrash)

/-- Every move keeps a world sound. -/
theorem Sound.of_steps (h : world.Sound) {move : Move} (hsteps : Steps world move world') :
    world'.Sound := by
  have hcrew {crew : Crew} {now : Instant} {awaited : Option (Instant × List Nat)}
      (hidle : crew.idle = world.crew.idle) : { world with crew, now, awaited }.Sound :=
    ⟨h.server, h.known, h.apart, h.held, h.fits, fun number hnumber ↦
      h.idle number (hidle ▸ hnumber)⟩
  cases hsteps with
  | refused | unanswered | waiting => exact h
  | passed | stopped | awaited | forgotten | released => exact hcrew rfl
  | produced row visibleFrom =>
    exact h.withServer (h.server.produce row visibleFrom) rfl fun session ↦
      world.server.spares_produce session row visibleFrom
  | @dropped session =>
    have hconfined := @Server.confined_disconnect world.server session .dropped (by decide)
    exact h.withServer (hconfined.sound h.server) hconfined.size fun other ↦
      Server.spares_disconnect (by decide) other
  | answered chance hmember =>
    rw [← answer_eq hmember]
    exact h.answer hmember chance
  | wrote text mishap hpoint hmember => exact h.write hpoint hmember mishap text
  | resumed hmember hready hturn =>
    subst hturn
    rw [← resume_eq hmember hready]
    exact h.resume hmember hready
  | started _ htasks =>
    rw [← start_eq htasks]
    exact h.start htasks
  | reclaimed _ hover => exact h.reclaim hover

theorem Sound.step (h : world.Sound) (move : Move) : (world.step move).Sound :=
  h.of_steps (world.steps move)

/-- A world is sound throughout a run. -/
theorem Sound.of_run {workers : Nat} {shared : Shared} {now : Instant}
    {allowed : World duties → Move → Prop} {past : Past duties}
    (run : Run allowed (World.initial duties workers shared now) past world) : world.Sound :=
  run.preserves (.initial duties workers shared now) fun _ move h _ ↦ h.step move

end World

end TableQueue
