import Mathlib.Data.List.TakeWhile
import TableQueue.Proofs.Throttle.Windows

/-!
# Callers of a throttle

Any number of callers use one throttle. A caller that asks to pass first notes how many successes
have woken callers so far, and only then reads the rules; it passes, or sleeps until its timer fires
or a later success wakes it, and begins again. Between any two of these steps time may pass, other
callers may act and outcomes may be registered. A success clears the rules first and wakes the
callers later. The reports are kept as a list that no step reads.
-/

namespace TableQueue.Throttle

/-! ## The delay as the longest of several -/

theorem foldl_max_le_iff (spans : List Span) (start span : Span) :
    spans.foldl Span.max start ≤ span ↔ start ≤ span ∧ ∀ other ∈ spans, other ≤ span := by
  induction spans generalizing start with
  | nil => simp
  | cons first rest ih =>
    have hmax : start.max first ≤ span ↔ start ≤ span ∧ first ≤ span := by
      simp only [Span.max, Span.le_iff]
      split <;> omega
    rw [List.foldl_cons, ih, hmax, List.forall_mem_cons, and_assoc]

/-- The current delay is the longest of the delays of the rules. -/
theorem currentDelay_le_iff (throttle : Throttle) (now : Instant) (span : Span) :
    throttle.currentDelay now ≤ span ↔ ∀ memory ∈ throttle.rules, memory.delay now ≤ span := by
  unfold currentDelay
  rw [foldl_max_le_iff, List.forall_mem_map]
  exact and_iff_right (Nat.zero_le _)

theorem delay_le_currentDelay {throttle : Throttle} {memory : Memory}
    (h : memory ∈ throttle.rules) (now : Instant) :
    memory.delay now ≤ throttle.currentDelay now :=
  (throttle.currentDelay_le_iff now _).1 (Nat.le_refl _) memory h

theorem eq_zero_iff_le_zero (span : Span) : span = Span.zero ↔ span ≤ Span.zero := by
  cases span
  simp [Span.zero]

/-- A caller passes exactly if no rule makes it wait. -/
theorem currentDelay_eq_zero_iff (throttle : Throttle) (now : Instant) :
    throttle.currentDelay now = Span.zero ↔
      ∀ memory ∈ throttle.rules, memory.delay now = Span.zero := by
  simp only [eq_zero_iff_le_zero, currentDelay_le_iff]

theorem consult_eq_none (throttle : Throttle) (now : Instant) :
    throttle.consult now = none ↔ throttle.currentDelay now = Span.zero := by
  unfold consult
  simp

/-! ## Callers -/

/-- The first half of registering a success: the rules that reset forget their failures. -/
def clear (throttle : Throttle) : Throttle :=
  { throttle with rules := throttle.rules.map Memory.registerSuccess }

/-- The second half of registering a success: whoever waits is woken. -/
def announce (throttle : Throttle) : Throttle :=
  { throttle with successes := throttle.successes + 1 }

/-- A success is registered by clearing the rules and then waking whoever waits. -/
theorem announce_clear (throttle : Throttle) (now : Instant) :
    throttle.clear.announce = throttle.register true now := rfl

/-- Where a caller stands. -/
inductive Caller where
  | away
  /-- It noted the count of successes and has not yet read the rules. -/
  | looking (seen : Nat)
  | asleep (sleeper : Sleeper)
  /-- It has passed and has not yet reported the outcome of its attempt. -/
  | admitted
deriving DecidableEq, Repr

inductive Turn where
  | call
  | look
  | rouse
  | leave
deriving DecidableEq, Repr

namespace Caller

/-- A caller takes a step, if it stands where the step can be taken. -/
def turn (throttle : Throttle) (now : Instant) : Turn → Caller → Caller
  | .call, away => looking throttle.successes
  | .look, looking seen =>
    match throttle.consult now with
    | none => admitted
    | some sleeper => asleep { sleeper with seen := seen }
  | .rouse, asleep sleeper =>
    if throttle.rouses sleeper now then looking throttle.successes else asleep sleeper
  | .leave, _ => away
  | _, caller => caller

def waits : Caller → Bool
  | looking _ | asleep _ => true
  | away | admitted => false

def goesOn (throttle : Throttle) (now : Instant) : Caller → Bool
  | looking _ => true
  | asleep sleeper => throttle.rouses sleeper now
  | away | admitted => false

/-- A caller that asks and reads the rules at once consults the throttle. -/
theorem turn_look_call (throttle : Throttle) (now : Instant) :
    turn throttle now .look (turn throttle now .call away) =
      match throttle.consult now with
      | none => admitted
      | some sleeper => asleep sleeper := by
  simp only [turn, consult]
  by_cases hfree : throttle.currentDelay now = Span.zero
  · rw [if_pos hfree]
  · rw [if_neg hfree]

/-- A caller passes in its own turn only if the rules let it. -/
theorem consult_of_turn_eq_admitted {throttle : Throttle} {now : Instant} {turn : Turn}
    {caller : Caller} (h : caller.turn throttle now turn = admitted) (hne : caller ≠ admitted) :
    throttle.consult now = none := by
  unfold Caller.turn at h
  split at h
  · cases h
  · split at h
    · assumption
    · cases h
  · split at h <;> cases h
  · cases h
  · exact absurd h hne

end Caller

/-- Callers, their throttle and the time. -/
structure Crowd where
  now : Instant
  throttle : Throttle
  callers : List Caller
  /-- How many successes have cleared the rules and have not yet woken the callers. -/
  pending : Nat
  /-- What was reported so far, the earliest first. -/
  reports : List Report
deriving Repr

namespace Crowd

inductive Move where
  | pass (span : Span)
  | turn (caller : Nat) (turn : Turn)
  /-- A caller that has passed reports the outcome of its attempt. -/
  | report (caller : Nat) (success : Bool)
  /-- Someone reports an outcome without having passed. -/
  | intrude (success : Bool)
  /-- A success that has cleared the rules wakes the callers. -/
  | announce
deriving DecidableEq, Repr

/-- Whether a move keeps to the rule that only who has passed reports, and once. -/
def Move.isOwn : Move → Bool
  | .intrude _ => false
  | _ => true

def gather (throttle : Throttle) (now : Instant) (size : Nat) : Crowd :=
  ⟨now, throttle, List.replicate size .away, 0, []⟩

/-- An outcome is registered; a success has yet to wake the callers. -/
def hear (crowd : Crowd) (success : Bool) : Crowd :=
  { crowd with
    throttle := if success then crowd.throttle.clear
      else crowd.throttle.register false crowd.now
    pending := if success then crowd.pending + 1 else crowd.pending
    reports := crowd.reports ++ [⟨success, crowd.now⟩] }

/-- One move; it changes nothing where it is out of place. -/
def step (crowd : Crowd) : Move → Crowd
  | .pass span => { crowd with now := crowd.now.after span }
  | .turn i turn =>
    { crowd with callers := crowd.callers.modify i (Caller.turn crowd.throttle crowd.now turn) }
  | .report i success =>
    if crowd.callers[i]? = some .admitted then
      { crowd.hear success with callers := crowd.callers.set i .away }
    else crowd
  | .intrude success => crowd.hear success
  | .announce =>
    if crowd.pending = 0 then crowd
    else { crowd with throttle := crowd.throttle.announce, pending := crowd.pending - 1 }

def run (crowd : Crowd) (moves : List Move) : Crowd :=
  moves.foldl step crowd

theorem run_append (crowd : Crowd) (moves moves' : List Move) :
    crowd.run (moves ++ moves') = (crowd.run moves).run moves' :=
  List.foldl_append

theorem run_append_singleton (crowd : Crowd) (moves : List Move) (move : Move) :
    crowd.run (moves ++ [move]) = (crowd.run moves).step move :=
  crowd.run_append moves [move]

@[simp] theorem now_hear (crowd : Crowd) (success : Bool) :
    (crowd.hear success).now = crowd.now := rfl

@[simp] theorem callers_hear (crowd : Crowd) (success : Bool) :
    (crowd.hear success).callers = crowd.callers := rfl

@[simp] theorem reports_hear (crowd : Crowd) (success : Bool) :
    (crowd.hear success).reports = crowd.reports ++ [⟨success, crowd.now⟩] := rfl

theorem rules_hear (crowd : Crowd) (success : Bool) :
    (crowd.hear success).throttle.rules =
      crowd.throttle.rules.map fun memory ↦ memory.register ⟨success, crowd.now⟩ := by
  cases success <;> rfl

/-- What a move can do. -/
inductive Steps (crowd : Crowd) : Move → Crowd → Prop where
  | pass (span : Span) : Steps crowd (.pass span) { crowd with now := crowd.now.after span }
  | turn (i : Nat) (turn : Turn) :
      Steps crowd (.turn i turn)
        { crowd with callers := crowd.callers.modify i (Caller.turn crowd.throttle crowd.now turn) }
  | report {i : Nat} (success : Bool) (h : crowd.callers[i]? = some .admitted) :
      Steps crowd (.report i success)
        { crowd.hear success with callers := crowd.callers.set i .away }
  | intrude (success : Bool) : Steps crowd (.intrude success) (crowd.hear success)
  | announce (h : crowd.pending ≠ 0) :
      Steps crowd .announce
        { crowd with throttle := crowd.throttle.announce, pending := crowd.pending - 1 }
  | still (move : Move) : Steps crowd move crowd

/-- A move does one of the listed things. -/
theorem steps (crowd : Crowd) (move : Move) : Steps crowd move (crowd.step move) := by
  cases move with
  | pass span => exact .pass span
  | turn i turn => exact .turn i turn
  | report i success =>
    by_cases h : crowd.callers[i]? = some .admitted
    · simp only [step, h, if_true]
      exact .report success h
    · simp only [step, h, if_false]
      exact .still _
  | intrude success => exact .intrude success
  | announce =>
    by_cases h : crowd.pending = 0
    · simp only [step, h, if_true]
      exact .still _
    · simp only [step, h, if_false]
      exact .announce h

theorem Steps.length_callers {crowd next : Crowd} {move : Move} (h : Steps crowd move next) :
    next.callers.length = crowd.callers.length := by
  cases h with
  | turn i turn => exact List.length_modify _ _ _
  | report success h => exact List.length_set
  | pass | intrude | announce | still => rfl

theorem length_callers_run (crowd : Crowd) (moves : List Move) :
    (crowd.run moves).callers.length = crowd.callers.length := by
  induction moves using List.reverseRecOn with
  | nil => rfl
  | append_singleton moves move ih =>
    rw [run_append_singleton, (steps _ move).length_callers, ih]

/-! ## What the throttle remembers -/

/-- The throttle has the given rules and remembers the reports, which came one after the other. -/
structure Sound (rules : List Rule) (crowd : Crowd) : Prop where
  remembers : crowd.throttle.rules = rules.map fun rule ↦ Memory.ofReports rule crowd.reports
  ordered : crowd.reports.Pairwise fun earlier later ↦ earlier.moment ≤ later.moment
  past : ∀ report ∈ crowd.reports, report.moment ≤ crowd.now

variable {rules : List Rule} {crowd : Crowd}

theorem Sound.hear (h : crowd.Sound rules) (success : Bool) : (crowd.hear success).Sound rules where
  remembers := by
    rw [rules_hear, h.remembers, List.map_map]
    exact List.map_congr_left fun rule _ ↦
      (Memory.ofReports_append_singleton rule crowd.reports ⟨success, crowd.now⟩).symm
  ordered := by
    rw [reports_hear, List.pairwise_append]
    refine ⟨h.ordered, List.pairwise_singleton _ _, ?_⟩
    intro earlier hearlier later hlater
    rw [List.mem_singleton.1 hlater]
    exact h.past earlier hearlier
  past := by
    rw [reports_hear]
    intro report hreport
    obtain hold | hnew := List.mem_append.1 hreport
    · exact h.past report hold
    · rw [List.mem_singleton.1 hnew]
      exact Int.le_refl _

/-- Every move leaves the throttle with what it has been told. -/
theorem Sound.of_steps {next : Crowd} {move : Move} (h : crowd.Sound rules)
    (hsteps : Steps crowd move next) : next.Sound rules := by
  cases hsteps with
  | pass span =>
    refine ⟨h.remembers, h.ordered, fun report hreport ↦ ?_⟩
    have hpast := h.past report hreport
    simp only [Instant.le_iff, Instant.after] at hpast ⊢
    omega
  | turn i turn => exact ⟨h.remembers, h.ordered, h.past⟩
  | report success =>
    have hheard := h.hear success
    exact ⟨hheard.remembers, hheard.ordered, hheard.past⟩
  | intrude success => exact h.hear success
  | announce => exact ⟨h.remembers, h.ordered, h.past⟩
  | still => exact h

/-- The throttle remembers the reports throughout a run. -/
theorem Sound.run (h : crowd.Sound rules) (moves : List Move) : (crowd.run moves).Sound rules := by
  induction moves using List.reverseRecOn with
  | nil => exact h
  | append_singleton moves move ih =>
    rw [run_append_singleton]
    exact ih.of_steps (steps _ move)

/-- A caller passes exactly if the reports block no rule. -/
theorem Sound.delay_eq_zero_iff (h : crowd.Sound rules) (moment : Instant) :
    crowd.throttle.currentDelay moment = Span.zero ↔
      ∀ rule ∈ rules, rule.windowDelay crowd.reports moment = 0 := by
  rw [currentDelay_eq_zero_iff, h.remembers, List.forall_mem_map]
  refine forall₂_congr fun rule _ ↦ ?_
  rw [← Memory.nanos_delay_ofReports, eq_zero_iff_le_zero, Span.le_iff]
  dsimp only [Span.zero]
  omega

/-- Of a throttle made from a text, the rules are those of the text. -/
theorem sound_gather {spec : String} {throttle : Throttle} (h : ofSpec spec = .ok throttle)
    (now : Instant) (size : Nat) :
    ∃ rules, Rule.parseSet spec.toList = .ok rules ∧ (gather throttle now size).Sound rules := by
  unfold ofSpec at h
  cases hparse : Rule.parseSet spec.toList with
  | error fault =>
    rw [hparse] at h
    cases h
  | ok rules =>
    rw [hparse] at h
    obtain rfl := Except.ok.inj h
    exact ⟨rules, rfl, rfl, List.Pairwise.nil, fun _ hreport ↦ absurd hreport List.not_mem_nil⟩

end Crowd

/-! ## The failures that count, in time -/

namespace Rule

variable {rule : Rule} {reports : List Report}

theorem exists_failure_of_mem_counted {failed : Instant} (h : failed ∈ rule.counted reports) :
    ∃ report ∈ reports, report.success = false ∧ report.moment = failed := by
  unfold counted at h
  obtain ⟨report, hreport, rfl⟩ := List.mem_map.1 h
  refine ⟨report, ?_⟩
  split at hreport
  · have hfailure := List.mem_takeWhile_imp hreport
    exact ⟨List.mem_reverse.1 (List.takeWhile_subset _ hreport), by simpa using hfailure, rfl⟩
  · obtain ⟨hmem, hfailure⟩ := List.mem_filter.1 hreport
    exact ⟨List.mem_reverse.1 hmem, by simpa using hfailure, rfl⟩

theorem counted_sublist (rule : Rule) (reports : List Report) :
    (rule.counted reports).Sublist (reports.reverse.map Report.moment) := by
  unfold counted
  split
  · exact (List.takeWhile_sublist _).map _
  · exact List.filter_sublist.map _

/-- The failures that count are remembered from the latest to the earliest. -/
theorem pairwise_counted
    (h : reports.Pairwise fun earlier later ↦ earlier.moment ≤ later.moment) :
    (rule.counted reports).Pairwise fun later earlier ↦ earlier ≤ later := by
  have hreverse : (reports.reverse.map Report.moment).Pairwise
      fun later earlier ↦ earlier ≤ later := by
    rw [List.pairwise_map, List.pairwise_reverse]
    exact h
  exact hreverse.sublist (rule.counted_sublist reports)

/-- A failure that counts is not in the future. -/
theorem le_of_mem_counted {now failed : Instant} (h : ∀ report ∈ reports, report.moment ≤ now)
    (hfailed : failed ∈ rule.counted reports) : failed ≤ now := by
  obtain ⟨report, hreport, -, rfl⟩ := exists_failure_of_mem_counted hfailed
  exact h report hreport

end Rule

end TableQueue.Throttle
