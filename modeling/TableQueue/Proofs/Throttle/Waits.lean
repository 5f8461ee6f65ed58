import TableQueue.Proofs.Throttle.Callers
import TableQueue.Proofs.Ticks

/-!
# Callers wait neither too short nor too long

A caller passes only where no rule delays it. In the other direction, a sleeper either has missed a
success, and then it is woken, or its timer fires no later than the first tick at which the throttle
imposes no delay. Falling asleep brings this about, because the success count is noted before the
rules are read; a failure keeps it up, because it never shortens a delay. Where failures are
registered on ticks, the throttle becomes free on a tick, so that the timer fires just then. Elsewhere
a sleeper oversleeps, by less than a tick.
-/

namespace TableQueue.Throttle

/-! ## A delay ends where the throttle is free -/

/-- A rule that does not delay at some instant delays until then at most. -/
theorem Memory.delay_le_since {memory : Memory} {moment : Instant}
    (h : memory.delay moment = Span.zero) (now : Instant) :
    memory.delay now ≤ moment.since now := by
  unfold Memory.delay at h ⊢
  split
  · next unblockedAt hslot =>
    rw [hslot] at h
    have hle : unblockedAt ≤ moment := (Instant.since_eq_zero_iff _ _).1 h
    rw [Instant.le_iff] at hle
    simp only [Span.le_iff, Instant.since]
    omega
  · exact Nat.zero_le _

/-- A delay is over where the throttle is free. -/
theorem after_currentDelay_le {throttle : Throttle} {now moment : Instant}
    (hfree : throttle.currentDelay moment = Span.zero)
    (hnow : throttle.currentDelay now ≠ Span.zero) :
    now.after (throttle.currentDelay now) ≤ moment := by
  have hle : throttle.currentDelay now ≤ moment.since now := by
    rw [currentDelay_le_iff]
    exact fun memory hmemory ↦
      Memory.delay_le_since ((currentDelay_eq_zero_iff _ _).1 hfree memory hmemory) now
  rw [Ne, eq_zero_iff_le_zero] at hnow
  simp only [Span.le_iff, Span.zero, Instant.since, Instant.le_iff, Instant.after] at hle hnow ⊢
  omega

/-! ## A failure shortens no delay -/

namespace Rule

variable {rule : Rule} {reports : List Report} {now : Instant}

theorem windowDelay_nonneg (rule : Rule) (reports : List Report) (now : Instant) :
    0 ≤ rule.windowDelay reports now := by
  unfold windowDelay
  split
  · exact Int.le_max_left 0 _
  · exact Int.le_refl 0

/-- With a new failure, a rule looks back to a failure that is not earlier than before. -/
theorem windowDelay_le_of_failure
    (hordered : reports.Pairwise fun earlier later ↦ earlier.moment ≤ later.moment)
    (hpast : ∀ report ∈ reports, report.moment ≤ now) (moment : Instant) :
    rule.windowDelay reports moment ≤ rule.windowDelay (reports ++ [⟨false, now⟩]) moment := by
  cases hold : (rule.counted reports)[rule.maxEvents - 1]? with
  | none =>
    rw [windowDelay_of_none hold]
    exact windowDelay_nonneg _ _ _
  | some failed =>
    have hsorted : (now :: rule.counted reports).Pairwise fun later earlier ↦ earlier ≤ later :=
      List.pairwise_cons.2 ⟨fun _ h ↦ le_of_mem_counted hpast h, pairwise_counted hordered⟩
    obtain ⟨hlt, hget⟩ := List.getElem?_eq_some_iff.1 hold
    have hlt' : rule.maxEvents - 1 < (now :: rule.counted reports).length := by
      rw [List.length_cons]
      omega
    have hle : failed ≤ (now :: rule.counted reports)[rule.maxEvents - 1] := by
      have hpair := List.pairwise_iff_getElem.1 hsorted (rule.maxEvents - 1) (rule.maxEvents - 1 + 1)
        hlt' (by rw [List.length_cons]; omega) (Nat.lt_succ_self _)
      rwa [List.getElem_cons_succ, hget] at hpair
    rw [Instant.le_iff] at hle
    rw [windowDelay, windowDelay, hold, counted_failure, List.getElem?_eq_getElem hlt']
    dsimp only
    omega

end Rule

namespace Crowd

variable {rules : List Rule} {crowd : Crowd}

/-- A failure shortens no delay. -/
theorem Sound.currentDelay_le_of_failure (h : crowd.Sound rules) (moment : Instant) :
    crowd.throttle.currentDelay moment ≤
      (crowd.throttle.register false crowd.now).currentDelay moment := by
  rw [currentDelay_le_iff, h.remembers, List.forall_mem_map]
  intro rule hrule
  have hmem : Memory.ofReports rule (crowd.reports ++ [⟨false, crowd.now⟩]) ∈
      (crowd.throttle.register false crowd.now).rules := by
    rw [rules_register, h.remembers, Memory.ofReports_append_singleton]
    exact List.mem_map_of_mem (List.mem_map_of_mem hrule)
  have hwindow : rule.windowDelay crowd.reports moment ≤
      rule.windowDelay (crowd.reports ++ [⟨false, crowd.now⟩]) moment :=
    Rule.windowDelay_le_of_failure h.ordered h.past moment
  rw [← Memory.nanos_delay_ofReports, ← Memory.nanos_delay_ofReports, Int.ofNat_le] at hwindow
  exact Nat.le_trans hwindow (delay_le_currentDelay hmem moment)

end Crowd

/-- The timer of a sleeper fires once the throttle is free. -/
def Sleeper.Minds (throttle : Throttle) (sleeper : Sleeper) : Prop :=
  ∀ moment, throttle.currentDelay moment = Span.zero → sleeper.wakesAt ≤ moment.nextTick

/-- A caller knows of no success that has not happened; when it sleeps, then a success will wake it
or its timer minds the rules. -/
def Caller.Alert (throttle : Throttle) (pending : Nat) : Caller → Prop
  | looking seen => seen ≤ throttle.successes
  | asleep sleeper =>
    sleeper.seen ≤ throttle.successes ∧
      (sleeper.seen < throttle.successes + pending ∨ sleeper.Minds throttle)
  | away | admitted => True

theorem minds_of_consult {throttle : Throttle} {now : Instant} {sleeper : Sleeper}
    (h : throttle.consult now = some sleeper) : sleeper.Minds throttle := by
  unfold consult at h
  dsimp only at h
  split at h
  · cases h
  · next hblocked =>
    obtain rfl := Option.some.inj h
    exact fun moment hfree ↦
      Instant.nextTick_le_nextTick (after_currentDelay_le hfree hblocked)

namespace Caller

variable {throttle throttle' : Throttle} {pending pending' : Nat} {caller : Caller}

theorem Alert.turn (h : caller.Alert throttle pending) (now : Instant) (turn : Turn) :
    (caller.turn throttle now turn).Alert throttle pending := by
  unfold Caller.turn
  split
  · exact Nat.le_refl _
  · split
    · trivial
    · next hconsult =>
      exact ⟨h, .inr fun moment hfree ↦ minds_of_consult hconsult moment hfree⟩
  · split
    · exact Nat.le_refl _
    · exact h
  · trivial
  · exact h

/-- Alertness survives a change that shortens no delay. -/
theorem Alert.mono (h : caller.Alert throttle pending)
    (hsuccesses : throttle.successes ≤ throttle'.successes)
    (hpending : throttle.successes + pending ≤ throttle'.successes + pending')
    (hlonger : ∀ moment, throttle'.currentDelay moment = Span.zero →
      throttle.currentDelay moment = Span.zero) :
    caller.Alert throttle' pending' := by
  cases caller with
  | looking seen => exact Nat.le_trans h hsuccesses
  | asleep sleeper =>
    refine ⟨Nat.le_trans h.1 hsuccesses, ?_⟩
    cases h.2 with
    | inl hmissed => exact .inl (Nat.lt_of_lt_of_le hmissed hpending)
    | inr hminds => exact .inr fun moment hfree ↦ hminds moment (hlonger moment hfree)
  | away | admitted => trivial

/-- A success that has cleared the rules will wake every sleeper. -/
theorem Alert.clear (h : caller.Alert throttle pending) :
    caller.Alert throttle.clear (pending + 1) := by
  cases caller with
  | looking seen => exact h
  | asleep sleeper => exact ⟨h.1, .inl (Nat.lt_succ_of_le (Nat.le_trans h.1 (Nat.le_add_right ..)))⟩
  | away | admitted => trivial

end Caller

namespace Crowd

variable {rules : List Rule} {crowd next : Crowd}

/-- No caller that waits has missed anything. -/
def Alert (crowd : Crowd) : Prop :=
  ∀ caller ∈ crowd.callers, caller.Alert crowd.throttle crowd.pending

theorem Alert.hear (h : crowd.Alert) (hsound : crowd.Sound rules) (success : Bool) :
    (crowd.hear success).Alert := by
  intro caller hcaller
  cases success with
  | true => exact (h caller hcaller).clear
  | false =>
    refine (h caller hcaller).mono (Nat.le_refl _) (Nat.le_refl _) fun moment hfree ↦ ?_
    have hle := hsound.currentDelay_le_of_failure moment
    rw [eq_zero_iff_le_zero] at hfree ⊢
    exact Nat.le_trans hle hfree

/-- Every move leaves the callers alert. -/
theorem Alert.of_steps {move : Move} (h : crowd.Alert) (hsound : crowd.Sound rules)
    (hsteps : Steps crowd move next) : next.Alert := by
  cases hsteps with
  | pass span => exact h
  | turn i turn =>
    intro caller hcaller
    obtain ⟨j, hj⟩ := List.mem_iff_getElem?.1 hcaller
    rw [List.getElem?_modify] at hj
    obtain ⟨old, hold, rfl⟩ := Option.map_eq_some_iff.1 hj
    have halert := h old (List.mem_of_getElem? hold)
    split
    · exact halert.turn crowd.now turn
    · exact halert
  | report success hadmitted =>
    intro caller hcaller
    cases List.mem_or_eq_of_mem_set hcaller with
    | inl hold => exact h.hear hsound success caller hold
    | inr haway =>
      rw [haway]
      trivial
  | intrude success => exact h.hear hsound success
  | announce hpending =>
    intro caller hcaller
    refine (h caller hcaller).mono (Nat.le_succ _) ?_ fun _ hfree ↦ hfree
    dsimp only [announce]
    omega
  | still => exact h

/-- Until some instant nothing that is under way goes on: no success is being announced and no
caller that waits can take a step. -/
def Rests (crowd : Crowd) (limit : Instant) : Prop :=
  crowd.pending = 0 ∧ ∀ caller ∈ crowd.callers, ∀ moment, crowd.now ≤ moment → moment < limit →
    caller.goesOn crowd.throttle moment = false

theorem Sound.resets (h : crowd.Sound rules)
    (hresets : ∀ memory ∈ crowd.throttle.rules, memory.rule.resetsOnSuccess) :
    ∀ rule ∈ rules, rule.resetsOnSuccess := by
  rw [h.remembers, List.forall_mem_map] at hresets
  intro rule hrule
  rw [← Memory.rule_ofReports rule crowd.reports]
  exact hresets rule hrule

/-- A caller is admitted only when the rules let it pass. -/
theorem Steps.consult_eq_none {move : Move} (h : Steps crowd move next) {i : Nat}
    (hbefore : crowd.callers[i]? ≠ some .admitted) (hafter : next.callers[i]? = some .admitted) :
    crowd.throttle.consult crowd.now = none := by
  cases h with
  | turn j turn =>
    rw [List.getElem?_modify] at hafter
    obtain ⟨caller, hcaller, hturn⟩ := Option.map_eq_some_iff.1 hafter
    have hne : caller ≠ .admitted := fun h ↦ hbefore (hcaller.trans (congrArg some h))
    split at hturn
    · exact Caller.consult_of_turn_eq_admitted hturn hne
    · exact absurd hturn hne
  | report success hadmitted =>
    rw [List.getElem?_set] at hafter
    split at hafter
    · split at hafter <;> cases hafter
    · exact absurd hafter hbefore
  | pass | intrude | announce | still => exact absurd hafter hbefore

end Crowd

end TableQueue.Throttle
