import TableQueue.Proofs.Throttle.Callers

/-!
# The rate of failures

Where only callers that have passed report, and each reports once, a rule that admits `N` failures in
a window bounds what a window can hold: `k` callers bring about at most `N + k - 1` failures. Once `N`
failures in the window count, nobody passes before its end, and each of the callers that have passed
by then, of which the one that reported the `N`th failure is none, adds one failure at most.
-/

namespace TableQueue.Throttle

namespace Rule

variable {rule : Rule} {opening : Instant} {reports : List Report}

/-- Whether an instant lies in the window of a rule that opens at another. -/
def spans (rule : Rule) (opening moment : Instant) : Bool :=
  decide (opening ≤ moment) && decide (moment < opening.after (Span.ofMillis rule.windowMillis))

/-- Whether a report is a failure in the window that opens at an instant. -/
def failsWithin (rule : Rule) (opening : Instant) (report : Report) : Bool :=
  !report.success && rule.spans opening report.moment

def countedSince (rule : Rule) (opening : Instant) (reports : List Report) : Nat :=
  (rule.counted reports).countP fun failed ↦ decide (opening ≤ failed)

/-- How many of the failures that count lie in the window that opens at an instant. -/
def countedWithin (rule : Rule) (opening : Instant) (reports : List Report) : Nat :=
  (rule.counted reports).countP (rule.spans opening)

theorem countedWithin_le_countedSince (rule : Rule) (opening : Instant) (reports : List Report) :
    rule.countedWithin opening reports ≤ rule.countedSince opening reports := by
  refine List.countP_mono_left fun failed _ hspans ↦ ?_
  exact (Bool.and_eq_true _ _ ▸ hspans).1

theorem countP_counted_failure (p : Instant → Bool) (now : Instant) :
    (rule.counted (reports ++ [⟨false, now⟩])).countP p =
      (rule.counted reports).countP p + if p now then 1 else 0 := by
  rw [counted_failure, List.countP_cons]

theorem countP_counted_success_le (p : Instant → Bool) (now : Instant) :
    (rule.counted (reports ++ [⟨true, now⟩])).countP p ≤ (rule.counted reports).countP p := by
  rw [counted_success]
  split
  · exact Nat.zero_le _
  · exact Nat.le_refl _

/-- Of instants from the latest to the earliest, those that are not before some instant come first. -/
theorem getElem?_of_lt_countP {failures : List Instant}
    (hsorted : failures.Pairwise fun later earlier ↦ earlier ≤ later) {age : Nat}
    (h : age < failures.countP fun failed ↦ decide (opening ≤ failed)) :
    ∃ failed, failures[age]? = some failed ∧ opening ≤ failed := by
  induction failures generalizing age with
  | nil => exact absurd h (Nat.not_lt_zero _)
  | cons latest rest ih =>
    obtain ⟨hlatest, hrest⟩ := List.pairwise_cons.1 hsorted
    by_cases hopening : opening ≤ latest
    · cases age with
      | zero => exact ⟨latest, rfl, hopening⟩
      | succ age =>
        rw [List.countP_cons_of_pos (by simpa using hopening)] at h
        exact ih hrest (Nat.lt_of_succ_lt_succ h)
    · have hnone : rest.countP (fun failed ↦ decide (opening ≤ failed)) = 0 := by
        rw [List.countP_eq_zero]
        intro failed hfailed
        rw [decide_eq_true_eq]
        exact fun hle ↦ hopening (Int.le_trans hle (hlatest failed hfailed))
      rw [List.countP_cons_of_neg (by simpa using hopening), hnone] at h
      exact absurd h (Nat.not_lt_zero _)

/-- A rule that does not block before the end of a window has room for a failure in it. -/
theorem countedSince_lt_of_windowDelay {now : Instant} (hpos : 0 < rule.maxEvents)
    (hordered : reports.Pairwise fun earlier later ↦ earlier.moment ≤ later.moment)
    (hend : now < opening.after (Span.ofMillis rule.windowMillis))
    (hfree : rule.windowDelay reports now = 0) :
    rule.countedSince opening reports < rule.maxEvents := by
  by_contra hfull
  have hage : rule.maxEvents - 1 < rule.countedSince opening reports := by omega
  obtain ⟨failed, hfailed, hopening⟩ := getElem?_of_lt_countP (pairwise_counted hordered) hage
  have hle := after_le_of_windowDelay hfree hfailed
  simp only [Instant.le_iff, Instant.lt_iff, Instant.after] at hopening hle hend
  omega

/-- The failures in a window all count, as long as no success that clears them comes after. -/
theorem countP_failsWithin_le
    (h : rule.resetsOnSuccess → ∀ first later, [first, later].Sublist reports →
      rule.failsWithin opening first → later.success = false) :
    reports.countP (rule.failsWithin opening) ≤ rule.countedWithin opening reports := by
  induction reports using List.reverseRecOn with
  | nil => exact Nat.zero_le _
  | append_singleton reports report ih =>
    have hreports := ih fun hresets first later hsublist ↦
      h hresets first later (hsublist.trans (List.sublist_append_left _ _))
    obtain ⟨success, moment⟩ := report
    rw [List.countP_append, List.countP_singleton, countedWithin]
    cases success with
    | false =>
      rw [countP_counted_failure]
      exact Nat.add_le_add hreports (Nat.le_refl _)
    | true =>
      have hsuccess : rule.failsWithin opening ⟨true, moment⟩ = false := rfl
      rw [counted_success, hsuccess, if_neg Bool.false_ne_true, Nat.add_zero]
      split
      · next hresets =>
        have hnone : reports.countP (rule.failsWithin opening) = 0 := by
          refine List.countP_eq_zero.2 fun first hfirst hfails ↦ ?_
          have hsublist : [first, Report.mk true moment].Sublist (reports ++ [⟨true, moment⟩]) :=
            (List.singleton_sublist.2 hfirst).append (List.Sublist.refl [Report.mk true moment])
          exact nomatch h hresets first ⟨true, moment⟩ hsublist hfails
        rw [hnone]
        exact Nat.zero_le _
      · exact hreports

/-- The failures in a window have all been reported with the last of them. -/
theorem exists_last_failsWithin (rule : Rule) (opening : Instant) (reports : List Report) :
    reports.countP (rule.failsWithin opening) = 0 ∨
      ∃ earlier last, earlier ++ [last] <+: reports ∧ rule.failsWithin opening last ∧
        reports.countP (rule.failsWithin opening) =
          (earlier ++ [last]).countP (rule.failsWithin opening) := by
  induction reports using List.reverseRecOn with
  | nil => exact .inl rfl
  | append_singleton reports report ih =>
    by_cases hfails : rule.failsWithin opening report
    · exact .inr ⟨reports, report, List.prefix_rfl, hfails, rfl⟩
    · have hcount : (reports ++ [report]).countP (rule.failsWithin opening) =
          reports.countP (rule.failsWithin opening) := by
        rw [List.countP_append, List.countP_singleton, if_neg hfails, Nat.add_zero]
      rw [hcount]
      refine ih.imp_right ?_
      rintro ⟨earlier, last, hprefix, hlast, heq⟩
      exact ⟨earlier, last, hprefix.trans (List.prefix_append _ _), hlast, heq⟩

end Rule

namespace Crowd

variable {rules : List Rule} {rule : Rule} {crowd next : Crowd} {opening : Instant}

def admitted (crowd : Crowd) : Nat :=
  crowd.callers.countP fun caller ↦ caller == .admitted

theorem admitted_le (crowd : Crowd) : crowd.admitted ≤ crowd.callers.length :=
  List.countP_le_length

/-- Who reports is no longer among those that have passed. -/
theorem countP_set_away {callers : List Caller} {i : Nat} (h : callers[i]? = some .admitted) :
    (callers.set i .away).countP (fun caller ↦ caller == .admitted) + 1 =
      callers.countP fun caller ↦ caller == .admitted := by
  obtain ⟨hlt, hget⟩ := List.getElem?_eq_some_iff.1 h
  have hpos : 0 < callers.countP fun caller ↦ caller == .admitted :=
    List.countP_pos_iff.2 ⟨_, List.mem_of_getElem? h, rfl⟩
  rw [List.countP_set hlt, hget]
  simp only [beq_self_eq_true, if_true, reduceCtorEq, beq_iff_eq, if_false]
  omega

theorem countP_modify_le {β : Type} {p : β → Bool} {f : β → β} (h : ∀ entry, p (f entry) → p entry)
    (entries : List β) (i : Nat) : (entries.modify i f).countP p ≤ entries.countP p := by
  induction entries generalizing i with
  | nil => rw [List.modify_nil]
  | cons entry rest ih =>
    cases i with
    | zero =>
      rw [List.modify_zero_cons, List.countP_cons, List.countP_cons]
      have hentry := h entry
      split <;> simp_all
    | succ i =>
      rw [List.modify_succ_cons, List.countP_cons, List.countP_cons]
      exact Nat.add_le_add_right (ih i) _

/-- Where some rule delays, nobody passes. -/
theorem admitted_turn_le {throttle : Throttle} {now : Instant}
    (hblocked : throttle.consult now ≠ none) (callers : List Caller) (i : Nat) (turn : Turn) :
    (callers.modify i (Caller.turn throttle now turn)).countP (fun caller ↦ caller == .admitted) ≤
      callers.countP fun caller ↦ caller == .admitted := by
  refine countP_modify_le (fun caller hturn ↦ ?_) callers i
  by_contra hcaller
  exact hblocked (Caller.consult_of_turn_eq_admitted (beq_iff_eq.1 hturn) fun heq ↦
    hcaller (beq_iff_eq.2 heq))

/-- Before the end of a window, once as many failures in it count as the rule admits, the callers that
have passed are too few to exceed the bound. After every report, the failures that counted keep to
it. -/
structure Capped (rule : Rule) (opening : Instant) (crowd : Crowd) : Prop where
  ahead : crowd.now < opening.after (Span.ofMillis rule.windowMillis) →
    rule.maxEvents ≤ rule.countedSince opening crowd.reports →
    rule.countedSince opening crowd.reports + crowd.admitted <
      rule.maxEvents + crowd.callers.length
  past : ∀ reports, reports <+: crowd.reports →
    rule.countedWithin opening reports < rule.maxEvents + crowd.callers.length

/-- While a caller has passed, there is room for one more failure. -/
theorem Capped.room (h : crowd.Capped rule opening)
    (hend : crowd.now < opening.after (Span.ofMillis rule.windowMillis))
    (hadmitted : 0 < crowd.admitted) :
    rule.countedSince opening crowd.reports + 1 < rule.maxEvents + crowd.callers.length := by
  have hle := crowd.admitted_le
  by_cases hfull : rule.maxEvents ≤ rule.countedSince opening crowd.reports
  · have hahead := h.ahead hend hfull
    omega
  · omega

/-- A report of a caller that has passed keeps the cap. -/
theorem Capped.report (h : crowd.Capped rule opening) {i : Nat}
    (hcaller : crowd.callers[i]? = some .admitted) (success : Bool) :
    Capped rule opening { crowd.hear success with callers := crowd.callers.set i .away } := by
  have hadmitted := countP_set_away hcaller
  have hle := crowd.admitted_le
  refine ⟨fun hend hfull ↦ ?_, fun reports hprefix ↦ ?_⟩
  · dsimp only [admitted, reports_hear, now_hear] at hend hfull hle ⊢
    rw [List.length_set]
    cases success with
    | false =>
      rw [Rule.countedSince, Rule.countP_counted_failure, ← Rule.countedSince] at hfull ⊢
      have hone : (if decide (opening ≤ crowd.now) = true then 1 else 0) ≤ 1 := by
        split <;> omega
      by_cases hbefore : rule.maxEvents ≤ rule.countedSince opening crowd.reports
      · have hahead := h.ahead hend hbefore
        unfold admitted at hahead
        omega
      · omega
    | true =>
      have hsuccess : rule.countedSince opening (crowd.reports ++ [⟨true, crowd.now⟩]) ≤
          rule.countedSince opening crowd.reports := Rule.countP_counted_success_le _ _
      have hahead := h.ahead hend (Nat.le_trans hfull hsuccess)
      unfold admitted at hahead
      omega
  · dsimp only [reports_hear] at hprefix ⊢
    rw [List.length_set]
    obtain rfl | hearlier := List.prefix_concat_iff.1 hprefix
    · have hpast := h.past crowd.reports List.prefix_rfl
      cases success with
      | false =>
        rw [Rule.countedWithin, Rule.countP_counted_failure, ← Rule.countedWithin]
        split
        · next hspans =>
          have hend : crowd.now < opening.after (Span.ofMillis rule.windowMillis) :=
            of_decide_eq_true (Bool.and_eq_true _ _ ▸ hspans).2
          have hroom := h.room hend (List.countP_pos_iff.2 ⟨_, List.mem_of_getElem? hcaller, rfl⟩)
          have hwithin := rule.countedWithin_le_countedSince opening crowd.reports
          omega
        · exact hpast
      | true => exact Nat.lt_of_le_of_lt (Rule.countP_counted_success_le _ _) hpast
    · exact h.past reports hearlier

/-- Every move of the callers themselves keeps the cap. -/
theorem Capped.of_steps {move : Move} (h : crowd.Capped rule opening) (hsound : crowd.Sound rules)
    (hrule : rule ∈ rules) (hpos : 0 < rule.maxEvents) (hown : move.isOwn)
    (hsteps : Steps crowd move next) : next.Capped rule opening := by
  cases hsteps with
  | pass span =>
    refine ⟨fun hend hfull ↦ h.ahead ?_ hfull, h.past⟩
    simp only [Instant.lt_iff, Instant.after] at hend ⊢
    omega
  | turn i turn =>
    refine ⟨fun hend hfull ↦ ?_, ?_⟩
    · have hblocked : crowd.throttle.consult crowd.now ≠ none := by
        intro hconsult
        have hfree := (hsound.delay_eq_zero_iff _).1 ((consult_eq_none _ _).1 hconsult) rule hrule
        exact Nat.not_lt.2 hfull
          (Rule.countedSince_lt_of_windowDelay hpos hsound.ordered hend hfree)
      have hle := admitted_turn_le hblocked crowd.callers i turn
      have hahead := h.ahead hend hfull
      dsimp only [admitted] at hahead ⊢
      rw [List.length_modify]
      omega
    · dsimp only
      rw [List.length_modify]
      exact h.past
  | report success hcaller => exact h.report hcaller success
  | intrude => exact nomatch hown
  | announce => exact ⟨h.ahead, h.past⟩
  | still => exact h

/-- The cap is kept throughout a run. -/
theorem Capped.run (h : crowd.Capped rule opening) (hsound : crowd.Sound rules)
    (hrule : rule ∈ rules) (hpos : 0 < rule.maxEvents) {moves : List Move}
    (hown : ∀ move ∈ moves, move.isOwn) : (crowd.run moves).Capped rule opening := by
  induction moves using List.reverseRecOn with
  | nil => exact h
  | append_singleton moves move ih =>
    rw [run_append_singleton]
    obtain ⟨hmoves, hmove⟩ := List.forall_mem_append.1 hown
    exact (ih hmoves).of_steps (hsound.run moves) hrule hpos (hmove move List.mem_cons_self)
      (steps _ move)

theorem capped_gather (hpos : 0 < rule.maxEvents) (throttle : Throttle) (now : Instant)
    (size : Nat) : (gather throttle now size).Capped rule opening := by
  refine ⟨fun _ hfull ↦ ?_, fun reports hprefix ↦ ?_⟩
  · dsimp only [gather] at hfull
    rw [Rule.countedSince, Rule.counted_nil] at hfull
    exact absurd hfull (Nat.not_le.2 hpos)
  · rw [List.prefix_nil.1 hprefix, Rule.countedWithin, Rule.counted_nil, List.countP_nil]
    omega

/-- Under the cap there are fewer failures in a window than the rule admits and callers together. -/
theorem Capped.countP_le (h : crowd.Capped rule opening)
    (hunbroken : rule.resetsOnSuccess → ∀ first report last,
      [first, report, last].Sublist crowd.reports → rule.failsWithin opening first →
      rule.failsWithin opening last → report.success = false) :
    crowd.reports.countP (rule.failsWithin opening) < rule.maxEvents + crowd.callers.length := by
  obtain hnone | ⟨earlier, last, hprefix, hlast, hcount⟩ :=
    rule.exists_last_failsWithin opening crowd.reports
  · rw [hnone]
    exact Nat.zero_lt_of_lt (h.past [] List.nil_prefix)
  · rw [hcount]
    refine Nat.lt_of_le_of_lt (Rule.countP_failsWithin_le ?_) (h.past _ hprefix)
    intro hresets first later hsublist hfirst
    cases hsuccess : later.success with
    | false => rfl
    | true =>
      have hlater : later ≠ last := by
        rintro rfl
        simp [Rule.failsWithin, hsuccess] at hlast
      have hearlier : [first, later].Sublist earlier := by
        rw [← List.reverse_sublist] at hsublist ⊢
        rw [List.reverse_append] at hsublist
        exact hsublist.of_cons_of_ne hlater
      have htriple : [first, later, last].Sublist crowd.reports :=
        (hearlier.append (List.Sublist.refl [last])).trans hprefix.sublist
      exact hsuccess.symm.trans (hunbroken hresets first later last htriple hfirst hlast)

/-- A throttle limits the rate of failures: where `k` callers pass, attempt something for any time and
report once what came of it, in any interleaving, then a window of a rule `N/W` holds at most
`N + k - 1` failures. For a rule that resets this is said of the windows without a success between
their first failure and their last. -/
theorem failures_within_le {spec : String} {throttle : Throttle} (h : ofSpec spec = .ok throttle)
    (start : Instant) (size : Nat) {moves : List Move} (hown : ∀ move ∈ moves, move.isOwn)
    {rule : Rule} (hrule : rule ∈ throttle.rules.map Memory.rule) (opening : Instant)
    (hunbroken : rule.resetsOnSuccess → ∀ first report last,
      [first, report, last].Sublist ((gather throttle start size).run moves).reports →
      rule.failsWithin opening first → rule.failsWithin opening last → report.success = false) :
    ((gather throttle start size).run moves).reports.countP (rule.failsWithin opening) ≤
      rule.maxEvents + size - 1 := by
  obtain ⟨rules, hparse, hsound⟩ := sound_gather h start size
  have hmem : rule ∈ rules := by
    have hrules : throttle.rules = rules.map fun rule ↦ Memory.ofReports rule [] := hsound.remembers
    rw [hrules, List.map_map] at hrule
    obtain ⟨rule', hrule', rfl⟩ := List.mem_map.1 hrule
    exact hrule'
  have hpos := Rule.maxEvents_pos_of_parseSet hparse hmem
  have hcapped : ((gather throttle start size).run moves).Capped rule opening :=
    (capped_gather hpos throttle start size).run hsound hmem hpos hown
  have hlt := hcapped.countP_le hunbroken
  rw [length_callers_run] at hlt
  have hsize : (gather throttle start size).callers.length = size := List.length_replicate
  omega

/-- Two callers pass a rule that admits two failures. The first fails, passes again and fails; then
nobody passes, but the second is still at its attempt and brings about a third failure in the window,
just before it ends. -/
theorem failures_within_le_of_two :
    ∃ throttle, ofSpec "2/s!" = .ok throttle ∧
      let crowd := (gather throttle ⟨0⟩ 2).run [.turn 0 .call, .turn 1 .call, .turn 0 .look,
        .turn 1 .look, .report 0 false, .turn 0 .call, .turn 0 .look, .report 0 false,
        .pass ⟨999999999⟩, .turn 0 .call, .turn 0 .look, .report 1 false]
      crowd.reports.countP (Rule.failsWithin ⟨2, 1000, false⟩ ⟨0⟩) = 3 ∧
        crowd.reports.countP (Rule.failsWithin ⟨2, 1000, false⟩ ⟨0⟩) ≤ 2 + 2 - 1 := by
  obtain ⟨throttle, hthrottle⟩ : ∃ throttle, ofSpec "2/s!" = .ok throttle := ⟨_, rfl⟩
  obtain rfl : ⟨"2/s!", [Memory.ofRule ⟨2, 1000, false⟩], 0⟩ = throttle := Except.ok.inj hthrottle
  exact ⟨_, hthrottle, by decide, failures_within_le hthrottle ⟨0⟩ 2 (by decide)
    (List.mem_singleton.2 rfl) ⟨0⟩ nofun⟩

end Crowd

end TableQueue.Throttle
