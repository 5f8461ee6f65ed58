import TableQueue.Proofs.World.Connects

/-!
# Connections that are of no use

A connection is of no use if the first search for a job on it fails. The worker gives it up, reports
a failure and connects again. A rule that remembers its failures, or that admits only one, then keeps
the attempts apart: no window of the rule's length sees more of them than the rule admits failures.
A rule that forgets its failures after a success and admits more than one never makes the worker wait,
because every new connection is a success and clears the failure before it.
-/

namespace TableQueue

variable {α : Type} {duties : Duties α}

/-! ## Attempts that are kept apart -/

namespace Throttle.Rule

/-- Whether a failure still counts after the next connection, as far as the rule looks back. -/
def remembers (rule : Rule) : Bool :=
  !rule.resetsOnSuccess || rule.maxEvents == 1

/-- Attempts to connect and the failures of the first searches, both in order. Each attempt comes
before its failure, and if the rule remembers, then an attempt comes a window after the failure that
lies as far back as the rule admits. -/
structure Paces (rule : Rule) (now : Instant) (times failures : List Instant) : Prop where
  ordered : times.Pairwise fun earlier later ↦ earlier ≤ later
  past : ∀ begun ∈ times, begun ≤ now
  failed : ∀ (i : Nat) (begun failed : Instant), times[i]? = some begun →
    failures[i]? = some failed → begun ≤ failed
  spaced : rule.remembers → ∀ (i : Nat) (next : Instant), times[i + rule.maxEvents]? = some next →
    ∃ failed, failures[i]? = some failed ∧
      failed.after (Span.ofMillis rule.windowMillis) ≤ next

variable {rule : Rule} {now : Instant} {times failures : List Instant}

/-- An entry of a list with one more at its end is the last one or was there before. -/
theorem getElem?_concat_cases {entries : List Instant} {last entry : Instant} {i : Nat}
    (h : (entries ++ [last])[i]? = some entry) :
    i < entries.length ∧ entries[i]? = some entry ∨ i = entries.length ∧ entry = last := by
  by_cases hi : i < entries.length
  · rw [List.getElem?_append_left hi] at h
    exact .inl ⟨hi, h⟩
  · rw [List.getElem?_append_right (by omega), List.getElem?_singleton] at h
    split at h
    · exact .inr ⟨by omega, (Option.some.inj h).symm⟩
    · cases h

theorem Paces.later (h : rule.Paces now times failures) {now' : Instant} (hnow : now ≤ now') :
    rule.Paces now' times failures :=
  ⟨h.ordered, fun begun hbegun ↦ Int.le_trans (h.past begun hbegun) hnow, h.failed, h.spaced⟩

/-- The search on the last connection has failed. -/
theorem Paces.fail (h : rule.Paces now times failures) :
    rule.Paces now times (failures ++ [now]) where
  ordered := h.ordered
  past := h.past
  failed i begun failed hbegun hfailed := by
    cases getElem?_concat_cases hfailed with
    | inl hold => exact h.failed i begun failed hbegun hold.2
    | inr hlast =>
      rw [hlast.2]
      exact h.past begun (List.mem_of_getElem? hbegun)
  spaced hremembers i next hnext := by
    obtain ⟨failed, hfailed, hle⟩ := h.spaced hremembers i next hnext
    have hi : i < failures.length := (List.getElem?_eq_some_iff.1 hfailed).1
    exact ⟨failed, by rw [List.getElem?_append_left hi]; exact hfailed, hle⟩

/-- A new attempt begins when the rule no longer blocks. -/
theorem Paces.begin (h : rule.Paces now times failures) (hpos : 0 < rule.maxEvents)
    (hlength : times.length = failures.length)
    (hfree : rule.remembers → ∀ failed, failures.reverse[rule.maxEvents - 1]? = some failed →
      failed.after (Span.ofMillis rule.windowMillis) ≤ now) :
    rule.Paces now (times ++ [now]) failures where
  ordered := List.pairwise_append.2 ⟨h.ordered, List.pairwise_singleton _ _,
    fun begun hbegun last hlast ↦ List.mem_singleton.1 hlast ▸ h.past begun hbegun⟩
  past begun hbegun := by
    cases List.mem_append.1 hbegun with
    | inl hold => exact h.past begun hold
    | inr hnew =>
      rw [List.mem_singleton.1 hnew]
      exact Int.le_refl _
  failed i begun failed hbegun hfailed := by
    have hi : i < times.length := hlength ▸ (List.getElem?_eq_some_iff.1 hfailed).1
    rw [List.getElem?_append_left hi] at hbegun
    exact h.failed i begun failed hbegun hfailed
  spaced hremembers i next hnext := by
    cases getElem?_concat_cases hnext with
    | inl hold => exact h.spaced hremembers i next hold.2
    | inr hlast =>
      obtain ⟨hlast, rfl⟩ := hlast
      have hi : i < failures.length := by omega
      have hback : failures.reverse[rule.maxEvents - 1]? = failures[i]? := by
        rw [List.getElem?_reverse (by omega)]
        congr 1
        omega
      refine ⟨failures[i], List.getElem?_eq_getElem hi, hfree hremembers _ ?_⟩
      rw [hback]
      exact List.getElem?_eq_getElem hi

/-- The failures that count for a rule after some searches have failed. A new connection clears
them, if the rule resets. -/
def standing (rule : Rule) (searching : Bool) (failures : List Instant) :
    List Instant :=
  if rule.resetsOnSuccess then
    if searching then [] else failures.getLast?.toList
  else failures.reverse

theorem standing_true (rule : Rule) (failures : List Instant) :
    (if rule.resetsOnSuccess then [] else rule.standing false failures) =
      rule.standing true failures := by
  unfold standing
  split <;> rfl

/-- A failed search counts, and with it what counted before if the rule does not reset. -/
theorem standing_append (rule : Rule) (failures : List Instant) (now : Instant) :
    now :: rule.standing true failures = rule.standing false (failures ++ [now]) := by
  unfold standing
  split <;> simp

/-- If failures are remembered, all that a rule looks back to are standing. -/
theorem getElem?_standing (h : rule.remembers) (failures : List Instant) :
    (rule.standing false failures)[rule.maxEvents - 1]? = failures.reverse[rule.maxEvents - 1]? := by
  unfold standing
  split
  · next hresets =>
    have hone : rule.maxEvents = 1 := by simpa [remembers, hresets] using h
    rw [hone, if_neg Bool.false_ne_true]
    calc failures.getLast?.toList[0]? = failures.getLast? := by
          cases failures.getLast? <;> rfl
      _ = failures.reverse[0]? := by rw [← List.head?_reverse, List.head?_eq_getElem?]
  · rfl

/-- A rule that does not remember never blocks after a failure. -/
theorem getElem?_standing_of_forgets (h : rule.remembers = false) (hpos : 0 < rule.maxEvents)
    (failures : List Instant) : (rule.standing false failures)[rule.maxEvents - 1]? = none := by
  have hforgets : rule.resetsOnSuccess = true ∧ rule.maxEvents ≠ 1 := by
    simpa [remembers] using h
  apply List.getElem?_eq_none
  have hlength : failures.getLast?.toList.length ≤ 1 := by
    cases failures.getLast? <;> simp
  rw [standing, if_pos hforgets.1, if_neg Bool.false_ne_true]
  omega

/-- Attempts of which each comes a window after the one that lies so many back are at most so many
in every window. -/
theorem length_window_le {times : List Instant} {count : Nat} {window : Span}
    (hordered : times.Pairwise fun earlier later ↦ earlier ≤ later)
    (hspaced : ∀ (i : Nat) (begun next : Instant), times[i]? = some begun →
      times[i + count]? = some next → begun.after window ≤ next) (start : Instant) :
    (times.filter fun begun ↦ start ≤ begun ∧ begun < start.after window).length ≤ count := by
  induction times with
  | nil => exact Nat.zero_le _
  | cons first rest ih =>
    rw [List.pairwise_cons] at hordered
    have hrest := ih hordered.2 fun i begun next hbegun hnext ↦
      hspaced (i + 1) begun next hbegun (by rw [Nat.add_right_comm]; exact hnext)
    by_cases hin : start ≤ first ∧ first < start.after window
    · -- What lies at least `count` places after the first attempt is outside its window.
      have hfar (i : Nat) (next : Instant) (hi : count ≤ i)
          (hnext : (first :: rest)[i]? = some next) : ¬ next < start.after window := by
        have hlt : i - count < (first :: rest).length := by
          have hi' := (List.getElem?_eq_some_iff.1 hnext).1
          omega
        have hbegun := List.getElem?_eq_getElem hlt
        have hfirst : first ≤ (first :: rest)[i - count] := by
          cases List.mem_cons.1 (List.getElem_mem hlt) with
          | inl heq =>
            rw [heq]
            exact Int.le_refl _
          | inr hmem => exact hordered.1 _ hmem
        have hafter := hspaced (i - count) _ next hbegun (by rw [Nat.sub_add_cancel hi]; exact hnext)
        intro hwithin
        simp only [Instant.le_iff, Instant.lt_iff, Instant.after] at hin hfirst hafter hwithin
        omega
      cases count with
      | zero => exact absurd hin.2 (hfar 0 first (Nat.zero_le _) rfl)
      | succ count =>
        have hnone : (rest.drop count).filter
            (fun begun ↦ start ≤ begun ∧ begun < start.after window) = [] := by
          rw [List.filter_eq_nil_iff]
          intro next hnext
          obtain ⟨i, hi⟩ := List.getElem?_of_mem hnext
          rw [List.getElem?_drop] at hi
          have hout := hfar (count + i + 1) next (by omega) hi
          simp [hout]
        calc ((first :: rest).filter
              fun begun ↦ start ≤ begun ∧ begun < start.after window).length
            = ((rest.take count ++ rest.drop count).filter
                fun begun ↦ start ≤ begun ∧ begun < start.after window).length + 1 := by
              rw [List.filter_cons_of_pos (by simpa using hin), List.length_cons,
                List.take_append_drop]
          _ = ((rest.take count).filter
                fun begun ↦ start ≤ begun ∧ begun < start.after window).length + 1 := by
              rw [List.filter_append, hnone, List.append_nil]
          _ ≤ (rest.take count).length + 1 := Nat.succ_le_succ (List.length_filter_le _ _)
          _ ≤ count + 1 := Nat.succ_le_succ (List.length_take_le _ _)
    · rw [List.filter_cons_of_neg (by simpa using hin)]
      exact hrest

/-- No window of a rule that remembers sees more attempts than the rule admits failures. -/
theorem Paces.length_window_le (h : rule.Paces now times failures) (hremembers : rule.remembers)
    (start : Instant) :
    (times.filter fun begun ↦ start ≤ begun ∧
      begun < start.after (Span.ofMillis rule.windowMillis)).length ≤ rule.maxEvents := by
  apply Rule.length_window_le h.ordered
  intro i begun next hbegun hnext
  obtain ⟨failed, hfailed, hle⟩ := h.spaced hremembers i next hnext
  have hbefore := h.failed i begun failed hbegun hfailed
  simp only [Instant.le_iff, Instant.after] at hle hbefore ⊢
  omega

end Throttle.Rule

/-! ## Searches that fail -/

namespace Point

/-- A first search for a job on a connection has not succeeded, or it has not begun yet: the worker
is about to connect, searches for the first time, or replaces the connection because the search has
failed. -/
def isFirstSearch : Point α → Bool
  | idle | starting | atConnectGate _ | connecting _ => true
  | atFailureGate _ waits _ => !waits
  | polling _ cycle _ => !cycle.waits
  | closing _ last => !last
  | asleep .. | working .. | rollingBack .. | crashed .. => false

def isSearching : Point α → Bool
  | atFailureGate .. | polling .. => true
  | _ => false

theorem isSearching_of_isEngaged {point : Point α} (hengaged : point.isEngaged)
    (hfirst : point.isFirstSearch) : point.isSearching := by
  cases point with
  | atFailureGate | polling => rfl
  | closing session last =>
    cases last with
    | true => cases hfirst
    | false => cases hengaged
  | idle | starting | atConnectGate | connecting => cases hengaged
  | asleep | working | rollingBack | crashed => cases hfirst

end Point

namespace World

variable {world : World duties} {rule : Throttle.Rule} {member : Member duties}
  {times failures : List Instant} {reports : List Throttle.Report}

/-- Connecting succeeds, and no first search on a connection does: after the move every worker is
about to connect, in a first search, or about to replace a connection on which it has failed. -/
def isFruitless (world : World duties) (move : Move) : Bool :=
  (match move with
    | .answer _ chance => chance.refusal.isNone
    | _ => true) &&
  (world.step move).members.all fun member ↦ member.worker.point.isFirstSearch

/-- The only worker of a crew, all of whose first searches have failed so far, with the times of its
attempts and of the failures. -/
structure Reconnects (rule : Throttle.Rule) (world : World duties) (member : Member duties)
    (times failures : List Instant) (reports : List Throttle.Report) : Prop where
  members : world.members = [member]
  first : member.worker.point.isFirstSearch
  admitted : member.isAdmitted? ≠ some false
  paired : times.length = failures.length +
    if member.worker.point.beginning?.isSome || member.worker.point.isSearching then 1 else 0
  counted : rule.counted reports =
    rule.standing member.worker.point.isSearching failures
  paces : rule.Paces world.now times failures
  passes : rule.remembers = false → ∀ sleeper, member.worker.point ≠ .atConnectGate sleeper

/-- The worker comes to the connect throttle, after as many failures as attempts. -/
theorem reconnects_of_gates {throttle : Throttle} (hpos : 0 < rule.maxEvents)
    (hrules : throttle.rules = [Throttle.Memory.ofRule rule])
    (hthrottle : world.shared.connectThrottle = throttle.registerAll reports)
    (hmembers : world.members = [member]) (hnone : member.answer? = none)
    (hpaired : times.length = failures.length)
    (hcounted : rule.counted reports = rule.standing false failures)
    (hpaces : rule.Paces world.now times failures)
    (hgates : member.worker.point.Gates world.moment world.shared.connectThrottle) :
    world.Reconnects rule member (times ++ member.worker.point.beginning?.toList) failures
      reports := by
  have hadmitted : member.isAdmitted? ≠ some false := by
    rw [Member.isAdmitted?_of_open hnone]
    nofun
  have hfree (h : world.shared.connectThrottle.consult world.now = none) :
      rule.windowDelay reports world.now = 0 := by
    rw [hthrottle] at h
    exact (Throttle.consult_eq_none_iff hrules reports world.now).1 h
  have hstays (hbegun : member.worker.point.beginning? = none)
      (hfirst : member.worker.point.isFirstSearch)
      (hsearching : member.worker.point.isSearching = false)
      (hpasses : rule.remembers = false → ∀ sleeper, member.worker.point ≠ .atConnectGate sleeper) :
      world.Reconnects rule member (times ++ member.worker.point.beginning?.toList) failures
        reports := by
    rw [hbegun, Option.toList_none, List.append_nil]
    refine ⟨hmembers, hfirst, hadmitted, ?_, by rw [hsearching]; exact hcounted, hpaces, hpasses⟩
    rw [hbegun, hsearching]
    exact hpaired
  obtain hidle | ⟨sleeper, hwaits, hgate⟩ | ⟨hpass, hconnecting⟩ := hgates.cases
  · rw [hidle] at hstays ⊢
    exact hstays rfl rfl rfl nofun
  · rw [hgate] at hstays ⊢
    refine hstays rfl rfl rfl fun hforgets ↦ ?_
    have hnone := Throttle.Rule.getElem?_standing_of_forgets hforgets hpos failures
    rw [← hcounted] at hnone
    have hpass : world.shared.connectThrottle.consult world.now = none := by
      rw [hthrottle]
      exact (Throttle.consult_eq_none_iff hrules reports world.now).2
        (Throttle.Rule.windowDelay_of_none hnone _)
    exact absurd (hwaits.symm.trans hpass) nofun
  · have hbegins : member.worker.point.beginning?.toList = [world.now] := by
      rw [hconnecting]
      rfl
    rw [hbegins]
    refine ⟨hmembers, ?_, hadmitted, ?_, ?_, ?_, ?_⟩
    · rw [hconnecting]
      rfl
    · rw [hconnecting, List.length_append, hpaired]
      rfl
    · rw [hconnecting]
      exact hcounted
    · refine hpaces.begin hpos hpaired fun hremembers failed hfailed ↦ ?_
      rw [← Throttle.Rule.getElem?_standing hremembers, ← hcounted] at hfailed
      exact Throttle.Rule.after_le_of_windowDelay (hfree hpass) hfailed
    · rw [hconnecting]
      nofun

/-- The worker searches on its connection. -/
theorem reconnects_of_isEngaged (hmembers : world.members = [member])
    (hnone : member.answer? = none) (hfirst : member.worker.point.isFirstSearch)
    (hengaged : member.worker.point.isEngaged)
    (hpaired : times.length = failures.length + 1)
    (hcounted : rule.counted reports = rule.standing true failures)
    (hpaces : rule.Paces world.now times failures) :
    world.Reconnects rule member (times ++ member.worker.point.beginning?.toList) failures
      reports := by
  have hsearching := Point.isSearching_of_isEngaged hengaged hfirst
  have hbegun : member.worker.point.beginning? = none := by
    cases hpoint : member.worker.point with
    | connecting =>
      rw [hpoint] at hsearching
      cases hsearching
    | idle | starting | atConnectGate | atFailureGate | asleep | polling | working | rollingBack
      | closing | crashed => rfl
  rw [hbegun, Option.toList_none, List.append_nil]
  refine ⟨hmembers, hfirst, ?_, ?_, by rw [hsearching]; exact hcounted, hpaces, ?_⟩
  · rw [Member.isAdmitted?_of_open hnone]
    nofun
  · rw [hsearching, Bool.or_true]
    exact hpaired
  · intro _ sleeper hgate
    rw [hgate] at hsearching
    cases hsearching

/-- The search has failed, and the worker closes the connection. -/
theorem reconnects_of_closing {session : Nat} (hmembers : world.members = [member])
    (hnone : member.answer? = none) (hclosing : member.worker.point = .closing session false)
    (hpaired : times.length = failures.length + 1)
    (hcounted : rule.counted reports = rule.standing true failures)
    (hpaces : rule.Paces world.now times failures) :
    world.Reconnects rule member (times ++ member.worker.point.beginning?.toList)
      (failures ++ [world.now]) (reports ++ [⟨false, world.now⟩]) := by
  have hcounted' : rule.counted (reports ++ [⟨false, world.now⟩]) =
      rule.standing false (failures ++ [world.now]) := by
    rw [Throttle.Rule.counted_failure, hcounted]
    exact rule.standing_append failures _
  have hlength : times.length = (failures ++ [world.now]).length := by
    rw [hpaired, List.length_append, List.length_singleton]
  have hadmitted : member.isAdmitted? ≠ some false := by
    rw [Member.isAdmitted?_of_open hnone]
    nofun
  obtain ⟨⟨name, bounds, countdown, point⟩, answer?, servedAt, attempt⟩ := member
  obtain rfl : point = .closing session false := hclosing
  have htimes : times ++ (Point.closing session false : Point α).beginning?.toList = times :=
    List.append_nil times
  rw [htimes]
  exact ⟨hmembers, rfl, hadmitted, hlength, hcounted', hpaces.fail, nofun⟩

/-- A connection clears the failures that count, if the rule resets. -/
theorem counted_success_of_standing (h : rule.counted reports = rule.standing false failures)
    (now : Instant) :
    rule.counted (reports ++ [⟨true, now⟩]) = rule.standing true failures := by
  rw [Throttle.Rule.counted_success, h]
  exact rule.standing_true failures

/-- A worker goes on. -/
theorem Reconnects.resume (h : world.Reconnects rule member times failures reports)
    {throttle : Throttle} (hpos : 0 < rule.maxEvents)
    (hrules : throttle.rules = [Throttle.Memory.ofRule rule]) {world' : World duties}
    {worker : Worker α} {answer : (member.worker.call duties).Answer}
    (hmembers : world'.members = [⟨worker, none, member.servedAt, member.attempt⟩])
    (hready : member.ready world.shared world.moment = some answer)
    (hmoment : world'.moment = world.moment) (hfirst : worker.point.isFirstSearch)
    (hconnects : member.worker.point.Connects duties world'.moment world.shared.connectThrottle
      answer world'.shared.connectThrottle worker.point)
    (hthrottle : world'.shared.connectThrottle = throttle.registerAll (reports ++
      (member.worker.point.connectEvents duties world'.now answer worker.point).flatMap
        ConnectEvent.reports)) :
    ∃ failures', world'.Reconnects rule ⟨worker, none, member.servedAt, member.attempt⟩
      (times ++ worker.point.beginning?.toList) failures' (reports ++
        (member.worker.point.connectEvents duties world'.now answer worker.point).flatMap
          ConnectEvent.reports) := by
  have hpaced : rule.Paces world'.now times failures := by
    have hnow : world'.now = world.now := congrArg Moment.now hmoment
    rw [hnow]
    exact h.paces
  have hpaired := h.paired
  have hcounted := h.counted
  have hadmitted := h.admitted
  have hbefore := h.first
  obtain ⟨⟨name, bounds, countdown, point⟩, answer?, servedAt, attempt⟩ := member
  have hquiet := Point.append_reports_of_none reports world'.now point worker.point answer
  have hreported := Point.append_reports_of_some reports world'.now point worker.point answer
  cases point with
  | idle => cases hready
  | starting | atConnectGate sleeper =>
    rw [hquiet rfl] at hthrottle ⊢
    exact ⟨failures, reconnects_of_gates hpos hrules hthrottle hmembers rfl hpaired hcounted hpaced
      hconnects.2⟩
  | closing session last =>
    cases last with
    | true => cases hbefore
    | false =>
      rw [hquiet rfl] at hthrottle ⊢
      exact ⟨failures, reconnects_of_gates hpos hrules hthrottle hmembers rfl hpaired hcounted
        hpaced hconnects.2⟩
  | connecting begun =>
    rcases answer with error | session
    · obtain rfl : answer? = some (.error error) := hready
      exact absurd rfl hadmitted
    · rw [hreported (.connected world'.now) rfl]
      exact ⟨failures, reconnects_of_isEngaged hmembers rfl hfirst hconnects.2 hpaired
        (counted_success_of_standing hcounted _) hpaced⟩
  | atFailureGate session waits sleeper =>
    rw [hquiet rfl]
    exact ⟨failures, reconnects_of_isEngaged hmembers rfl hfirst hconnects.2 hpaired hcounted
      hpaced⟩
  | polling session cycle stage =>
    cases hconnects with
    | inl hkeeps =>
      rw [hquiet (Point.connectOutcome?_of_isEngaged hkeeps.2)]
      exact ⟨failures, reconnects_of_isEngaged hmembers rfl hfirst hkeeps.2 hpaired hcounted
        hpaced⟩
    | inr habandons =>
      obtain ⟨name', bounds', countdown', next⟩ := worker
      obtain ⟨-, rfl⟩ := habandons
      rw [hreported (.gaveUp world'.now) rfl]
      exact ⟨failures ++ [world'.now], reconnects_of_closing hmembers rfl rfl hpaired hcounted
        hpaced⟩
  | asleep | working | rollingBack | crashed => cases hbefore

/-- Every move keeps a worker going whose first searches fail. -/
theorem Reconnects.step (h : world.Reconnects rule member times failures reports)
    (hsound : world.Sound) {throttle : Throttle} (hpos : 0 < rule.maxEvents)
    (hrules : throttle.rules = [Throttle.Memory.ofRule rule])
    (hthrottle : world.shared.connectThrottle = throttle.registerAll reports) {move : Move}
    (hallowed : world.isFruitless move) :
    ∃ member' failures', (world.step move).Reconnects rule member'
      (times ++ (world.connectEvents move).filterMap ConnectEvent.beginning?) failures'
      (reports ++ (world.connectEvents move).flatMap ConnectEvent.reports) := by
  obtain ⟨member', hmembers, halone⟩ := hsound.alone h.members move
  have hthrottle' := world.connectThrottle_step move
  rw [hthrottle, ← Throttle.registerAll_append] at hthrottle'
  unfold isFruitless at hallowed
  rw [hmembers, Bool.and_eq_true, List.all_cons, List.all_nil, Bool.and_true] at hallowed
  obtain ⟨hadmits, hfirst⟩ := hallowed
  generalize world.connectEvents move = events at halone hthrottle' ⊢
  generalize world.step move = world' at hmembers halone hthrottle' ⊢
  cases halone with
  | passed hnow =>
    rw [List.filterMap_nil, List.append_nil, List.flatMap_nil, List.append_nil]
    have hlater : world.now ≤ world'.now := by
      simp only [hnow, Instant.le_iff, Instant.after]
      omega
    exact ⟨_, failures, hmembers, h.first, h.admitted, h.paired, h.counted, h.paces.later hlater,
      h.passes⟩
  | rested hnow =>
    rw [List.filterMap_nil, List.append_nil, List.flatMap_nil, List.append_nil]
    exact ⟨_, failures, hmembers, h.first, h.admitted, h.paired, h.counted, hnow ▸ h.paces,
      h.passes⟩
  | answered hnone hnow =>
    rw [List.filterMap_nil, List.append_nil, List.flatMap_nil, List.append_nil]
    refine ⟨_, failures, hmembers, h.first, fun hadmitted ↦ ?_, h.paired, h.counted, hnow ▸ h.paces,
      h.passes⟩
    exact absurd ((Member.isAdmitted?_answered hadmitted).symm.trans hadmits) nofun
  | spawned hidle hnow =>
    rw [List.filterMap_nil, List.append_nil, List.flatMap_nil, List.append_nil]
    have hpaired := h.paired
    have hcounted := h.counted
    rw [hidle] at hpaired hcounted
    exact ⟨_, failures, hmembers, hfirst, nofun, hpaired, hcounted, hnow ▸ h.paces, nofun⟩
  | @resumed answer worker _ hready hmoment hconnects =>
    have hnow : world.now = world'.now := (congrArg Moment.now hmoment).symm
    rw [@Point.filterMap_beginning?_connectEvents α duties member.worker.point world.now answer
      worker.point]
    rw [← hmoment] at hconnects
    rw [hnow] at hthrottle' ⊢
    exact ⟨_, h.resume hpos hrules hmembers hready hmoment hfirst hconnects hthrottle'⟩

/-- The run of a single worker whose first searches all fail. -/
theorem reconnects_of_run {shared : Shared} {now : Instant} {past : Past duties}
    (hpos : 0 < rule.maxEvents)
    (hrules : shared.connectThrottle.rules = [Throttle.Memory.ofRule rule])
    (run : Run (fun world move ↦ world.isFruitless move) (World.initial duties 1 shared now) past
      world) :
    ∃ member failures,
      world.Reconnects rule member past.connectTimes failures past.connectReports := by
  induction run with
  | rest =>
    have hcounted : rule.counted [] = rule.standing false [] := by
      rw [rule.counted_nil, Throttle.Rule.standing]
      split <;> rfl
    exact ⟨_, [], rfl, rfl, nofun, rfl, hcounted, ⟨.nil, nofun, nofun, nofun⟩, nofun⟩
  | @move past world move run hallowed ih =>
    obtain ⟨member, failures, hreconnects⟩ := ih
    rw [Past.connectTimes_cons, Past.connectReports_cons]
    exact hreconnects.step (Sound.of_run run) hpos hrules (connectThrottle_of_run run) hallowed

end World

/-! ## Main result -/

/-- How a rule of the connect throttle bears on a worker all of whose first searches fail. If it
remembers its failures or admits only one, then no window of its length sees more attempts to connect
than it admits failures. If it forgets them after a success and admits more than one, then the worker
never waits to connect. -/
theorem spaces_connects_or_never_waits (duties : Duties α) (shared : Shared) (now : Instant)
    {rule : Throttle.Rule} (hrules : shared.connectThrottle.rules = [Throttle.Memory.ofRule rule])
    (hpos : 0 < rule.maxEvents) {past : Past duties} {world : World duties}
    (run : Run (fun world move ↦ world.isFruitless move) (World.initial duties 1 shared now) past
      world) :
    (rule.resetsOnSuccess = false ∨ rule.maxEvents = 1 → ∀ start : Instant,
      (past.connectTimes.filter fun begun ↦ start ≤ begun ∧
        begun < start.after (Span.ofMillis rule.windowMillis)).length ≤ rule.maxEvents) ∧
    (rule.resetsOnSuccess = true ∧ 2 ≤ rule.maxEvents →
      ∀ member ∈ world.members, ∀ sleeper, member.worker.point ≠ .atConnectGate sleeper) := by
  obtain ⟨member, failures, hreconnects⟩ := World.reconnects_of_run hpos hrules run
  constructor
  · intro hremembers start
    have hremembers : rule.remembers = true := by simpa [Throttle.Rule.remembers] using hremembers
    exact hreconnects.paces.length_window_le hremembers start
  · intro hforgets other hother
    have hforgets : rule.remembers = false := by
      have hmany : rule.maxEvents ≠ 1 := by omega
      simp [Throttle.Rule.remembers, hforgets.1, hmany]
    rw [hreconnects.members, List.mem_singleton] at hother
    rw [hother]
    exact hreconnects.passes hforgets

/-- A rule admits two failures in ten seconds and forgets them after a success. Three attempts begin
at once, each after the first statement on the last connection has been refused. -/
theorem crowds_connects :
    ∃ (past : Past (Sample.duties none)) (world : World (Sample.duties none)),
      Run (fun world move ↦ world.isFruitless move)
        (World.initial (Sample.duties none) 1 (Sample.throttled ⟨2, 10000, true⟩) ⟨10000000000⟩)
        past world ∧
      past.connectTimes = List.replicate 3 ⟨10000000000⟩ :=
  ⟨_, _, Run.play_of_all World.isFruitless _
      ([.start, .resume 0] ++ Sample.rounds 0 [.plain, Sample.refusing, .plain, .plain,
        Sample.refusing, .plain]) (by decide +kernel),
    by decide +kernel⟩

/-- The same rule remembers its failures. The worker connects twice, waits, and connects again when
the window of the first failure is over. -/
def Sample.fruitlessRun : Past (Sample.duties none) × World (Sample.duties none) :=
  (World.initial (Sample.duties none) 1 (Sample.throttled ⟨2, 10000, false⟩) ⟨10000000000⟩).play
    ([.start, .resume 0] ++ rounds 0 [.plain, refusing, .plain, .plain, refusing, .plain] ++
      [.pass (Span.ofSeconds 10), .resume 0])

theorem spaces_connects_or_never_waits_of_fruitlessRun :
    Sample.fruitlessRun.1.connectTimes =
      [⟨10000000000⟩, ⟨10000000000⟩, ⟨20000000000⟩] ∧
    (Sample.fruitlessRun.1.connectTimes.filter fun begun ↦ (⟨10000000000⟩ : Instant) ≤ begun ∧
      begun < Instant.after ⟨10000000000⟩ (Span.ofMillis 10000)).length ≤ 2 :=
  ⟨by decide +kernel, (spaces_connects_or_never_waits (Sample.duties none)
    (Sample.throttled ⟨2, 10000, false⟩) ⟨10000000000⟩ rfl (by decide)
    (Run.play_of_all World.isFruitless _ _ (by decide +kernel))).1 (.inl rfl) ⟨10000000000⟩⟩

end TableQueue
