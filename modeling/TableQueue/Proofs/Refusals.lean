import TableQueue.Proofs.Lifecycle
import TableQueue.Proofs.Ticks
import TableQueue.Proofs.World.Connects

/-!
# Attempts to connect that are refused

The connect throttle hears of every attempt that succeeds once, of every connection that is given up
once, and of every attempt that is refused twice: when the attempt ends and again when the search for
a job fails for want of a connection. So the failures it counts are those that have happened as long
as nothing is refused. Where everything is refused at once, a rule that admits `N` failures is used
up by half as many attempts, rounded up: so many are made at the start and in every later window.
-/

namespace TableQueue

variable {α : Type} {duties : Duties α}

namespace Throttle.Rule

/-! ## The schedule of refused attempts -/

/-- How many refused attempts use up a rule. -/
def share (rule : Rule) : Nat := (rule.maxEvents + 1) / 2

/-- When an attempt begins, counted from the first, if all are refused at once. -/
def refusedAt (rule : Rule) (first : Instant) (attempt : Nat) : Instant :=
  if attempt < rule.share then first
  else first.nextTick.after (Span.ofMillis (attempt / rule.share * rule.windowMillis))

variable {rule : Rule} {first : Instant} {attempt : Nat}

theorem share_pos (h : 0 < rule.maxEvents) : 0 < rule.share := by
  unfold share
  omega

theorem refusedAt_zero (h : 0 < rule.maxEvents) (first : Instant) : rule.refusedAt first 0 = first :=
  if_pos (share_pos h)

/-- Attempts of one window begin together. -/
theorem refusedAt_succ (h : ¬ rule.share ∣ attempt + 1) :
    rule.refusedAt first (attempt + 1) = rule.refusedAt first attempt := by
  have hdiv : (attempt + 1) / rule.share = attempt / rule.share := by
    rw [Nat.succ_div, if_neg h, Nat.add_zero]
  have hlt : attempt + 1 < rule.share ↔ attempt < rule.share := by
    refine ⟨Nat.lt_of_succ_lt, fun hlt ↦ Nat.lt_of_le_of_ne hlt fun heq ↦ ?_⟩
    exact h (heq ▸ Nat.dvd_refl _)
  unfold refusedAt
  rw [hdiv]
  simp only [hlt]

/-- An attempt of the next window begins when the window of this one is over. -/
theorem refusedAt_add_share (h : 0 < rule.maxEvents) :
    rule.refusedAt first (attempt + rule.share) =
      ((rule.refusedAt first attempt).after (Span.ofMillis rule.windowMillis)).nextTick := by
  have hdiv : (attempt + rule.share) / rule.share = attempt / rule.share + 1 :=
    Nat.add_div_right attempt (share_pos h)
  have hge : ¬ attempt + rule.share < rule.share := by omega
  rw [Instant.nextTick_after_ofMillis]
  unfold refusedAt
  rw [if_neg hge, hdiv]
  split
  · next hlt => rw [Nat.div_eq_of_lt hlt, Nat.zero_add, Nat.one_mul]
  · rw [Instant.nextTick_after_ofMillis, Instant.nextTick_nextTick]
    simp only [Instant.after, Span.ofMillis, Instant.mk.injEq, Nat.add_mul, Nat.one_mul]
    omega

/-- A share of attempts takes at least a window. -/
theorem after_refusedAt_le (h : 0 < rule.maxEvents) :
    (rule.refusedAt first attempt).after (Span.ofMillis rule.windowMillis) ≤
      rule.refusedAt first (attempt + rule.share) := by
  rw [refusedAt_add_share h]
  exact Instant.le_nextTick _

/-- The attempt a window before the first of a window is the last one before it. -/
theorem refusedAt_sub_share (h : rule.share ∣ attempt + 1) :
    rule.refusedAt first (attempt + 1 - rule.share) = rule.refusedAt first attempt := by
  have hshare : 0 < rule.share := Nat.pos_of_dvd_of_pos h (Nat.succ_pos attempt)
  have hdiv : (attempt + 1 - rule.share) / rule.share = attempt / rule.share := by
    have hback := Nat.sub_mul_div (attempt + 1) rule.share 1
    rw [Nat.mul_one] at hback
    rw [hback, Nat.succ_div_of_dvd h, Nat.add_sub_cancel]
  have hlt : attempt + 1 - rule.share < rule.share ↔ attempt < rule.share := by
    rw [← Nat.div_lt_one_iff hshare, ← Nat.div_lt_one_iff hshare, hdiv]
  unfold refusedAt
  rw [hdiv]
  simp only [hlt]

/-! ## The delay after refused attempts -/

theorem getElem?_flatMap_twice {β : Type} (entries : List β) (i : Nat) :
    (entries.flatMap fun entry ↦ [entry, entry])[i]? = entries[i / 2]? := by
  induction entries generalizing i with
  | nil => rfl
  | cons entry rest ih =>
    match i with
    | 0 => rfl
    | 1 => rfl
    | i + 2 =>
      have hdiv : (i + 2) / 2 = i / 2 + 1 := Nat.add_div_right i (by decide)
      rw [List.flatMap_cons, hdiv, List.getElem?_cons_succ, ← ih]
      rfl

/-- A rule counts every attempt twice, so that it looks back half as many attempts as it admits
failures. -/
theorem windowDelay_of_refused {reports : List Report} {attempts : Nat} {now : Instant}
    (hpos : 0 < rule.maxEvents)
    (h : rule.counted reports =
      ((List.range attempts).map (rule.refusedAt first)).reverse.flatMap fun moment ↦
        [moment, moment]) :
    rule.windowDelay reports now =
      if attempts < rule.share then 0
      else max 0 ((rule.refusedAt first (attempts - rule.share)).nanos +
        rule.windowMillis * 1000000 - now.nanos) := by
  have hindex : (rule.maxEvents - 1) / 2 = rule.share - 1 := by
    unfold share
    omega
  have hshare := share_pos hpos
  unfold windowDelay
  rw [h, getElem?_flatMap_twice, hindex]
  by_cases hfew : attempts < rule.share
  · have hnone : ((List.range attempts).map (rule.refusedAt first)).reverse[rule.share - 1]? =
        none := by
      apply List.getElem?_eq_none
      rw [List.length_reverse, List.length_map, List.length_range]
      omega
    rw [hnone, if_pos hfew]
  · have hsome : ((List.range attempts).map (rule.refusedAt first)).reverse[rule.share - 1]? =
        some (rule.refusedAt first (attempts - rule.share)) := by
      have hlength : ((List.range attempts).map (rule.refusedAt first)).length = attempts := by
        rw [List.length_map, List.length_range]
      have hlt : rule.share - 1 < ((List.range attempts).map (rule.refusedAt first)).length := by
        omega
      have hback : attempts - 1 - (rule.share - 1) = attempts - rule.share := by omega
      rw [List.getElem?_reverse hlt, hlength, hback, List.getElem?_map,
        List.getElem?_range (by omega)]
      rfl
    rw [hsome, if_neg hfew]

/-- Nothing is left to wait when the next attempt is due. -/
theorem windowDelay_of_due {reports : List Report} {now : Instant} (hpos : 0 < rule.maxEvents)
    (h : rule.counted reports =
      ((List.range attempt).map (rule.refusedAt first)).reverse.flatMap fun moment ↦
        [moment, moment])
    (hdue : rule.refusedAt first attempt = now) : rule.windowDelay reports now = 0 := by
  rw [windowDelay_of_refused hpos h]
  split
  · rfl
  · have hover := @after_refusedAt_le rule first (attempt - rule.share) hpos
    rw [Nat.sub_add_cancel (by omega), hdue, Instant.le_iff] at hover
    simp only [Instant.after, Span.ofMillis] at hover
    omega

/-- Right after the last attempt of a window the wait is as long as the window. -/
theorem windowDelay_of_used {reports : List Report} {now : Instant} (hpos : 0 < rule.maxEvents)
    (h : rule.counted reports =
      ((List.range (attempt + 1)).map (rule.refusedAt first)).reverse.flatMap fun moment ↦
        [moment, moment])
    (hdvd : rule.share ∣ attempt + 1) (hlast : rule.refusedAt first attempt = now) :
    rule.windowDelay reports now = (Span.ofMillis rule.windowMillis).nanos := by
  have hge : rule.share ≤ attempt + 1 := Nat.le_of_dvd (Nat.succ_pos attempt) hdvd
  rw [windowDelay_of_refused hpos h, if_neg (by omega), refusedAt_sub_share hdvd, hlast]
  simp only [Span.ofMillis]
  omega

/-- The next window begins when the wait that follows the last attempt of this one is over. -/
theorem refusedAt_succ_of_dvd (hpos : 0 < rule.maxEvents) (hdvd : rule.share ∣ attempt + 1) :
    rule.refusedAt first (attempt + 1) =
      ((rule.refusedAt first attempt).after (Span.ofMillis rule.windowMillis)).nextTick := by
  have hge : rule.share ≤ attempt + 1 := Nat.le_of_dvd (Nat.succ_pos attempt) hdvd
  have hnext := @refusedAt_add_share rule first (attempt + 1 - rule.share) hpos
  rw [Nat.sub_add_cancel hge, refusedAt_sub_share hdvd] at hnext
  exact hnext

end Throttle.Rule

namespace Point

def refusals (times : List Instant) : Point α → List Instant
  | connecting _ => times.dropLast
  | _ => times

/-- Where a worker is whose attempts are refused at once, after it has begun some of them: it
connects with an attempt of the current window, or it has used up the window and waits for the
next. -/
def Retries (rule : Throttle.Rule) (first : Instant) (moment : Moment) (successes attempts : Nat) :
    Point α → Prop
  | idle => attempts = 0
  | starting => attempts = 0 ∧ moment.stopped = false
  | connecting _ =>
    0 < attempts ∧ rule.refusedAt first (attempts - 1) = moment.now ∧ moment.stopped = false
  | atConnectGate sleeper =>
    0 < attempts ∧ rule.share ∣ attempts ∧ sleeper.wakesAt = rule.refusedAt first attempts ∧
      moment.now ≤ sleeper.wakesAt ∧ sleeper.seen = successes ∧ moment.stopped = false
  | _ => False

/-- The worker passes the connect throttle when the next attempt is due, and otherwise waits until
then. -/
theorem Gates.retries {rule : Throttle.Rule} {first : Instant} {throttle : Throttle}
    {reports : List Throttle.Report} {moment : Moment} {attempts : Nat} {point : Point α}
    (hpos : 0 < rule.maxEvents) (hwindow : 0 < rule.windowMillis)
    (hrules : throttle.rules = [Throttle.Memory.ofRule rule])
    (hcounted : rule.counted reports =
      ((List.range attempts).map (rule.refusedAt first)).reverse.flatMap fun moment ↦
        [moment, moment])
    (hstopped : moment.stopped = false)
    (hnow : moment.now = rule.refusedAt first attempts ∨
      0 < attempts ∧ moment.now = rule.refusedAt first (attempts - 1))
    (h : point.Gates moment (throttle.registerAll reports)) :
    point = connecting moment.now ∧ rule.refusedAt first attempts = moment.now ∨
      (∃ sleeper, point = atConnectGate sleeper) ∧
        point.Retries rule first moment (throttle.registerAll reports).successes attempts := by
  unfold Gates at h
  rw [hstopped, if_neg Bool.false_ne_true, Throttle.consult_registerAll hrules] at h
  by_cases hdue : rule.refusedAt first attempts = moment.now
  · rw [if_pos (Throttle.Rule.windowDelay_of_due hpos hcounted hdue)] at h
    exact .inl ⟨h, hdue⟩
  · obtain ⟨hbegun, hlast⟩ := hnow.resolve_left fun heq ↦ hdue heq.symm
    obtain ⟨last, rfl⟩ : ∃ last, attempts = last + 1 := ⟨attempts - 1, by omega⟩
    rw [Nat.add_sub_cancel] at hlast
    have hdvd : rule.share ∣ last + 1 := by
      by_contra hndvd
      exact hdue ((Throttle.Rule.refusedAt_succ hndvd).trans hlast.symm)
    have hwait := Throttle.Rule.windowDelay_of_used hpos hcounted hdvd hlast.symm
    have hpositive : 0 < (Span.ofMillis rule.windowMillis).nanos := by
      simp only [Span.ofMillis]
      omega
    have hnext := @Throttle.Rule.refusedAt_succ_of_dvd rule first last hpos hdvd
    rw [← hlast] at hnext
    rw [if_neg (by omega), hwait] at h
    have hlater : moment.now.nanos ≤
        (moment.now.after (Span.ofMillis rule.windowMillis)).nanos := by
      simp only [Instant.after]
      omega
    refine .inr ⟨⟨_, h⟩, ?_⟩
    rw [h]
    exact ⟨hbegun, hdvd, hnext.symm, Int.le_trans hlater (Instant.le_nextTick _), rfl, hstopped⟩

theorem Retries.mono {rule : Throttle.Rule} {point : Point α} {first : Instant}
    {moment moment' : Moment} {successes attempts : Nat}
    (h : point.Retries rule first moment successes attempts) (hnow : moment'.now = moment.now)
    (hstopped : moment.stopped = false → moment'.stopped = false) :
    point.Retries rule first moment' successes attempts := by
  cases point with
  | idle => exact h
  | starting => exact ⟨h.1, hstopped h.2⟩
  | connecting =>
    obtain ⟨hbegun, hlast, hgoes⟩ := h
    exact ⟨hbegun, hnow ▸ hlast, hstopped hgoes⟩
  | atConnectGate =>
    obtain ⟨hbegun, hdvd, hwakes, hbefore, hseen, hgoes⟩ := h
    exact ⟨hbegun, hdvd, hwakes, hnow ▸ hbefore, hseen, hstopped hgoes⟩
  | atFailureGate | asleep | polling | working | rollingBack | closing | crashed => exact h.elim

end Point

namespace World

variable {world : World duties} {rule : Throttle.Rule} {member : Member duties}
  {times : List Instant} {reports : List Throttle.Report}

/-- Every attempt to connect is refused, and no time passes until it is. A worker that waits at the
connect throttle goes on when its sleep is over, and the crew is not stopped. -/
def refusesAtOnce (world : World duties) : Move → Bool
  | .answer _ chance => chance.refusal.isSome
  | .pass span => world.members.all fun member ↦
    match member.worker.point with
    | .connecting _ => false
    | .atConnectGate sleeper => decide (world.now.after span ≤ sleeper.wakesAt)
    | _ => true
  | .stop | .release => false
  | _ => true

/-- The only worker of a crew has made its attempts on schedule so far. -/
structure Retrying (rule : Throttle.Rule) (first : Instant) (world : World duties)
    (member : Member duties) (times : List Instant) (reports : List Throttle.Report) : Prop where
  members : world.members = [member]
  scheduled : times = (List.range times.length).map (rule.refusedAt first)
  counted : rule.counted reports =
    (member.worker.point.refusals times).reverse.flatMap fun moment ↦ [moment, moment]
  stands : member.worker.point.Retries rule first world.moment
    world.shared.connectThrottle.successes times.length
  refused : member.isAdmitted? ≠ some true

/-- Time passes. -/
theorem Retrying.pass {first : Instant} (h : world.Retrying rule first member times reports)
    {span : Span} (hallowed : world.refusesAtOnce (.pass span)) :
    (world.step (.pass span)).Retrying rule first member times reports := by
  refine ⟨h.members, h.scheduled, h.counted, ?_, h.refused⟩
  have hstands := h.stands
  simp only [refusesAtOnce, h.members, List.all_cons, List.all_nil, Bool.and_true] at hallowed
  cases hpoint : member.worker.point with
  | idle | starting =>
    rw [hpoint] at hstands
    exact hstands
  | connecting =>
    rw [hpoint] at hallowed
    cases hallowed
  | atConnectGate sleeper =>
    rw [hpoint] at hallowed hstands
    obtain ⟨hbegun, hdvd, hwakes, -, hseen, hstopped⟩ := hstands
    exact ⟨hbegun, hdvd, hwakes, of_decide_eq_true hallowed, hseen, hstopped⟩
  | atFailureGate | asleep | polling | working | rollingBack | closing | crashed =>
    rw [hpoint] at hstands
    exact hstands.elim

/-- The worker comes to the connect throttle when its next attempt is due, or right after the last
one. -/
theorem retrying_of_gates {first : Instant} {throttle : Throttle}
    (hpos : 0 < rule.maxEvents) (hwindow : 0 < rule.windowMillis)
    (hrules : throttle.rules = [Throttle.Memory.ofRule rule])
    (hthrottle : world.shared.connectThrottle = throttle.registerAll reports)
    (hmembers : world.members = [member]) (hnone : member.answer? = none)
    (hscheduled : times = (List.range times.length).map (rule.refusedAt first))
    (hcounted : rule.counted reports = times.reverse.flatMap fun moment ↦ [moment, moment])
    (hstopped : world.moment.stopped = false)
    (hnow : world.now = rule.refusedAt first times.length ∨
      0 < times.length ∧ world.now = rule.refusedAt first (times.length - 1))
    (hgates : member.worker.point.Gates world.moment world.shared.connectThrottle) :
    world.Retrying rule first member (times ++ member.worker.point.beginning?.toList) reports := by
  have hretries := hgates
  rw [hthrottle] at hretries
  cases Point.Gates.retries hpos hwindow hrules (hscheduled ▸ hcounted) hstopped hnow hretries with
  | inl hconnects =>
    obtain ⟨hpoint, hdue⟩ := hconnects
    have htimes : times ++ member.worker.point.beginning?.toList = times ++ [world.now] := by
      rw [hpoint]
      rfl
    rw [htimes]
    refine ⟨hmembers, ?_, ?_, ?_, ?_⟩
    · rw [List.length_append, List.length_singleton, List.range_succ, List.map_append,
        ← hscheduled, List.map_singleton, hdue]
      rfl
    · rw [hcounted, hpoint, Point.refusals, List.dropLast_concat]
    · rw [hpoint, List.length_append]
      exact ⟨Nat.succ_pos _, hdue, hstopped⟩
    · rw [Member.isAdmitted?_of_open hnone]
      nofun
  | inr hwaits =>
    obtain ⟨⟨sleeper, hpoint⟩, hstands⟩ := hwaits
    have htimes : times ++ member.worker.point.beginning?.toList = times := by
      rw [hpoint]
      exact List.append_nil times
    rw [htimes]
    refine ⟨hmembers, hscheduled, ?_, ?_, ?_⟩
    · rw [hcounted, hpoint]
      rfl
    · rw [hthrottle]
      exact hstands
    · rw [Member.isAdmitted?_of_open hnone]
      nofun

/-- A worker that waits at the connect throttle goes on when its sleep is over. -/
theorem wakesAt_le_of_ready {sleeper : Throttle.Sleeper}
    {answer : (member.worker.call duties).Answer}
    (hpoint : member.worker.point = .atConnectGate sleeper)
    (hready : member.ready world.shared world.moment = some answer)
    (hstopped : world.moment.stopped = false)
    (hseen : sleeper.seen = world.shared.connectThrottle.successes) :
    sleeper.wakesAt ≤ world.now := by
  obtain ⟨⟨name, bounds, countdown, point⟩, answer?, servedAt, attempt⟩ := member
  obtain rfl : point = .atConnectGate sleeper := hpoint
  simp only [Member.ready, Worker.call, Point.call, Call.ready, Worker.isDue, hstopped,
    Throttle.rouses, hseen, bne_self_eq_false, Bool.false_or, Bool.or_false] at hready
  split at hready
  · next hover => exact of_decide_eq_true hover
  · cases hready

/-- The last attempt has been refused. -/
theorem counted_of_refused {reports : List Throttle.Report} {now : Instant}
    (hlast : times.getLast? = some now)
    (hcounted : rule.counted reports = times.dropLast.reverse.flatMap fun moment ↦
      [moment, moment]) :
    rule.counted (reports ++ [⟨false, now⟩, ⟨false, now⟩]) =
      times.reverse.flatMap fun moment ↦ [moment, moment] := by
  have htimes : times = times.dropLast ++ [now] := (List.dropLast_append_getLast? now hlast).symm
  calc rule.counted (reports ++ [⟨false, now⟩, ⟨false, now⟩])
      = rule.counted ((reports ++ [⟨false, now⟩]) ++ [⟨false, now⟩]) := by
        rw [List.append_assoc, List.singleton_append]
    _ = now :: now :: rule.counted reports := by
        rw [Throttle.Rule.counted_failure, Throttle.Rule.counted_failure]
    _ = (times.dropLast ++ [now]).reverse.flatMap fun moment ↦ [moment, moment] := by
        rw [hcounted, List.reverse_append, List.reverse_singleton, List.singleton_append,
          List.flatMap_cons]
        rfl
    _ = times.reverse.flatMap fun moment ↦ [moment, moment] := by rw [← htimes]

/-- The last attempt of a schedule. -/
theorem getLast?_of_scheduled {first : Instant}
    (hscheduled : times = (List.range times.length).map (rule.refusedAt first))
    (hbegun : 0 < times.length) :
    times.getLast? = some (rule.refusedAt first (times.length - 1)) :=
  calc times.getLast?
      = times[times.length - 1]? := List.getLast?_eq_getElem?
    _ = ((List.range times.length).map (rule.refusedAt first))[times.length - 1]? :=
        congrArg (·[times.length - 1]?) hscheduled
    _ = some (rule.refusedAt first (times.length - 1)) := by
        rw [List.getElem?_map, List.getElem?_range (by omega)]
        rfl

/-- A worker that goes on stays on schedule. -/
theorem Retrying.resume {first : Instant} (h : world.Retrying rule first member times reports)
    {throttle : Throttle} (hpos : 0 < rule.maxEvents) (hwindow : 0 < rule.windowMillis)
    (hrules : throttle.rules = [Throttle.Memory.ofRule rule]) {world' : World duties}
    {worker : Worker α} {answer : (member.worker.call duties).Answer}
    (hmembers : world'.members = [⟨worker, none, member.servedAt, member.attempt⟩])
    (hready : member.ready world.shared world.moment = some answer)
    (hmoment : world'.moment = world.moment)
    (hconnects : member.worker.point.Connects duties world'.moment world.shared.connectThrottle
      answer world'.shared.connectThrottle worker.point)
    (hthrottle : world'.shared.connectThrottle = throttle.registerAll (reports ++
      (member.worker.point.connectEvents duties world'.now answer worker.point).flatMap
        ConnectEvent.reports)) :
    ∃ first', world'.Retrying rule first' ⟨worker, none, member.servedAt, member.attempt⟩
      (times ++ worker.point.beginning?.toList) (reports ++
        (member.worker.point.connectEvents duties world'.now answer worker.point).flatMap
          ConnectEvent.reports) := by
  have hstands := h.stands
  have hcounted := h.counted
  have hscheduled := h.scheduled
  have hadmitted := h.refused
  have hstopped (hgoes : world.moment.stopped = false) : world'.moment.stopped = false := by
    rw [hmoment]
    exact hgoes
  obtain ⟨⟨name, bounds, countdown, point⟩, answer?, servedAt, attempt⟩ := member
  have hquiet := Point.append_reports_of_none reports world'.now point worker.point answer
  have hreported := Point.append_reports_of_some reports world'.now point worker.point answer
  cases point with
  | idle => cases hready
  | starting =>
    obtain ⟨hnone, hgoes⟩ := hstands
    obtain rfl := List.eq_nil_of_length_eq_zero hnone
    rw [hquiet rfl] at hthrottle ⊢
    exact ⟨world'.now, retrying_of_gates hpos hwindow hrules hthrottle hmembers rfl rfl hcounted
      (hstopped hgoes) (.inl (Throttle.Rule.refusedAt_zero hpos _).symm) hconnects.2⟩
  | atConnectGate sleeper =>
    obtain ⟨hbegun, -, hwakes, hbefore, hseen, hgoes⟩ := hstands
    rw [hquiet rfl] at hthrottle ⊢
    have hover := wakesAt_le_of_ready rfl hready hgoes hseen
    have hnow : world'.now = rule.refusedAt first times.length :=
      calc world'.now = world.now := congrArg Moment.now hmoment
        _ = sleeper.wakesAt := Instant.eq_of_le_of_le hbefore hover
        _ = rule.refusedAt first times.length := hwakes
    exact ⟨first, retrying_of_gates hpos hwindow hrules hthrottle hmembers rfl hscheduled hcounted
      (hstopped hgoes) (.inl hnow) hconnects.2⟩
  | connecting begun =>
    obtain ⟨hbegun, hlast, hgoes⟩ := hstands
    have hnow : world'.now = rule.refusedAt first (times.length - 1) :=
      (congrArg Moment.now hmoment).trans hlast.symm
    rcases answer with error | session
    · have hlast' : times.getLast? = some world'.now := by
        rw [hnow]
        exact getLast?_of_scheduled hscheduled hbegun
      rw [hreported (.refused world'.now) rfl] at hthrottle ⊢
      exact ⟨first, retrying_of_gates hpos hwindow hrules hthrottle hmembers rfl hscheduled
        (counted_of_refused hlast' hcounted) (hstopped hgoes) (.inr ⟨hbegun, hnow⟩) hconnects.2⟩
    · obtain rfl : answer? = some (.ok session) := hready
      exact absurd rfl hadmitted
  | atFailureGate | asleep | polling | working | rollingBack | closing | crashed =>
    exact hstands.elim

/-- Every move keeps a worker on schedule whose attempts are refused at once. -/
theorem Retrying.step {first : Instant} (h : world.Retrying rule first member times reports)
    (hsound : world.Sound) {throttle : Throttle} (hpos : 0 < rule.maxEvents)
    (hwindow : 0 < rule.windowMillis) (hrules : throttle.rules = [Throttle.Memory.ofRule rule])
    (hthrottle : world.shared.connectThrottle = throttle.registerAll reports) {move : Move}
    (hallowed : world.refusesAtOnce move) :
    ∃ first' member', (world.step move).Retrying rule first' member'
      (times ++ (world.connectEvents move).filterMap ConnectEvent.beginning?)
      (reports ++ (world.connectEvents move).flatMap ConnectEvent.reports) := by
  obtain ⟨member', hmembers, halone⟩ := hsound.alone h.members move
  have hstopped (hgoes : world.crew.isStopped = false) :
      (world.step move).crew.isStopped = false := by
    apply isStopped_step hgoes
    · intro hstop
      rw [hstop] at hallowed
      cases hallowed
    · intro hrelease
      rw [hrelease] at hallowed
      cases hallowed
  have hthrottle' := world.connectThrottle_step move
  rw [hthrottle, ← Throttle.registerAll_append] at hthrottle'
  generalize hevents : world.connectEvents move = events at halone hthrottle' ⊢
  generalize hworld : world.step move = world' at hmembers halone hstopped hthrottle' ⊢
  have hstays (hnow : world'.now = world.now)
      (hsame : world'.shared.connectThrottle = throttle.registerAll (reports ++ [])) :
      member.worker.point.Retries rule first world'.moment
        world'.shared.connectThrottle.successes times.length := by
    rw [hsame, List.append_nil, ← hthrottle]
    exact h.stands.mono hnow hstopped
  cases halone with
  | passed =>
    subst hworld
    refine ⟨first, member, ?_⟩
    rw [List.filterMap_nil, List.append_nil, List.flatMap_nil, List.append_nil]
    exact h.pass hallowed
  | rested hnow =>
    refine ⟨first, member, ?_⟩
    rw [List.filterMap_nil, List.append_nil, List.flatMap_nil, List.append_nil]
    exact ⟨hmembers, h.scheduled, h.counted, hstays hnow hthrottle', h.refused⟩
  | @answered chance attempt _ hnone hnow =>
    rw [List.filterMap_nil, List.append_nil, List.flatMap_nil, List.append_nil]
    refine ⟨first, _, hmembers, h.scheduled, h.counted, hstays hnow hthrottle', fun hadmitted ↦ ?_⟩
    have hrefusal := Member.isAdmitted?_answered hadmitted
    rw [Option.isNone_iff_eq_none] at hrefusal
    simp only [refusesAtOnce, hrefusal, Option.isSome_none, Bool.false_eq_true] at hallowed
  | spawned hidle hnow hgoes =>
    rw [List.filterMap_nil, List.append_nil, List.flatMap_nil, List.append_nil]
    have hstands := h.stands
    have hcounted := h.counted
    rw [hidle] at hstands hcounted
    exact ⟨first, _, hmembers, h.scheduled, hcounted, ⟨hstands, hgoes⟩, nofun⟩
  | @resumed answer worker _ hready hmoment hconnects =>
    have hnow : world.now = world'.now := (congrArg Moment.now hmoment).symm
    rw [@Point.filterMap_beginning?_connectEvents α duties member.worker.point world.now answer
      worker.point]
    rw [← hmoment] at hconnects
    rw [hnow] at hthrottle' ⊢
    obtain ⟨first', hretrying⟩ := h.resume hpos hwindow hrules hmembers hready hmoment hconnects
      hthrottle'
    exact ⟨first', _, hretrying⟩

/-- The run of a single worker whose attempts are refused at once keeps to the schedule. -/
theorem retrying_of_run {shared : Shared} {now : Instant} {past : Past duties}
    (hpos : 0 < rule.maxEvents) (hwindow : 0 < rule.windowMillis)
    (hrules : shared.connectThrottle.rules = [Throttle.Memory.ofRule rule])
    (run : Run (fun world move ↦ world.refusesAtOnce move) (World.initial duties 1 shared now) past
      world) :
    ∃ first member, world.Retrying rule first member past.connectTimes past.connectReports := by
  induction run with
  | rest =>
    refine ⟨now, _, rfl, rfl, ?_, rfl, nofun⟩
    exact rule.counted_nil
  | @move past world move run hallowed ih =>
    obtain ⟨first, member, hretrying⟩ := ih
    rw [Past.connectTimes_cons, Past.connectReports_cons]
    exact hretrying.step (Sound.of_run run) hpos hwindow hrules (connectThrottle_of_run run) hallowed

end World

/-! ## What is counted -/

namespace ConnectEvent

def isSuccess : ConnectEvent → Bool
  | connected _ => true
  | begun _ | refused _ | gaveUp _ => false

def isRefusal : ConnectEvent → Bool
  | refused _ => true
  | begun _ | connected _ | gaveUp _ => false

/-- Whether an attempt has failed or a connection has been given up. -/
def isFailure : ConnectEvent → Bool
  | refused _ | gaveUp _ => true
  | begun _ | connected _ => false

/-- Successes are reported once. -/
theorem countP_success_reports (log : List ConnectEvent) :
    (log.flatMap reports).countP (·.success) = log.countP isSuccess := by
  induction log with
  | nil => rfl
  | cons event rest ih =>
    rw [List.flatMap_cons, List.countP_append, ih, List.countP_cons]
    cases event <;> simp [reports, isSuccess, Nat.add_comm]

/-- A refused attempt counts as two failures. -/
theorem countP_failure_reports (log : List ConnectEvent) :
    (log.flatMap reports).countP (!·.success) = log.countP isFailure + log.countP isRefusal := by
  induction log with
  | nil => rfl
  | cons event rest ih =>
    rw [List.flatMap_cons, List.countP_append, ih, List.countP_cons, List.countP_cons]
    have hevent : event.reports.countP (!·.success) =
        (if event.isFailure then 1 else 0) + if event.isRefusal then 1 else 0 := by
      cases event <;> rfl
    rw [hevent]
    omega

end ConnectEvent

/-! ## Main result -/

/-- What the connect throttle counts. In every run its state is what the reports of the run make of
it, with one success for every attempt that has succeeded. It counts one failure for every attempt
that has failed and every connection that has been given up exactly if no attempt has failed. The
only worker of a crew whose attempts are refused at once makes as many in every window, the first
included, as is the share of the rule, half the failures that it admits and rounded up, and waits
for the next window whenever it has made these. -/
theorem registers_failures_once_iff (duties : Duties α) (shared : Shared) (now : Instant) :
    (∀ (workers : Nat) (past : Past duties) (world : World duties),
      Run Anything (World.initial duties workers shared now) past world →
        world.shared.connectThrottle = shared.connectThrottle.registerAll past.connectReports ∧
        past.connectReports.countP (·.success) = past.connectLog.countP ConnectEvent.isSuccess ∧
        (past.connectReports.countP (!·.success) = past.connectLog.countP ConnectEvent.isFailure ↔
          past.connectLog.countP ConnectEvent.isRefusal = 0)) ∧
    ∀ rule : Throttle.Rule, shared.connectThrottle.rules = [Throttle.Memory.ofRule rule] →
      0 < rule.maxEvents → 0 < rule.windowMillis →
      ∀ (past : Past duties) (world : World duties),
        Run (fun world move ↦ world.refusesAtOnce move) (World.initial duties 1 shared now) past
          world →
        ∃ first : Instant,
          past.connectTimes =
              (List.range past.connectTimes.length).map (rule.refusedAt first) ∧
            ∀ member ∈ world.members, ∀ sleeper,
              member.worker.point = .atConnectGate sleeper →
                0 < past.connectTimes.length ∧ rule.share ∣ past.connectTimes.length ∧
                  sleeper.wakesAt = rule.refusedAt first past.connectTimes.length := by
  constructor
  · intro workers past world run
    refine ⟨World.connectThrottle_of_run run, ConnectEvent.countP_success_reports _, ?_⟩
    rw [Past.connectReports, ConnectEvent.countP_failure_reports]
    omega
  · intro rule hrules hpos hwindow past world run
    obtain ⟨first, member, hretrying⟩ := World.retrying_of_run hpos hwindow hrules run
    refine ⟨first, hretrying.scheduled, fun other hother sleeper hgate ↦ ?_⟩
    rw [hretrying.members, List.mem_singleton] at hother
    have hstands := hretrying.stands
    rw [← hother, hgate] at hstands
    obtain ⟨hbegun, hdvd, hwakes, -⟩ := hstands
    exact ⟨hbegun, hdvd, hwakes⟩

/-- A rule admits two failures, but the worker waits after one refused attempt, which has been
reported twice. -/
theorem counts_refusal_twice :
    ∃ (past : Past (Sample.duties none)) (world : World (Sample.duties none)),
      Run (fun world move ↦ world.refusesAtOnce move)
        (World.initial (Sample.duties none) 1 (Sample.throttled ⟨2, 10000, true⟩) ⟨10000000000⟩)
        past world ∧
      past.connectLog.countP ConnectEvent.isFailure = 1 ∧
      past.connectReports.countP (!·.success) = 2 ∧
      past.connectTimes.length = 1 ∧
      world.members.map (·.worker.point) = [.atConnectGate ⟨⟨20000000000⟩, 0⟩] :=
  ⟨_, _, Run.play_of_all World.refusesAtOnce _
      ([.start, .resume 0] ++ Sample.rounds 0 [Sample.closed]) (by decide +kernel),
    by decide +kernel, by decide +kernel, by decide +kernel, by rfl⟩

/-- A rule admits three failures in ten seconds. Two attempts use it up, and ten seconds later two
more. -/
def Sample.refusedRun : Past (Sample.duties none) × World (Sample.duties none) :=
  (World.initial (Sample.duties none) 1 (Sample.throttled ⟨3, 10000, true⟩) ⟨10000000000⟩).play
    ([.start, .resume 0] ++ rounds 0 [closed, closed] ++ [.pass (Span.ofSeconds 10), .resume 0] ++
      rounds 0 [closed, closed])

theorem registers_failures_once_iff_of_refusedRun :
    Sample.refusedRun.1.connectReports.countP (!·.success) = 8 ∧
    (Sample.refusedRun.1.connectReports.countP (!·.success) =
        Sample.refusedRun.1.connectLog.countP ConnectEvent.isFailure ↔
      Sample.refusedRun.1.connectLog.countP ConnectEvent.isRefusal = 0) ∧
    Sample.refusedRun.1.connectTimes =
      [⟨10000000000⟩, ⟨10000000000⟩, ⟨20000000000⟩, ⟨20000000000⟩] ∧
    ∃ first : Instant, Sample.refusedRun.1.connectTimes =
      (List.range 4).map (Throttle.Rule.refusedAt ⟨3, 10000, true⟩ first) := by
  have hcounts := (registers_failures_once_iff (Sample.duties none)
    (Sample.throttled ⟨3, 10000, true⟩) ⟨10000000000⟩).1 1 Sample.refusedRun.1
    Sample.refusedRun.2 (Run.play _ _)
  obtain ⟨first, hscheduled, -⟩ := (registers_failures_once_iff (Sample.duties none)
    (Sample.throttled ⟨3, 10000, true⟩) ⟨10000000000⟩).2 ⟨3, 10000, true⟩ rfl (by decide)
    (by decide) Sample.refusedRun.1 Sample.refusedRun.2
    (Run.play_of_all World.refusesAtOnce _ _ (by decide +kernel))
  exact ⟨by decide +kernel, hcounts.2.2, by decide +kernel, first, hscheduled⟩

end TableQueue
