import Mathlib.Data.List.Rotate
import TableQueue.Proofs.Throttle.Grammar

/-!
# Sliding windows

Read from its position on, the ring of a rule begins with empty slots and goes on with the failures
that count, the earliest first, and each new failure pushes out the slot in front. So the slot at the
position belongs to the `N`th most recent failure that counts. A caller waits until that failure is
one window old, and it does not wait while there are fewer than `N`. Nothing here depends on the
order of the instants at which outcomes are registered.
-/

namespace TableQueue.Throttle

structure Report where
  success : Bool
  moment : Instant
deriving DecidableEq, Repr

def registerAll (throttle : Throttle) (reports : List Report) : Throttle :=
  reports.foldl (fun throttle report ↦ throttle.register report.success report.moment) throttle

@[simp] theorem registerAll_nil (throttle : Throttle) : throttle.registerAll [] = throttle := rfl

theorem registerAll_append (throttle : Throttle) (reports reports' : List Report) :
    throttle.registerAll (reports ++ reports') =
      (throttle.registerAll reports).registerAll reports' :=
  List.foldl_append

namespace Rule

/-- The failures that count for a rule, the most recent first: those since the last success, or all
of them if a success does not clear them. -/
def counted (rule : Rule) (reports : List Report) : List Instant :=
  (if rule.resetsOnSuccess then reports.reverse.takeWhile fun report ↦ !report.success
    else reports.reverse.filter fun report ↦ !report.success).map Report.moment

/-- How much longer the `N`th most recent failure blocks a rule that admits `N`, in nanoseconds. -/
def windowDelay (rule : Rule) (reports : List Report) (now : Instant) : Int :=
  match (rule.counted reports)[rule.maxEvents - 1]? with
  | some failed => max 0 (failed.nanos + rule.windowMillis * 1000000 - now.nanos)
  | none => 0

theorem counted_nil (rule : Rule) : rule.counted [] = [] := by
  unfold counted
  split <;> rfl

theorem counted_failure (rule : Rule) (reports : List Report) (now : Instant) :
    rule.counted (reports ++ [⟨false, now⟩]) = now :: rule.counted reports := by
  unfold counted
  split <;> simp

/-- A success clears the failures of a rule that resets, and of no other. -/
theorem counted_success (rule : Rule) (reports : List Report) (now : Instant) :
    rule.counted (reports ++ [⟨true, now⟩]) =
      if rule.resetsOnSuccess then [] else rule.counted reports := by
  unfold counted
  split <;> simp

theorem windowDelay_of_none {rule : Rule} {reports : List Report}
    (h : (rule.counted reports)[rule.maxEvents - 1]? = none) (now : Instant) :
    rule.windowDelay reports now = 0 := by
  rw [windowDelay, h]

/-- Where a rule does not block, the failure it looks back to is a window old. -/
theorem after_le_of_windowDelay {rule : Rule} {reports : List Report} {now failed : Instant}
    (hdelay : rule.windowDelay reports now = 0)
    (hfailed : (rule.counted reports)[rule.maxEvents - 1]? = some failed) :
    failed.after (Span.ofMillis rule.windowMillis) ≤ now := by
  rw [windowDelay, hfailed] at hdelay
  simp only [Instant.le_iff, Instant.after, Span.ofMillis] at hdelay ⊢
  omega

/-! ### The rules of a text admit at least one failure -/

theorem maxEvents_pos_of_read {text : List Char} {rule : Rule} (h : read text = .ok rule) :
    0 < rule.maxEvents := by
  obtain ⟨spelling, hvalid, -, -, rfl⟩ := read_eq_ok_iff.1 h
  exact hvalid.one_le_events

/-- Every rule of a set admits at least one failure. -/
theorem maxEvents_pos_of_parseSet {spec : List Char} {rules : List Rule}
    (h : parseSet spec = .ok rules) {rule : Rule} (hrule : rule ∈ rules) : 0 < rule.maxEvents := by
  obtain ⟨piece, -, hpiece⟩ := (Text.exists_of_mapM_eq_ok h).2 rule hrule
  exact maxEvents_pos_of_read (parse_eq_ok_iff.1 hpiece)

end Rule

/-! ## The ring of a rule -/

namespace Memory

/-- The slots, the one that was written last first. -/
def latest (memory : Memory) : List (Option Instant) :=
  (memory.slots.rotate memory.position).reverse

def register (memory : Memory) (report : Report) : Memory :=
  if report.success then memory.registerSuccess else memory.registerFailure report.moment

/-- The slots hold the ends of the windows of some failures, the most recent first, as far as they
suffice, and are empty after that. -/
def Remembers (memory : Memory) (failures : List Instant) : Prop :=
  ∀ age < memory.slots.length,
    memory.latest[age]? = some (failures[age]?.map fun failed ↦ failed.after memory.window)

@[simp] theorem length_latest (memory : Memory) : memory.latest.length = memory.slots.length := by
  rw [latest, List.length_reverse, List.length_rotate]

theorem length_pos (memory : Memory) : 0 < memory.slots.length :=
  Nat.zero_lt_of_lt memory.position_lt

theorem window_registerSuccess (memory : Memory) :
    memory.registerSuccess.window = memory.window := by
  rw [window, rule_registerSuccess, window]

/-- The slot at the position is the one that was written first. -/
theorem getLast?_latest (memory : Memory) :
    memory.latest.getLast? = memory.slots[memory.position]? := by
  rw [latest, List.getLast?_reverse, List.head?_rotate memory.position_lt]

/-- Read from the next position on, a ring in which a slot is overwritten ends with the new entry
and has lost the old one in front. -/
theorem rotate_set {β : Type} {slots : List β} {position : Nat} (h : position < slots.length)
    (new : β) :
    (slots.set position new).rotate (position + 1) = (slots.rotate position).tail ++ [new] := by
  obtain ⟨before, rest, hslots, hposition, hset⟩ := @List.exists_of_set _ _ new _ h
  generalize slots[position] = old at hslots
  have hold : slots.rotate position = old :: rest ++ before := by
    rw [hslots, ← hposition, List.rotate_append_length_eq]
  have hlength : position + 1 = (before ++ [new]).length := by simp [hposition]
  calc (slots.set position new).rotate (position + 1)
      = ((before ++ [new]) ++ rest).rotate (before ++ [new]).length := by
        rw [hset, hlength, List.append_cons]
    _ = rest ++ (before ++ [new]) := List.rotate_append_length_eq _ _
    _ = (slots.rotate position).tail ++ [new] := by rw [hold]; simp

/-- A failure pushes out the slot that was written first. -/
theorem latest_registerFailure (memory : Memory) (now : Instant) :
    (memory.registerFailure now).latest =
      some (now.after memory.window) :: memory.latest.dropLast := by
  have hrotate : (memory.registerFailure now).slots.rotate (memory.registerFailure now).position =
      (memory.slots.rotate memory.position).tail ++ [some (now.after memory.window)] := by
    rw [← rotate_set memory.position_lt, ← List.rotate_mod _ (memory.position + 1),
      List.length_set]
    rfl
  rw [latest, hrotate, List.reverse_append, List.reverse_singleton, List.singleton_append, latest,
    List.dropLast_reverse]

/-- A success leaves no entry, if the rule resets. -/
theorem latest_registerSuccess (memory : Memory) :
    memory.registerSuccess.latest =
      if memory.rule.resetsOnSuccess then List.replicate memory.slots.length none
      else memory.latest := by
  unfold registerSuccess
  split
  · simp only [latest, List.map_const', List.rotate_replicate, List.reverse_replicate]
  · rfl

theorem remembers_ofRule (rule : Rule) : (ofRule rule).Remembers [] := by
  intro age hage
  have hlatest : (ofRule rule).latest = List.replicate (ofRule rule).slots.length none := by
    simp [latest, ofRule]
  rw [hlatest, List.getElem?_replicate, if_pos hage]
  rfl

/-- A failure is remembered as the most recent one. -/
theorem Remembers.registerFailure {memory : Memory} {failures : List Instant}
    (h : memory.Remembers failures) (now : Instant) :
    (memory.registerFailure now).Remembers (now :: failures) := by
  intro age hage
  rw [length_registerFailure] at hage
  rw [latest_registerFailure]
  cases age with
  | zero => rfl
  | succ age =>
    have hlt : age < memory.latest.length - 1 := by
      rw [length_latest]
      omega
    rw [List.getElem?_cons_succ, List.getElem?_cons_succ, List.getElem?_dropLast, if_pos hlt]
    exact h age (by omega)

/-- A success is remembered by forgetting, if the rule resets. -/
theorem Remembers.registerSuccess {memory : Memory} {failures : List Instant}
    (h : memory.Remembers failures) :
    memory.registerSuccess.Remembers (if memory.rule.resetsOnSuccess then [] else failures) := by
  intro age hage
  rw [length_registerSuccess] at hage
  rw [latest_registerSuccess, window_registerSuccess]
  split
  · rw [List.getElem?_replicate, if_pos hage]
    rfl
  · exact h age hage

/-- A caller waits for the window of the earliest failure that is still remembered. -/
theorem Remembers.delay {memory : Memory} {failures : List Instant}
    (h : memory.Remembers failures) (now : Instant) :
    memory.delay now =
      ((failures[memory.slots.length - 1]?).map fun failed ↦
        (failed.after memory.window).since now).getD Span.zero := by
  have hlast := h (memory.slots.length - 1) (Nat.sub_one_lt_of_lt memory.length_pos)
  have hslot : memory.slots.get ⟨memory.position, memory.position_lt⟩ =
      failures[memory.slots.length - 1]?.map fun failed ↦ failed.after memory.window := by
    apply Option.some.inj
    calc some (memory.slots.get ⟨memory.position, memory.position_lt⟩)
        = memory.slots[memory.position]? := (List.getElem?_eq_getElem memory.position_lt).symm
      _ = memory.latest.getLast? := memory.getLast?_latest.symm
      _ = memory.latest[memory.slots.length - 1]? := by
          rw [List.getLast?_eq_getElem?, length_latest]
      _ = _ := hlast
  unfold Memory.delay
  rw [hslot]
  cases failures[memory.slots.length - 1]? <;> rfl

/-! ### After some reports -/

def ofReports (rule : Rule) (reports : List Report) : Memory :=
  reports.foldl register (ofRule rule)

theorem ofReports_append_singleton (rule : Rule) (reports : List Report) (report : Report) :
    ofReports rule (reports ++ [report]) = (ofReports rule reports).register report := by
  simp [ofReports]

theorem rule_register (memory : Memory) (report : Report) :
    (memory.register report).rule = memory.rule := by
  unfold register
  split
  · exact memory.rule_registerSuccess
  · rfl

theorem length_register (memory : Memory) (report : Report) :
    (memory.register report).slots.length = memory.slots.length := by
  unfold register
  split
  · exact memory.length_registerSuccess
  · exact memory.length_registerFailure _

theorem rule_ofReports (rule : Rule) (reports : List Report) :
    (ofReports rule reports).rule = rule := by
  induction reports using List.reverseRecOn with
  | nil => rfl
  | append_singleton reports report ih => rw [ofReports_append_singleton, rule_register, ih]

theorem length_ofReports (rule : Rule) (reports : List Report) :
    (ofReports rule reports).slots.length = max 1 rule.maxEvents := by
  induction reports using List.reverseRecOn with
  | nil => exact List.length_replicate
  | append_singleton reports report ih => rw [ofReports_append_singleton, length_register, ih]

/-- The ring remembers the failures that count. -/
theorem remembers_ofReports (rule : Rule) (reports : List Report) :
    (ofReports rule reports).Remembers (rule.counted reports) := by
  induction reports using List.reverseRecOn with
  | nil =>
    rw [rule.counted_nil]
    exact remembers_ofRule rule
  | append_singleton reports report ih =>
    obtain ⟨success, moment⟩ := report
    rw [ofReports_append_singleton]
    cases success with
    | false =>
      rw [rule.counted_failure]
      exact ih.registerFailure moment
    | true =>
      rw [rule.counted_success]
      have hsuccess := ih.registerSuccess
      rw [rule_ofReports] at hsuccess
      exact hsuccess

/-- The ring makes a caller wait as long as the window does. -/
theorem nanos_delay_ofReports (rule : Rule) (reports : List Report) (now : Instant) :
    (((ofReports rule reports).delay now).nanos : Int) = rule.windowDelay reports now := by
  have hlength : (ofReports rule reports).slots.length - 1 = rule.maxEvents - 1 := by
    rw [length_ofReports]
    omega
  rw [(remembers_ofReports rule reports).delay, hlength, Rule.windowDelay]
  cases (rule.counted reports)[rule.maxEvents - 1]? with
  | none => rfl
  | some failed =>
    simp only [Option.map_some, Option.getD_some, Instant.since, Instant.after, window,
      rule_ofReports, Span.ofMillis]
    omega

end Memory

/-! ## The delay of a throttle -/

theorem rules_register (throttle : Throttle) (success : Bool) (now : Instant) :
    (throttle.register success now).rules =
      throttle.rules.map fun memory ↦ memory.register ⟨success, now⟩ := by
  cases success <;> rfl

/-- Each rule of a throttle learns of all reports on its own. -/
theorem rules_registerAll {throttle : Throttle} {rules : List Rule}
    (h : throttle.rules = rules.map Memory.ofRule) (reports : List Report) :
    (throttle.registerAll reports).rules =
      rules.map fun rule ↦ Memory.ofReports rule reports := by
  induction reports using List.reverseRecOn with
  | nil => exact h
  | append_singleton reports report ih =>
    rw [registerAll_append]
    calc (((throttle.registerAll reports).registerAll [report]).rules)
        = (throttle.registerAll reports).rules.map fun memory ↦ memory.register report :=
          rules_register _ _ _
      _ = _ := by
          rw [ih, List.map_map]
          exact List.map_congr_left fun rule _ ↦
            (Memory.ofReports_append_singleton rule reports report).symm

/-- The longest of some spans in nanoseconds. -/
theorem nanos_foldl_max (spans : List Span) (start : Span) :
    ((spans.foldl Span.max start).nanos : Int) =
      (spans.map fun span ↦ (span.nanos : Int)).foldl max (start.nanos : Int) := by
  induction spans generalizing start with
  | nil => rfl
  | cons span rest ih =>
    have hmax : ((start.max span).nanos : Int) = max (start.nanos : Int) span.nanos := by
      unfold Span.max
      split <;> omega
    rw [List.foldl_cons, ih, hmax, List.map_cons, List.foldl_cons]

/-- The longest of some spans, which is zero if there is none. -/
theorem nanos_foldl_max_zero (spans : List Span) :
    ((spans.foldl Span.max Span.zero).nanos : Int) =
      ((spans.map fun span ↦ (span.nanos : Int)).max?).getD 0 := by
  cases spans with
  | nil => rfl
  | cons span rest =>
    have hzero : Span.zero.max span = span := by
      unfold Span.max Span.zero
      split
      · rfl
      · next h => exact absurd (Nat.zero_le _) h
    rw [List.foldl_cons, hzero, nanos_foldl_max]
    rfl

/-- The delay of a throttle that began without failures is the longest that a rule imposes. -/
theorem nanos_currentDelay {throttle : Throttle} {rules : List Rule}
    (h : throttle.rules = rules.map Memory.ofRule) (reports : List Report) (now : Instant) :
    (((throttle.registerAll reports).currentDelay now).nanos : Int) =
      ((rules.map fun rule ↦ rule.windowDelay reports now).max?).getD 0 := by
  unfold currentDelay
  rw [nanos_foldl_max_zero, rules_registerAll h, List.map_map, List.map_map]
  have heach (rule : Rule) : (((Memory.ofReports rule reports).delay now).nanos : Int) =
      rule.windowDelay reports now := Memory.nanos_delay_ofReports rule reports now
  simp only [Function.comp_def, heach]

/-- A throttle with one rule makes a caller wait until the rule no longer blocks. -/
theorem consult_registerAll {throttle : Throttle} {rule : Rule}
    (h : throttle.rules = [Memory.ofRule rule]) (reports : List Report) (now : Instant) :
    (throttle.registerAll reports).consult now =
      if rule.windowDelay reports now = 0 then none
      else some ⟨(now.after ⟨(rule.windowDelay reports now).toNat⟩).nextTick,
        (throttle.registerAll reports).successes⟩ := by
  have hnanos : (((throttle.registerAll reports).currentDelay now).nanos : Int) =
      rule.windowDelay reports now := @nanos_currentDelay throttle [rule] h reports now
  have hdelay : (throttle.registerAll reports).currentDelay now =
      ⟨(rule.windowDelay reports now).toNat⟩ := by
    rw [← hnanos]
    rfl
  have hzero : (throttle.registerAll reports).currentDelay now = Span.zero ↔
      rule.windowDelay reports now = 0 := by
    rw [hdelay, Span.zero, Span.mk.injEq]
    omega
  unfold consult
  simp only [hzero]
  rw [hdelay]

/-- A caller passes a single rule exactly if the window of the rule delays nobody. -/
theorem consult_eq_none_iff {throttle : Throttle} {rule : Rule}
    (h : throttle.rules = [Memory.ofRule rule]) (reports : List Report) (now : Instant) :
    (throttle.registerAll reports).consult now = none ↔ rule.windowDelay reports now = 0 := by
  rw [consult_registerAll h]
  split
  · next hfree => exact ⟨fun _ ↦ hfree, fun _ ↦ rfl⟩
  · next hblocks => exact ⟨nofun, fun hfree ↦ absurd hfree hblocks⟩

/-- The delay of the throttle of a text is the sliding-window delay: each of its rules admits at
least one failure, and after any reports the delay is the longest among the rules, where a rule
`N/W` asks for what is left of `W` since the `N`th most recent failure that counts, and for nothing
while fewer than `N` count. -/
theorem currentDelay_eq_windowDelay {spec : String} {throttle : Throttle}
    (h : ofSpec spec = .ok throttle) :
    ∃ rules, Rule.parseSet spec.toList = .ok rules ∧ (∀ rule ∈ rules, 0 < rule.maxEvents) ∧
      ∀ (reports : List Report) (now : Instant),
        (((throttle.registerAll reports).currentDelay now).nanos : Int) =
          ((rules.map fun rule ↦ rule.windowDelay reports now).max?).getD 0 := by
  unfold ofSpec at h
  cases hparse : Rule.parseSet spec.toList with
  | error fault =>
    rw [hparse] at h
    cases h
  | ok rules =>
    rw [hparse] at h
    obtain rfl := Except.ok.inj h
    exact ⟨rules, rfl, fun rule hrule ↦ Rule.maxEvents_pos_of_parseSet hparse hrule,
      fun reports now ↦ nanos_currentDelay rfl reports now⟩

/-- Two failures, a success and a failure, a tenth of a second apart, are looked at a tenth of a second
later: only the last failure counts for the first rule, but it alone blocks the second rule. -/
theorem currentDelay_eq_windowDelay_of_failures :
    ∃ throttle, ofSpec "2/500ms, 1/m!" = .ok throttle ∧
      ((throttle.registerAll [⟨false, ⟨0⟩⟩, ⟨false, ⟨100000000⟩⟩, ⟨true, ⟨200000000⟩⟩,
        ⟨false, ⟨300000000⟩⟩]).currentDelay ⟨400000000⟩).nanos = (59900000000 : Int) := by
  obtain ⟨throttle, hthrottle⟩ : ∃ throttle, ofSpec "2/500ms, 1/m!" = .ok throttle := ⟨_, rfl⟩
  obtain ⟨rules, hparse, -, hdelay⟩ := currentDelay_eq_windowDelay hthrottle
  obtain rfl : [⟨2, 500, true⟩, ⟨1, 60000, false⟩] = rules := Except.ok.inj hparse
  exact ⟨throttle, hthrottle, (hdelay _ _).trans (by decide +kernel)⟩

end TableQueue.Throttle
