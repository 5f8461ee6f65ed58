import TableQueue.Proofs.World.Passes

/-!
# How often the bounds are cleared

There is one countdown for two intervals. It is loaded with the busy or the idle interval when it
runs out, and runs on with what it was loaded with when the worker turns from one to the other. So
passes that all find a job may be told apart by the idle interval, and passes between sleeps by the
busy one. What can be relied on is the greater of the two, and in each case the countdown tells.
-/

namespace TableQueue

variable {α : Type} {duties : Duties α}

/-- When the passes of a worker clear its bounds. -/
structure KeepsCadence (settings : Settings) (passes : List (Pass duties)) : Prop where
  /-- A pass clears the bounds if and only if the countdown is over. -/
  clears_iff : ∀ later pass earlier, passes = later ++ pass :: earlier →
    (pass.clears = true ↔ Pass.remaining settings earlier ≤ 1)
  /-- Such a pass begins without bounds. -/
  cleared : ∀ pass ∈ passes, pass.clears = true → pass.bounds = []
  /-- Of as many passes in a row as the busy interval has, which all find a job, one clears the
  bounds if and only if the countdown at their beginning is within that interval. -/
  busy : Pass.Regular Pass.yields settings.rescanEvery passes ↔
    Pass.Timely settings Pass.yields settings.rescanEvery passes
  /-- The same of the passes of a search after its first sleep and the idle interval. -/
  idle : Pass.Regular Pass.hasSlept settings.idleRescanEvery passes ↔
    Pass.Timely settings Pass.hasSlept settings.idleRescanEvery passes
  busy_of_le : settings.idleRescanEvery ≤ settings.rescanEvery →
    Pass.Regular Pass.yields settings.rescanEvery passes
  idle_of_le : settings.rescanEvery ≤ settings.idleRescanEvery →
    Pass.Regular Pass.hasSlept settings.idleRescanEvery passes

/-- Whatever the intervals are and however a worker fares, its countdown says which passes clear the
bounds. The greater interval is kept in any case. -/
theorem OpenRun.keeps_cadence {workers number : Nat} {shared : Shared} {now : Instant}
    {past : Past duties} {world : World duties} {member : Member duties}
    (hrescan : 1 ≤ duties.settings.rescanEvery) (hidle : 1 ≤ duties.settings.idleRescanEvery)
    (run : OpenRun (World.initial duties workers shared now) past world)
    (hmember : world.members[number]? = some member) :
    KeepsCadence duties.settings (past.passes number) := by
  have hlawful := (run.tallies hmember).lawful
  have hbusy := hlawful.regular_iff (fun _ ↦ Pass.owes_of_yields) hrescan
  have hslept := hlawful.regular_iff (fun _ ↦ Pass.owes_of_hasSlept) hidle
  refine ⟨fun later pass earlier hsplit ↦ ?_, fun pass hpass ↦ hlawful.bounds_eq_nil hpass, hbusy,
    hslept, fun hle ↦ hbusy.2 (Pass.timely_of_le ?_), fun hle ↦ hslept.2 (Pass.timely_of_le ?_)⟩
  · rw [hsplit] at hlawful
    exact hlawful.of_append.1
  · exact Nat.max_le.2 ⟨Nat.le_refl _, hle⟩
  · exact Nat.max_le.2 ⟨hle, Nat.le_refl _⟩

namespace Sample

def paced (rescanEvery idleRescanEvery : Nat) : Duties (List Cell) :=
  ⟨{ Settings.default with queueNames := ["a"], rescanEvery, idleRescanEvery }, ⟨.ok, id⟩, none⟩

/-- A worker finds nothing, falls asleep and wakes up to two rows that somebody has added. -/
def wakingMoves : List Move :=
  [.start, .resume 0] ++ rounds 0 (smooth 11) ++
    [.pass (Span.ofSeconds 60), .produce (row 5 [.whole 0]) ⟨0⟩, .produce (row 6 [.whole 1]) ⟨0⟩,
      .resume 0] ++ rounds 0 (smooth 9)

def waking (rescanEvery idleRescanEvery : Nat) :
    Past (paced rescanEvery idleRescanEvery) × World (paced rescanEvery idleRescanEvery) :=
  (World.initial (paced rescanEvery idleRescanEvery) 1 shared ⟨10000000000⟩).play wakingMoves

end Sample

theorem keeps_cadence_of_waking :
    ((Sample.waking 1 2).1.passes 0).map (fun pass ↦ (pass.hasSlept, pass.yields, pass.clears)) =
      [(false, true, false), (true, true, true), (false, false, true), (false, false, true)] ∧
    KeepsCadence (Sample.paced 1 2).settings ((Sample.waking 1 2).1.passes 0) :=
  ⟨by decide +kernel,
    OpenRun.keeps_cadence (by decide) (by decide) (.of_run (Run.play _ Sample.wakingMoves)) rfl⟩

theorem Pass.not_regular_one {kind : Pass duties → Bool} {passes : List (Pass duties)}
    (hkind : ∀ pass ∈ passes.take 1, kind pass = true ∧ pass.clears = false)
    (hlength : (passes.take 1).length = 1) : ¬ Pass.Regular kind 1 passes := by
  intro hregular
  obtain ⟨pass, hpass, hclears⟩ := hregular [] (passes.take 1) (passes.drop 1)
    (List.take_append_drop 1 passes).symm hlength fun pass hpass ↦ (hkind pass hpass).1
  rw [(hkind pass hpass).2] at hclears
  cases hclears

/-- Where the idle interval is one pass, the pass after a sleep does not clear the bounds, and so it
misses the rows: the rescan before the sleep has loaded the busy interval. Where the busy interval is
one pass, the second job is found by its bound: the rescan after the sleep has loaded the idle one. -/
theorem misses_rescans_of_waking :
    ¬ Pass.Regular Pass.hasSlept (Sample.paced 2 1).settings.idleRescanEvery
        ((Sample.waking 2 1).1.passes 0) ∧
      ¬ Pass.Regular Pass.yields (Sample.paced 1 2).settings.rescanEvery
        ((Sample.waking 1 2).1.passes 0) :=
  ⟨Pass.not_regular_one (by decide +kernel) (by decide +kernel),
    Pass.not_regular_one (by decide +kernel) (by decide +kernel)⟩

end TableQueue
