import Mathlib.Data.List.Induction
import Mathlib.Data.List.Nodup
import TableQueue.Assembly

/-!
# Plans

Every kind of choice fills a part of the description of its own and leaves the other parts alone. So a
description without repetitions is known from which choices were made, and the order in which they
were made is not: whatever comes of it, a plan or a fault, comes of every order. The settings of a
plan have their value from the choice that is about them, from the environment where there is none,
and from the defaults where the environment says nothing. A repetition is found before anything else
is looked at.
-/

attribute [ext] TableQueue.Overrides TableQueue.Settings TableQueue.Assembly TableQueue.Assembly.Plan

namespace TableQueue

/-! ## Parts of a description -/

namespace Assembly

variable {β γ δ : Type} {choices choices' : List Choice} {choice : β → Choice}
  {part : Assembly → γ} {value : β → γ}

@[simp] theorem ofChoices_append_singleton (choices : List Choice) (choice : Choice) :
    ofChoices (choices ++ [choice]) = (ofChoices choices).choose choice := by
  simp [ofChoices]

/-- One kind of choice fills a part of a description, and no other kind does. -/
structure Fills (choice : β → Choice) (part : Assembly → γ) (value : β → γ) : Prop where
  filled : ∀ (assembly : Assembly) b, part (assembly.choose (choice b)) = value b
  kept : ∀ (assembly : Assembly) other, (∀ b, other ≠ choice b) →
    part (assembly.choose other) = part assembly
  setting_eq : ∀ b b', (choice b).setting = (choice b').setting

namespace Fills

/-- What is read off a part is filled by the same kind of choice. -/
theorem map (h : Fills choice part value) (f : γ → δ) :
    Fills choice (fun assembly ↦ f (part assembly)) fun b ↦ f (value b) where
  filled assembly b := congrArg f (h.filled assembly b)
  kept assembly other hother := congrArg f (h.kept assembly other hother)
  setting_eq := h.setting_eq

/-- A part that is not chosen stays as it was at first. -/
theorem of_forall_notMem (h : Fills choice part value) (hnone : ∀ b, choice b ∉ choices) :
    part (ofChoices choices) = part empty := by
  induction choices using List.reverseRecOn with
  | nil => rfl
  | append_singleton choices last ih =>
    have hlast : ∀ b, last ≠ choice b := by
      rintro b rfl
      exact hnone b (by simp)
    have hbefore : ∀ b, choice b ∉ choices := fun b hmem ↦
      hnone b (List.mem_append_left [last] hmem)
    calc part (ofChoices (choices ++ [last]))
        = part ((ofChoices choices).choose last) := by rw [ofChoices_append_singleton]
      _ = part (ofChoices choices) := h.kept _ last hlast
      _ = part empty := ih hbefore

/-- Without repetitions a part has what was chosen for it, wherever among the choices. -/
theorem of_mem (h : Fills choice part value) (hdistinct : (choices.map Choice.setting).Nodup)
    {b : β} (hmem : choice b ∈ choices) : part (ofChoices choices) = value b := by
  induction choices using List.reverseRecOn with
  | nil => exact absurd hmem List.not_mem_nil
  | append_singleton choices last ih =>
    rw [ofChoices_append_singleton]
    rw [List.map_append, List.nodup_append] at hdistinct
    obtain ⟨hbefore, -, hapart⟩ := hdistinct
    rcases List.mem_append.1 hmem with hearlier | hlast
    · -- The last choice is about another setting, so it is of another kind.
      have hsetting : (choice b).setting ∈ choices.map Choice.setting :=
        List.mem_map_of_mem hearlier
      have hother : ∀ b', last ≠ choice b' := by
        rintro b' rfl
        exact hapart _ hsetting _ (by simp) (h.setting_eq b b')
      calc part ((ofChoices choices).choose last)
          = part (ofChoices choices) := h.kept _ last hother
        _ = value b := ih hbefore hearlier
    · rw [← List.mem_singleton.1 hlast, h.filled]

theorem eq_of_perm (h : Fills choice part value) (hdistinct : (choices.map Choice.setting).Nodup)
    (hperm : choices.Perm choices') : part (ofChoices choices') = part (ofChoices choices) := by
  have hdistinct' := (hperm.map Choice.setting).nodup_iff.1 hdistinct
  by_cases hsome : ∃ b, choice b ∈ choices
  · obtain ⟨b, hmem⟩ := hsome
    calc part (ofChoices choices')
        = value b := h.of_mem hdistinct' (hperm.subset hmem)
      _ = part (ofChoices choices) := (h.of_mem hdistinct hmem).symm
  · have hnone := not_exists.1 hsome
    have hnone' : ∀ b, choice b ∉ choices' := fun b hmem ↦ hnone b (hperm.symm.subset hmem)
    calc part (ofChoices choices')
        = part empty := h.of_forall_notMem hnone'
      _ = part (ofChoices choices) := (h.of_forall_notMem hnone).symm

end Fills

theorem fills_queueNames : Fills .queueNames (·.explicit.queueNames) some where
  filled _ _ := rfl
  kept _ other h := by cases other with | queueNames b => exact absurd rfl (h b) | _ => rfl
  setting_eq _ _ := rfl

theorem fills_maxTries : Fills .maxTries (·.explicit.maxTries) some where
  filled _ _ := rfl
  kept _ other h := by cases other with | maxTries b => exact absurd rfl (h b) | _ => rfl
  setting_eq _ _ := rfl

theorem fills_emptyQueueSleep : Fills .emptyQueueSleep (·.explicit.emptyQueueSleepMillis)
    fun span ↦ some (min (span.nanos / 1000000) 18446744073709551615) where
  filled _ _ := rfl
  kept _ other h := by cases other with | emptyQueueSleep b => exact absurd rfl (h b) | _ => rfl
  setting_eq _ _ := rfl

theorem fills_maxQueryTime : Fills .maxQueryTime (·.explicit.maxQueryTimeMillis)
    fun span ↦ some (min (span.nanos / 1000000) 18446744073709551615) where
  filled _ _ := rfl
  kept _ other h := by cases other with | maxQueryTime b => exact absurd rfl (h b) | _ => rfl
  setting_eq _ _ := rfl

theorem fills_rescanEvery : Fills .rescanEvery (·.explicit.rescanEvery) some where
  filled _ _ := rfl
  kept _ other h := by cases other with | rescanEvery b => exact absurd rfl (h b) | _ => rfl
  setting_eq _ _ := rfl

theorem fills_idleRescanEvery : Fills .idleRescanEvery (·.explicit.idleRescanEvery) some where
  filled _ _ := rfl
  kept _ other h := by cases other with | idleRescanEvery b => exact absurd rfl (h b) | _ => rfl
  setting_eq _ _ := rfl

theorem fills_databaseConnectThrottle :
    Fills .databaseConnectThrottle (·.explicit.databaseConnectThrottle) some where
  filled _ _ := rfl
  kept _ other h := by
    cases other with | databaseConnectThrottle b => exact absurd rfl (h b) | _ => rfl
  setting_eq _ _ := rfl

theorem fills_failureThrottle : Fills .failureThrottle (·.explicit.failureThrottle) some where
  filled _ _ := rfl
  kept _ other h := by cases other with | failureThrottle b => exact absurd rfl (h b) | _ => rfl
  setting_eq _ _ := rfl

theorem fills_deduplicateDisable :
    Fills .deduplicateDisable (·.explicit.deduplicateDisable) some where
  filled _ _ := rfl
  kept _ other h := by cases other with | deduplicateDisable b => exact absurd rfl (h b) | _ => rfl
  setting_eq _ _ := rfl

theorem fills_includePostponedDuplicates :
    Fills .includePostponedDuplicates (·.explicit.includePostponedDuplicates) some where
  filled _ _ := rfl
  kept _ other h := by
    cases other with | includePostponedDuplicates b => exact absurd rfl (h b) | _ => rfl
  setting_eq _ _ := rfl

theorem fills_dataSource : Fills (fun () ↦ .dataSource) (·.hasDataSource) fun () ↦ true where
  filled _ _ := rfl
  kept _ other h := by cases other with | dataSource => exact absurd rfl (h ()) | _ => rfl
  setting_eq _ _ := rfl

theorem fills_skipDuplicateJobs :
    Fills (fun () ↦ .skipDuplicateJobs) (·.skipsDuplicates) fun () ↦ true where
  filled _ _ := rfl
  kept _ other h := by cases other with | skipDuplicateJobs => exact absurd rfl (h ()) | _ => rfl
  setting_eq _ _ := rfl

theorem fills_metrics : Fills (fun () ↦ .metrics) (·.hasMetrics) fun () ↦ true where
  filled _ _ := rfl
  kept _ other h := by cases other with | metrics => exact absurd rfl (h ()) | _ => rfl
  setting_eq _ _ := rfl

theorem fills_health : Fills .health (·.health) some where
  filled _ _ := rfl
  kept _ other h := by cases other with | health b => exact absurd rfl (h b) | _ => rfl
  setting_eq _ _ := rfl

theorem fills_runtime : Fills (fun () ↦ .runtime) (·.hasRuntime) fun () ↦ true where
  filled _ _ := rfl
  kept _ other h := by cases other with | runtime => exact absurd rfl (h ()) | _ => rfl
  setting_eq _ _ := rfl

theorem fills_environment : Fills .environment (·.environment) some where
  filled _ _ := rfl
  kept _ other h := by cases other with | environment b => exact absurd rfl (h b) | _ => rfl
  setting_eq _ _ := rfl

/-- Without repetitions every order of the choices makes the same description. -/
theorem ofChoices_eq_of_perm (hdistinct : (choices.map Choice.setting).Nodup)
    (hperm : choices.Perm choices') : ofChoices choices' = ofChoices choices := by
  ext1
  · ext1
    · exact fills_queueNames.eq_of_perm hdistinct hperm
    · exact fills_maxTries.eq_of_perm hdistinct hperm
    · exact fills_emptyQueueSleep.eq_of_perm hdistinct hperm
    · exact fills_maxQueryTime.eq_of_perm hdistinct hperm
    · exact fills_rescanEvery.eq_of_perm hdistinct hperm
    · exact fills_idleRescanEvery.eq_of_perm hdistinct hperm
    · exact fills_databaseConnectThrottle.eq_of_perm hdistinct hperm
    · exact fills_failureThrottle.eq_of_perm hdistinct hperm
    · exact fills_deduplicateDisable.eq_of_perm hdistinct hperm
    · exact fills_includePostponedDuplicates.eq_of_perm hdistinct hperm
  · exact fills_dataSource.eq_of_perm hdistinct hperm
  · exact fills_skipDuplicateJobs.eq_of_perm hdistinct hperm
  · exact fills_metrics.eq_of_perm hdistinct hperm
  · exact fills_health.eq_of_perm hdistinct hperm
  · exact fills_runtime.eq_of_perm hdistinct hperm
  · exact fills_environment.eq_of_perm hdistinct hperm

/-! ## Repetitions -/

/-- One more choice is the first to repeat a setting if none did before and its setting is known. -/
theorem firstRepeated_append_singleton (seen : List String) (choices : List Choice)
    (last : Choice) :
    firstRepeated seen (choices ++ [last]) = (firstRepeated seen choices).or
      (if last.setting ∈ choices.map Choice.setting ∨ last.setting ∈ seen then some last.setting
        else none) := by
  induction choices generalizing seen with
  | nil => simp [firstRepeated]
  | cons choice rest ih =>
    rw [List.cons_append, firstRepeated, firstRepeated]
    split
    · rfl
    · rw [ih (choice.setting :: seen), List.map_cons]
      simp only [List.mem_cons, or_assoc, or_left_comm]

/-- No choice is repeated exactly if the settings of the choices are distinct. -/
theorem firstRepeated_eq_none_iff :
    firstRepeated [] choices = none ↔ (choices.map Choice.setting).Nodup := by
  induction choices using List.reverseRecOn with
  | nil => simp [firstRepeated]
  | append_singleton choices last ih =>
    have hnodup : ((choices ++ [last]).map Choice.setting).Nodup ↔
        (choices.map Choice.setting).Nodup ∧ last.setting ∉ choices.map Choice.setting := by
      rw [List.map_append, List.map_singleton, List.nodup_append_comm, List.singleton_append,
        List.nodup_cons, and_comm]
    rw [firstRepeated_append_singleton, Option.or_eq_none_iff, ih, hnodup]
    simp

/-- Where settings are repeated, the earliest choice that repeats one tells the setting. -/
theorem exists_firstRepeated (hrepeated : ¬ (choices.map Choice.setting).Nodup) :
    ∃ before choice after, choices = before ++ choice :: after ∧
      (before.map Choice.setting).Nodup ∧ choice.setting ∈ before.map Choice.setting ∧
      firstRepeated [] choices = some choice.setting := by
  induction choices using List.reverseRecOn with
  | nil => exact absurd List.nodup_nil hrepeated
  | append_singleton choices last ih =>
    by_cases hdistinct : (choices.map Choice.setting).Nodup
    · have hstep := firstRepeated_append_singleton [] choices last
      rw [firstRepeated_eq_none_iff.2 hdistinct, Option.none_or] at hstep
      have hmem : last.setting ∈ choices.map Choice.setting := by
        by_contra hnew
        refine hrepeated (firstRepeated_eq_none_iff.1 (hstep.trans (if_neg ?_)))
        exact not_or.2 ⟨hnew, List.not_mem_nil⟩
      exact ⟨choices, last, [], rfl, hdistinct, hmem, hstep.trans (if_pos (.inl hmem))⟩
    · obtain ⟨before, choice, after, rfl, hbefore, hmem, hfirst⟩ := ih hdistinct
      refine ⟨before, choice, after ++ [last], by simp, hbefore, hmem, ?_⟩
      rw [firstRepeated_append_singleton, hfirst, Option.some_or]

end Assembly

/-! ## Settings -/

section Decides

variable {β γ : Type} {choices : List Choice} {choice : β → Choice} {part : Assembly → Option γ}
  {value : β → γ} {environment : Option γ} {fallback result result' : γ}

/-- A setting has the value that was chosen for it; where none was, that of the environment; where
the environment has none, the default. -/
structure Decides (choices : List Choice) (choice : β → Choice) (value : β → γ)
    (environment : Option γ) (fallback result : γ) : Prop where
  chosen : ∀ b, choice b ∈ choices → result = value b
  left : (∀ b, choice b ∉ choices) → result = environment.getD fallback

/-- A setting has one value. -/
theorem Decides.unique (h : Decides choices choice value environment fallback result)
    (h' : Decides choices choice value environment fallback result') : result = result' := by
  by_cases hsome : ∃ b, choice b ∈ choices
  · obtain ⟨b, hmem⟩ := hsome
    exact (h.chosen b hmem).trans (h'.chosen b hmem).symm
  · have hnone := not_exists.1 hsome
    exact (h.left hnone).trans (h'.left hnone).symm

/-- A setting is decided by its part of the description, before the environment and the default. -/
theorem Assembly.Fills.decides (h : Assembly.Fills choice part fun b ↦ some (value b))
    (hempty : part Assembly.empty = none) (hdistinct : (choices.map Choice.setting).Nodup) :
    Decides choices choice value environment fallback
      (Settings.choose (part (Assembly.ofChoices choices)) environment fallback) where
  chosen b hmem := by
    rw [h.of_mem hdistinct hmem]
    rfl
  left hnone := by
    rw [h.of_forall_notMem hnone, hempty]
    rfl

theorem Assembly.Fills.decides_iff (h : Assembly.Fills choice part fun b ↦ some (value b))
    (hempty : part Assembly.empty = none) (hdistinct : (choices.map Choice.setting).Nodup) :
    Decides choices choice value environment fallback result ↔
      result = Settings.choose (part (Assembly.ofChoices choices)) environment fallback where
  mp hresult := hresult.unique (h.decides hempty hdistinct)
  mpr hresult := hresult ▸ h.decides hempty hdistinct

end Decides

namespace Settings

variable {choices : List Choice} {environment : Overrides} {settings : Settings}

/-- Every setting is decided by the choices, the environment and the defaults. A chosen span is cut to
whole milliseconds, of which it has no more than fit into 64 bits. -/
structure Resolves (choices : List Choice) (environment : Overrides) (settings : Settings) :
    Prop where
  queueNames : Decides choices .queueNames id environment.queueNames default.queueNames
    settings.queueNames
  maxTries : Decides choices .maxTries id environment.maxTries default.maxTries settings.maxTries
  emptyQueueSleep : Decides choices .emptyQueueSleep
    (fun span ↦ Span.ofMillis (min (span.nanos / 1000000) 18446744073709551615))
    (environment.emptyQueueSleepMillis.map Span.ofMillis) default.emptyQueueSleep
    settings.emptyQueueSleep
  maxQueryTime : Decides choices .maxQueryTime
    (fun span ↦ Span.ofMillis (min (span.nanos / 1000000) 18446744073709551615))
    (environment.maxQueryTimeMillis.map Span.ofMillis) default.maxQueryTime settings.maxQueryTime
  rescanEvery : Decides choices .rescanEvery id environment.rescanEvery default.rescanEvery
    settings.rescanEvery
  idleRescanEvery : Decides choices .idleRescanEvery id environment.idleRescanEvery
    default.idleRescanEvery settings.idleRescanEvery
  databaseConnectThrottle : Decides choices .databaseConnectThrottle id
    environment.databaseConnectThrottle default.databaseConnectThrottle
    settings.databaseConnectThrottle
  failureThrottle : Decides choices .failureThrottle id environment.failureThrottle
    default.failureThrottle settings.failureThrottle
  deduplicateDisable : Decides choices .deduplicateDisable id environment.deduplicateDisable
    default.deduplicateDisable settings.deduplicateDisable
  includePostponedDuplicates : Decides choices .includePostponedDuplicates id
    environment.includePostponedDuplicates default.includePostponedDuplicates
    settings.includePostponedDuplicates

/-- Merging resolves every setting. -/
theorem resolves_merge (hdistinct : (choices.map Choice.setting).Nodup) :
    (merge (Assembly.ofChoices choices).explicit environment).Resolves choices environment where
  queueNames := Assembly.fills_queueNames.decides rfl hdistinct
  maxTries := Assembly.fills_maxTries.decides rfl hdistinct
  emptyQueueSleep :=
    (Assembly.fills_emptyQueueSleep.map (Option.map Span.ofMillis)).decides rfl hdistinct
  maxQueryTime := (Assembly.fills_maxQueryTime.map (Option.map Span.ofMillis)).decides rfl hdistinct
  rescanEvery := Assembly.fills_rescanEvery.decides rfl hdistinct
  idleRescanEvery := Assembly.fills_idleRescanEvery.decides rfl hdistinct
  databaseConnectThrottle := Assembly.fills_databaseConnectThrottle.decides rfl hdistinct
  failureThrottle := Assembly.fills_failureThrottle.decides rfl hdistinct
  deduplicateDisable := Assembly.fills_deduplicateDisable.decides rfl hdistinct
  includePostponedDuplicates := Assembly.fills_includePostponedDuplicates.decides rfl hdistinct

theorem Resolves.unique {settings' : Settings} (h : settings.Resolves choices environment)
    (h' : settings'.Resolves choices environment) : settings = settings' := by
  ext1
  · exact h.queueNames.unique h'.queueNames
  · exact h.maxTries.unique h'.maxTries
  · exact h.emptyQueueSleep.unique h'.emptyQueueSleep
  · exact h.maxQueryTime.unique h'.maxQueryTime
  · exact h.rescanEvery.unique h'.rescanEvery
  · exact h.idleRescanEvery.unique h'.idleRescanEvery
  · exact h.databaseConnectThrottle.unique h'.databaseConnectThrottle
  · exact h.failureThrottle.unique h'.failureThrottle
  · exact h.deduplicateDisable.unique h'.deduplicateDisable
  · exact h.includePostponedDuplicates.unique h'.includePostponedDuplicates

/-- The merged settings are the only ones that resolve the choices. -/
theorem eq_merge_iff_resolves (hdistinct : (choices.map Choice.setting).Nodup) :
    settings = merge (Assembly.ofChoices choices).explicit environment ↔
      settings.Resolves choices environment where
  mp h := h ▸ resolves_merge hdistinct
  mpr h := h.unique (resolves_merge hdistinct)

/-- Settings pass the check exactly if they are valid, and are not changed by it. -/
theorem validated_eq_ok_iff {result : Settings} :
    settings.validated = .ok result ↔ settings = result ∧ result.IsValid where
  mp h := by
    obtain ⟨rfl, hvalid⟩ := isValid_of_validated h
    exact ⟨rfl, hvalid⟩
  mpr := by
    rintro ⟨rfl, hvalid⟩
    have htries := hvalid.one_le_maxTries
    have hrescan := hvalid.one_le_rescanEvery
    have hidle := hvalid.one_le_idleRescanEvery
    rw [validated, if_neg hvalid.queueNames_ne_nil, if_neg (by omega), if_neg (by omega)]

end Settings

/-! ## Plans -/

section Checks

variable {ε α β : Type} {x : Except ε α} {f : α → Except ε β} {k : Except ε β} {e : ε} {b : β}
  {p : Prop} [Decidable p]

theorem bind_eq_ok_iff : x >>= f = .ok b ↔ ∃ a, x = .ok a ∧ f a = .ok b := by
  cases x with
  | error e => exact ⟨nofun, nofun⟩
  | ok a => exact ⟨fun h ↦ ⟨a, rfl, h⟩, by rintro ⟨_, ⟨⟩, h⟩; exact h⟩

/-- What comes after a condition that has to hold. -/
theorem demand_eq_ok_iff :
    (if p then k else throw e >>= fun _ : PUnit ↦ k) = .ok b ↔ p ∧ k = .ok b := by
  split
  next h => simp only [h, true_and]
  next h => exact ⟨nofun, fun h' ↦ absurd h'.1 h⟩

/-- What comes after a condition that must not hold. -/
theorem refuse_eq_ok_iff :
    (if p then throw e >>= fun _ : PUnit ↦ k else k) = .ok b ↔ ¬ p ∧ k = .ok b := by
  split
  next h => exact ⟨nofun, fun h' ↦ absurd h h'.1⟩
  next h => simp only [h, not_false_eq_true, true_and]

end Checks

namespace Assembly

variable {choices choices' : List Choice} {surroundings : Surroundings} {assembly : Assembly}
  {plan : Plan}

/-- What a check without repetitions asks for, and the plan that it makes. -/
theorem check_eq_ok_iff : assembly.check surroundings = .ok plan ↔
    ∃ environment, Overrides.ofVariables (assembly.environment.getD surroundings.process) =
        .ok environment ∧
      plan.settings = Settings.merge assembly.explicit environment ∧ plan.settings.IsValid ∧
      assembly.hasDataSource = true ∧ surroundings.workers ≠ 0 ∧
      Throttle.ofSpec plan.settings.databaseConnectThrottle = .ok plan.connectThrottle ∧
      Throttle.ofSpec plan.settings.failureThrottle = .ok plan.failureThrottle ∧
      Breaker.parse plan.settings.deduplicateDisable = .ok plan.breaker ∧
      (assembly.hasRuntime || surroundings.ambientRuntime) = true ∧
      plan.workers = surroundings.workers ∧
      plan.health = Health.ofThreshold (assembly.health.getD Health.defaultThreshold) ∧
      plan.skipsDuplicates = assembly.skipsDuplicates ∧
      plan.log = if assembly.hasMetrics then [] else [metricsDiscarded] := by
  simp only [check, bind_eq_ok_iff, Settings.validated_eq_ok_iff, demand_eq_ok_iff,
    refuse_eq_ok_iff]
  refine exists_congr fun environment ↦ and_congr_right fun _ ↦ ⟨?_, ?_⟩
  · rintro ⟨_, ⟨rfl, hvalid⟩, hsource, hworkers, connect, hconnect, failure, hfailure, breaker,
      hbreaker, hruntime, ⟨⟩⟩
    exact ⟨rfl, hvalid, hsource, hworkers, hconnect, hfailure, hbreaker, hruntime, rfl, rfl, rfl,
      rfl⟩
  · rintro ⟨hmerge, hvalid, hsource, hworkers, hconnect, hfailure, hbreaker, hruntime, hcount,
      hhealth, hskips, hlog⟩
    refine ⟨plan.settings, ⟨hmerge.symm, hvalid⟩, hsource, hworkers, plan.connectThrottle, hconnect,
      plan.failureThrottle, hfailure, plan.breaker, hbreaker, hruntime, congrArg Except.ok ?_⟩
    rw [← hcount, ← hhealth, ← hskips, ← hlog]

/-- A plan is what its choices, its surroundings and the settings of an environment say. -/
structure Plan.Meets (choices : List Choice) (surroundings : Surroundings)
    (environment : Overrides) (plan : Plan) : Prop where
  resolves : plan.settings.Resolves choices environment
  isValid : plan.settings.IsValid
  dataSource_mem : Choice.dataSource ∈ choices
  workers_ne_zero : surroundings.workers ≠ 0
  workers_eq : plan.workers = surroundings.workers
  connectThrottle : Throttle.ofSpec plan.settings.databaseConnectThrottle = .ok plan.connectThrottle
  failureThrottle : Throttle.ofSpec plan.settings.failureThrottle = .ok plan.failureThrottle
  breaker : Breaker.parse plan.settings.deduplicateDisable = .ok plan.breaker
  runtime : Choice.runtime ∈ choices ∨ surroundings.ambientRuntime = true
  health : Decides choices .health Health.ofThreshold none
    (Health.ofThreshold Health.defaultThreshold) plan.health
  skipsDuplicates_iff : plan.skipsDuplicates = true ↔ Choice.skipDuplicateJobs ∈ choices
  log_eq : plan.log = if Choice.metrics ∈ choices then [] else [metricsDiscarded]

/-- A flag is raised by its choice alone. -/
theorem Fills.flag_eq_true_iff {flag : Assembly → Bool} {raise : Choice}
    (h : Fills (fun () ↦ raise) flag fun () ↦ true) (hempty : flag empty = false)
    (hdistinct : (choices.map Choice.setting).Nodup) :
    flag (ofChoices choices) = true ↔ raise ∈ choices where
  mp hflag := by
    by_contra hnone
    rw [h.of_forall_notMem fun () ↦ hnone, hempty] at hflag
    contradiction
  mpr hmem := h.of_mem (b := ()) hdistinct hmem

/-- Without repetitions a plan is what the check of the description gives. -/
theorem plan_eq_check (hdistinct : (choices.map Choice.setting).Nodup) :
    Assembly.plan choices surroundings = (ofChoices choices).check surroundings := by
  rw [Assembly.plan, firstRepeated_eq_none_iff.2 hdistinct]

/-- The variables read are those that were chosen, else those of the process. -/
theorem decides_environment_iff {pairs : List (String × String)}
    (hdistinct : (choices.map Choice.setting).Nodup) :
    Decides choices .environment id none surroundings.process pairs ↔
      pairs = (ofChoices choices).environment.getD surroundings.process := by
  refine (fills_environment.decides_iff rfl hdistinct).trans ?_
  rw [Settings.choose, Option.or_none]

theorem decides_health_iff {health : Health} (hdistinct : (choices.map Choice.setting).Nodup) :
    Decides choices .health Health.ofThreshold none (Health.ofThreshold Health.defaultThreshold)
        health ↔
      health = Health.ofThreshold ((ofChoices choices).health.getD Health.defaultThreshold) := by
  rw [(fills_health.map (Option.map Health.ofThreshold)).decides_iff rfl hdistinct,
    Settings.choose, Option.or_none, Option.getD_map]

/-- What makes a plan, in terms of the choices alone. -/
theorem plan_eq_ok_iff (hdistinct : (choices.map Choice.setting).Nodup) :
    Assembly.plan choices surroundings = .ok plan ↔ ∃ pairs environment,
      Decides choices .environment id none surroundings.process pairs ∧
        Overrides.ofVariables pairs = .ok environment ∧
        plan.Meets choices surroundings environment := by
  have hsource := fills_dataSource.flag_eq_true_iff rfl hdistinct
  have hruntime := fills_runtime.flag_eq_true_iff rfl hdistinct
  have hskips := fills_skipDuplicateJobs.flag_eq_true_iff rfl hdistinct
  have hmetrics := fills_metrics.flag_eq_true_iff rfl hdistinct
  simp only [plan_eq_check hdistinct, check_eq_ok_iff, hsource, hmetrics, Bool.or_eq_true, hruntime]
  constructor
  · rintro ⟨environment, hread, hmerge, hvalid, hsource, hworkers, hconnect, hfailure, hbreaker,
      hruntime, hcount, hhealth, hflag, hlog⟩
    refine ⟨_, environment, (decides_environment_iff hdistinct).2 rfl, hread, ?_⟩
    exact {
      resolves := (Settings.eq_merge_iff_resolves hdistinct).1 hmerge
      isValid := hvalid
      dataSource_mem := hsource
      workers_ne_zero := hworkers
      workers_eq := hcount
      connectThrottle := hconnect
      failureThrottle := hfailure
      breaker := hbreaker
      runtime := hruntime
      health := (decides_health_iff hdistinct).2 hhealth
      skipsDuplicates_iff := hflag ▸ hskips
      log_eq := hlog }
  · rintro ⟨pairs, environment, hpairs, hread, hmeets⟩
    obtain rfl := (decides_environment_iff hdistinct).1 hpairs
    exact ⟨environment, hread, (Settings.eq_merge_iff_resolves hdistinct).2 hmeets.resolves,
      hmeets.isValid, hmeets.dataSource_mem, hmeets.workers_ne_zero, hmeets.connectThrottle,
      hmeets.failureThrottle, hmeets.breaker, hmeets.runtime, hmeets.workers_eq,
      (decides_health_iff hdistinct).1 hmeets.health,
      Bool.eq_iff_iff.2 (hmeets.skipsDuplicates_iff.trans hskips.symm), hmeets.log_eq⟩

/-- A repetition is reported before anything else, by the setting of the earliest choice that repeats
one. Without repetitions the order of the choices plays no part, and the plans there are are those
in which every choice is met. -/
theorem plan_of_choices (choices : List Choice) (surroundings : Surroundings) :
    (¬ (choices.map Choice.setting).Nodup → ∃ before choice after,
      choices = before ++ choice :: after ∧ (before.map Choice.setting).Nodup ∧
        choice.setting ∈ before.map Choice.setting ∧
        Assembly.plan choices surroundings = .error (.duplicateSetting choice.setting)) ∧
    ((choices.map Choice.setting).Nodup →
      (∀ choices', choices.Perm choices' →
        Assembly.plan choices' surroundings = Assembly.plan choices surroundings) ∧
      ∀ plan : Plan, Assembly.plan choices surroundings = .ok plan ↔ ∃ pairs environment,
        Decides choices .environment id none surroundings.process pairs ∧
          Overrides.ofVariables pairs = .ok environment ∧
          plan.Meets choices surroundings environment) := by
  refine ⟨fun hrepeated ↦ ?repeated, fun hdistinct ↦ ⟨fun choices' hperm ↦ ?order, ?plans⟩⟩
  case repeated =>
    obtain ⟨before, choice, after, hsplit, hbefore, hmem, hfirst⟩ := exists_firstRepeated hrepeated
    refine ⟨before, choice, after, hsplit, hbefore, hmem, ?_⟩
    rw [Assembly.plan, hfirst]
  case order =>
    have hdistinct' := (hperm.map Choice.setting).nodup_iff.1 hdistinct
    calc Assembly.plan choices' surroundings
        = (ofChoices choices').check surroundings := plan_eq_check hdistinct'
      _ = (ofChoices choices).check surroundings := by rw [ofChoices_eq_of_perm hdistinct hperm]
      _ = Assembly.plan choices surroundings := (plan_eq_check hdistinct).symm
  case plans => exact fun plan ↦ plan_eq_ok_iff hdistinct

/-- A span beyond all counts is held at the largest one and another is cut to a whole millisecond, a
chosen limit comes before the one in the environment, and the same choices backwards make the same
plan; with two of them repeated, the limit is named, although it is no valid one. -/
theorem plan_of_choices_and_environment :
    let choices : List Choice := [.queueNames ["high", "low"], .maxTries 5,
      .emptyQueueSleep (Span.ofSeconds 18446744073709551615), .maxQueryTime ⟨1999999⟩, .dataSource,
      .environment [("PGQUEUE_MAX_TRIES", "9"), ("PGQUEUE_RESCAN_EVERY", "7")]]
    let repeated : List Choice := choices ++ [.maxTries 0, .dataSource]
    let surroundings : Surroundings := ⟨4, [], true⟩
    let settings : Settings := { Settings.default with
      queueNames := ["high", "low"]
      maxTries := 5
      emptyQueueSleep := Span.ofMillis 18446744073709551615
      maxQueryTime := Span.ofMillis 1
      rescanEvery := 7 }
    (∃ choice : Choice, choice.setting = "max tries" ∧
      Assembly.plan repeated surroundings = .error (.duplicateSetting choice.setting)) ∧
    Assembly.plan choices.reverse surroundings = Assembly.plan choices surroundings ∧
    ∃ plan environment, Assembly.plan choices surroundings = .ok plan ∧
      plan.Meets choices surroundings environment ∧ plan.settings = settings := by
  intro choices repeated surroundings settings
  have hdistinct : (choices.map Choice.setting).Nodup := by decide
  have hrepeated : ¬ (repeated.map Choice.setting).Nodup := by decide
  obtain ⟨-, choice, -, -, -, -, hfault⟩ := (plan_of_choices repeated surroundings).1 hrepeated
  have hlimit : Assembly.plan repeated surroundings = .error (.duplicateSetting "max tries") := rfl
  have hsetting : choice.setting = "max tries" :=
    Fault.duplicateSetting.inj (Except.error.inj (hfault.symm.trans hlimit))
  obtain ⟨horder, hplans⟩ := (plan_of_choices choices surroundings).2 hdistinct
  obtain ⟨plan, hplan, hsettings⟩ : ∃ plan, Assembly.plan choices surroundings = .ok plan ∧
      plan.settings = settings := ⟨_, rfl, rfl⟩
  obtain ⟨pairs, environment, -, -, hmeets⟩ := (hplans plan).1 hplan
  exact ⟨⟨choice, hsetting, hfault⟩, horder _ choices.reverse_perm.symm, plan, environment, hplan,
    hmeets, hsettings⟩

end Assembly

end TableQueue
