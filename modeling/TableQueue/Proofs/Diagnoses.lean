import Mathlib.Data.List.Basic
import TableQueue.Job.Failure

/-!
# Diagnoses

A diagnosis is drawn from the cause of a failure in one pass, which stops as soon as it has three
messages. All the same it is what is found without haste: the messages are trimmed, the blank ones are
dropped, every message stays only where it is first said, and of these the first three are taken. A
message that is blank or has been said nearer to the outermost context is no news, wherever it
stands. How many messages the handler put into the chain is not bounded here.
-/

namespace TableQueue.JobFailure

variable {chain before after : List String} {message : String}

/-! ## News -/

/-- The messages of a chain that say something, trimmed. -/
def spoken (chain : List String) : List String :=
  (chain.map Text.trimmed).filter fun message ↦ !message.isEmpty

/-- The messages of a chain that say something, each where it is first said. -/
def news (chain : List String) : List String :=
  (spoken chain).eraseDups

theorem spoken_append (before after : List String) :
    spoken (before ++ after) = spoken before ++ spoken after := by
  simp [spoken]

theorem mem_spoken : message ∈ spoken chain ↔ message ∈ chain.map Text.trimmed ∧ message ≠ "" := by
  simp [spoken]

theorem mem_news : message ∈ news chain ↔ message ∈ chain.map Text.trimmed ∧ message ≠ "" := by
  rw [news, List.mem_eraseDups, mem_spoken]

/-- What comes later in a chain adds to the news and takes nothing back. -/
theorem news_append (before after : List String) :
    news (before ++ after) =
      news before ++ ((spoken after).removeAll (spoken before)).eraseDups := by
  rw [news, spoken_append, List.eraseDups_append, news]

def IsStale (before : List String) (message : String) : Prop :=
  Text.trimmed message = "" ∨ ∃ earlier ∈ before, Text.trimmed earlier = Text.trimmed message

/-- A stale message is passed over, whatever follows it. -/
theorem removeAll_spoken_cons (h : IsStale before message) (after : List String) :
    (spoken (message :: after)).removeAll (spoken before) =
      (spoken after).removeAll (spoken before) := by
  by_cases hblank : Text.trimmed message = ""
  · simp [spoken, hblank]
  · have hsaid : Text.trimmed message ∈ spoken before :=
      mem_spoken.2 ⟨List.mem_map.2 (h.resolve_left hblank), hblank⟩
    have hcons : spoken (message :: after) = Text.trimmed message :: spoken after := by
      simp [spoken, hblank]
    rw [hcons, List.removeAll, List.filter_cons_of_neg (by simpa using hsaid), List.removeAll]

/-- A stale message is no news wherever it is inserted. -/
theorem news_insert (h : IsStale before message) (after : List String) :
    news (before ++ message :: after) = news (before ++ after) := by
  calc news (before ++ message :: after)
      = news before ++ ((spoken (message :: after)).removeAll (spoken before)).eraseDups :=
        news_append before (message :: after)
    _ = news before ++ ((spoken after).removeAll (spoken before)).eraseDups := by
        rw [removeAll_spoken_cons h]
    _ = news (before ++ after) := (news_append before after).symm

/-- A message that is not stale is the latest news. -/
theorem news_concat (h : ¬ IsStale before message) :
    news (before ++ [message]) = news before ++ [Text.trimmed message] := by
  obtain ⟨hblank, hunsaid⟩ := not_or.1 h
  have hnot : Text.trimmed message ∉ spoken before := by
    intro hmem
    exact hunsaid (List.mem_map.1 (mem_spoken.1 hmem).1)
  have hone : spoken [message] = [Text.trimmed message] := by
    simp [spoken, hblank]
  rw [news_append, hone, List.removeAll, List.filter_cons_of_pos (by simpa using hnot)]
  rfl

/-! ## The pass over a chain -/

/-- A message is news to the collected ones unless it is stale. -/
theorem isNews_iff : isNews (news before) (Text.trimmed message) = true ↔
    ¬ IsStale before message := by
  rw [isNews, IsStale, not_or]
  by_cases hblank : Text.trimmed message = ""
  · simp [hblank]
  · simp [hblank, mem_news]

/-- Having taken the first news of what it has read, a pass takes the first news of all. -/
theorem collect_news (before after : List String) :
    collect ((news before).take diagnosisLength) after =
      (news (before ++ after)).take diagnosisLength := by
  induction after generalizing before with
  | nil => rw [List.append_nil, collect]
  | cons message after ih =>
    have hstep := ih (before ++ [message])
    rw [List.append_assoc, List.singleton_append] at hstep
    unfold collect
    by_cases hfull : diagnosisLength ≤ (news before).length
    · have hlength : ((news before).take diagnosisLength).length = diagnosisLength := by
        rw [List.length_take, Nat.min_eq_left hfull]
      rw [if_pos (Nat.le_of_eq hlength.symm), news_append, List.take_append_of_le_length hfull]
    · have hall : (news before).take diagnosisLength = news before :=
        List.take_of_length_le (Nat.le_of_not_le hfull)
      rw [hall, if_neg hfull]
      by_cases hstale : IsStale before message
      · have hsame : news (before ++ [message]) = news before := by
          rw [news_insert hstale, List.append_nil]
        rw [if_neg (isNews_iff.not_left.2 hstale), ← hstep, hsame, hall]
      · have hroom : (news before ++ [Text.trimmed message]).length ≤ diagnosisLength := by
          rw [List.length_append]
          exact Nat.lt_of_not_le hfull
        rw [if_pos (isNews_iff.2 hstale), ← hstep, news_concat hstale,
          List.take_of_length_le hroom]

/-- The pass finds the first news of a chain. -/
theorem collect_eq (chain : List String) :
    collect [] chain = (news chain).take diagnosisLength := by
  exact collect_news [] chain

/-! ## The text of a diagnosis -/

def withCause (failure : JobFailure) (cause : List String) : JobFailure :=
  match failure with
  | fatal _ throttled => fatal cause throttled
  | retryable _ => retryable cause
  | postponed _ delay => postponed cause delay

@[simp] theorem cause_withCause (failure : JobFailure) (cause : List String) :
    (failure.withCause cause).cause = cause := by
  cases failure <;> rfl

@[simp] theorem kindName_withCause (failure : JobFailure) (cause : List String) :
    (failure.withCause cause).kindName = failure.kindName := by
  cases failure <;> rfl

/-- What is kept of a failure, by its kind and the news of its cause. -/
def wording (kindName : String) (news : List String) : String :=
  if news = [] then "Anonymous " ++ kindName
  else " / ".intercalate (news.take diagnosisLength)

/-- A diagnosis says the first news of the cause in the words for their number. -/
theorem diagnosis_eq (failure : JobFailure) :
    failure.diagnosis = wording failure.kindName (news failure.cause) := by
  rw [diagnosis, collect_eq, wording]
  cases news failure.cause with
  | nil => rfl
  | cons message rest => rfl

theorem intercalate_ne_empty {separator : String} (h : message ≠ "") (rest : List String) :
    separator.intercalate (message :: rest) ≠ "" := by
  cases rest with
  | nil => rwa [String.intercalate_singleton]
  | cons next rest =>
    rw [String.intercalate_cons_cons]
    simp [h]

/-- A diagnosis is never empty. -/
theorem wording_ne_empty (kindName : String) (chain : List String) :
    wording kindName (news chain) ≠ "" := by
  unfold wording
  split
  · simp
  · next hsome =>
    obtain ⟨first, rest, hnews⟩ := List.exists_cons_of_ne_nil hsome
    have hfirst : first ≠ "" := (mem_news.1 (hnews ▸ List.mem_cons_self)).2
    rw [hnews]
    exact intercalate_ne_empty hfirst _

/-- A diagnosis has the first three news of the cause, or the kind of the failure where there are none.
It is not empty, and it is the same with a stale message put anywhere into the cause. -/
theorem diagnosis_takes_news (failure : JobFailure) :
    (news failure.cause = [] →
      (∀ cause throttled, failure = fatal cause throttled →
        failure.diagnosis = "Anonymous Fatal") ∧
      (∀ cause, failure = retryable cause → failure.diagnosis = "Anonymous NonFatal") ∧
      ∀ cause delay, failure = postponed cause delay →
        failure.diagnosis = "Anonymous PostponedNonFatal") ∧
    (news failure.cause ≠ [] →
      failure.diagnosis = " / ".intercalate ((news failure.cause).take 3)) ∧
    failure.diagnosis ≠ "" ∧
    ∀ before message after, failure.cause = before ++ after → IsStale before message →
      (failure.withCause (before ++ message :: after)).diagnosis = failure.diagnosis := by
  refine ⟨fun hnone ↦ ?_, fun hsome ↦ ?_, ?_, fun before message after hcause hstale ↦ ?_⟩
  · have hkind : failure.diagnosis = "Anonymous " ++ failure.kindName := by
      rw [diagnosis_eq, wording, if_pos hnone]
    exact ⟨by rintro cause throttled rfl; exact hkind, by rintro cause rfl; exact hkind,
      by rintro cause delay rfl; exact hkind⟩
  · rw [diagnosis_eq, wording, if_neg hsome, diagnosisLength]
  · rw [diagnosis_eq]
    exact wording_ne_empty failure.kindName failure.cause
  · rw [diagnosis_eq, diagnosis_eq, cause_withCause, kindName_withCause, news_insert hstale, hcause]

/-- A chain that says too much: of its seven messages two are blank, one is said twice, and the last comes
too late. Chains that say nothing leave the three kinds. -/
theorem diagnosis_takes_news_of_wordy :
    let chain := ["indexing\t", "", " write failed", "indexing", "disk full", "\u00a0", "sector 7"]
    news chain = ["indexing", "write failed", "disk full", "sector 7"] ∧
    (retryable chain).diagnosis = "indexing / write failed / disk full" ∧
    IsStale ["indexing\t", "", " write failed"] "indexing" ∧
    (retryable ["indexing\t", "", " write failed", "disk full", "\u00a0", "sector 7"]).diagnosis =
      (retryable chain).diagnosis ∧
    (fatal [] true).diagnosis = "Anonymous Fatal" ∧
    (retryable ["", "\t"]).diagnosis = "Anonymous NonFatal" ∧
    (postponed [" "] Span.zero).diagnosis = "Anonymous PostponedNonFatal" := by
  have hstale : IsStale ["indexing\t", "", " write failed"] "indexing" := by
    exact .inr ⟨"indexing\t", by simp, by decide⟩
  refine ⟨by decide, ?_, hstale, ?_, ?_, ?_, ?_⟩
  · exact ((diagnosis_takes_news (retryable _)).2.1 (by decide)).trans (by decide)
  · exact ((diagnosis_takes_news (retryable ["indexing\t", "", " write failed", "disk full", "\u00a0",
      "sector 7"])).2.2.2 _ "indexing" ["disk full", "\u00a0", "sector 7"] rfl hstale).symm
  · exact ((diagnosis_takes_news (fatal [] true)).1 (by decide)).1 _ _ rfl
  · exact ((diagnosis_takes_news (retryable ["", "\t"])).1 (by decide)).2.1 _ rfl
  · exact ((diagnosis_takes_news (postponed [" "] Span.zero)).1 (by decide)).2.2 _ _ rfl

end TableQueue.JobFailure
