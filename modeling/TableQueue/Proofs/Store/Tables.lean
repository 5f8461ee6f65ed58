import Mathlib.Data.List.Perm.Subperm
import TableQueue.Database.Store

/-!
# What the tables hold

Elements are placed in a table by number, so a placement rearranges nothing: up to order it adds the
elements at the end. The laws of a commit, of what a session sees and of the first eligible row
follow from that. Nothing here depends on how workers use the store.
-/

open scoped List

namespace TableQueue.Store

/-! ## Placing elements -/

theorem place_perm {α : Type} (number : α → Nat) (element : α) (table : List α) :
    (place number element table).Perm (element :: table) := by
  induction table with
  | nil => exact List.Perm.refl _
  | cons other rest ih =>
    unfold place
    split
    · exact List.Perm.refl _
    · exact (ih.cons other).trans (List.Perm.swap element other rest)

/-- Placing adds the elements to the table and nothing else. -/
theorem placeAll_perm {α : Type} (number : α → Nat) (elements table : List α) :
    (placeAll number elements table).Perm (table ++ elements) := by
  induction elements generalizing table with
  | nil => simp [placeAll]
  | cons element rest ih =>
    calc placeAll number rest (place number element table)
        ~ place number element table ++ rest := ih (place number element table)
      _ ~ element :: table ++ rest := (place_perm number element table).append_right rest
      _ ~ table ++ element :: rest := List.perm_middle.symm

theorem mem_placeAll {α : Type} {number : α → Nat} {elements table : List α} {x : α} :
    x ∈ placeAll number elements table ↔ x ∈ table ∨ x ∈ elements := by
  rw [(placeAll_perm number elements table).mem_iff, List.mem_append]

@[simp] theorem placeAll_nil {α : Type} (number : α → Nat) (table : List α) :
    placeAll number [] table = table := rfl

/-! ## Committing changes -/

/-- The queue after the changes of a transaction. -/
theorem mem_queue_apply {store : Store} {changes : Changes} {entry : Entry} :
    entry ∈ (store.apply changes).queue ↔
      (entry ∈ store.queue ∨ entry ∈ changes.inserted) ∧ entry.number ∉ changes.deleted := by
  simp [apply, mem_placeAll]

/-! ## The first eligible row -/

theorem earliest_eq_none_iff {entries : List Entry} : earliest entries = none ↔ entries = [] := by
  cases entries with
  | nil => simp [earliest]
  | cons entry rest =>
    simp only [earliest, reduceCtorEq, iff_false]
    split
    · simp
    · split <;> simp

theorem mem_of_earliest {entries : List Entry} {entry : Entry} (h : earliest entries = some entry) :
    entry ∈ entries := by
  induction entries with
  | nil => simp [earliest] at h
  | cons first rest ih =>
    unfold earliest at h
    split at h
    · rw [Option.some.inj h]
      exact List.mem_cons_self
    · next other hother =>
      split at h
      · rw [Option.some.inj h]
        exact List.mem_cons_self
      · exact List.mem_cons_of_mem _ (ih (hother.trans h))

/-- No entry becomes eligible before the earliest one. -/
theorem le_of_earliest {entries : List Entry} {entry other : Entry}
    (h : earliest entries = some entry) (hother : other ∈ entries) :
    entry.row.dequeueAfter ≤ other.row.dequeueAfter := by
  induction entries generalizing entry with
  | nil => simp at hother
  | cons first rest ih =>
    unfold earliest at h
    split at h
    · next hnone =>
      rw [earliest_eq_none_iff.1 hnone, List.mem_singleton] at hother
      rw [← Option.some.inj h, hother]
      exact Int.le_refl _
    · next second hsecond =>
      split at h
      · next hle =>
        rw [← Option.some.inj h]
        rcases List.mem_cons.1 hother with rfl | hrest
        · exact Int.le_refl _
        · exact Int.le_trans hle (ih hsecond hrest)
      · next hlt =>
        rw [← Option.some.inj h]
        rcases List.mem_cons.1 hother with rfl | hrest
        · simp only [Instant.le_iff] at hlt ⊢
          omega
        · exact ih hsecond hrest

/-! ## What a session can take -/

/-- What a session sees of the queue. -/
theorem mem_visible {store : Store} {session : Nat} {now : Instant} {entry : Entry} :
    entry ∈ store.visible session now ↔
      (entry ∈ store.queue ∨ entry ∈ (store.transaction session).changes.inserted) ∧
        entry.number ∉ (store.transaction session).changes.deleted ∧ entry.visibleFrom ≤ now := by
  simp [visible, mem_placeAll]

theorem mem_takable {store : Store} {session : Nat} {now : Instant} {entry : Entry} :
    entry ∈ store.takable session now ↔
      entry ∈ store.visible session now ∧ store.isLocked session entry.number = false := by
  simp [takable]

/-- A claim takes an eligible row that the session can take. -/
theorem mem_of_claimed {store : Store} {session : Nat} {queue : String} {notBefore now : Instant}
    {entry : Entry} (h : store.claimed session queue notBefore now = some entry) :
    entry ∈ store.takable session now ∧ entry.row.queue = queue ∧
      entry.row.dequeueAfter ≤ now ∧ notBefore ≤ entry.row.dequeueAfter := by
  have hmem := mem_of_earliest h
  simp only [List.mem_filter, isEligible, Bool.and_eq_true, beq_iff_eq,
    decide_eq_true_eq] at hmem
  exact ⟨hmem.1, hmem.2.1.1, hmem.2.1.2, hmem.2.2⟩

/-- Duplicates are rows that the session can take. -/
theorem takable_of_mem_duplicates {store : Store} {session : Nat} {queue : String}
    {values : List (Nat × Cell)} {includePostponed : Bool} {now : Instant} {entry : Entry}
    (h : entry ∈ store.duplicates session queue values includePostponed now) :
    entry ∈ store.takable session now ∧ entry.row.queue = queue := by
  simp only [duplicates, List.mem_filter, Bool.and_eq_true, beq_iff_eq] at h
  exact ⟨h.1, h.2.1.1⟩

end TableQueue.Store
