import TableQueue.Proofs.Store.Tables

/-!
# Transactions side by side

Every session changes only its own transaction, and the committed tables change by commits alone.
Numbers are given once, so the rows in the tables and the rows that open transactions are about to
add never meet, and no two transactions have deleted the same row. This holds whatever the sessions
ask for; it does not presuppose the order in which a worker sends its statements.
-/

open scoped List

namespace TableQueue

def Changes.numbers (changes : Changes) : List Nat :=
  changes.inserted.map Entry.number ++ changes.archived.map Prod.fst

/-- Changes that later ones have only added to. -/
structure Changes.Within (earlier later : Changes) : Prop where
  deleted : earlier.deleted ⊆ later.deleted
  inserted : earlier.inserted.Sublist later.inserted
  archived : earlier.archived.Sublist later.archived

/-- The changes made before the savepoint of a transaction, if it has one. -/
def Transaction.savepoint? : Transaction → Option Changes
  | idle => none
  | active _ savepoint | failed _ savepoint => savepoint

namespace Changes

theorem Within.refl (changes : Changes) : changes.Within changes :=
  ⟨List.Subset.refl _, List.Sublist.refl _, List.Sublist.refl _⟩

theorem Within.trans {first second third : Changes} (h : first.Within second)
    (h' : second.Within third) : first.Within third :=
  ⟨List.Subset.trans h.deleted h'.deleted, h.inserted.trans h'.inserted, h.archived.trans h'.archived⟩

theorem Within.numbers {earlier later : Changes} (h : earlier.Within later) :
    earlier.numbers.Sublist later.numbers :=
  (h.inserted.map _).append (h.archived.map _)

end Changes

namespace Store

variable {store : Store} {session : Nat}

/-! ## The transaction of a session -/

@[simp] theorem transaction_setTransaction_self (store : Store) (session : Nat)
    (transaction : Transaction) :
    (store.setTransaction session transaction).transaction session = transaction := by
  simp [setTransaction, Store.transaction]

theorem lookup_filter_ne {α : Type} {key other : Nat} (h : other ≠ key) (pairs : List (Nat × α)) :
    (pairs.filter (·.1 != key)).lookup other = pairs.lookup other := by
  induction pairs with
  | nil => rfl
  | cons pair rest ih =>
    obtain ⟨first, value⟩ := pair
    by_cases hkey : first = key
    · have hother : (other == first) = false := by simpa [hkey] using h
      simp [hkey, List.lookup_cons, ih, hkey ▸ hother]
    · simp [hkey, List.lookup_cons, ih]

@[simp] theorem transaction_setTransaction_of_ne {other : Nat} (h : other ≠ session)
    (transaction : Transaction) :
    (store.setTransaction session transaction).transaction other = store.transaction other := by
  have hbeq : (other == session) = false := by simpa using h
  simp [setTransaction, Store.transaction, List.lookup_cons, hbeq, lookup_filter_ne h]

@[simp] theorem transaction_apply (changes : Changes) :
    (store.apply changes).transaction session = store.transaction session := rfl

theorem setChanges_of_active {old new : Changes} {savepoint : Option Changes}
    (h : store.transaction session = .active old savepoint) :
    store.setChanges session new = store.setTransaction session (.active new savepoint) := by
  simp only [setChanges, h]

theorem transaction_setChanges {old : Changes} {savepoint : Option Changes}
    (h : store.transaction session = .active old savepoint) (new : Changes) :
    (store.setChanges session new).transaction session = .active new savepoint := by
  rw [setChanges_of_active h, transaction_setTransaction_self]

theorem setChanges_cases (store : Store) (session : Nat) (new : Changes) :
    store.setChanges session new = store ∨ ∃ old savepoint,
      store.transaction session = .active old savepoint ∧
        store.setChanges session new = store.setTransaction session (.active new savepoint) := by
  unfold setChanges
  split
  · next old savepoint h => exact .inr ⟨old, savepoint, h, rfl⟩
  · exact .inl rfl

theorem transaction_setChanges_of_ne {other : Nat} (h : other ≠ session) (new : Changes) :
    (store.setChanges session new).transaction other = store.transaction other := by
  obtain heq | ⟨_, _, _, heq⟩ := setChanges_cases store session new
  · rw [heq]
  · rw [heq, transaction_setTransaction_of_ne h]

/-- A row that is not locked has been deleted by no other session. -/
theorem not_mem_deleted_of_isLocked {number other : Nat}
    (h : store.isLocked session number = false) (hother : other ≠ session) :
    number ∉ (store.transaction other).changes.deleted := by
  intro hmem
  cases hlookup : store.transactions.lookup other with
  | none => simp [transaction, hlookup, Transaction.changes, Changes.none] at hmem
  | some transaction =>
    obtain ⟨before, after, hsplit, -⟩ := List.lookup_eq_some_iff.1 hlookup
    have hlocked : store.isLocked session number = true := by
      simp only [isLocked, List.any_eq_true]
      refine ⟨(other, transaction), by simp [hsplit], ?_⟩
      simpa [Store.transaction, hlookup, hother] using hmem
    rw [h] at hlocked
    exact Bool.false_ne_true hlocked

/-! ## Numbers and locks -/

def numbers (store : Store) : List Nat :=
  store.queue.map Entry.number ++ store.archive.map Prod.fst

/-- Changes that a session may have made, next to the tables and the other sessions. -/
structure Admits (store : Store) (session : Nat) (changes : Changes) : Prop where
  nodup : changes.numbers.Nodup
  lt : ∀ n ∈ changes.numbers, n < store.next
  new : ∀ n ∈ changes.numbers, n ∉ store.numbers
  apart : ∀ other ≠ session, ∀ n ∈ changes.numbers,
    n ∉ (store.transaction other).changes.numbers
  unlocked : ∀ other ≠ session, ∀ n ∈ changes.deleted,
    n ∉ (store.transaction other).changes.deleted

/-- Every row has a number of its own, no row is deleted in two transactions, and no session has two
transactions. -/
structure Sound (store : Store) : Prop where
  nodup : store.numbers.Nodup
  lt : ∀ n ∈ store.numbers, n < store.next
  admits : ∀ session, store.Admits session (store.transaction session).changes
  within : ∀ session saved, (store.transaction session).savepoint? = some saved →
    saved.Within (store.transaction session).changes
  keyed : (store.transactions.map Prod.fst).Nodup

theorem admits_none (store : Store) (session : Nat) : store.Admits session Changes.none := by
  constructor <;> simp [Changes.numbers, Changes.none]

/-- Changes that were admitted later were admitted before. -/
theorem Admits.of_within {changes earlier : Changes} (h : store.Admits session changes)
    (hwithin : earlier.Within changes) : store.Admits session earlier where
  nodup := h.nodup.sublist hwithin.numbers
  lt n hn := h.lt n (hwithin.numbers.subset hn)
  new n hn := h.new n (hwithin.numbers.subset hn)
  apart other hne n hn := h.apart other hne n (hwithin.numbers.subset hn)
  unlocked other hne n hn := h.unlocked other hne n (hwithin.deleted hn)

/-- A row that no other session has deleted is not locked. -/
theorem Sound.isLocked_eq_false (h : store.Sound) {number : Nat}
    (hnumber : ∀ other ≠ session, number ∉ (store.transaction other).changes.deleted) :
    store.isLocked session number = false := by
  rw [isLocked, List.any_eq_false]
  rintro ⟨other, transaction⟩ hmem
  simp only [Bool.and_eq_true, bne_iff_ne, List.contains_iff_mem, not_and]
  intro hother
  obtain ⟨before, after, hsplit⟩ := List.append_of_mem hmem
  have hkeyed := h.keyed
  rw [hsplit, List.map_append, List.nodup_append] at hkeyed
  have hlookup : store.transactions.lookup other = some transaction :=
    List.lookup_eq_some_iff.2 ⟨before, after, hsplit, fun pair hpair ↦ by
      have hne := hkeyed.2.2 pair.1 (List.mem_map_of_mem hpair) other (by simp)
      simpa using Ne.symm hne⟩
  have htransaction : store.transaction other = transaction := by
    rw [Store.transaction, hlookup, Option.getD_some]
  exact htransaction ▸ hnumber other hother

theorem sound_empty : Store.empty.Sound where
  nodup := List.nodup_nil
  lt n hn := by simp [numbers, empty] at hn
  admits session := admits_none _ _
  within session saved h := by simp [transaction, empty, Transaction.savepoint?] at h
  keyed := List.nodup_nil

/-- A transaction may be set to changes that its session may have made. -/
theorem Sound.setTransaction (h : store.Sound) {transaction : Transaction}
    (hadmits : store.Admits session transaction.changes)
    (hwithin : ∀ saved, transaction.savepoint? = some saved → saved.Within transaction.changes) :
    (store.setTransaction session transaction).Sound where
  nodup := h.nodup
  lt := h.lt
  admits other := by
    by_cases hother : other = session
    · subst hother
      rw [transaction_setTransaction_self]
      exact ⟨hadmits.nodup, hadmits.lt, hadmits.new,
        fun third hthird ↦ by
          rw [transaction_setTransaction_of_ne hthird]; exact hadmits.apart third hthird,
        fun third hthird ↦ by
          rw [transaction_setTransaction_of_ne hthird]; exact hadmits.unlocked third hthird⟩
    · rw [transaction_setTransaction_of_ne hother]
      have hold := h.admits other
      refine ⟨hold.nodup, hold.lt, hold.new, fun third hthird n hn hmem ↦ ?_,
        fun third hthird n hn hmem ↦ ?_⟩
      · by_cases hsame : third = session
        · subst hsame
          rw [transaction_setTransaction_self] at hmem
          exact hadmits.apart other hother n hmem hn
        · rw [transaction_setTransaction_of_ne hsame] at hmem
          exact hold.apart third hthird n hn hmem
      · by_cases hsame : third = session
        · subst hsame
          rw [transaction_setTransaction_self] at hmem
          exact hadmits.unlocked other hother n hmem hn
        · rw [transaction_setTransaction_of_ne hsame] at hmem
          exact hold.unlocked third hthird n hn hmem
  within other saved hsaved := by
    by_cases hother : other = session
    · subst hother
      rw [transaction_setTransaction_self] at hsaved ⊢
      exact hwithin saved hsaved
    · rw [transaction_setTransaction_of_ne hother] at hsaved ⊢
      exact h.within other saved hsaved
  keyed := by
    simp only [Store.setTransaction, List.map_cons, List.nodup_cons]
    refine ⟨fun hmem ↦ ?_, h.keyed.sublist (List.filter_sublist.map _)⟩
    obtain ⟨pair, hpair, hsession⟩ := List.mem_map.1 hmem
    simp [hsession] at hpair

theorem Sound.setIdle (h : store.Sound) (session : Nat) :
    (store.setTransaction session .idle).Sound :=
  h.setTransaction (admits_none _ _) (by simp [Transaction.savepoint?])

theorem Sound.setChanges (h : store.Sound) {new : Changes}
    (hadmits : store.Admits session new)
    (hwithin : (store.transaction session).changes.Within new) :
    (store.setChanges session new).Sound := by
  obtain heq | ⟨old, savepoint, hactive, heq⟩ := setChanges_cases store session new
  · rw [heq]
    exact h
  · rw [heq]
    apply h.setTransaction hadmits
    intro saved hsaved
    have hsaved' : (store.transaction session).savepoint? = some saved := by
      rw [hactive]; exact hsaved
    exact (h.within session saved hsaved').trans hwithin

/-! ## Inserting and deleting -/

theorem Sound.bump (h : store.Sound) : ({ store with next := store.next + 1 } : Store).Sound where
  nodup := h.nodup
  lt n hn := Nat.lt_succ_of_lt (h.lt n hn)
  admits session :=
    have hold := h.admits session
    ⟨hold.nodup, fun n hn ↦ Nat.lt_succ_of_lt (hold.lt n hn), hold.new, hold.apart, hold.unlocked⟩
  within := h.within
  keyed := h.keyed

theorem setChanges_bump (store : Store) (session : Nat) (new : Changes) :
    { store.setChanges session new with next := store.next + 1 } =
      ({ store with next := store.next + 1 } : Store).setChanges session new := by
  have hsame : ({ store with next := store.next + 1 } : Store).transaction session =
      store.transaction session := rfl
  unfold setChanges
  rw [hsame]
  split <;> rfl

/-- The changes of a session may be extended by one row under the next number. -/
theorem Sound.admits_next (h : store.Sound) {new : Changes}
    (hnumbers : new.numbers.Perm (store.next :: (store.transaction session).changes.numbers))
    (hdeleted : new.deleted = (store.transaction session).changes.deleted) :
    ({ store with next := store.next + 1 } : Store).Admits session new := by
  have hold := h.admits session
  refine ⟨?_, fun n hn ↦ ?_, fun n hn ↦ ?_, fun other hother n hn ↦ ?_, ?_⟩
  · rw [hnumbers.nodup_iff, List.nodup_cons]
    exact ⟨fun hmem ↦ Nat.lt_irrefl _ (hold.lt _ hmem), hold.nodup⟩
  · rcases List.mem_cons.1 (hnumbers.subset hn) with rfl | hmem
    · exact Nat.lt_succ_self _
    · exact Nat.lt_succ_of_lt (hold.lt n hmem)
  · rcases List.mem_cons.1 (hnumbers.subset hn) with rfl | hmem
    · exact fun hcommitted ↦ Nat.lt_irrefl _ (h.lt _ hcommitted)
    · exact hold.new n hmem
  · rcases List.mem_cons.1 (hnumbers.subset hn) with rfl | hmem
    · exact fun hpending ↦ Nat.lt_irrefl _ ((h.admits other).lt _ hpending)
    · exact hold.apart other hother n hmem
  · rw [hdeleted]
    exact hold.unlocked

/-- A producer leaves the store sound. -/
theorem Sound.produce (h : store.Sound) (row : Row) (visibleFrom : Instant) :
    (store.produce row visibleFrom).Sound := by
  have hnumbers : (store.produce row visibleFrom).numbers.Perm (store.next :: store.numbers) := by
    simp only [Store.produce, numbers, List.map_append, List.map_cons, List.map_nil,
      List.append_assoc]
    exact List.perm_middle
  have hfresh (n : Nat) (hn : n < store.next) (hmem : n ∈ (store.produce row visibleFrom).numbers) :
      n ∈ store.numbers := by
    rcases List.mem_cons.1 (hnumbers.subset hmem) with rfl | hold
    · exact absurd hn (Nat.lt_irrefl _)
    · exact hold
  refine ⟨?_, fun n hn ↦ ?_, fun session ↦ ?_, h.within, h.keyed⟩
  · rw [hnumbers.nodup_iff, List.nodup_cons]
    exact ⟨fun hmem ↦ Nat.lt_irrefl _ (h.lt _ hmem), h.nodup⟩
  · rcases List.mem_cons.1 (hnumbers.subset hn) with rfl | hmem
    · exact Nat.lt_succ_self _
    · exact Nat.lt_succ_of_lt (h.lt n hmem)
  · have hold := h.admits session
    exact ⟨hold.nodup, fun n hn ↦ Nat.lt_succ_of_lt (hold.lt n hn),
      fun n hn hmem ↦ hold.new n hn (hfresh n (hold.lt n hn) hmem), hold.apart, hold.unlocked⟩

/-- An insertion gives its row a number of its own. -/
theorem Sound.insert (h : store.Sound) (session : Nat) (row : Row) (now : Instant) :
    (store.insert session row now).Sound := by
  unfold Store.insert
  rw [setChanges_bump]
  refine h.bump.setChanges (h.admits_next ?_ rfl) ⟨List.Subset.refl _, ?_, List.Sublist.refl _⟩
  · simp only [Changes.numbers, List.map_append, List.map_cons, List.map_nil, List.append_assoc]
    exact List.perm_middle
  · exact List.sublist_append_left _ _

/-- No row is deleted in two transactions, because only rows that can be taken are deleted. -/
theorem Sound.delete (h : store.Sound) {session : Nat} {entries : List Entry} {now : Instant}
    (hentries : ∀ entry ∈ entries, entry ∈ store.takable session now) :
    (store.delete session entries).Sound := by
  have hold := h.admits session
  refine h.setChanges ⟨hold.nodup, hold.lt, hold.new, hold.apart, ?_⟩
    ⟨List.subset_append_left _ _, List.Sublist.refl _, List.Sublist.refl _⟩
  intro other hother n hn
  rcases List.mem_append.1 hn with hmem | hmem
  · exact hold.unlocked other hother n hmem
  · obtain ⟨entry, hentry, rfl⟩ := List.mem_map.1 hmem
    exact not_mem_deleted_of_isLocked (mem_takable.1 (hentries entry hentry)).2 hother

/-- The duplicates of a row that a session has deleted are other rows, each taken once. -/
theorem Sound.nodup_duplicates (h : store.Sound) {queue : String} {values : List (Nat × Cell)}
    {includePostponed : Bool} {now : Instant} {number : Nat}
    (hinserted : (store.transaction session).changes.inserted = [])
    (hdeleted : number ∈ (store.transaction session).changes.deleted) :
    (number ::
      (store.duplicates session queue values includePostponed now).map Entry.number).Nodup := by
  have hqueue : (store.queue.map Entry.number).Nodup := (List.nodup_append.1 h.nodup).1
  refine List.nodup_cons.2 ⟨fun hmem ↦ ?_, ?_⟩
  · obtain ⟨entry, hentry, rfl⟩ := List.mem_map.1 hmem
    exact (mem_visible.1 (mem_takable.1 (takable_of_mem_duplicates hentry).1).1).2.1 hdeleted
  · refine hqueue.sublist (List.Sublist.map _ ?_)
    simp only [duplicates, takable, visible, hinserted, placeAll_nil]
    exact (List.filter_sublist.trans List.filter_sublist).trans List.filter_sublist

/-! ## Committing -/

theorem numbers_apply (store : Store) (changes : Changes) :
    ∃ placed, (store.apply changes).numbers.Sublist placed ∧
      placed.Perm (store.numbers ++ changes.numbers) := by
  refine ⟨(placeAll Entry.number changes.inserted store.queue).map Entry.number ++
    (placeAll Prod.fst changes.archived store.archive).map Prod.fst,
    (List.filter_sublist.map _).append (List.Sublist.refl _), ?_⟩
  have hqueue := (placeAll_perm Entry.number changes.inserted store.queue).map Entry.number
  have harchive := (placeAll_perm Prod.fst changes.archived store.archive).map Prod.fst
  rw [List.map_append] at hqueue harchive
  unfold numbers Changes.numbers
  generalize store.queue.map Entry.number = queue at hqueue ⊢
  generalize store.archive.map Prod.fst = archive at harchive ⊢
  generalize changes.inserted.map Entry.number = inserted at hqueue ⊢
  generalize changes.archived.map Prod.fst = archived at harchive ⊢
  calc _ ~ queue ++ inserted ++ (archive ++ archived) := hqueue.append harchive
    _ = queue ++ (inserted ++ archive ++ archived) := by simp only [List.append_assoc]
    _ ~ queue ++ (archive ++ inserted ++ archived) :=
        (List.perm_append_comm.append_right archived).append_left queue
    _ = queue ++ archive ++ (inserted ++ archived) := by simp only [List.append_assoc]

/-- A commit leaves the store sound. -/
theorem Sound.commit (h : store.Sound) {changes : Changes} {savepoint : Option Changes}
    (hactive : store.transaction session = .active changes savepoint) :
    ((store.apply changes).setTransaction session .idle).Sound := by
  have hown : store.Admits session changes := by
    simpa only [hactive, Transaction.changes] using h.admits session
  obtain ⟨placed, hsublist, hperm⟩ := numbers_apply store changes
  have hnumbers (n : Nat) (hn : n ∈ (store.apply changes).numbers) :
      n ∈ store.numbers ∨ n ∈ changes.numbers :=
    List.mem_append.1 (hperm.subset (hsublist.subset hn))
  have happlied : ∀ other ≠ session,
      (store.apply changes).Admits other (store.transaction other).changes := by
    intro other hother
    have hold := h.admits other
    refine ⟨hold.nodup, hold.lt, fun n hn hmem ↦ ?_, hold.apart, hold.unlocked⟩
    rcases hnumbers n hmem with hcommitted | hpending
    · exact hold.new n hn hcommitted
    · exact hown.apart other hother n hpending hn
  refine ⟨?_, fun n hn ↦ ?_, fun other ↦ ?_, (h.setIdle session).within,
    (h.setIdle session).keyed⟩
  · refine List.Nodup.sublist hsublist (hperm.nodup_iff.2 ?_)
    exact List.nodup_append.2 ⟨h.nodup, hown.nodup,
      fun n hn m hm heq ↦ hown.new m hm (heq ▸ hn)⟩
  · rcases hnumbers n hn with hcommitted | hpending
    · exact h.lt n hcommitted
    · exact hown.lt n hpending
  · by_cases hother : other = session
    · subst hother
      rw [transaction_setTransaction_self]
      exact admits_none _ _
    · have hsame := (h.setIdle session).admits other
      rw [transaction_setTransaction_of_ne hother] at hsame ⊢
      exact ⟨hsame.nodup, hsame.lt, (happlied other hother).new, hsame.apart, hsame.unlocked⟩

end Store

end TableQueue
