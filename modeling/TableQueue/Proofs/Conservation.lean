import Mathlib.Data.List.Nodup
import TableQueue.Proofs.Ledger

/-!
# Conservation of jobs

Without deduplication the tables agree with the ledger at every moment of every run, whatever befalls
statements and connections, however handlers receive jobs and whenever the crew is started and
stopped. Each ticket accounts for at most one row, so no row is duplicated, and a row is missing
only while a worker archives it or after that has failed.
-/

open scoped List

namespace TableQueue

variable {α : Type} {duties : Duties α}

def Fate.Holds (duties : Duties α) (events : List (Event α)) (store : Store) (row : Row) :
    Fate → Prop
  | waiting number returns => ∃ entry ∈ store.queue, entry.number = number ∧
      entry.row.columns = row.columns ∧ entry.row.tries = row.triesAfter returns
  | done reception? => reception? = some .accepted ∧ ∃ worker changes attempt job,
      .happened worker changes attempt (.accepted job) ∈ events ∧
        duties.columns job = row.columns
  | leaving _ => True
  | archived number => ∃ archivedRow, (number, archivedRow) ∈ store.archive ∧
      archivedRow.columns = row.columns
  | lost error => ∃ worker changes attempt job,
      .happened worker changes attempt (.lost job error) ∈ events ∧
        duties.columns job = row.columns

def Ticket.leaving? (worker : Nat) (ticket : Ticket) : Option Columns :=
  if ticket.fate.isLeaving worker then some ticket.row.columns else none

/-- Tickets that agree with the tables and with the jobs that workers are about to archive. -/
structure Balanced (duties : Duties α) (events : List (Event α)) (tickets : List Ticket)
    (store : Store) (departing : Nat → Option (Job α)) : Prop where
  /-- Every row of the queue is that of one waiting ticket, and the other way round. -/
  queue : (store.queue.map Entry.number).Perm (tickets.filterMap Ticket.queueNumber?)
  archive : (store.archive.map Prod.fst).Perm (tickets.filterMap Ticket.archiveNumber?)
  /-- A row is leaving exactly while its worker is between the two commits. -/
  leaving : ∀ worker, (tickets.filterMap (Ticket.leaving? worker)).Perm
    ((departing worker).toList.map duties.columns)
  holds : ∀ ticket ∈ tickets, ticket.fate.Holds duties events store ticket.row

/-- A row keeps its fate while its row in the tables remains. -/
theorem Fate.Holds.mono {events events' : List (Event α)} {store store' : Store} {row : Row}
    {fate : Fate} (h : fate.Holds duties events store row) (hevents : events ⊆ events')
    (hqueue : ∀ entry ∈ store.queue, fate.queueNumber? = some entry.number →
      entry ∈ store'.queue) (harchive : store.archive ⊆ store'.archive) :
    fate.Holds duties events' store' row := by
  cases fate with
  | waiting number returns =>
    obtain ⟨entry, hentry, hnumber, hrow⟩ := h
    exact ⟨entry, hqueue entry hentry (congrArg some hnumber.symm), hnumber, hrow⟩
  | done reception? =>
    obtain ⟨haccepted, worker, changes, attempt, job, hmem, hcolumns⟩ := h
    exact ⟨haccepted, worker, changes, attempt, job, hevents hmem, hcolumns⟩
  | leaving worker => trivial
  | archived number =>
    obtain ⟨archivedRow, hmem, hcolumns⟩ := h
    exact ⟨archivedRow, harchive hmem, hcolumns⟩
  | lost error =>
    obtain ⟨worker, changes, attempt, job, hmem, hcolumns⟩ := h
    exact ⟨worker, changes, attempt, job, hevents hmem, hcolumns⟩

namespace Balanced

variable {events events' : List (Event α)} {tickets tickets' rest : List Ticket} {ticket : Ticket}
  {store store' : Store} {departing departing' : Nat → Option (Job α)}

/-- Empty tables agree with no tickets. -/
theorem empty : Balanced duties [] [] Store.empty fun _ ↦ none := by
  constructor <;> simp [Store.empty]

/-- The order of the tickets does not matter. -/
theorem perm (h : Balanced duties events tickets store departing)
    (hperm : tickets.Perm tickets') : Balanced duties events tickets' store departing where
  queue := h.queue.trans (hperm.filterMap _)
  archive := h.archive.trans (hperm.filterMap _)
  leaving worker := (hperm.filterMap _).symm.trans (h.leaving worker)
  holds ticket hticket := h.holds ticket (hperm.mem_iff.2 hticket)

/-- Further events change nothing by themselves. -/
theorem mono (h : Balanced duties events tickets store departing) (hevents : events ⊆ events')
    (htables : store.SameTables store') (hdeparting : ∀ j, departing' j = departing j) :
    Balanced duties events' tickets store' departing' where
  queue := htables.queue ▸ h.queue
  archive := htables.archive ▸ h.archive
  leaving worker := hdeparting worker ▸ h.leaving worker
  holds ticket hticket := (h.holds ticket hticket).mono hevents
    (fun _ hentry _ ↦ htables.queue ▸ hentry) fun _ hmem ↦ htables.archive ▸ hmem

/-- A row that is enqueued gets a ticket of its own. -/
theorem enqueue (h : Balanced duties events tickets store departing) (hevents : events ⊆ events')
    (row : Row) (visibleFrom : Instant) (hdeparting : ∀ j, departing' j = departing j) :
    Balanced duties events' (tickets ++ [⟨row, .waiting store.next 0⟩])
      (store.produce row visibleFrom) departing' where
  queue := by
    simp only [Store.produce, List.map_append, List.filterMap_append]
    exact h.queue.append (List.Perm.refl _)
  archive := by
    rw [List.filterMap_append]
    exact h.archive.trans (List.Perm.of_eq (List.append_nil _).symm)
  leaving worker := by
    rw [List.filterMap_append, hdeparting]
    exact (List.Perm.of_eq (List.append_nil _)).trans (h.leaving worker)
  holds ticket hticket := by
    rcases List.mem_append.1 hticket with hold | hnew
    · exact (h.holds ticket hold).mono hevents (fun _ hentry _ ↦ List.mem_append_left _ hentry)
        (List.Subset.refl _)
    · rw [List.mem_singleton.1 hnew]
      refine ⟨_, List.mem_append_right _ (List.mem_singleton.2 rfl), rfl, rfl, ?_⟩
      simp [Row.triesAfter]

theorem filterMap_cons_toList {β γ : Type} (f : β → Option γ) (element : β) (rest : List β) :
    (element :: rest).filterMap f = (f element).toList ++ rest.filterMap f := by
  cases hvalue : f element <;> simp [hvalue]

/-- One ticket changes its fate. -/
theorem replace (h : Balanced duties events (ticket :: rest) store departing) (fate : Fate)
    (hevents : events ⊆ events')
    (hqueue : (store'.queue.map Entry.number).Perm
      (fate.queueNumber?.toList ++ rest.filterMap Ticket.queueNumber?))
    (harchive : (store'.archive.map Prod.fst).Perm
      (fate.archiveNumber?.toList ++ rest.filterMap Ticket.archiveNumber?))
    (hkept : ∀ entry ∈ store.queue, entry.number ∈ rest.filterMap Ticket.queueNumber? →
      entry ∈ store'.queue)
    (hkept' : store.archive ⊆ store'.archive)
    (hleaving : ∀ worker, ((Ticket.leaving? worker ⟨ticket.row, fate⟩).toList ++
      rest.filterMap (Ticket.leaving? worker)).Perm
        ((departing' worker).toList.map duties.columns))
    (hholds : fate.Holds duties events' store' ticket.row) :
    Balanced duties events' (⟨ticket.row, fate⟩ :: rest) store' departing' where
  queue := by
    rw [filterMap_cons_toList]
    exact hqueue
  archive := by
    rw [filterMap_cons_toList]
    exact harchive
  leaving worker := by
    rw [filterMap_cons_toList]
    exact hleaving worker
  holds other hother := by
    rcases List.mem_cons.1 hother with rfl | hrest
    · exact hholds
    · refine (h.holds other (List.mem_cons_of_mem _ hrest)).mono hevents
        (fun entry hentry hnumber ↦ hkept entry hentry ?_) hkept'
      exact List.mem_filterMap.2 ⟨other, hrest, hnumber⟩

/-! ## Commits that remove a row -/

/-- The numbers in the queue after a commit that deletes one row. -/
theorem numbers_of_commit {queue inserted : List Entry} {number : Nat} {numbers : List Nat}
    (hnodup : (queue.map Entry.number).Nodup)
    (hperm : (queue.map Entry.number).Perm (number :: numbers))
    (hinserted : number ∉ inserted.map Entry.number) :
    (((Store.placeAll Entry.number inserted queue).filter fun entry ↦
      !([number].contains entry.number)).map Entry.number).Perm
        (inserted.map Entry.number ++ numbers) := by
  have hfilter (others : List Nat) (hothers : number ∉ others) :
      others.filter (fun other ↦ !([number].contains other)) = others := by
    apply List.filter_eq_self.2
    intro other hother
    have hne : other ≠ number := fun heq ↦ hothers (heq ▸ hother)
    simpa using hne
  have hnumbers : number ∉ numbers := (List.nodup_cons.1 (hperm.nodup_iff.1 hnodup)).1
  have hplaced : ((Store.placeAll Entry.number inserted queue).map Entry.number).Perm
      (number :: numbers ++ inserted.map Entry.number) := by
    calc (Store.placeAll Entry.number inserted queue).map Entry.number
        ~ (queue ++ inserted).map Entry.number :=
          (Store.placeAll_perm Entry.number inserted queue).map _
      _ = queue.map Entry.number ++ inserted.map Entry.number := List.map_append
      _ ~ number :: numbers ++ inserted.map Entry.number := hperm.append_right _
  calc ((Store.placeAll Entry.number inserted queue).filter fun entry ↦
          !([number].contains entry.number)).map Entry.number
      = ((Store.placeAll Entry.number inserted queue).map Entry.number).filter
          fun other ↦ !([number].contains other) := by rw [List.filter_map]; rfl
    _ ~ (number :: numbers ++ inserted.map Entry.number).filter
          fun other ↦ !([number].contains other) := hplaced.filter _
    _ = numbers ++ inserted.map Entry.number := by
        rw [List.filter_append, hfilter _ hinserted, List.filter_cons_of_neg (by simp),
          hfilter _ hnumbers]
    _ ~ inserted.map Entry.number ++ numbers := List.perm_append_comm

/-- The row of one waiting ticket is deleted; it may be replaced by another row. -/
theorem commit (h : Balanced duties events (ticket :: rest) store departing)
    (hevents : events ⊆ events') {session number returns : Nat} {changes : Changes}
    (hfate : ticket.fate = .waiting number returns)
    (hnodup : (store.queue.map Entry.number).Nodup)
    (hcommits : store.Commits session changes store') (hdeleted : changes.deleted = [number])
    (harchived : changes.archived = []) (hnumber : number ∉ changes.inserted.map Entry.number)
    (fate : Fate) (hinserted : fate.queueNumber?.toList = changes.inserted.map Entry.number)
    (hother : fate.archiveNumber? = none)
    (hleaving : ∀ worker, (Ticket.leaving? worker ⟨ticket.row, fate⟩).toList ++
      (departing worker).toList.map duties.columns ~
        (departing' worker).toList.map duties.columns)
    (hholds : fate.Holds duties events' store' ticket.row) :
    Balanced duties events' (⟨ticket.row, fate⟩ :: rest) store' departing' := by
  have hnumbers : store.queue.map Entry.number ~
      number :: rest.filterMap Ticket.queueNumber? := by
    have hold := h.queue
    rw [filterMap_cons_toList, Ticket.queueNumber?, hfate] at hold
    exact hold
  have hapart : number ∉ rest.filterMap Ticket.queueNumber? :=
    (List.nodup_cons.1 (hnumbers.nodup_iff.1 hnodup)).1
  have hqueue := hcommits.queue
  have harchive := hcommits.archive
  rw [hdeleted] at hqueue
  rw [harchived, Store.placeAll_nil] at harchive
  refine h.replace fate hevents ?_ ?_ (fun entry hentry hmem ↦ ?_)
    (fun _ hmem ↦ harchive ▸ hmem) (fun worker ↦ ?_) hholds
  · rw [hqueue, hinserted]
    exact numbers_of_commit hnodup hnumbers hnumber
  · have hold := h.archive
    rw [filterMap_cons_toList, Ticket.archiveNumber?, hfate] at hold
    rw [harchive, hother]
    exact hold
  · have hne : entry.number ≠ number := fun heq ↦ hapart (heq ▸ hmem)
    rw [hqueue, List.mem_filter, Store.mem_placeAll]
    exact ⟨.inl hentry, by simpa using hne⟩
  · have hold := h.leaving worker
    rw [filterMap_cons_toList, Ticket.leaving?, hfate] at hold
    exact (hold.append_left _).trans (hleaving worker)

/-! ## Rows that leave -/

/-- The row of one leaving ticket is archived, or it is lost. -/
theorem depart (h : Balanced duties events (ticket :: rest) store departing)
    (hevents : events ⊆ events') {worker : Nat} {archived : List (Nat × ArchivedRow)}
    (hfate : ticket.fate = .leaving worker) (hqueue : store'.queue = store.queue)
    (harchive : store'.archive = Store.placeAll Prod.fst archived store.archive) (fate : Fate)
    (harchived : fate.archiveNumber?.toList = archived.map Prod.fst)
    (hother : fate.queueNumber? = none) (hstays : ∀ other, fate.isLeaving other = false)
    (hnone : departing' worker = none)
    (hdeparting : ∀ other ≠ worker, departing' other = departing other)
    (hholds : fate.Holds duties events' store' ticket.row) :
    Balanced duties events' (⟨ticket.row, fate⟩ :: rest) store' departing' := by
  refine h.replace fate hevents ?_ ?_ (fun entry hentry _ ↦ hqueue ▸ hentry)
    (fun _ hmem ↦ harchive ▸ Store.mem_placeAll.2 (.inl hmem)) (fun other ↦ ?_) hholds
  · have hold := h.queue
    rw [filterMap_cons_toList, Ticket.queueNumber?, hfate] at hold
    rw [hqueue, hother]
    exact hold
  · have hold := h.archive
    rw [filterMap_cons_toList, Ticket.archiveNumber?, hfate] at hold
    rw [harchive, harchived]
    calc (Store.placeAll Prod.fst archived store.archive).map Prod.fst
        ~ (store.archive ++ archived).map Prod.fst := (Store.placeAll_perm _ _ _).map _
      _ = store.archive.map Prod.fst ++ archived.map Prod.fst := List.map_append
      _ ~ archived.map Prod.fst ++ store.archive.map Prod.fst := List.perm_append_comm
      _ ~ archived.map Prod.fst ++ rest.filterMap Ticket.archiveNumber? := hold.append_left _
  · have hold := h.leaving other
    have hgone : Ticket.leaving? other ⟨ticket.row, fate⟩ = none := by
      simp only [Ticket.leaving?, hstays, Bool.false_eq_true, if_false]
    rw [hgone]
    rw [filterMap_cons_toList, Ticket.leaving?, hfate] at hold
    by_cases hsame : other = worker
    · subst hsame
      rw [hnone]
      simp only [Fate.isLeaving, beq_self_eq_true, if_true, Option.toList_some,
        List.singleton_append] at hold
      have hlength := hold.length_eq
      cases hjob : departing other with
      | none => simp [hjob] at hlength
      | some job =>
        have hempty : rest.filterMap (Ticket.leaving? other) = [] := by
          simpa [hjob] using hlength
        rw [hempty]
        exact List.Perm.refl _
    · have hleaves : Fate.isLeaving other (.leaving worker) = false := by
        simpa [Fate.isLeaving] using Ne.symm hsame
      rw [hleaves] at hold
      rw [hdeparting other hsame]
      exact hold

/-! ## The affected ticket -/

/-- A committed row has its ticket, and no other ticket waits under its number. -/
theorem exists_waiting (h : Balanced duties events tickets store departing) {entry : Entry}
    (hnodup : (store.queue.map Entry.number).Nodup) (hentry : entry ∈ store.queue) :
    ∃ ticket rest returns, tickets ~ ticket :: rest ∧
      ticket.fate = .waiting entry.number returns ∧ entry.row.columns = ticket.row.columns ∧
      entry.row.tries = ticket.row.triesAfter returns ∧
      entry.number ∉ rest.filterMap Ticket.queueNumber? := by
  have hmem : entry.number ∈ tickets.filterMap Ticket.queueNumber? :=
    h.queue.mem_iff.1 (List.mem_map_of_mem hentry)
  obtain ⟨ticket, hticket, hnumber⟩ := List.mem_filterMap.1 hmem
  obtain ⟨before, behind, hsplit⟩ := List.append_of_mem hticket
  have hperm : tickets ~ ticket :: (before ++ behind) := by
    rw [hsplit]
    exact List.perm_middle
  obtain ⟨returns, hfate⟩ : ∃ returns, ticket.fate = .waiting entry.number returns := by
    unfold Ticket.queueNumber? Fate.queueNumber? at hnumber
    split at hnumber
    · next number returns hfate => exact ⟨returns, by rw [hfate, Option.some.inj hnumber]⟩
    · cases hnumber
  have hholds := h.holds ticket hticket
  rw [hfate] at hholds
  obtain ⟨other, hother, hsame, hcolumns, htries⟩ := hholds
  obtain rfl : other = entry := List.inj_on_of_nodup_map hnodup hother hentry hsame
  refine ⟨ticket, before ++ behind, returns, hperm, hfate, hcolumns, htries, ?_⟩
  have hnumbers := (h.perm hperm).queue
  rw [filterMap_cons_toList, hnumber] at hnumbers
  exact (List.nodup_cons.1 (hnumbers.nodup_iff.1 hnodup)).1

/-- A departing job has its ticket, and no other ticket leaves with its worker. -/
theorem exists_leaving (h : Balanced duties events tickets store departing) {worker : Nat}
    {job : Job α} (hjob : departing worker = some job) :
    ∃ ticket rest, tickets ~ ticket :: rest ∧ ticket.fate = .leaving worker ∧
      ticket.row.columns = duties.columns job ∧
      ∀ other ∈ rest, other.fate.isLeaving worker = false := by
  have hleaving := h.leaving worker
  rw [hjob] at hleaving
  have hmem : duties.columns job ∈ tickets.filterMap (Ticket.leaving? worker) :=
    hleaving.mem_iff.2 (List.mem_singleton.2 rfl)
  obtain ⟨ticket, hticket, hcolumns⟩ := List.mem_filterMap.1 hmem
  obtain ⟨before, behind, hsplit⟩ := List.append_of_mem hticket
  have hperm : tickets ~ ticket :: (before ++ behind) := by
    rw [hsplit]
    exact List.perm_middle
  have hrest := (h.perm hperm).leaving worker
  rw [filterMap_cons_toList, hcolumns, hjob] at hrest
  have hempty : (before ++ behind).filterMap (Ticket.leaving? worker) = [] := by
    simpa using hrest.length_eq
  unfold Ticket.leaving? at hcolumns
  split at hcolumns
  · next hleaves =>
    refine ⟨ticket, before ++ behind, hperm, ?_, Option.some.inj hcolumns, fun other hother ↦ ?_⟩
    · unfold Fate.isLeaving at hleaves
      split at hleaves
      · next number hfate => rw [hfate, beq_iff_eq.1 hleaves]
      · cases hleaves
    · have hnone := List.filterMap_eq_nil_iff.1 hempty other hother
      unfold Ticket.leaving? at hnone
      split at hnone
      · cases hnone
      · next hstays => simpa using hstays
  · cases hcolumns

/-- Entering an event changes one ticket, if it leaves the others as they are. -/
theorem enter_perm {event : Event α} (hperm : tickets ~ ticket :: rest)
    (hrest : ∀ other ∈ rest, other.fate.after event = other.fate) :
    tickets.map (Ticket.after event) ~ ⟨ticket.row, ticket.fate.after event⟩ :: rest := by
  have hsame : rest.map (Ticket.after event) = rest := by
    conv_rhs => rw [← List.map_id rest]
    exact List.map_congr_left fun other hother ↦ by
      simp only [Ticket.after, hrest other hother, id]
  have hmap := hperm.map (Ticket.after event)
  rw [List.map_cons, hsame] at hmap
  exact hmap

theorem commit_eq_self {changes : Changes} {number : Nat} {otherwise fate : Fate}
    (hdeleted : changes.deleted = [number]) (h : fate.queueNumber? ≠ some number) :
    fate.commit changes otherwise = fate := by
  cases fate with
  | waiting other returns =>
    have hne : other ≠ number := fun heq ↦ h (congrArg some heq)
    simp [Fate.commit, hdeleted, hne]
  | done | leaving | archived | lost => rfl

end Balanced

/-! ## Every step keeps the balance -/

namespace Balanced

variable {events : List (Event α)} {store store' : Store}
  {departing departing' : Nat → Option (Job α)} {worker session : Nat} {changes : Changes}
  {attempt : Attempt} {job : Job α} {failure : JobFailure} {entry : Entry}

/-- A commit that deletes one row decides the fate of the ticket of this row and of no other. -/
theorem enter_commit (h : Balanced duties events (Ledger.ofEvents events) store departing)
    (hnodup : (store.queue.map Entry.number).Nodup) (hmem : entry ∈ store.queue)
    (hcommits : store.Commits session changes store') (hdeleted : changes.deleted = [entry.number])
    (harchived : changes.archived = []) (hnumber : entry.number ∉ changes.inserted.map Entry.number)
    {happening : Happening α} {otherwise : Fate} (fate : Nat → Fate)
    (hafter : ∀ old : Fate,
      old.after (.happened worker changes attempt happening) = old.commit changes otherwise)
    (hfate : ∀ returns, (Fate.waiting entry.number returns).commit changes otherwise = fate returns)
    (hinserted : ∀ returns, (fate returns).queueNumber?.toList = changes.inserted.map Entry.number)
    (hother : ∀ returns, (fate returns).archiveNumber? = none)
    (hleaving : ∀ row returns, entry.row.columns = row.columns → ∀ other,
      (Ticket.leaving? other ⟨row, fate returns⟩).toList ++
        (departing other).toList.map duties.columns ~ (departing' other).toList.map duties.columns)
    (hholds : ∀ row returns, entry.row.columns = row.columns →
      entry.row.tries = row.triesAfter returns →
        (fate returns).Holds duties (events ++ [.happened worker changes attempt happening]) store'
          row) :
    Balanced duties (events ++ [.happened worker changes attempt happening])
      (Ledger.ofEvents (events ++ [.happened worker changes attempt happening])) store'
      departing' := by
  obtain ⟨ticket, rest, returns, hperm, hwaits, hcolumns, htries, hrest⟩ :=
    h.exists_waiting hnodup hmem
  have hentered : (Ledger.ofEvents events).map (Ticket.after (.happened worker changes attempt
      happening)) ~ ⟨ticket.row, fate returns⟩ :: rest := by
    have hentered := enter_perm hperm fun other hother ↦ (hafter other.fate).trans <|
      commit_eq_self hdeleted fun hnumber ↦ hrest (List.mem_filterMap.2 ⟨other, hother, hnumber⟩)
    rwa [hafter, hwaits, hfate] at hentered
  rw [Ledger.ofEvents_append_singleton]
  have hcommitted := (h.perm hperm).commit (List.subset_append_left _ _) hwaits hnodup hcommits
    hdeleted harchived hnumber (fate returns) (hinserted returns) (hother returns)
    (hleaving _ _ hcolumns) (hholds _ _ hcolumns htries)
  exact hcommitted.perm hentered.symm

/-- The ticket of a job that a worker has removed gets its last fate. -/
theorem enter_depart (h : Balanced duties events (Ledger.ofEvents events) store departing)
    (hbefore : departing worker = some job) (hafterwards : departing' worker = none)
    (hdeparting : ∀ j ≠ worker, departing' j = departing j)
    {archived : List (Nat × ArchivedRow)} (hqueue : store'.queue = store.queue)
    (harchive : store'.archive = Store.placeAll Prod.fst archived store.archive)
    {happening : Happening α} {fate : Fate}
    (hafter : ∀ old : Fate,
      old.after (.happened worker changes attempt happening) = old.depart worker fate)
    (harchived : fate.archiveNumber?.toList = archived.map Prod.fst)
    (hother : fate.queueNumber? = none) (hstays : ∀ other, fate.isLeaving other = false)
    (hholds : ∀ row : Row, row.columns = duties.columns job →
      fate.Holds duties (events ++ [.happened worker changes attempt happening]) store' row) :
    Balanced duties (events ++ [.happened worker changes attempt happening])
      (Ledger.ofEvents (events ++ [.happened worker changes attempt happening])) store'
      departing' := by
  obtain ⟨ticket, rest, hperm, hleaves, hcolumns, hrest⟩ := h.exists_leaving hbefore
  have hentered : (Ledger.ofEvents events).map (Ticket.after (.happened worker changes attempt
      happening)) ~ ⟨ticket.row, fate⟩ :: rest := by
    have hentered := enter_perm hperm fun other hother ↦ (hafter other.fate).trans <| by
      rw [Fate.depart, hrest other hother, if_neg Bool.false_ne_true]
    have hdeparts : (Fate.leaving worker).depart worker fate = fate := by
      simp [Fate.depart, Fate.isLeaving]
    rwa [hafter, hleaves, hdeparts] at hentered
  rw [Ledger.ofEvents_append_singleton]
  have hdeparted := (h.perm hperm).depart (List.subset_append_left _ _) hleaves hqueue harchive fate
    harchived hother hstays hafterwards hdeparting (hholds _ hcolumns)
  exact hdeparted.perm hentered.symm

/-- The commit of an accepted job settles the ticket of its row. -/
theorem accept (h : Balanced duties events (Ledger.ofEvents events) store departing)
    (hnodup : (store.queue.map Entry.number).Nodup) (hmem : entry ∈ store.queue)
    (hcolumns : duties.columns job = entry.row.columns)
    (haccepted : attempt.reception? = some .accepted)
    (hcommits : store.Commits session changes store') (hdeleted : changes.deleted = [entry.number])
    (hinserted : changes.inserted = []) (harchived : changes.archived = [])
    (hdeparting : ∀ j, departing' j = departing j) :
    Balanced duties (events ++ [.happened worker changes attempt (.accepted job)])
      (Ledger.ofEvents (events ++ [.happened worker changes attempt (.accepted job)]))
      store' departing' := by
  apply h.enter_commit hnodup hmem hcommits hdeleted harchived (by simp [hinserted])
    (fun _ ↦ .done attempt.reception?) fun _ ↦ rfl
  · intro returns
    simp [Fate.commit, hdeleted, hinserted]
  · intro returns
    simp [hinserted, Fate.queueNumber?]
  · intro returns
    rfl
  · intro row returns _ other
    rw [hdeparting]
    exact List.Perm.refl _
  · intro row returns hrow _
    exact ⟨haccepted, worker, changes, attempt, job, by simp, hcolumns.trans hrow⟩

/-- The commit that puts a job back moves its ticket to the new row. -/
theorem giveBack (h : Balanced duties events (Ledger.ofEvents events) store departing)
    (hnodup : (store.queue.map Entry.number).Nodup) (hmem : entry ∈ store.queue)
    (hcolumns : duties.columns job = entry.row.columns)
    (htries : some job.details.tries = entry.row.tries.map JobMeta.nextTry)
    {new : Entry} {dequeueAfter : Instant} (hrow : new.row = duties.savedRow job dequeueAfter)
    (hnew : new.number ≠ entry.number)
    (hcommits : store.Commits session changes store') (hdeleted : changes.deleted = [entry.number])
    (hinserted : changes.inserted = [new]) (harchived : changes.archived = [])
    (hdeparting : ∀ j, departing' j = departing j) :
    Balanced duties (events ++ [.happened worker changes attempt (.returned job failure)])
      (Ledger.ofEvents (events ++ [.happened worker changes attempt (.returned job failure)]))
      store' departing' := by
  apply h.enter_commit hnodup hmem hcommits hdeleted harchived
    (by simpa [hinserted] using hnew.symm) (fun returns ↦ .waiting new.number (returns + 1))
    fun _ ↦ rfl
  · intro returns
    simp [Fate.commit, hdeleted, hinserted]
  · intro returns
    simp [hinserted, Fate.queueNumber?]
  · intro returns
    rfl
  · intro row returns _ other
    rw [hdeparting]
    exact List.Perm.refl _
  · intro row returns hkept hattempts
    have hnewcolumns : new.row.columns = row.columns := by
      calc new.row.columns = duties.columns job := by rw [hrow]; rfl
        _ = entry.row.columns := hcolumns
        _ = row.columns := hkept
    have hnewtries : new.row.tries = row.triesAfter (returns + 1) := by
      calc new.row.tries = some job.details.tries := by rw [hrow]; rfl
        _ = entry.row.tries.map JobMeta.nextTry := htries
        _ = (row.triesAfter returns).map JobMeta.nextTry := by rw [hattempts]
        _ = row.triesAfter (returns + 1) := by
          rw [Row.triesAfter, Row.triesAfter, Function.iterate_succ', ← Option.map_map]
    refine ⟨new, ?_, rfl, hnewcolumns, hnewtries⟩
    rw [hcommits.queue, hinserted, hdeleted, List.mem_filter, Store.mem_placeAll]
    exact ⟨.inr (List.mem_singleton.2 rfl), by simpa using hnew⟩

/-- The commit before the archive makes the ticket of a row leave with the worker. -/
theorem remove (h : Balanced duties events (Ledger.ofEvents events) store departing)
    (hnodup : (store.queue.map Entry.number).Nodup) (hmem : entry ∈ store.queue)
    (hcolumns : duties.columns job = entry.row.columns)
    (hcommits : store.Commits session changes store') (hdeleted : changes.deleted = [entry.number])
    (hinserted : changes.inserted = []) (harchived : changes.archived = [])
    (hbefore : departing worker = none) (hafterwards : departing' worker = some job)
    (hdeparting : ∀ j ≠ worker, departing' j = departing j) :
    Balanced duties (events ++ [.happened worker changes attempt (.removed job failure)])
      (Ledger.ofEvents (events ++ [.happened worker changes attempt (.removed job failure)]))
      store' departing' := by
  apply h.enter_commit hnodup hmem hcommits hdeleted harchived (by simp [hinserted])
    (fun _ ↦ .leaving worker) fun _ ↦ rfl
  · intro returns
    simp [Fate.commit, hdeleted, hinserted]
  · intro returns
    simp [hinserted, Fate.queueNumber?]
  · intro returns
    rfl
  · intro row returns hrow other
    by_cases hother : other = worker
    · subst hother
      rw [hbefore, hafterwards]
      simp [Ticket.leaving?, Fate.isLeaving, hcolumns.trans hrow]
    · rw [hdeparting other hother]
      simp [Ticket.leaving?, Fate.isLeaving, Ne.symm hother]
  · intro row returns _ _
    trivial

/-- The commit of the archive brings a leaving ticket to the archive. -/
theorem archive_job (h : Balanced duties events (Ledger.ofEvents events) store departing)
    {number : Nat} {failedAt : Instant} (hcommits : store.Commits session changes store')
    (hdeleted : changes.deleted = []) (hinserted : changes.inserted = [])
    (harchived : changes.archived = [(number, duties.archivedRow job failure failedAt)])
    (hbefore : departing worker = some job) (hafterwards : departing' worker = none)
    (hdeparting : ∀ j ≠ worker, departing' j = departing j) :
    Balanced duties (events ++ [.happened worker changes attempt (.archived job failure)])
      (Ledger.ofEvents (events ++ [.happened worker changes attempt (.archived job failure)]))
      store' departing' := by
  have hqueue : store'.queue = store.queue := by
    rw [hcommits.queue, hinserted, hdeleted, Store.placeAll_nil]
    exact List.filter_eq_self.2 fun _ _ ↦ rfl
  have hafter (old : Fate) : old.after (.happened worker changes attempt (.archived job failure)) =
      old.depart worker (.archived number) := by
    simp only [Fate.after, harchived]
  apply h.enter_depart hbefore hafterwards hdeparting hqueue hcommits.archive hafter
    (by simp [harchived, Fate.archiveNumber?]) rfl fun _ ↦ rfl
  intro row hcolumns
  refine ⟨duties.archivedRow job failure failedAt, ?_, hcolumns.symm⟩
  rw [hcommits.archive, harchived]
  exact Store.mem_placeAll.2 (.inr (List.mem_singleton.2 rfl))

/-- A failure between the two commits loses the row of a leaving ticket. -/
theorem lose (h : Balanced duties events (Ledger.ofEvents events) store departing)
    {error : DatabaseError} (htables : store.SameTables store')
    (hbefore : departing worker = some job) (hafterwards : departing' worker = none)
    (hdeparting : ∀ j ≠ worker, departing' j = departing j) :
    Balanced duties (events ++ [.happened worker changes attempt (.lost job error)])
      (Ledger.ofEvents (events ++ [.happened worker changes attempt (.lost job error)]))
      store' departing' := by
  have harchive : store'.archive = Store.placeAll Prod.fst [] store.archive := htables.archive
  apply h.enter_depart hbefore hafterwards hdeparting htables.queue harchive (fun _ ↦ rfl) rfl rfl
    fun _ ↦ rfl
  intro row hcolumns
  exact ⟨worker, changes, attempt, job, by simp, hcolumns.symm⟩

/-- A job that was read from a row of the queue is written with the columns of that row. -/
theorem columns_eq (h : Balanced duties events (Ledger.ofEvents events) store departing)
    (hcodec : duties.codec.PreservesEnqueued events) (halone : duties.deduplicator = none)
    (hnodup : (store.queue.map Entry.number).Nodup) {merged : List Row}
    (hholds : store.Holds duties merged job entry) : duties.columns job = entry.row.columns := by
  obtain ⟨ticket, rest, -, hperm, -, hcolumns, -⟩ := h.exists_waiting hnodup hholds.mem
  have hticket : ticket ∈ Ledger.ofEvents events := hperm.mem_iff.2 List.mem_cons_self
  have hrow : ticket.row ∈ events.filterMap Event.enqueued? :=
    Ledger.map_row_ofEvents events ▸ List.mem_map_of_mem hticket
  -- However often the row was put back, its cells are those with which it was enqueued.
  have hcells : entry.row.job = ticket.row.job := congrArg (fun columns ↦ columns.2.2) hcolumns
  refine hholds.renders.columns_eq ?_ halone
  rw [hcells]
  exact hcodec _ hrow

/-- Every move keeps the tables and the ledger in balance. -/
theorem step {world : World duties} (hcodec : duties.codec.PreservesEnqueued events)
    (halone : duties.deduplicator = none) (hsound : world.Sound)
    (h : Balanced duties events (Ledger.ofEvents events) world.server.store world.departing?)
    (move : Move) :
    Balanced duties (events ++ (world.event? move).toList)
      (Ledger.ofEvents (events ++ (world.event? move).toList)) (world.step move).server.store
      (world.step move).departing? := by
  have hnodup : (world.server.store.queue.map Entry.number).Nodup :=
    (List.nodup_append.1 hsound.server.store.nodup).1
  have heffect := hsound.effect move
  generalize world.event? move = event? at heffect ⊢
  generalize world.step move = world' at heffect ⊢
  cases heffect with
  | none htables hdeparting =>
    simp only [Option.toList_none, List.append_nil]
    exact h.mono (List.Subset.refl _) htables hdeparting
  | @enqueued row visibleFrom hstore hdeparting =>
    rw [hstore]
    simp only [Option.toList_some, Ledger.ofEvents_append_singleton]
    exact h.enqueue (List.subset_append_left _ _) row visibleFrom hdeparting
  | @happened worker session changes attempt happening hchanges houtcome hothers =>
    simp only [Option.toList_some]
    have hstays (hsame : world'.departing? worker = world.departing? worker) (j : Nat) :
        world'.departing? j = world.departing? j := by
      by_cases hj : j = worker
      · rw [hj, hsame]
      · exact hothers j hj
    have hcommitted {committed : Changes}
        (hcommits : world.server.store.Commits session committed world'.server.store) :
        committed = changes := by
      obtain ⟨savepoint, hactive⟩ := hcommits.active
      rw [← hchanges, hactive]
      rfl
    generalize hbefore : world.departing? worker = before at houtcome
    generalize hafter : world'.departing? worker = after at houtcome
    cases houtcome with
    | received hstore =>
      rw [Ledger.ofEvents_append_singleton, Ledger.enter_received, hstore]
      exact h.mono (List.subset_append_left _ _) (Store.SameTables.refl _)
        (hstays (hafter.trans hbefore.symm))
    | accepted haccepted hcommits hholds hsubset hdistinct hrows hdeleted hinserted harchived =>
      obtain rfl := hcommitted hcommits
      have hempty := hrows.trans (hholds.renders.alone halone)
      rw [List.map_eq_nil_iff.1 hempty, List.map_nil] at hdeleted
      exact h.accept hnodup hholds.mem (h.columns_eq hcodec halone hnodup hholds) haccepted hcommits
        hdeleted hinserted harchived (hstays (hafter.trans hbefore.symm))
    | returned hheard hcommits hholds hrow hdeleted hinserted harchived =>
      obtain rfl := hcommitted hcommits
      have hnew := (hsound.server.store.admits session).new
      rw [hchanges] at hnew
      refine h.giveBack hnodup hholds.mem (h.columns_eq hcodec halone hnodup hholds)
        hholds.renders.tries_eq hrow (fun hsame ↦ ?_) hcommits hdeleted hinserted harchived
        (hstays (hafter.trans hbefore.symm))
      refine hnew _ ?_ (List.mem_append_left _ (List.mem_map_of_mem hholds.mem))
      rw [← hsame]
      simp [Changes.numbers, hinserted]
    | removed hheard hcommits hholds hdeleted hinserted harchived =>
      obtain rfl := hcommitted hcommits
      exact h.remove hnodup hholds.mem (h.columns_eq hcodec halone hnodup hholds) hcommits hdeleted
        hinserted harchived hbefore hafter hothers
    | archived hcommits hdeleted hinserted harchived =>
      obtain rfl := hcommitted hcommits
      exact h.archive_job hcommits hdeleted hinserted harchived hbefore hafter hothers
    | lost htables => exact h.lose htables hbefore hafter hothers

end Balanced

/-! ## Conservation -/

structure Conserves (duties : Duties α) (past : Past duties) (world : World duties) : Prop where
  /-- There is one ticket for each row that was enqueued. -/
  tickets : (Ledger.ofEvents past.events).map Ticket.row = past.events.filterMap Event.enqueued?
  balanced : Balanced duties past.events (Ledger.ofEvents past.events) world.server.store
    world.departing?
  /-- No two rows have the same number, in one table or in both. -/
  numbers : world.server.store.numbers.Nodup
  /-- No row is held in two transactions. -/
  apart : ∀ session other, session ≠ other →
    (world.server.store.transaction session).changes.deleted.Disjoint
      (world.server.store.transaction other).changes.deleted

/-- The tickets agree with the tables throughout a run. -/
theorem balanced_of_run (halone : duties.deduplicator = none) {workers : Nat} {shared : Shared}
    {now : Instant} {past : Past duties} {world : World duties}
    (hcodec : duties.codec.PreservesEnqueued past.events)
    (run : Run Anything (World.initial duties workers shared now) past world) :
    Balanced duties past.events (Ledger.ofEvents past.events) world.server.store
      world.departing? := by
  induction run with
  | rest =>
    have hnone : (World.initial duties workers shared now).departing? = fun _ ↦ none :=
      funext (World.departing?_initial duties workers shared now)
    rw [hnone]
    exact Balanced.empty
  | move run' _ ih =>
    rw [Past.events_cons] at hcodec ⊢
    exact (ih hcodec.of_append).step hcodec.of_append halone (World.Sound.of_run run') _

/-- Whatever happens, every enqueued row is in the state that the ledger says and in no other. -/
theorem conserves_rows (halone : duties.deduplicator = none) {workers : Nat} {shared : Shared}
    {now : Instant} {past : Past duties} {world : World duties}
    (hcodec : duties.codec.PreservesEnqueued past.events)
    (run : Run Anything (World.initial duties workers shared now) past world) :
    Conserves duties past world := by
  have hstore := (World.Sound.of_run run).server.store
  refine ⟨Ledger.map_row_ofEvents _, balanced_of_run halone hcodec run, hstore.nodup,
    fun session other hne number hmem hmem' ↦ ?_⟩
  exact (hstore.admits session).unlocked other (Ne.symm hne) number hmem hmem'

/-- Two workers with five rows: one is accepted, one is put off, one is archived, one is lost because
the archive could not begin, and one is on its way to the archive. -/
def Sample.mixedMoves : List Move :=
  (List.range 5).map (fun number ↦ .produce (row number [.whole number]) ⟨0⟩) ++
    [.start, .resume 0, .resume 1] ++ rounds 0 (smooth 8) ++
    rounds 0 (smooth 3 ++ [rejecting (.postponed ["no"] (Span.ofSeconds 60))] ++ smooth 3) ++
    rounds 0 (smooth 3 ++ [rejecting (.fatal ["no"] false)] ++ smooth 5) ++
    rounds 0 (smooth 3 ++ [rejecting (.fatal ["no"] false)] ++ smooth 2 ++ [refusing]) ++
    rounds 1 (smooth 5 ++ [rejecting (.fatal ["no"] false)] ++ smooth 2)

theorem conserves_rows_of_mixedMoves :
    (Ledger.ofEvents ((World.initial (Sample.duties none) 2 Sample.shared ⟨10000000000⟩).play
        Sample.mixedMoves).1.events).map Ticket.fate =
      [.done (some .accepted), .waiting 5 1, .archived 6, .lost (.refused "no"), .leaving 1] ∧
    Conserves (Sample.duties none)
      ((World.initial (Sample.duties none) 2 Sample.shared ⟨10000000000⟩).play
        Sample.mixedMoves).1
      ((World.initial (Sample.duties none) 2 Sample.shared ⟨10000000000⟩).play
        Sample.mixedMoves).2 :=
  ⟨by decide +kernel, conserves_rows rfl (fun _ _ _ h ↦ (Except.ok.inj h).symm) (Run.play _ _)⟩

end TableQueue
