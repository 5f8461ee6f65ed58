import Mathlib.Data.List.Forall2
import Mathlib.Data.List.TakeWhile
import TableQueue.Text.Blank

/-!
# Texts in pieces

A text is woven from pieces and separators: any number of separators stand before, between and after
the pieces, and at least one between two of them. Cutting a text into its nonempty pieces undoes the
weaving, and nothing else does. A reader applied piece by piece succeeds exactly if it succeeds on
every piece, and otherwise fails as it does on the first piece that it refuses.
-/

namespace TableQueue.Text

/-- A text consists of some pieces, in order, with separators before, between and after them. -/
inductive Woven (isSeparator : Char → Bool) : List (List Char) → List Char → Prop
  | nil : Woven isSeparator [] []
  | separator {parts : List (List Char)} {text : List Char} {c : Char}
    (hc : isSeparator c = true) (hrest : Woven isSeparator parts text) :
    Woven isSeparator parts (c :: text)
  /-- Behind a piece the text ends or goes on with a separator. -/
  | piece {parts : List (List Char)} {text piece : List Char} (hne : piece ≠ [])
    (hpiece : ∀ c ∈ piece, isSeparator c = false)
    (hbreak : ∀ c ∈ text.head?, isSeparator c = true) (hrest : Woven isSeparator parts text) :
    Woven isSeparator (piece :: parts) (piece ++ text)

variable {isSeparator : Char → Bool} {text piece : List Char} {parts : List (List Char)} {c : Char}

theorem pieces_nil : pieces isSeparator [] = [] := by simp [pieces]

theorem pieces_cons_of_separator (hc : isSeparator c = true) :
    pieces isSeparator (c :: text) = pieces isSeparator text := by
  rw [pieces, List.splitOnP_cons_eq_if_modifyHead, if_pos hc, List.filter_cons_of_neg (by simp), pieces]

theorem pieces_append_piece (hne : piece ≠ []) (hpiece : ∀ c ∈ piece, isSeparator c = false)
    (hbreak : ∀ c ∈ text.head?, isSeparator c = true) :
    pieces isSeparator (piece ++ text) = piece :: pieces isSeparator text := by
  have hkept (rest : List (List Char)) : (piece :: rest).filter (fun piece ↦ !piece.isEmpty) =
      piece :: rest.filter fun piece ↦ !piece.isEmpty :=
    List.filter_cons_of_pos (by simp [hne])
  cases text with
  | nil => rw [List.append_nil, pieces, List.splitOnP_eq_singleton hpiece, hkept, pieces_nil]; rfl
  | cons c rest =>
    have hc : isSeparator c = true := hbreak c rfl
    rw [pieces_cons_of_separator hc, pieces,
      List.splitOnP_append_cons_of_forall_mem hpiece c hc rest, hkept, pieces]

/-- Every text is woven from its pieces. -/
theorem woven_pieces (isSeparator : Char → Bool) (text : List Char) :
    Woven isSeparator (pieces isSeparator text) text := by
  match text with
  | [] => exact pieces_nil ▸ .nil
  | c :: rest =>
    by_cases hc : isSeparator c = true
    · rw [pieces_cons_of_separator hc]
      exact .separator hc (woven_pieces isSeparator rest)
    · -- The first piece reaches to the first separator.
      let p : Char → Bool := fun c ↦ !isSeparator c
      have hpc : p c = true := by simpa [p] using hc
      have hcut : (c :: rest).takeWhile p ++ (c :: rest).dropWhile p = c :: rest :=
        List.takeWhile_append_dropWhile
      have hne : (c :: rest).takeWhile p ≠ [] := by simp [hpc]
      have hpiece : ∀ d ∈ (c :: rest).takeWhile p, isSeparator d = false := fun d hd ↦ by
        simpa [p] using List.mem_takeWhile_imp hd
      have hbreak : ∀ d ∈ ((c :: rest).dropWhile p).head?, isSeparator d = true := fun d hd ↦ by
        rw [← List.find?_eq_head?_dropWhile_not isSeparator] at hd
        exact List.find?_some hd
      have hshorter : ((c :: rest).dropWhile p).length < (c :: rest).length := by
        rw [List.dropWhile_cons_of_pos hpc]
        exact Nat.lt_succ_of_le (List.length_dropWhile_le p rest)
      have hrest := woven_pieces isSeparator ((c :: rest).dropWhile p)
      have hwoven := Woven.piece hne hpiece hbreak hrest
      rwa [← pieces_append_piece hne hpiece hbreak, hcut] at hwoven
termination_by text.length
decreasing_by
  · exact Nat.lt_succ_self rest.length
  · assumption

theorem Woven.not_isSeparator (hwoven : Woven isSeparator parts text) :
    ∀ piece ∈ parts, ∀ c ∈ piece, isSeparator c = false := by
  induction hwoven with
  | nil => exact List.forall_mem_nil _
  | separator _ _ ih => exact ih
  | piece _ hpiece _ _ ih => exact List.forall_mem_cons.2 ⟨hpiece, ih⟩

theorem not_isSeparator_of_mem_splitOnP (hpiece : piece ∈ text.splitOnP isSeparator) :
    ∀ c ∈ piece, isSeparator c = false := by
  by_cases hne : piece = []
  · rw [hne]
    exact List.forall_mem_nil _
  · have hmem : piece ∈ pieces isSeparator text := List.mem_filter.2 ⟨hpiece, by simpa using hne⟩
    exact (woven_pieces isSeparator text).not_isSeparator piece hmem

section Readers

variable {α β ε : Type} {f : α → Except ε β} {items : List α} {results : List β}

/-- A list is read if every item is. -/
theorem mapM_eq_ok_iff :
    items.mapM f = .ok results ↔ List.Forall₂ (fun a b ↦ f a = .ok b) items results := by
  induction items generalizing results with
  | nil => simp [pure, Except.pure, eq_comm]
  | cons a rest ih =>
    rw [List.mapM_cons]
    cases hfirst : f a with
    | error fault => simp [bind, Except.bind, List.forall₂_cons_left_iff, hfirst]
    | ok first =>
      cases hrest : rest.mapM f with
      | error fault => simp [bind, Except.bind, List.forall₂_cons_left_iff, ← ih, hrest]
      | ok others =>
        simp [bind, Except.bind, pure, Except.pure, List.forall₂_cons_left_iff, ← ih, hfirst,
          hrest, eq_comm]

/-- Every item has its result, and every result its item. -/
theorem exists_of_mapM_eq_ok (h : items.mapM f = .ok results) :
    (∀ a ∈ items, ∃ b ∈ results, f a = .ok b) ∧ ∀ b ∈ results, ∃ a ∈ items, f a = .ok b := by
  induction mapM_eq_ok_iff.1 h with
  | nil => simp
  | cons hfirst hrest ih =>
    obtain ⟨hitems, hresults⟩ := ih (mapM_eq_ok_iff.2 hrest)
    simp only [List.mem_cons, forall_eq_or_imp, exists_eq_or_imp]
    exact ⟨⟨.inl hfirst, fun a ha ↦ .inr (hitems a ha)⟩, .inl hfirst, fun b hb ↦ .inr (hresults b hb)⟩

end Readers

end TableQueue.Text
