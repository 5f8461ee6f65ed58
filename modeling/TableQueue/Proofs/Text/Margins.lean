import Mathlib.Data.List.DropRight
import TableQueue.Text.Blank

/-!
# Margins

A margin is a text of blanks that stands beside another text. Trimming takes both margins of a text
away and nothing else: what it leaves has no blank at either end, and between the two margins it
gives the text again. These two properties determine what is left, so that a text without margins is
found again between any two.
-/

namespace TableQueue.Text

def IsMargin (text : List Char) : Prop :=
  ∀ c ∈ text, isBlank c = true

instance (text : List Char) : Decidable (IsMargin text) :=
  decidable_of_iff (text.all isBlank = true) List.all_eq_true

structure IsTrim (text : List Char) : Prop where
  not_isBlank_head : ∀ c ∈ text.head?, isBlank c = false
  not_isBlank_getLast : ∀ c ∈ text.getLast?, isBlank c = false

instance (text : List Char) : Decidable (IsTrim text) :=
  decidable_of_iff (text.head?.any isBlank = false ∧ text.getLast?.any isBlank = false)
    ⟨fun h ↦ ⟨(Option.any_eq_false ..).1 h.1, (Option.any_eq_false ..).1 h.2⟩,
      fun h ↦ ⟨(Option.any_eq_false ..).2 h.1, (Option.any_eq_false ..).2 h.2⟩⟩

variable {text before after : List Char}

theorem isMargin_nil : IsMargin [] := List.forall_mem_nil _

theorem IsMargin.comma_notMem (htext : IsMargin text) : ',' ∉ text := fun hcomma ↦
  absurd (htext ',' hcomma) (by decide)

theorem isTrim_nil : IsTrim [] := ⟨by simp, by simp⟩

/-! ## One side -/

theorem trimEnd_eq_rdropWhile (text : List Char) : trimEnd text = text.rdropWhile isBlank := rfl

theorem trimStart_margin_append (hbefore : IsMargin before) :
    trimStart (before ++ text) = trimStart text :=
  List.dropWhile_append_of_pos hbefore

theorem trimEnd_append_margin (hafter : IsMargin after) :
    trimEnd (text ++ after) = trimEnd text := by
  have hreverse : IsMargin after.reverse := fun c hc ↦ hafter c (List.mem_reverse.1 hc)
  rw [trimEnd, List.reverse_append, trimStart_margin_append hreverse, trimEnd]

theorem trimStart_eq_self (h : ∀ c ∈ text.head?, isBlank c = false) : trimStart text = text := by
  cases text with
  | nil => rfl
  | cons c rest => exact List.dropWhile_cons_of_neg (by simp [h c rfl])

theorem trimEnd_eq_self (h : ∀ c ∈ text.getLast?, isBlank c = false) : trimEnd text = text := by
  rw [← List.head?_reverse] at h
  rw [trimEnd, trimStart_eq_self h, List.reverse_reverse]

/-! ## Both sides -/

/-- Trimming removes the margins around a trimmed text. -/
theorem trim_between_margins (hbefore : IsMargin before) (htext : IsTrim text)
    (hafter : IsMargin after) : trim (before ++ text ++ after) = text := by
  rw [trim, List.append_assoc, trimStart_margin_append hbefore]
  cases text with
  | nil =>
    -- The margin behind an empty text is already in front of the end.
    have hnothing : trimStart after = [] := List.dropWhile_eq_nil_iff.2 hafter
    rw [List.nil_append, hnothing]
    rfl
  | cons c rest =>
    have hstart : trimStart (c :: rest ++ after) = c :: rest ++ after :=
      trimStart_eq_self htext.not_isBlank_head
    rw [hstart, trimEnd_append_margin hafter, trimEnd_eq_self htext.not_isBlank_getLast]

/-- A trimmed text has no margins. -/
theorem isTrim_trim (text : List Char) : IsTrim (trim text) where
  not_isBlank_head := by
    intro c hc
    obtain ⟨after, hafter⟩ : trim text <+: trimStart text := List.rdropWhile_prefix isBlank _
    have hhead : (trimStart text).head? = some c := by
      rw [← hafter, List.head?_append, hc, Option.some_or]
    have hblank := List.head?_dropWhile_not isBlank text
    rwa [← trimStart, hhead] at hblank
  not_isBlank_getLast := by
    intro c hc
    obtain ⟨hne, rfl⟩ := List.mem_getLast?_eq_getLast hc
    exact eq_false_of_ne_true (List.rdropWhile_last_not isBlank (trimStart text) hne)

/-- A text is what is left of it between two margins. -/
theorem exists_margins (text : List Char) :
    ∃ before after, IsMargin before ∧ IsMargin after ∧ before ++ trim text ++ after = text := by
  refine ⟨text.takeWhile isBlank, (trimStart text).rtakeWhile isBlank,
    fun _ hc ↦ List.mem_takeWhile_imp hc, fun _ hc ↦ List.mem_rtakeWhile_imp hc, ?_⟩
  rw [List.append_assoc, trim, trimEnd_eq_rdropWhile, List.rdropWhile_append_rtakeWhile]
  exact List.takeWhile_append_dropWhile

/-- Trimming leaves a text as it is exactly if it has no margins. -/
theorem trim_eq_self_iff : trim text = text ↔ IsTrim text := by
  refine ⟨fun h ↦ h ▸ isTrim_trim text, fun h ↦ ?_⟩
  have htrim := trim_between_margins isMargin_nil h isMargin_nil
  rwa [List.nil_append, List.append_nil] at htrim

/-- Trimming leaves nothing of a text exactly if it is a margin. -/
theorem trim_eq_nil_iff : trim text = [] ↔ IsMargin text := by
  refine ⟨fun h ↦ ?_, fun h ↦ ?_⟩
  · obtain ⟨before, after, hbefore, hafter, htext⟩ := exists_margins text
    rw [h, List.append_nil] at htext
    exact htext ▸ List.forall_mem_append.2 ⟨hbefore, hafter⟩
  · have htrim := trim_between_margins h isTrim_nil isMargin_nil
    rwa [List.append_nil, List.append_nil] at htrim

theorem mem_of_mem_trim {c : Char} (hc : c ∈ trim text) : c ∈ text := by
  obtain ⟨before, after, -, -, htext⟩ := exists_margins text
  rw [← htext]
  exact List.mem_append_left _ (List.mem_append_right _ hc)

/-! ## Packed texts -/

theorem toList_trimmed (text : String) : (trimmed text).toList = trim text.toList :=
  String.toList_ofList

theorem trimmed_eq_empty_iff {text : String} : trimmed text = "" ↔ IsMargin text.toList :=
  String.ofList_eq_empty_iff.trans trim_eq_nil_iff

/-- Trimming of a packed text removes the margins around it. -/
theorem trimmed_between_margins {before text after : String} (hbefore : IsMargin before.toList)
    (htext : IsTrim text.toList) (hafter : IsMargin after.toList) :
    trimmed (before ++ text ++ after) = text := by
  rw [trimmed, String.toList_append, String.toList_append,
    trim_between_margins hbefore htext hafter, String.ofList_toList]

/-- A packed text is what is left of it between two margins. -/
theorem exists_packed_margins (text : String) :
    ∃ before after : String, IsMargin before.toList ∧ IsMargin after.toList ∧
      before ++ trimmed text ++ after = text := by
  obtain ⟨before, after, hbefore, hafter, htext⟩ := exists_margins text.toList
  refine ⟨String.ofList before, String.ofList after, by rwa [String.toList_ofList],
    by rwa [String.toList_ofList], ?_⟩
  rw [trimmed, ← String.ofList_append, ← String.ofList_append, htext, String.ofList_toList]

end TableQueue.Text
