import Mathlib.Data.List.TakeWhile
import TableQueue.Proofs.Settings.QueueNames
import TableQueue.Proofs.Text.Numerals
import TableQueue.Settings.Overrides

/-!
# Delimiters

The parts of a setting stand between commas, slashes and blanks. No spelling of a truth value or of
a number contains one, neither any that is read nor any that is written, and none is empty. A name
without delimiters is a list of queue names by itself.
-/

namespace TableQueue

/-- The characters between the parts of a setting: commas, slashes and blanks. -/
def isDelimiter (c : Char) : Bool :=
  c == ',' || c == '/' || Text.isBlank c

def delimiterCodes : List Nat :=
  [0x2c, 0x2f, 0x09, 0x0a, 0x0b, 0x0c, 0x0d, 0x20, 0x85, 0xa0, 0x1680, 0x2000, 0x2001, 0x2002,
    0x2003, 0x2004, 0x2005, 0x2006, 0x2007, 0x2008, 0x2009, 0x200a, 0x2028, 0x2029, 0x202f, 0x205f,
    0x3000]

theorem toNat_mem_delimiterCodes {c : Char} (hc : isDelimiter c = true) :
    c.toNat ∈ delimiterCodes := by
  simp only [isDelimiter, Text.isBlank, Bool.or_eq_true, beq_iff_eq, Bool.and_eq_true,
    decide_eq_true_eq] at hc
  simp only [delimiterCodes, List.mem_cons]
  rcases hc with (rfl | rfl) | hc
  · simp
  · simp
  · omega

/-- What holds of the delimiters one by one holds of each of them. -/
theorem forall_isDelimiter {p : Char → Prop}
    (h : ∀ code ∈ delimiterCodes, p (Char.ofNat code)) {c : Char} (hc : isDelimiter c = true) :
    p c := by
  have hp := h c.toNat (toNat_mem_delimiterCodes hc)
  rwa [Char.ofNat_toNat] at hp

structure IsSolid (text : List Char) : Prop where
  ne_nil : text ≠ []
  not_isDelimiter : ∀ c ∈ text, isDelimiter c = false

theorem not_isDelimiter_of_isDigit {c : Char} (hc : Text.isDigit c = true) :
    isDelimiter c = false := by
  by_contra hdelimiter
  have hdigit := forall_isDelimiter (p := fun c ↦ Text.isDigit c = false) (by decide)
    (eq_true_of_ne_false hdelimiter)
  rw [hc] at hdigit
  cases hdigit

/-- Without blanks there is nothing to trim. -/
theorem Text.trim_eq_self {text : List Char} (h : ∀ c ∈ text, isBlank c = false) :
    trim text = text :=
  trim_eq_self_iff.2
    ⟨fun c hc ↦ h c (List.mem_of_mem_head? hc), fun c hc ↦ h c (List.mem_of_mem_getLast? hc)⟩

namespace IsSolid

variable {text rest : List Char} {c : Char}

theorem of_all (h : (!text.isEmpty && text.all fun c ↦ !isDelimiter c) = true) : IsSolid text := by
  obtain ⟨hne, hall⟩ := Bool.and_eq_true_iff.1 h
  refine ⟨by simpa using hne, fun c hc ↦ ?_⟩
  simpa using List.all_eq_true.1 hall c hc

theorem of_numeral (n : Nat) : IsSolid (Text.numeral n) :=
  ⟨Text.numeral_ne_nil n, fun _ hc ↦ not_isDelimiter_of_isDigit (Text.isDigit_of_mem_numeral hc)⟩

theorem cons (hc : isDelimiter c = false) (hrest : ∀ d ∈ rest, isDelimiter d = false) :
    IsSolid (c :: rest) :=
  ⟨List.cons_ne_nil c rest, List.forall_mem_cons.2 ⟨hc, hrest⟩⟩

/-- A text that is solid when it is changed character by character and delimiters are kept is solid
itself. -/
theorem of_map {f : Char → Char} (hf : ∀ c, isDelimiter c = true → f c = c)
    (h : IsSolid (text.map f)) : IsSolid text := by
  refine ⟨fun hnil ↦ h.ne_nil (by rw [hnil, List.map_nil]), fun c hc ↦ ?_⟩
  by_contra hdelimiter
  have hkept := hf c (eq_true_of_ne_false hdelimiter)
  have hfree := h.not_isDelimiter (f c) (List.mem_map_of_mem hc)
  rw [hkept] at hfree
  exact hdelimiter hfree

theorem ne_comma (h : IsSolid text) (hc : c ∈ text) : (c == ',') = false :=
  (Bool.or_eq_false_iff.1 (Bool.or_eq_false_iff.1 (h.not_isDelimiter c hc)).1).1

theorem not_isBlank (h : IsSolid text) (hc : c ∈ text) : Text.isBlank c = false :=
  (Bool.or_eq_false_iff.1 (h.not_isDelimiter c hc)).2

theorem slash_notMem (h : IsSolid text) : '/' ∉ text := fun hmem ↦
  absurd (h.not_isDelimiter '/' hmem) (by decide)

theorem isQueueName {name : String} (h : IsSolid name.toList) : IsQueueName name where
  ne_empty := fun hempty ↦ h.ne_nil (String.toList_eq_nil_iff.2 hempty)
  comma_notMem := fun hmem ↦ absurd (h.ne_comma hmem) (by decide)
  isTrim := Text.trim_eq_self_iff.1 (Text.trim_eq_self fun _ hc ↦ h.not_isBlank hc)

/-- A solid text is a queue name, and by itself the list of this name. -/
theorem splitQueueNames_eq {names : String} (h : IsSolid names.toList) :
    splitQueueNames names = [names] := by
  have hlist : splitQueueNames (joinQueueNames [names]) = [names] :=
    splitQueueNames_joinQueueNames_eq_iff.2 (List.forall_mem_singleton.2 h.isQueueName)
  rwa [joinQueueNames, String.intercalate_singleton] at hlist

end IsSolid

/-! ## Truth values and numbers are solid -/

/-- A delimiter stays in a text when the text is lowered. -/
theorem mem_lowercase {text : List Char} {c : Char} (hc : isDelimiter c = true) (hmem : c ∈ text) :
    c ∈ Text.lowercase text := by
  have hfrom : ∀ before, c ∈ Text.lowerFrom before text := by
    induction text with
    | nil => cases hmem
    | cons d rest ih =>
      intro before
      rw [Text.lowerFrom]
      rcases List.mem_cons.1 hmem with rfl | hrest
      · have hcode := forall_isDelimiter
          (p := fun c ↦ c.toNat ≠ 0x130 ∧ c.toNat ≠ 0x3a3 ∧ Text.lowerChar c = c) (by decide) hc
        simp [hcode]
      · exact List.mem_append_right _ (ih hrest _)
  exact hfrom []

/-- A text is solid if its lowercase form is. -/
theorem isSolid_of_lowercase {text : List Char} (h : IsSolid (Text.lowercase text)) :
    IsSolid text := by
  refine ⟨fun hnil ↦ h.ne_nil (by rw [hnil]; rfl), fun c hc ↦ ?_⟩
  by_contra hdelimiter
  exact hdelimiter (h.not_isDelimiter c (mem_lowercase (eq_true_of_ne_false hdelimiter) hc))

theorem isSolid_of_natural? {text : List Char} {n : Nat} (h : Text.natural? text = some n) :
    IsSolid text := by
  obtain ⟨hne, hdigits, -⟩ := Text.natural?_eq_some_iff.1 h
  exact ⟨hne, fun c hc ↦ not_isDelimiter_of_isDigit (hdigits c hc)⟩

/-- A text that is read as a whole number has no delimiters. -/
theorem isSolid_of_signed64? {text : List Char} {n : Int} (h : Text.signed64? text = some n) :
    IsSolid text := by
  obtain ⟨digits, k, hk, htext⟩ := Text.signed64?_cases h
  have hsolid := isSolid_of_natural? hk
  rcases htext with ⟨rfl, -⟩ | ⟨rfl, -⟩ | ⟨rfl, -⟩
  · exact .cons (by decide) hsolid.not_isDelimiter
  · exact .cons (by decide) hsolid.not_isDelimiter
  · exact hsolid

namespace Binary64

theorem mem_cutSign {text : List Char} {c : Char} (hmem : c ∈ text) :
    c = '+' ∨ c = '-' ∨ c ∈ (cutSign text).2 := by
  unfold cutSign
  split <;> grind

theorem not_isDelimiter_of_cutSign {text : List Char}
    (h : ∀ c ∈ (cutSign text).2, isDelimiter c = false) : ∀ c ∈ text, isDelimiter c = false := by
  intro c hmem
  rcases mem_cutSign hmem with rfl | rfl | hrest
  · decide
  · decide
  · exact h c hrest

theorem not_isDelimiter_of_readExponent {text : List Char} {n : Int}
    (h : readExponent text = some n) : ∀ c ∈ text, isDelimiter c = false := by
  cases text with
  | nil => simp
  | cons mark rest =>
    rw [readExponent, Option.ite_none_right_eq_some] at h
    obtain ⟨hmark, h⟩ := h
    cases hdigits : Text.natural? (cutSign rest).2 with
    | none => simp [hdigits] at h
    | some k =>
      refine List.forall_mem_cons.2
        ⟨?_, not_isDelimiter_of_cutSign (isSolid_of_natural? hdigits).not_isDelimiter⟩
      rcases hmark with rfl | rfl <;> decide

/-- The words for what is not finite are solid in any case. -/
theorem isSolid_of_map_toLower {text : List Char} {word : String} (hword : IsSolid word.toList)
    (h : text.map Char.toLower = word.toList) : IsSolid text :=
  .of_map (fun _ hc ↦ forall_isDelimiter (p := fun c ↦ c.toLower = c) (by decide) hc) (h ▸ hword)

theorem isSolid_of_readUnsigned {negative : Bool} {text : List Char} {x : Binary64}
    (h : readUnsigned negative text = some x) : IsSolid text := by
  have hne : text ≠ [] := by
    rintro rfl
    cases h
  unfold readUnsigned at h
  simp only at h
  split at h
  · next hword =>
    rcases hword with hword | hword
    · exact isSolid_of_map_toLower (.of_all (by decide)) hword
    · exact isSolid_of_map_toLower (.of_all (by decide)) hword
  · split at h
    · next hword => exact isSolid_of_map_toLower (.of_all (by decide)) hword
    · -- Digits, and then a point with digits or none, and then the exponent.
      have hrun : ∀ run : List Char, ∀ c ∈ run.takeWhile Text.isDigit, isDelimiter c = false :=
        fun run c hc ↦ not_isDelimiter_of_isDigit (List.mem_takeWhile_imp hc)
      have htail : ∀ c ∈ text.dropWhile Text.isDigit, isDelimiter c = false := by
        split at h
        · next _ rest hrest =>
          obtain ⟨-, h⟩ := Option.ite_none_left_eq_some.1 h
          obtain ⟨exponent, hexponent, -⟩ := Option.map_eq_some_iff.1 h
          rw [hrest, ← List.takeWhile_append_dropWhile (p := Text.isDigit) (l := rest)]
          exact List.forall_mem_cons.2 ⟨by decide, List.forall_mem_append.2
            ⟨hrun rest, not_isDelimiter_of_readExponent hexponent⟩⟩
        · obtain ⟨-, h⟩ := Option.ite_none_left_eq_some.1 h
          obtain ⟨exponent, hexponent, -⟩ := Option.map_eq_some_iff.1 h
          exact not_isDelimiter_of_readExponent hexponent
      refine ⟨hne, ?_⟩
      rw [← List.takeWhile_append_dropWhile (p := Text.isDigit) (l := text)]
      exact List.forall_mem_append.2 ⟨hrun text, htail⟩

/-- A text that is read as a decimal has no delimiters. -/
theorem isSolid_of_read? {text : List Char} {x : Binary64} (h : read? text = some x) :
    IsSolid text := by
  have hrest := isSolid_of_readUnsigned h
  refine ⟨fun hnil ↦ hrest.ne_nil (by rw [hnil]), ?_⟩
  exact not_isDelimiter_of_cutSign hrest.not_isDelimiter

theorem isSolid_positional (decimal : Decimal) : IsSolid decimal.positional.toList := by
  have hdigits := IsSolid.of_numeral decimal.digits
  have hzeros : ∀ n, ∀ c ∈ List.replicate n '0', isDelimiter c = false := fun n c hc ↦ by
    rw [List.eq_of_mem_replicate hc]
    decide
  unfold Decimal.positional
  simp only
  split
  · rw [String.toList_append, String.toList_ofList, String.toList_ofList]
    exact ⟨List.append_ne_nil_of_left_ne_nil hdigits.ne_nil _,
      List.forall_mem_append.2 ⟨hdigits.not_isDelimiter, hzeros _⟩⟩
  · -- The digits are filled up with zeros so that one stands in front of the point.
    generalize hfilled : List.replicate (decimal.exponent.natAbs + 1 -
      (Nat.toDigits 10 decimal.digits).length) '0' ++ Nat.toDigits 10 decimal.digits = filled
    have hsolid : ∀ c ∈ filled, isDelimiter c = false :=
      hfilled ▸ List.forall_mem_append.2 ⟨hzeros _, hdigits.not_isDelimiter⟩
    have hlength : decimal.exponent.natAbs < filled.length := by
      rw [← hfilled, List.length_append, List.length_replicate]
      omega
    have hwhole : filled.take (filled.length - decimal.exponent.natAbs) ≠ [] := by
      rw [Ne, List.take_eq_nil_iff, ← List.length_eq_zero_iff]
      omega
    generalize filled.length - decimal.exponent.natAbs = point at hwhole ⊢
    have htake : ∀ c ∈ filled.take point, isDelimiter c = false := fun c hc ↦
      hsolid c (List.mem_of_mem_take hc)
    rw [String.toList_append, String.toList_ofList]
    refine ⟨List.append_ne_nil_of_left_ne_nil hwhole _, List.forall_mem_append.2 ⟨htake, ?_⟩⟩
    split
    · simp
    · simp only [String.toList_append, String.toList_ofList]
      have hpoint : IsSolid ".".toList := .of_all (by decide)
      refine List.forall_mem_append.2 ⟨hpoint.not_isDelimiter, fun c hc ↦ hsolid c ?_⟩
      have hdropped := (List.dropWhile_sublist _).subset (List.mem_reverse.1 hc)
      exact List.mem_of_mem_drop (List.mem_reverse.1 hdropped)

/-- A decimal is written without delimiters. -/
theorem isSolid_text (x : Binary64) : IsSolid x.text.toList := by
  cases x with
  | nan => exact .of_all (by decide)
  | infinite negative => cases negative <;> exact .of_all (by decide)
  | finite negative significand exponent =>
    have hdecimal := isSolid_positional (shortestDecimal significand exponent)
    rw [text, String.toList_append]
    cases negative with
    | false => exact hdecimal
    | true => exact .cons (by decide) hdecimal.not_isDelimiter

end Binary64

end TableQueue
