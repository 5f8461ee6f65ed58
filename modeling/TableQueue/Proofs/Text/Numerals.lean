import Mathlib.Data.List.Basic
import Mathlib.Data.List.Induction
import TableQueue.Text.Digits

/-!
# Decimal numerals

The numeral of a number is the shortest run of digits that spells it, and a run of digits without a
leading zero is the numeral of its value. So the readers that admit no leading zero accept exactly
the numerals within their range, each as its own number.
-/

namespace TableQueue.Text

def numeral (n : Nat) : List Char := Nat.toDigits 10 n

theorem isDigit_eq (c : Char) : isDigit c = c.isDigit := by
  rw [isDigit, Char.isDigit, Bool.eq_iff_iff, Bool.and_eq_true, Bool.and_eq_true]
  rfl

theorem digitsValue_eq (digits : List Char) : digitsValue digits = Nat.ofDigitChars 10 digits 0 :=
  Nat.ofDigitChars_eq_foldl.symm

theorem digitsValue_concat (digits : List Char) (digit : Char) :
    digitsValue (digits ++ [digit]) = 10 * digitsValue digits + digitValue digit :=
  List.foldl_append

/-- A digit is the numeral of its value. -/
theorem numeral_digitValue {digit : Char} (hdigit : isDigit digit = true) :
    digitValue digit < 10 ∧ numeral (digitValue digit) = [digit] := by
  have hchars : ∀ value < 10, Nat.digitChar value = Char.ofNat ('0'.toNat + value) := by decide
  rw [isDigit_eq, Char.isDigit_iff_toNat] at hdigit
  obtain ⟨hlow, hhigh⟩ := hdigit
  have hlt : digitValue digit < 10 := by
    have hnine : '9'.toNat = '0'.toNat + 9 := rfl
    unfold digitValue
    omega
  have hsum : '0'.toNat + digitValue digit = digit.toNat := Nat.add_sub_cancel' hlow
  refine ⟨hlt, ?_⟩
  rw [numeral, Nat.toDigits_of_lt_base hlt, hchars _ hlt, hsum, Char.ofNat_toNat]

section Numeral

variable (n : Nat)

@[simp] theorem numeral_ne_nil : numeral n ≠ [] := Nat.toDigits_ne_nil

theorem isDigit_of_mem_numeral {n : Nat} {c : Char} (hc : c ∈ numeral n) : isDigit c = true := by
  rw [isDigit_eq]
  exact Nat.isDigit_of_mem_toDigits (by decide) (by decide) hc

@[simp] theorem digitsValue_numeral : digitsValue (numeral n) = n := by
  rw [digitsValue_eq, numeral, Nat.ofDigitChars_ten_toDigits]

@[simp] theorem natural?_numeral : natural? (numeral n) = some n := by
  have hdigits : (numeral n).all isDigit = true :=
    List.all_eq_true.2 fun c hc ↦ isDigit_of_mem_numeral hc
  rw [natural?, hdigits, digitsValue_numeral]
  simp

/-- A numeral that begins with a zero is that of zero. -/
theorem eq_zero_of_head?_numeral {n : Nat} (h : (numeral n).head? = some '0') : n = 0 := by
  induction n using Nat.strongRecOn with
  | _ n ih =>
    by_cases hn : n < 10
    · rw [numeral, Nat.toDigits_of_lt_base hn] at h
      exact Nat.digitChar_eq_zero.1 (Option.some.inj h)
    · have hle : 10 ≤ n := Nat.le_of_not_lt hn
      rw [numeral, Nat.toDigits_of_base_le (by decide) hle,
        List.head?_append_of_ne_nil _ Nat.toDigits_ne_nil] at h
      have hzero := ih (n / 10) (Nat.div_lt_self (by omega) (by decide)) h
      omega

end Numeral

/-- A run of digits without a leading zero is the numeral of its value. -/
theorem numeral_digitsValue {digits : List Char} (hne : digits ≠ [])
    (hdigits : ∀ c ∈ digits, isDigit c = true) (hlead : digits.head? ≠ some '0') :
    numeral (digitsValue digits) = digits := by
  induction digits using List.reverseRecOn with
  | nil => exact absurd rfl hne
  | append_singleton front last ih =>
    obtain ⟨hlt, hlast⟩ := numeral_digitValue (hdigits last (by simp))
    rw [digitsValue_concat]
    by_cases hfront : front = []
    · subst hfront
      rw [show digitsValue [] = 0 from rfl, Nat.mul_zero, Nat.zero_add, hlast, List.nil_append]
    · rw [List.head?_append_of_ne_nil _ hfront] at hlead
      have hih := ih hfront (fun c hc ↦ hdigits c (List.mem_append_left _ hc)) hlead
      have hpos : 0 < digitsValue front := by
        refine Nat.pos_of_ne_zero fun hzero ↦ hlead ?_
        rw [← hih, hzero]
        rfl
      rw [numeral, ← Nat.toDigits_append_toDigits (by decide) hpos hlt]
      exact congrArg₂ _ hih hlast

/-- A number is read from a nonempty run of digits. -/
theorem natural?_eq_some_iff {text : List Char} {n : Nat} :
    natural? text = some n ↔
      text ≠ [] ∧ (∀ c ∈ text, isDigit c = true) ∧ digitsValue text = n := by
  have hiff : (!text.isEmpty && text.all isDigit) = true ↔
      text ≠ [] ∧ ∀ c ∈ text, isDigit c = true := by simp
  rw [natural?, ← and_assoc, ← hiff, Option.ite_none_right_eq_some, Option.some.injEq]

/-- Digits are the numeral of their value unless a zero leads them. -/
theorem numeral_eq_iff_of_natural? {text : List Char} {n : Nat} (h : natural? text = some n) :
    numeral n = text ↔ text = ['0'] ∨ ¬ ['0'] <+: text := by
  obtain ⟨hne, hdigits, hvalue⟩ := natural?_eq_some_iff.1 h
  have hlead : ['0'] <+: text ↔ text.head? = some '0' := by
    cases text with
    | nil => simp
    | cons c rest => simp [eq_comm]
  rw [hlead]
  constructor
  · intro htext
    rw [or_iff_not_imp_right, not_not]
    intro hhead
    have hzero : n = 0 := eq_zero_of_head?_numeral (htext ▸ hhead)
    rw [← htext, hzero]
    rfl
  · rintro (rfl | hhead)
    · rw [← hvalue]; rfl
    · rw [← hvalue]; exact numeral_digitsValue hne hdigits hhead

/-- A whole number has a sign in front or is bare. -/
theorem signed64?_cases {text : List Char} {n : Int} (h : signed64? text = some n) :
    ∃ digits k, natural? digits = some k ∧
      (text = '+' :: digits ∧ n = k ∨ text = '-' :: digits ∧ n = -k ∨ text = digits ∧ n = k) := by
  unfold signed64? at h
  obtain ⟨h, -⟩ := Option.filter_eq_some_iff.1 h
  split at h
  all_goals
    obtain ⟨k, hk, rfl⟩ := Option.map_eq_some_iff.1 h
    exact ⟨_, k, hk, by simp⟩

/-- A whole number is written as a numeral with a sign if it is negative. -/
theorem toList_toString_int (n : Int) :
    (toString n).toList = if 0 ≤ n then numeral n.toNat else '-' :: numeral (-n).toNat := by
  rw [show toString n = n.repr from rfl, Int.repr_eq_if]
  split <;> simp [Nat.repr_eq_ofList_toDigits, numeral]

/-- A whole number is written as it was read unless it has a plus sign, a leading zero or is a
negative zero. -/
theorem toString_eq_iff_of_signed64? {text : List Char} {n : Int} (h : signed64? text = some n) :
    (toString n).toList = text ↔
      text = ['0'] ∨ ¬ ['+'] <+: text ∧ ¬ ['0'] <+: text ∧ ¬ ['-', '0'] <+: text := by
  obtain ⟨digits, k, hk, htext⟩ := signed64?_cases h
  obtain ⟨-, hdigits, -⟩ := natural?_eq_some_iff.1 hk
  have hiff := numeral_eq_iff_of_natural? hk
  have hsign : ∀ {c : Char} {m : Nat} {rest : List Char}, isDigit c = false →
      numeral m ≠ c :: rest := fun hc heq ↦ by
    rw [isDigit_of_mem_numeral (heq ▸ List.mem_cons_self)] at hc
    cases hc
  rw [toList_toString_int]
  rcases htext with ⟨rfl, rfl⟩ | ⟨rfl, rfl⟩ | ⟨rfl, rfl⟩
  · exact iff_of_false (by rw [if_pos (Int.natCast_nonneg k)]; exact hsign (by decide)) (by simp)
  · by_cases hzero : k = 0
    · -- What has the value zero begins with a zero.
      have hlead : ['0'] <+: digits := by
        by_contra hlead
        rw [hzero] at hiff
        exact hlead (hiff.2 (.inr hlead) ▸ List.prefix_refl _)
      subst hzero
      exact iff_of_false (hsign (by decide)) (by simp [hlead])
    · have hne : digits ≠ ['0'] := by
        rintro rfl
        exact hzero (Option.some.inj hk).symm
      rw [if_neg (by omega), Int.neg_neg, Int.toNat_natCast, List.cons_inj_right, hiff]
      simp [hne]
  · have hplus : ¬ ['+'] <+: text := fun ⟨rest, hrest⟩ ↦
      absurd (hdigits '+' (hrest ▸ List.mem_cons_self)) (by decide)
    have hminus : ¬ ['-', '0'] <+: text := fun ⟨rest, hrest⟩ ↦
      absurd (hdigits '-' (hrest ▸ List.mem_cons_self)) (by decide)
    rw [if_pos (Int.natCast_nonneg k), Int.toNat_natCast, hiff]
    simp [hplus, hminus]

/-- The reader of positive numbers accepts exactly their numerals, as far as they fit 64 bits. -/
theorem positive?_eq_some_iff {text : List Char} {n : Nat} :
    positive? text = some n ↔ 0 < n ∧ n ≤ maxUnsigned64 ∧ text = numeral n := by
  unfold positive?
  split
  · next hlead =>
    refine iff_of_false (by simp) ?_
    rintro ⟨hpos, -, rfl⟩
    exact absurd (eq_zero_of_head?_numeral hlead) (Nat.ne_of_gt hpos)
  · next hlead =>
    rw [Option.filter_eq_some_iff, decide_eq_true_eq]
    constructor
    · rintro ⟨hread, hfits⟩
      obtain ⟨hne, hdigits, rfl⟩ := natural?_eq_some_iff.1 hread
      have htext := numeral_digitsValue hne hdigits hlead
      refine ⟨Nat.pos_of_ne_zero fun hzero ↦ hlead ?_, hfits, htext.symm⟩
      rw [← htext, hzero]
      rfl
    · rintro ⟨-, hfits, rfl⟩
      exact ⟨natural?_numeral n, hfits⟩

end TableQueue.Text
