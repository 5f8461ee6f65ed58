import TableQueue.Proofs.Text.Numerals
import TableQueue.Proofs.Text.Pieces
import TableQueue.Throttle.Basic

/-!
# The grammar of throttle rules

A rule is written as the numeral of its events, a slash, the numeral of its periods if there are
several, a unit, and a mark if a success does not clear it. The reader accepts exactly these texts
as far as the numbers fit 64 bits, and it finds the parts again because none of them can be taken
for another: a numeral has no slash, a unit begins with a letter, and no unit ends in a mark. A rule
set is read piece by piece.
-/

namespace TableQueue.Throttle

structure Spelling where
  events : Nat
  /-- The number of periods, where it is written. -/
  periods : Option Nat
  unit : TimeUnit
  /-- Whether an exclamation mark stands at the end. -/
  marked : Bool
deriving DecidableEq, Repr

namespace Spelling

def windowText (periods : Option Nat) (unit : TimeUnit) : List Char :=
  periods.elim [] Text.numeral ++ unit.symbol

def text (spelling : Spelling) : List Char :=
  Text.numeral spelling.events ++ '/' :: (windowText spelling.periods spelling.unit ++
    if spelling.marked then ['!'] else [])

def windowMillis (spelling : Spelling) : Nat :=
  spelling.periods.getD 1 * spelling.unit.millis

def rule (spelling : Spelling) : Rule :=
  ⟨spelling.events, spelling.windowMillis, !spelling.marked⟩

/-- The numbers are at least one and the window fits 64 bits. -/
structure IsValid (spelling : Spelling) : Prop where
  one_le_events : 1 ≤ spelling.events
  one_le_periods : ∀ periods ∈ spelling.periods, 1 ≤ periods
  windowMillis_le : spelling.windowMillis ≤ Text.maxUnsigned64

end Spelling

def IsRule (piece : List Char) : Prop :=
  ∃ spelling : Spelling, spelling.IsValid ∧ spelling.text = piece

namespace TimeUnit

theorem one_le_millis (unit : TimeUnit) : 1 ≤ unit.millis := by
  cases unit <;> decide

theorem ofSymbol?_eq_some_iff {text : List Char} {unit : TimeUnit} :
    ofSymbol? text = some unit ↔ text = unit.symbol := by
  constructor
  · intro h
    have := List.find?_some h
    exact (beq_iff_eq.1 this).symm
  · rintro rfl
    exact ofSymbol?_symbol unit

theorem symbol_ne_nil (unit : TimeUnit) : unit.symbol ≠ [] := by
  cases unit <;> decide

theorem getLast?_symbol (unit : TimeUnit) : unit.symbol.getLast? ≠ some '!' := by
  cases unit <;> decide

end TimeUnit

namespace Rule

/-- A cut at the first slash. -/
theorem cutSlash_eq_some_iff {text front back : List Char} :
    cutSlash text = some (front, back) ↔ text = front ++ '/' :: back ∧ '/' ∉ front := by
  unfold cutSlash
  constructor
  · intro h
    split at h
    · cases h
    · next slash rest hdrop =>
      obtain ⟨rfl, rfl⟩ := Prod.mk.inj (Option.some.inj h)
      have hslash : slash = '/' := by
        have hfind := List.find?_not_eq_head?_dropWhile (· != '/') text
        rw [hdrop] at hfind
        simpa using List.find?_some hfind
      refine ⟨?_, fun hmem ↦ by simpa using List.mem_takeWhile_imp hmem⟩
      calc text = text.takeWhile (· != '/') ++ text.dropWhile (· != '/') :=
            List.takeWhile_append_dropWhile.symm
        _ = text.takeWhile (· != '/') ++ '/' :: rest := by rw [hdrop, hslash]
  · rintro ⟨rfl, hfront⟩
    have hall : ∀ c ∈ front, (c != '/') = true := fun c hc ↦
      bne_iff_ne.2 fun heq ↦ hfront (heq ▸ hc)
    simp [List.dropWhile_append_of_pos hall, List.takeWhile_append_of_pos hall]

theorem cutMark_append_mark (window : List Char) : cutMark (window ++ ['!']) = (window, false) := by
  simp [cutMark]

theorem cutMark_of_getLast? {window : List Char} (h : window.getLast? ≠ some '!') :
    cutMark window = (window, true) := if_neg h

/-- The mark is cut off at the end or was not there. -/
theorem eq_of_cutMark {text window : List Char} {resets : Bool}
    (h : cutMark text = (window, resets)) :
    text = window ++ if !resets then ['!'] else [] := by
  unfold cutMark at h
  split at h
  · next hlast =>
    obtain ⟨rfl, rfl⟩ := Prod.mk.inj h
    exact (List.dropLast_append_getLast? '!' hlast).symm
  · obtain ⟨rfl, rfl⟩ := Prod.mk.inj h
    exact (List.append_nil text).symm

/-- A window falls apart into its count and its unit, since no unit begins with a digit. -/
theorem takeWhile_isDigit_windowText (periods : Option Nat) (unit : TimeUnit) :
    (Spelling.windowText periods unit).takeWhile Text.isDigit = periods.elim [] Text.numeral ∧
      (Spelling.windowText periods unit).dropWhile Text.isDigit = unit.symbol := by
  have hcount : ∀ c ∈ periods.elim [] Text.numeral, Text.isDigit c = true := by
    cases periods with
    | none => simp
    | some n => exact fun c hc ↦ Text.isDigit_of_mem_numeral hc
  have hunit : unit.symbol.takeWhile Text.isDigit = [] ∧
      unit.symbol.dropWhile Text.isDigit = unit.symbol := by
    cases unit <;> decide
  rw [Spelling.windowText, List.takeWhile_append_of_pos hcount, List.dropWhile_append_of_pos hcount,
    hunit.1, hunit.2, List.append_nil]
  exact ⟨rfl, rfl⟩

theorem guarded_eq_ok {p : Prop} [Decidable p] {refusal : Refusal} {m n : Nat} :
    (if p then .ok m else .error refusal) = Except.ok n ↔ p ∧ m = n := by
  split <;> simp_all

/-- What is read as a window is written as one and fits. -/
theorem exists_of_readWindow {text : List Char} {millis : Nat} (h : readWindow text = .ok millis) :
    ∃ periods unit, (∀ n ∈ periods, 1 ≤ n) ∧ periods.getD 1 * unit.millis ≤ Text.maxUnsigned64 ∧
      text = Spelling.windowText periods unit ∧ millis = periods.getD 1 * unit.millis := by
  have htext : text.takeWhile Text.isDigit ++ text.dropWhile Text.isDigit = text :=
    List.takeWhile_append_dropWhile
  unfold readWindow at h
  simp only [bind, Except.bind, pure, Except.pure, throw, throwThe, MonadExceptOf.throw] at h
  cases hunit : TimeUnit.ofSymbol? (text.dropWhile Text.isDigit) with
  | none =>
    simp only [hunit] at h
    split at h
    · cases h
    split at h
    · cases h
    · split at h <;> cases h
  | some unit =>
    have hwhole : text = text.takeWhile Text.isDigit ++ unit.symbol := by
      rw [← TimeUnit.ofSymbol?_eq_some_iff.1 hunit, htext]
    simp only [hunit] at h
    split at h
    · cases h
    -- The number of periods is left out or written.
    split at h
    · next hempty =>
      obtain ⟨hfits, hmillis⟩ := guarded_eq_ok.1 h
      refine ⟨none, unit, by simp, hfits, ?_, hmillis.symm⟩
      rw [hwhole, List.isEmpty_iff.1 hempty]
      rfl
    split at h
    · next n hread =>
      obtain ⟨hpos, -, hcount⟩ := Text.positive?_eq_some_iff.1 hread
      obtain ⟨hfits, hmillis⟩ := guarded_eq_ok.1 h
      refine ⟨some n, unit, fun _ hm ↦ Option.some.inj hm ▸ hpos, hfits, ?_, hmillis.symm⟩
      rw [hwhole, hcount]
      rfl
    · cases h

/-- A window is read as it is written. -/
theorem readWindow_windowText {periods : Option Nat} {unit : TimeUnit}
    (hpos : ∀ n ∈ periods, 1 ≤ n) (hfits : periods.getD 1 * unit.millis ≤ Text.maxUnsigned64) :
    readWindow (Spelling.windowText periods unit) = .ok (periods.getD 1 * unit.millis) := by
  obtain ⟨hcount, hsymbol⟩ := takeWhile_isDigit_windowText periods unit
  have hne : unit.symbol.isEmpty = false := by simpa using unit.symbol_ne_nil
  unfold readWindow
  simp only [hcount, hsymbol, hne, TimeUnit.ofSymbol?_symbol]
  cases periods with
  | none => simp_all [bind, Except.bind, pure, Except.pure]
  | some n =>
    have hle : n ≤ Text.maxUnsigned64 :=
      (Nat.le_mul_of_pos_right n unit.one_le_millis).trans hfits
    have hread := Text.positive?_eq_some_iff.2 ⟨hpos n rfl, hle, rfl⟩
    simp_all [bind, Except.bind, pure, Except.pure]

/-- The count of events is the digits in front of the first slash. -/
theorem cutSlash_numeral (events : Nat) (rest : List Char) :
    cutSlash (Text.numeral events ++ '/' :: rest) = some (Text.numeral events, rest) :=
  cutSlash_eq_some_iff.2 ⟨rfl, fun hmem ↦ absurd (Text.isDigit_of_mem_numeral hmem) (by decide)⟩

/-- The mark is found again, since no unit ends in one. -/
theorem cutMark_windowText (periods : Option Nat) (unit : TimeUnit) (marked : Bool) :
    cutMark (Spelling.windowText periods unit ++ if marked then ['!'] else []) =
      (Spelling.windowText periods unit, !marked) := by
  cases marked with
  | true => exact cutMark_append_mark _
  | false =>
    have hlast : (Spelling.windowText periods unit).getLast? ≠ some '!' := by
      rw [Spelling.windowText, List.getLast?_append_of_ne_nil _ unit.symbol_ne_nil]
      exact unit.getLast?_symbol
    rw [if_neg (by decide), List.append_nil, cutMark_of_getLast? hlast, Bool.not_false]

/-- A text is read if and only if it is a rule whose count of events fits 64 bits, and it is read as
the rule that is meant. -/
theorem read_eq_ok_iff {text : List Char} {rule : Rule} :
    read text = .ok rule ↔ ∃ spelling : Spelling, spelling.IsValid ∧
      spelling.events ≤ Text.maxUnsigned64 ∧ spelling.text = text ∧ spelling.rule = rule := by
  constructor
  · intro h
    unfold read at h
    cases hcut : cutSlash text with
    | none => simp [hcut] at h
    | some parts =>
      obtain ⟨count, period⟩ := parts
      cases hcount : Text.positive? count with
      | none => simp [hcut, hcount] at h
      | some events =>
        cases hmark : cutMark period with
        | mk window resets =>
          cases hwindow : readWindow window with
          | error refusal => simp [hcut, hcount, hmark, hwindow] at h
          | ok millis =>
            simp only [hcut, hcount, hmark, hwindow] at h
            obtain rfl := Except.ok.inj h
            obtain ⟨rfl, -⟩ := cutSlash_eq_some_iff.1 hcut
            obtain ⟨hpos, hfits, rfl⟩ := Text.positive?_eq_some_iff.1 hcount
            obtain rfl := eq_of_cutMark hmark
            obtain ⟨periods, unit, hperiods, hmillis, rfl, rfl⟩ := exists_of_readWindow hwindow
            exact ⟨⟨events, periods, unit, !resets⟩, ⟨hpos, hperiods, hmillis⟩, hfits, rfl, by
              rw [Spelling.rule, Spelling.windowMillis, Bool.not_not]⟩
  · rintro ⟨⟨events, periods, unit, marked⟩, ⟨hpos, hperiods, hmillis⟩, hfits, rfl, rfl⟩
    have hcount := Text.positive?_eq_some_iff.2 ⟨hpos, hfits, rfl⟩
    have hwindow := readWindow_windowText hperiods hmillis
    unfold read
    simp only [Spelling.text, cutSlash_numeral, hcount, cutMark_windowText, hwindow]
    rfl

/-- A rule is read with its name just as without. -/
theorem parse_eq_ok_iff {text : List Char} {rule : Rule} :
    parse text = .ok rule ↔ read text = .ok rule := by
  unfold parse
  cases read text <;> simp

theorem isRule_of_parse {text : List Char} {rule : Rule} (h : parse text = .ok rule) :
    IsRule text := by
  obtain ⟨spelling, hvalid, -, htext, -⟩ := read_eq_ok_iff.1 (parse_eq_ok_iff.1 h)
  exact ⟨spelling, hvalid, htext⟩

end Rule

/-- If a rule set is read, every piece of it is a rule. -/
theorem isRule_of_ofSpec {spec : String} {throttle : Throttle} (h : ofSpec spec = .ok throttle)
    {piece : List Char} (hmem : piece ∈ Text.pieces Rule.isSeparator spec.toList) :
    IsRule piece := by
  cases hparse : Rule.parseSet spec.toList with
  | error fault =>
    rw [ofSpec, hparse] at h
    cases h
  | ok rules =>
    obtain ⟨rule, -, hrule⟩ := (Text.exists_of_mapM_eq_ok hparse).1 piece hmem
    exact Rule.isRule_of_parse hrule

end TableQueue.Throttle
