import TableQueue.Proofs.Text.Numerals
import TableQueue.Proofs.Text.Pieces
import TableQueue.Statement.Sql

/-!
# Tokens of statements

A statement is read as the database reads it: as words, placeholders, numbers, string constants and
single symbols. Names may be bare or stand between double quotes. Texts can be put together token by
token, provided that each begins where the one before is at an end; so a name or a number that is
put into a statement is found there again as it is.
-/

namespace TableQueue.Sql

inductive Token where
  /-- A keyword or a name; a name between quotes keeps them. -/
  | word (text : String)
  /-- The placeholder of a parameter. -/
  | parameter (index : Nat)
  | number (digits : String)
  /-- A string constant with its quotes. -/
  | constant (text : String)
  | symbol (c : Char)
deriving DecidableEq, Repr

def Token.parameter? : Token → Option Nat
  | parameter index => some index
  | _ => none

/-- The characters that stand between tokens only. -/
def isGap (c : Char) : Bool :=
  [' ', '\t', '\n', '\r', '\x0b', '\x0c'].contains c

def isWordStart (c : Char) : Bool :=
  c.isAlpha || c == '_' || decide (0x80 ≤ c.toNat)

def isWordPart (c : Char) : Bool :=
  isWordStart c || Text.isDigit c || c == '$'

/-- What has been read of a token. -/
inductive Pending where
  | gap
  | word (text : List Char)
  | parameter (digits : List Char)
  | number (digits : List Char)
  /-- Between quotes, the opening one included. -/
  | quoted (quote : Char) (text : List Char)
  /-- At a quote that is the closing one unless another follows. -/
  | unquoted (quote : Char) (text : List Char)
deriving DecidableEq, Repr

namespace Pending

/-- The token that is complete if nothing more belongs to it. -/
def complete : Pending → List Token
  | gap => []
  | word text => [.word (String.ofList text)]
  | parameter digits =>
    [if digits.isEmpty then .symbol '$' else .parameter (Text.digitsValue digits)]
  | number digits => [.number (String.ofList digits)]
  | quoted _ text => [.constant (String.ofList text)]
  | unquoted quote text =>
    [if quote = '"' then .word (String.ofList text) else .constant (String.ofList text)]

/-- A character that begins a token or stands for itself. -/
def start (c : Char) : List Token × Pending :=
  if isGap c then ([], gap)
  else if isWordStart c then ([], word [c])
  else if c = '$' then ([], parameter [])
  else if Text.isDigit c then ([], number [c])
  else if c = '"' ∨ c = '\'' then ([], quoted c [c])
  else ([.symbol c], gap)

/-- Whether a character belongs to what is pending, and what is pending with it. -/
def extend? (c : Char) : Pending → Option Pending
  | gap => none
  | word text => if isWordPart c then some (word (text ++ [c])) else none
  | parameter digits => if Text.isDigit c then some (parameter (digits ++ [c])) else none
  | number digits => if Text.isDigit c then some (number (digits ++ [c])) else none
  | quoted quote text =>
    some (if c = quote then unquoted quote (text ++ [c]) else quoted quote (text ++ [c]))
  | unquoted quote text => if c = quote then some (quoted quote (text ++ [c])) else none

/-- Reads one character. -/
def step (pending : Pending) (c : Char) : List Token × Pending :=
  match pending.extend? c with
  | some next => ([], next)
  | none => (pending.complete ++ (start c).1, (start c).2)

/-- Reads a text: the tokens that are complete and what is pending behind them. -/
def scan (pending : Pending) : List Char → List Token × Pending
  | [] => ([], pending)
  | c :: rest =>
    let (tokens, next) := pending.step c
    let (others, last) := next.scan rest
    (tokens ++ others, last)

theorem scan_cons (pending : Pending) (c : Char) (rest : List Char) :
    pending.scan (c :: rest) = ((pending.step c).1 ++ ((pending.step c).2.scan rest).1,
      ((pending.step c).2.scan rest).2) := rfl

/-- Whether what is pending can be broken off. -/
def isBreakable : Pending → Bool
  | quoted .. => false
  | unquoted quote _ => quote == '"' || quote == '\''
  | _ => true

/-- Reading goes on from what is pending. -/
theorem scan_append (pending : Pending) (text text' : List Char) :
    pending.scan (text ++ text') = ((pending.scan text).1 ++ ((pending.scan text).2.scan text').1,
      ((pending.scan text).2.scan text').2) := by
  induction text generalizing pending with
  | nil => rfl
  | cons c rest ih => simp only [List.cons_append, scan, ih, List.append_assoc]

end Pending

/-- The tokens of a text. -/
def tokens (text : String) : List Token :=
  (Pending.gap.scan text.toList).1 ++ (Pending.gap.scan text.toList).2.complete

/-- The characters that belong to no token begun before. -/
def isBreak (c : Char) : Bool :=
  !isWordPart c && c != '"' && c != '\''

/-- A text begins where a token before it is at an end. -/
def BeginsApart (text : List Char) : Prop :=
  ∃ c rest, text = c :: rest ∧ isBreak c = true

theorem Pending.step_of_isBreak {pending : Pending} {c : Char}
    (hpending : pending.isBreakable = true) (hc : isBreak c = true) :
    pending.step c = (pending.complete ++ (gap.step c).1, (gap.step c).2) := by
  have hgap : gap.step c = start c := rfl
  have hnone : pending.extend? c = none := by
    cases pending <;> grind [extend?, isBreakable, isBreak, isWordPart]
  rw [step, hnone, hgap]

theorem Pending.scan_of_beginsApart {pending : Pending} {text : List Char}
    (hpending : pending.isBreakable = true) (htext : BeginsApart text) :
    pending.scan text = (pending.complete ++ (gap.scan text).1, (gap.scan text).2) := by
  obtain ⟨c, rest, rfl, hc⟩ := htext
  simp only [scan, step_of_isBreak hpending hc, List.append_assoc]

/-- A text consists of some tokens, the last of which the next text may have to break off. -/
structure Spells (text : List Char) (tokens : List Token) : Prop where
  isBreakable : (Pending.gap.scan text).2.isBreakable = true
  tokens_eq : (Pending.gap.scan text).1 ++ (Pending.gap.scan text).2.complete = tokens

/-- A text consists of some tokens and is at an end, so that any text may follow. -/
structure SpellsOut (text : List Char) (tokens : List Token) : Prop where
  scan_eq : Pending.gap.scan text = (tokens, .gap)

instance (text : List Char) (tokens : List Token) : Decidable (Spells text tokens) :=
  decidable_of_iff (_ ∧ _) ⟨fun h ↦ ⟨h.1, h.2⟩, fun h ↦ ⟨h.isBreakable, h.tokens_eq⟩⟩

instance (text : List Char) (tokens : List Token) : Decidable (SpellsOut text tokens) :=
  decidable_of_iff _ ⟨fun h ↦ ⟨h⟩, fun h ↦ h.scan_eq⟩

section Spelling

variable {text text' : List Char} {toks toks' : List Token}

/-- A text that spells some tokens is read as these. -/
theorem tokens_eq_of_spells {text : String} (h : Spells text.toList toks) : tokens text = toks :=
  h.tokens_eq

theorem Spells.of_scan {front : List Token} {pending : Pending}
    (hscan : Pending.gap.scan text = (front, pending)) (hpending : pending.isBreakable = true) :
    Spells text (front ++ pending.complete) := by
  constructor <;> rw [hscan]
  exact hpending

theorem SpellsOut.spells (h : SpellsOut text toks) : Spells text toks := by
  have hspells := Spells.of_scan h.scan_eq rfl
  rwa [Pending.complete, List.append_nil] at hspells

/-- After a text that is at an end any text may follow. -/
theorem SpellsOut.append (h : SpellsOut text toks) (h' : Spells text' toks') :
    Spells (text ++ text') (toks ++ toks') := by
  constructor
  · rw [Pending.scan_append, h.scan_eq]
    exact h'.isBreakable
  · rw [Pending.scan_append, h.scan_eq, List.append_assoc, h'.tokens_eq]

theorem SpellsOut.append_out (h : SpellsOut text toks) (h' : SpellsOut text' toks') :
    SpellsOut (text ++ text') (toks ++ toks') :=
  ⟨by rw [Pending.scan_append, h.scan_eq, h'.scan_eq]⟩

/-- Texts may be joined where the second begins apart. -/
theorem Spells.append (h : Spells text toks) (h' : Spells text' toks')
    (hapart : BeginsApart text') : Spells (text ++ text') (toks ++ toks') := by
  constructor
  · rw [Pending.scan_append, Pending.scan_of_beginsApart h.isBreakable hapart]
    exact h'.isBreakable
  · rw [Pending.scan_append, Pending.scan_of_beginsApart h.isBreakable hapart, ← List.append_assoc,
      h.tokens_eq, List.append_assoc, h'.tokens_eq]

theorem Spells.append_out (h : Spells text toks) (h' : SpellsOut text' toks')
    (hapart : BeginsApart text') : SpellsOut (text ++ text') (toks ++ toks') :=
  ⟨by rw [Pending.scan_append, Pending.scan_of_beginsApart h.isBreakable hapart,
    ← List.append_assoc, h.tokens_eq, h'.scan_eq]⟩

/-- Texts between separators. -/
theorem Spells.intercalate {separator : List Char} {comma : List Token}
    (hseparator : SpellsOut separator comma) (hapart : BeginsApart separator)
    {texts : List (List Char)} {items : List (List Token)} (h : List.Forall₂ Spells texts items) :
    Spells (separator.intercalate texts) (comma.intercalate items) := by
  induction h with
  | nil => exact ⟨rfl, rfl⟩
  | cons hfirst hrest ih =>
    cases hrest with
    | nil => simpa using hfirst
    | cons hsecond hothers =>
      rw [List.intercalate_cons_cons, List.intercalate_cons_cons]
      exact (hfirst.append_out hseparator hapart).append ih

end Spelling

/-! ## Names and values -/

/-- What may stand between the quotes of a name: a double quote stands twice. -/
inductive IsQuotable : List Char → Prop
  | nil : IsQuotable []
  | char {c : Char} {rest : List Char} (hc : c ≠ '"') (hrest : IsQuotable rest) :
    IsQuotable (c :: rest)
  | quotes {rest : List Char} (hrest : IsQuotable rest) : IsQuotable ('"' :: '"' :: rest)

inductive IsName (name : String) : Prop
  | bare {c : Char} {rest : List Char} (hname : name.toList = c :: rest)
    (hc : isWordStart c = true) (hrest : ∀ d ∈ rest, isWordPart d = true)
  | quoted {body : List Char} (hname : name.toList = '"' :: (body ++ ['"']))
    (hbody : IsQuotable body)

/-- Characters that all belong to what is pending are added to it. -/
theorem scan_run {pending : List Char → Pending} {belongs : Char → Bool} {rest : List Char}
    (hextend : ∀ text c, belongs c = true →
      (pending text).extend? c = some (pending (text ++ [c])))
    (hrest : ∀ d ∈ rest, belongs d = true) (text : List Char) :
    (pending text).scan rest = ([], pending (text ++ rest)) := by
  induction rest generalizing text with
  | nil => rw [List.append_nil]; rfl
  | cons d rest ih =>
    have hstep : (pending text).step d = ([], pending (text ++ [d])) := by
      rw [Pending.step, hextend text d (hrest d List.mem_cons_self)]
    rw [Pending.scan_cons, hstep, ih (fun e he ↦ hrest e (List.mem_cons_of_mem _ he)) (text ++ [d])]
    simp

theorem scan_word {rest : List Char} (hrest : ∀ d ∈ rest, isWordPart d = true) (text : List Char) :
    (Pending.word text).scan rest = ([], .word (text ++ rest)) :=
  scan_run (fun _ _ hc ↦ by rw [Pending.extend?, if_pos hc]) hrest text

theorem scan_quoted {text body : List Char} (hbody : IsQuotable body) :
    (Pending.quoted '"' text).scan body = ([], .quoted '"' (text ++ body)) := by
  induction hbody generalizing text with
  | nil => rw [List.append_nil]; rfl
  | char hc hrest ih =>
    simp only [Pending.scan, Pending.step, Pending.extend?, if_neg hc, ih]
    simp
  | quotes hrest ih =>
    simp only [Pending.scan, Pending.step, Pending.extend?, if_true, ih]
    simp

theorem isWordStart_of_isGap {c : Char} (h : isGap c = true) : isWordStart c = false := by
  have hgaps : [' ', '\t', '\n', '\r', '\x0b', '\x0c'].all (fun d ↦ !isWordStart d) = true := by
    decide
  simpa using List.all_eq_true.1 hgaps c (List.contains_iff_mem.1 h)

/-- A name is one word. -/
theorem IsName.spells {name : String} (h : IsName name) : Spells name.toList [.word name] := by
  cases h with
  | @bare c rest hname hc hrest =>
    have hgap : isGap c = false := by
      by_contra hgap
      rw [isWordStart_of_isGap (eq_true_of_ne_false hgap)] at hc
      cases hc
    have hstart : Pending.gap.step c = ([], .word [c]) := by
      simp [Pending.step, Pending.extend?, Pending.complete, Pending.start, hgap, hc]
    have hscan : Pending.gap.scan name.toList = ([], .word name.toList) := by
      rw [hname, Pending.scan_cons, hstart, scan_word hrest]
      rfl
    simpa [Pending.complete] using Spells.of_scan hscan rfl
  | @quoted body hname hbody =>
    have hopen : Pending.gap.step '"' = ([], .quoted '"' ['"']) := by decide
    have hscan : Pending.gap.scan name.toList = ([], .unquoted '"' name.toList) := by
      rw [hname, Pending.scan_cons, hopen, Pending.scan_append, scan_quoted hbody]
      rfl
    simpa [Pending.complete] using Spells.of_scan hscan rfl

theorem IsName.toList_ne_nil {name : String} (h : IsName name) : name.toList ≠ [] := by
  cases h <;> simp_all

def isBareName (name : String) : Bool :=
  match name.toList with
  | [] => false
  | c :: rest => isWordStart c && rest.all isWordPart

/-- A bare name is a name. -/
theorem isName_of_isBareName {name : String} (h : isBareName name = true) : IsName name := by
  unfold isBareName at h
  split at h
  · cases h
  · next c rest hname =>
    obtain ⟨hc, hrest⟩ := Bool.and_eq_true_iff.1 h
    exact .bare hname hc (List.all_eq_true.1 hrest)

theorem forall_isName {names : List String} (h : names.all isBareName = true) :
    ∀ name ∈ names, IsName name :=
  fun name hname ↦ isName_of_isBareName (List.all_eq_true.1 h name hname)

/-- The columns of every table that are not those of the job have names. -/
theorem isName_fixedColumn {column : String} (h : column ∈ metadataColumns ++ archiveColumns) :
    IsName column :=
  forall_isName (by decide) column h

theorem scan_parameter {rest : List Char} (hrest : ∀ d ∈ rest, Text.isDigit d = true)
    (digits : List Char) :
    (Pending.parameter digits).scan rest = ([], .parameter (digits ++ rest)) :=
  scan_run (fun _ _ hc ↦ by rw [Pending.extend?, if_pos hc]) hrest digits

/-- A placeholder is one parameter. -/
theorem spells_placeholder (index : Nat) :
    Spells (Expression.placeholder index).toList [.parameter index] := by
  have htext : (Expression.placeholder index).toList = '$' :: Text.numeral index := by
    simp [Expression.placeholder, Text.numeral]
  have hstep : Pending.gap.step '$' = ([], .parameter []) := by decide
  have hscan : Pending.gap.scan (Expression.placeholder index).toList =
      ([], .parameter (Text.numeral index)) := by
    rw [htext, Pending.scan_cons, hstep,
      scan_parameter fun _ hc ↦ Text.isDigit_of_mem_numeral hc]
    rfl
  simpa [Pending.complete] using Spells.of_scan hscan rfl

namespace Expression

/-- A value as tokens. -/
def tokens : Expression → List Token
  | parameter index none => [.parameter index]
  | parameter index (some cast) => [.parameter index, .symbol ':', .symbol ':', .word cast]
  | present => [.word "clock_timestamp", .symbol '(', .symbol ')']
  | presentPlusMillis index =>
    [.word "clock_timestamp", .symbol '(', .symbol ')', .symbol '+', .parameter index, .symbol ':',
      .symbol ':', .word "BIGINT", .symbol '*', .word "INTERVAL", .constant "'1 MILLISECOND'"]

/-- The type that a value is cast to is a name. -/
def IsNamed : Expression → Prop
  | parameter _ (some cast) => IsName cast
  | _ => True

/-- A value is spelled by its tokens. -/
theorem spells {value : Expression} (h : value.IsNamed) : Spells value.text.toList value.tokens := by
  cases value with
  | present =>
    have hpresent : Spells "clock_timestamp()".toList
        [.word "clock_timestamp", .symbol '(', .symbol ')'] := by decide +kernel
    exact hpresent
  | parameter index cast =>
    cases cast with
    | none => exact spells_placeholder index
    | some cast =>
      have hcolons : SpellsOut "::".toList [.symbol ':', .symbol ':'] := by decide +kernel
      have htext : (parameter index (some cast)).text = placeholder index ++ "::" ++ cast := rfl
      rw [htext, String.toList_append, String.toList_append]
      exact ((spells_placeholder index).append_out hcolons ⟨':', [':'], rfl, by decide⟩).append
        (IsName.spells h)
  | presentPlusMillis index =>
    have hpresent : SpellsOut "clock_timestamp() + ".toList
        [.word "clock_timestamp", .symbol '(', .symbol ')', .symbol '+'] := by decide +kernel
    have hmillis : Spells "::BIGINT * INTERVAL '1 MILLISECOND'".toList
        [.symbol ':', .symbol ':', .word "BIGINT", .symbol '*', .word "INTERVAL",
          .constant "'1 MILLISECOND'"] := by decide +kernel
    have htext : (presentPlusMillis index).text =
      "clock_timestamp() + " ++ placeholder index ++ "::BIGINT * INTERVAL '1 MILLISECOND'" := rfl
    rw [htext, String.toList_append, String.toList_append]
    exact (hpresent.append (spells_placeholder index)).append hmillis ⟨':', _, rfl, by decide⟩

end Expression

/-! ## Lists of columns -/

def commaSeparated (items : List (List Token)) : List Token :=
  [.symbol ','].intercalate items

/-- Items between commas are spelled one by one. -/
theorem spells_commaSeparated {texts : List String} {items : List (List Token)}
    (h : List.Forall₂ (fun text item ↦ Spells text.toList item) texts items) :
    Spells (", ".intercalate texts).toList (commaSeparated items) := by
  rw [String.toList_intercalate]
  exact .intercalate (by decide +kernel) ⟨',', [' '], rfl, by decide⟩
    (List.forall₂_map_left_iff.2 h)

def columnTokens (columns : List String) : List Token :=
  commaSeparated (columns.map fun column ↦ [.word column])

theorem spells_columnTokens {columns : List String} (h : ∀ column ∈ columns, IsName column) :
    Spells (", ".intercalate columns).toList (columnTokens columns) :=
  spells_commaSeparated <| List.forall₂_map_right_iff.2 <| List.forall₂_same.2
    fun column hcolumn ↦ (h column hcolumn).spells

/-- Separators that are no placeholders leave those of the items. -/
theorem filterMap_parameter?_intercalate {separator : Token} (h : separator.parameter? = none)
    (items : List (List Token)) :
    ([separator].intercalate items).filterMap Token.parameter? =
      items.flatMap fun item ↦ item.filterMap Token.parameter? := by
  have hseparator : [separator].filterMap Token.parameter? = [] := by simp [h]
  induction items with
  | nil => rfl
  | cons item rest ih =>
    cases rest with
    | nil => simp
    | cons second others =>
      rw [List.intercalate_cons_cons, List.filterMap_append, List.filterMap_append, ih,
        hseparator, List.append_nil, List.flatMap_cons (x := item)]

theorem filterMap_parameter?_commaSeparated (items : List (List Token)) :
    (commaSeparated items).filterMap Token.parameter? =
      items.flatMap fun item ↦ item.filterMap Token.parameter? :=
  filterMap_parameter?_intercalate rfl items

theorem filterMap_parameter?_columnTokens (columns : List String) :
    (columnTokens columns).filterMap Token.parameter? = [] := by
  rw [columnTokens, filterMap_parameter?_commaSeparated, List.flatMap_map]
  exact List.flatMap_eq_nil_iff.2 fun _ _ ↦ rfl

/-- Job columns stand behind the fixed ones, also if there are none. -/
theorem columnList_eq {fixed job : List String} (hfixed : fixed ≠ [])
    (hjob : ∀ column ∈ job, IsName column) :
    columnList fixed job = ", ".intercalate (fixed ++ job) := by
  unfold columnList
  cases job with
  | nil => rw [List.append_nil]; rfl
  | cons column rest =>
    have hcolumn := (hjob column List.mem_cons_self).toList_ne_nil
    have hne : (", ".intercalate (column :: rest)).isEmpty = false := by
      rw [Bool.eq_false_iff, Ne, String.isEmpty_iff, ← String.toList_eq_nil_iff]
      cases rest with
      | nil => rwa [String.intercalate_singleton]
      | cons second others =>
        rw [String.intercalate_cons_cons, String.toList_append, String.toList_append]
        simp [hcolumn]
    rw [String.intercalate_append_of_ne_nil hfixed (List.cons_ne_nil column rest)]
    simp only [hne]
    rfl

/-! ## Insertions -/

namespace Insertion

/-- The table and the columns of an insertion and the types in its values are names. -/
structure IsNamed (insertion : Insertion) : Prop where
  table : IsName insertion.table
  columns : ∀ column ∈ insertion.columns, IsName column
  values : ∀ value ∈ insertion.values, value.IsNamed
  fixedColumns_ne_nil : insertion.fixedColumns ≠ []

/-- An insertion of one row as tokens. -/
def tokens (insertion : Insertion) : List Token :=
  [.word "INSERT", .word "INTO", .word insertion.table, .symbol '('] ++
    columnTokens insertion.columns ++ [.symbol ')', .word "VALUES", .symbol '('] ++
    commaSeparated (insertion.values.map Expression.tokens) ++ [.symbol ')']

/-- The text of an insertion is read as its table, its columns and its values. -/
theorem tokens_text {insertion : Insertion} (h : insertion.IsNamed) :
    Sql.tokens insertion.text = insertion.tokens := by
  have hjob : ∀ column ∈ insertion.jobColumns, IsName column := fun column hcolumn ↦
    h.columns column (List.mem_append_right _ hcolumn)
  have hinto : SpellsOut "INSERT INTO ".toList [.word "INSERT", .word "INTO"] := by decide +kernel
  have hopen : SpellsOut "(".toList [.symbol '('] := by decide +kernel
  have hvalues : SpellsOut ") VALUES(".toList [.symbol ')', .word "VALUES", .symbol '('] := by
    decide +kernel
  have hclose : SpellsOut ")".toList [.symbol ')'] := by decide +kernel
  have hcolumns := spells_columnTokens h.columns
  have hitems : Spells (", ".intercalate (insertion.values.map Expression.text)).toList
      (commaSeparated (insertion.values.map Expression.tokens)) :=
    spells_commaSeparated <| List.forall₂_map_left_iff.2 <| List.forall₂_map_right_iff.2 <|
      List.forall₂_same.2 fun value hvalue ↦ Expression.spells (h.values value hvalue)
  have htext : insertion.text.toList = "INSERT INTO ".toList ++ insertion.table.toList ++
      "(".toList ++ (", ".intercalate insertion.columns).toList ++ ") VALUES(".toList ++
      (", ".intercalate (insertion.values.map Expression.text)).toList ++ ")".toList := by
    rw [columns, ← columnList_eq h.fixedColumns_ne_nil hjob]
    simp only [← String.toList_append]
    rfl
  have hfront := (hinto.append h.table.spells).append_out hopen ⟨'(', [], rfl, by decide⟩
  have hlist := (hfront.append hcolumns).append_out hvalues ⟨')', _, rfl, by decide⟩
  have hwhole := (hlist.append hitems).append_out hclose ⟨')', [], rfl, by decide⟩
  exact tokens_eq_of_spells (htext ▸ hwhole.spells)

/-- The placeholders of an insertion are those of its values. -/
theorem filterMap_parameter?_tokens (insertion : Insertion) :
    insertion.tokens.filterMap Token.parameter? =
      insertion.values.filterMap Expression.parameter? := by
  have hvalue : ∀ value : Expression,
      value.tokens.filterMap Token.parameter? = value.parameter?.toList := by
    rintro (⟨index, _ | cast⟩ | _ | index) <;> rfl
  simp only [tokens, List.filterMap_append, filterMap_parameter?_columnTokens,
    filterMap_parameter?_commaSeparated, List.flatMap_map, hvalue]
  rw [List.filterMap_eq_flatMap_toList Expression.parameter?]
  -- No word and no symbol around the values is a placeholder.
  exact List.append_nil _

end Insertion

/-! ## Removals -/

theorem isName_of_mem_returned {job : List String} (hjob : ∀ column ∈ job, IsName column)
    {column : String} (h : column ∈ metadataColumns ++ job) : IsName column :=
  (List.mem_append.1 h).elim (fun hfixed ↦ isName_fixedColumn (List.mem_append_left _ hfixed))
    (hjob column)

def consumerTokens : List Token :=
  [.word "consumer", .symbol '=', .parameter 1, .symbol ':', .symbol ':', .word "TEXT"]

def eligibleTokens : List Token :=
  [.word "AND", .word "dequeueAfter", .symbol '<', .symbol '=', .word "clock_timestamp",
    .symbol '(', .symbol ')']

def claimTokens (job : List String) : List Token :=
  [.word "DELETE", .word "FROM", .word "queue", .word "WHERE", .word "ctid", .symbol '=',
    .symbol '(', .word "SELECT", .word "ctid", .word "FROM", .word "queue", .word "WHERE"] ++
    consumerTokens ++
    (eligibleTokens ++ [.word "AND", .word "dequeueAfter", .symbol '>', .symbol '=', .parameter 2,
      .symbol ':', .symbol ':', .word "TIMESTAMPTZ"]) ++
    [.word "ORDER", .word "BY", .word "consumer", .symbol ',', .word "dequeueAfter", .word "FOR",
      .word "UPDATE", .word "SKIP", .word "LOCKED", .word "LIMIT", .number "1", .symbol ')',
      .word "RETURNING"] ++
    columnTokens (metadataColumns ++ job)

/-- The text of a claim is read with the metadata columns and then the job columns to be returned. -/
theorem tokens_claim {job : List String} (hjob : ∀ column ∈ job, IsName column) :
    tokens (claim job) = claimTokens job := by
  have hdelete : SpellsOut
      "DELETE FROM queue WHERE ctid=(SELECT ctid FROM queue WHERE consumer=$1::TEXT ".toList
      ([.word "DELETE", .word "FROM", .word "queue", .word "WHERE", .word "ctid", .symbol '=',
        .symbol '(', .word "SELECT", .word "ctid", .word "FROM", .word "queue", .word "WHERE"] ++
        consumerTokens) := by decide +kernel
  have hbounds : SpellsOut
      "AND dequeueAfter<=clock_timestamp() AND dequeueAfter>=$2::TIMESTAMPTZ ".toList
      (eligibleTokens ++ [.word "AND", .word "dequeueAfter", .symbol '>', .symbol '=',
        .parameter 2, .symbol ':', .symbol ':', .word "TIMESTAMPTZ"]) := by decide +kernel
  have hreturning : SpellsOut
      "ORDER BY consumer, dequeueAfter FOR UPDATE SKIP LOCKED LIMIT 1) RETURNING ".toList
      [.word "ORDER", .word "BY", .word "consumer", .symbol ',', .word "dequeueAfter", .word "FOR",
        .word "UPDATE", .word "SKIP", .word "LOCKED", .word "LIMIT", .number "1", .symbol ')',
        .word "RETURNING"] := by decide +kernel
  have hwhole := ((hdelete.append_out hbounds).append_out hreturning).append
    (spells_columnTokens fun _ ↦ isName_of_mem_returned hjob)
  rw [← columnList_eq (by decide) hjob] at hwhole
  simp only [← String.toList_append] at hwhole
  exact tokens_eq_of_spells hwhole

def matchTokens (duplicate : List String) : List Token :=
  [.word "AND"].intercalate (duplicate.zipIdx.map fun (column, i) ↦
    [.word column, .symbol '=', .parameter (2 + i)])

/-- The placeholders of the conditions follow the first one. -/
theorem filterMap_parameter?_matchTokens (duplicate : List String) :
    (matchTokens duplicate).filterMap Token.parameter? = List.range' 2 duplicate.length := by
  have hindex : duplicate.zipIdx.map ((2 + ·) ∘ Prod.snd) = List.range' 2 duplicate.length := by
    rw [← List.map_map, List.zipIdx_map_snd, List.map_add_range']
  rw [matchTokens, filterMap_parameter?_intercalate rfl, List.flatMap_map, ← hindex,
    List.map_eq_flatMap]
  rfl

theorem spells_matchText {duplicate : List String}
    (h : ∀ column ∈ duplicate, IsName column) :
    Spells (matchText duplicate).toList (matchTokens duplicate) := by
  have hequals : SpellsOut "=".toList [.symbol '='] := by decide +kernel
  have hand : SpellsOut " AND ".toList [.word "AND"] := by decide +kernel
  rw [matchText, duplicateMatches, List.zipIdx_eq_map_add, String.toList_intercalate, List.map_map,
    List.map_map]
  refine .intercalate hand ⟨' ', _, rfl, by decide⟩ ?_
  refine List.forall₂_map_left_iff.2 <| List.forall₂_map_right_iff.2 <| List.forall₂_same.2 ?_
  rintro ⟨column, i⟩ hmem
  have hcolumn := (h column (List.fst_mem_of_mem_zipIdx hmem)).spells
  have hpair := (hcolumn.append_out hequals ⟨'=', [], rfl, by decide⟩).append
    (spells_placeholder (2 + i))
  simpa using hpair

/-- The condition that a row is among those found and locked beforehand, up to its own conditions
on the duplicate columns. -/
def lockedTokens : List Token :=
  [.word "AND", .word "ctid", .word "IN", .symbol '(', .word "SELECT", .word "ctid", .word "FROM",
    .word "queue", .word "WHERE"] ++ consumerTokens ++ [.word "AND"]

def removalTokens (job duplicate : List String) (includePostponed : Bool) : List Token :=
  [.word "DELETE", .word "FROM", .word "queue", .word "WHERE"] ++ consumerTokens ++
    (if includePostponed then [] else eligibleTokens) ++ lockedTokens ++ matchTokens duplicate ++
    [.word "FOR", .word "UPDATE", .word "SKIP", .word "LOCKED", .symbol ')', .word "AND"] ++
    matchTokens duplicate ++ .word "RETURNING" :: columnTokens (metadataColumns ++ job)

/-- A removal of duplicates takes the queue and then every value, all of them twice. -/
theorem filterMap_parameter?_removalTokens (job duplicate : List String)
    (includePostponed : Bool) :
    (removalTokens job duplicate includePostponed).filterMap Token.parameter? =
      [1, 1] ++ List.range' 2 duplicate.length ++ List.range' 2 duplicate.length := by
  have hconsumer : consumerTokens.filterMap Token.parameter? = [1] := rfl
  have hlocked : lockedTokens.filterMap Token.parameter? = [1] := rfl
  have heligible :
      (if includePostponed then [] else eligibleTokens).filterMap Token.parameter? = [] := by
    cases includePostponed <;> rfl
  simp only [removalTokens, List.filterMap_append, List.filterMap_cons, Token.parameter?,
    hconsumer, hlocked, heligible, filterMap_parameter?_matchTokens,
    filterMap_parameter?_columnTokens]
  simp

/-- The text of a removal of duplicates is read as its two lists of conditions and its columns. -/
theorem tokens_deleteDuplicate {job duplicate : List String} (hne : duplicate ≠ [])
    (hjob : ∀ column ∈ job, IsName column) (hduplicate : ∀ column ∈ duplicate, IsName column)
    (includePostponed : Bool) :
    ∃ text, deleteDuplicate job (some duplicate) includePostponed = some text ∧
      tokens text = removalTokens job duplicate includePostponed := by
  have hmatches := spells_matchText hduplicate
  have hconsumer : Spells "DELETE FROM queue WHERE consumer=$1::TEXT".toList
      ([.word "DELETE", .word "FROM", .word "queue", .word "WHERE"] ++ consumerTokens) := by
    decide +kernel
  have hlocked : SpellsOut
      " AND ctid IN (SELECT ctid FROM queue WHERE consumer=$1::TEXT AND ".toList lockedTokens := by
    decide +kernel
  have hlocking : SpellsOut " FOR UPDATE SKIP LOCKED) AND ".toList
      [.word "FOR", .word "UPDATE", .word "SKIP", .word "LOCKED", .symbol ')', .word "AND"] := by
    decide +kernel
  have hreturning : SpellsOut " RETURNING ".toList [.word "RETURNING"] := by decide +kernel
  have heligible : Spells ("DELETE FROM queue WHERE consumer=$1::TEXT".toList ++
      (if includePostponed then "" else " AND dequeueAfter<=clock_timestamp()").toList)
      ([.word "DELETE", .word "FROM", .word "queue", .word "WHERE"] ++ consumerTokens ++
        if includePostponed then [] else eligibleTokens) := by
    cases includePostponed with
    | true => simpa using hconsumer
    | false =>
      have hcondition : Spells " AND dequeueAfter<=clock_timestamp()".toList eligibleTokens := by
        decide +kernel
      exact hconsumer.append hcondition ⟨' ', _, rfl, by decide⟩
  have hfirst := (heligible.append_out hlocked ⟨' ', _, rfl, by decide⟩).append hmatches
  have hsecond := (hfirst.append_out hlocking ⟨' ', _, rfl, by decide⟩).append hmatches
  have hwhole := (hsecond.append_out hreturning ⟨' ', _, rfl, by decide⟩).append
    (spells_columnTokens fun _ ↦ isName_of_mem_returned hjob)
  rw [List.append_assoc _ [Token.word "RETURNING"], List.singleton_append] at hwhole
  obtain ⟨first, others, rfl⟩ := List.exists_cons_of_ne_nil hne
  refine ⟨_, rfl, tokens_eq_of_spells ?_⟩
  rw [columnList_eq (by decide) hjob]
  simp only [String.toList_append]
  exact hwhole

end TableQueue.Sql
