import TableQueue.Breaker
import TableQueue.Proofs.Settings.Delimiters
import TableQueue.Proofs.Throttle.Grammar

/-!
# Text settings out of the environment

The text of a variable is taken for a truth value or a number wherever it can be, and a setting that
is a text receives the truth value or the number as they are written anew. So the text arrives if
and only if it is already written in that way or is neither. No truth value and no number has a
comma, a slash or a blank in it; hence every rule set and every breaker that can be read arrives.
-/

namespace TableQueue

namespace Variable

/-! ## What becomes of a text -/

/-- How a text is read: the first that applies of a truth value, a whole number, a decimal and the
text itself. -/
inductive Reading (v : String) : Variable → Prop
  | truth (b : Bool) (hword : Text.lowercase v.toList = (toString b).toList) : Reading v (.truth b)
  | whole (n : Int) (hwords : ∀ b : Bool, Text.lowercase v.toList ≠ (toString b).toList)
    (hwhole : Text.signed64? v.toList = some n) : Reading v (.whole n)
  | decimal (x : Binary64) (hwords : ∀ b : Bool, Text.lowercase v.toList ≠ (toString b).toList)
    (hwhole : Text.signed64? v.toList = none) (hdecimal : Binary64.read? v.toList = some x) :
    Reading v (.decimal x)
  | text (hwords : ∀ b : Bool, Text.lowercase v.toList ≠ (toString b).toList)
    (hwhole : Text.signed64? v.toList = none) (hdecimal : Binary64.read? v.toList = none) :
    Reading v (.text v)

/-- A variable holds the first reading of its text that applies. -/
theorem reading_ofText (v : String) : Reading v (ofText v) := by
  unfold ofText
  simp only
  split
  · next htrue => exact .truth true htrue
  · next htrue =>
    split
    · next hfalse => exact .truth false hfalse
    · next hfalse =>
      have hwords : ∀ b : Bool, Text.lowercase v.toList ≠ (toString b).toList :=
        Bool.forall_bool.2 ⟨hfalse, htrue⟩
      split
      · next n hwhole => exact .whole n hwords hwhole
      · next hwhole =>
        split
        · next x hdecimal => exact .decimal x hwords hwhole hdecimal
        · next hdecimal => exact .text hwords hwhole hdecimal

/-- What a setting that is a text receives. -/
def respelled (v : String) : String :=
  match ofText v with
  | truth b => toString b
  | whole n => toString n
  | decimal x => x.text
  | _ => v

/-- A text arrives as its reading is written. -/
theorem toText_ofText (v : String) : (ofText v).toText = .ok (respelled v) := by
  have hreading := reading_ofText v
  unfold respelled
  generalize ofText v = reading at hreading ⊢
  cases hreading with
  | truth b hword => cases b <;> rfl
  | whole n hwords hwhole => rfl
  | decimal x hwords hwhole hdecimal => rfl
  | text hwords hwhole hdecimal => rfl

/-- A text that is read as a truth value or a number is the one that is written for it. -/
structure IsPlain (v : String) : Prop where
  /-- Words for truth values have no capitals. -/
  truth : ∀ b : Bool, Text.lowercase v.toList = (toString b).toList → v = toString b
  /-- Whole numbers have no plus sign, no leading zero and no negative zero. -/
  whole : (Text.signed64? v.toList).isSome → v = "0" ∨
    ¬ ['+'] <+: v.toList ∧ ¬ ['0'] <+: v.toList ∧ ¬ ['-', '0'] <+: v.toList
  /-- Other decimals are the shortest ones, without an exponent. -/
  decimal : ∀ x, Text.signed64? v.toList = none → Binary64.read? v.toList = some x → v = x.text

/-- What is written for a truth value or a number is solid, and so is what is read as one. -/
theorem isSolid_of_respelled_ne {v : String} (h : respelled v ≠ v) :
    IsSolid v.toList ∧ IsSolid (respelled v).toList := by
  have hreading := reading_ofText v
  unfold respelled at h ⊢
  generalize ofText v = reading at hreading h ⊢
  cases hreading with
  | truth b hword =>
    have hsolid : IsSolid (toString b).toList := by
      cases b <;> exact .of_all (by decide)
    exact ⟨isSolid_of_lowercase (hword ▸ hsolid), hsolid⟩
  | whole n hwords hwhole =>
    refine ⟨isSolid_of_signed64? hwhole, ?_⟩
    simp only [Text.toList_toString_int]
    split
    · exact .of_numeral _
    · exact .cons (by decide) (IsSolid.of_numeral _).not_isDelimiter
  | decimal x hwords hwhole hdecimal => exact ⟨Binary64.isSolid_of_read? hdecimal, x.isSolid_text⟩
  | text hwords hwhole hdecimal => exact absurd rfl h

/-- What has a delimiter is neither a truth value nor a number. -/
theorem respelled_of_isDelimiter {v : String} {c : Char} (hmem : c ∈ v.toList)
    (hc : isDelimiter c = true) : respelled v = v := by
  by_contra hne
  rw [(isSolid_of_respelled_ne hne).1.not_isDelimiter c hmem] at hc
  cases hc

/-- A rule has a slash. -/
theorem respelled_of_ofSpec {v : String} {throttle : Throttle}
    (h : Throttle.ofSpec v = .ok throttle) : respelled v = v := by
  by_contra hne
  have hsolid := (isSolid_of_respelled_ne hne).1
  have hwhole : ∀ c ∈ v.toList, Throttle.Rule.isSeparator c = false := fun _ hc ↦
    Bool.or_eq_false_iff.2 ⟨hsolid.ne_comma hc, hsolid.not_isBlank hc⟩
  have hnothing : ∀ c ∈ ([] : List Char).head?, Throttle.Rule.isSeparator c = true := by simp
  have hpieces := Text.pieces_append_piece hsolid.ne_nil hwhole hnothing
  rw [List.append_nil, Text.pieces_nil] at hpieces
  obtain ⟨spelling, -, htext⟩ :=
    Throttle.isRule_of_ofSpec h (hpieces ▸ List.mem_singleton_self v.toList)
  refine hsolid.slash_notMem ?_
  rw [← htext, Throttle.Spelling.text]
  exact List.mem_append_right _ List.mem_cons_self

/-- A breaker that trips has a slash. -/
theorem respelled_of_parse {v : String} {breaker : Breaker} (h : Breaker.parse v = .ok breaker) :
    respelled v = v := by
  by_contra hne
  have hsolid := (isSolid_of_respelled_ne hne).1
  have htrim : Text.trim v.toList = v.toList := Text.trim_eq_self fun _ hc ↦ hsolid.not_isBlank hc
  have hempty : v.toList.isEmpty = false := by simpa using hsolid.ne_nil
  have hslash : v.toList.contains '/' = false := by simpa using hsolid.slash_notMem
  simp only [Breaker.parse, htrim, hempty, hslash] at h
  cases h

/-- A text arrives as it is exactly if it is plain. -/
theorem respelled_eq_iff (v : String) : respelled v = v ↔ IsPlain v := by
  have hreading := reading_ofText v
  unfold respelled
  generalize ofText v = reading at hreading ⊢
  cases hreading with
  | truth b hword =>
    refine ⟨fun h ↦ ?_, fun h ↦ (h.truth b hword).symm⟩
    have hv : toString b = v := h
    clear h hword
    subst hv
    cases b <;> exact ⟨by decide, fun hsome ↦ absurd hsome (by decide), fun _ _ hdecimal ↦ by
      cases hdecimal⟩
  | whole n hwords hwhole =>
    have htext : toString n = v ↔ (toString n).toList = v.toList := by
      rw [String.toList_inj]
    have hzero : v = "0" ↔ v.toList = ['0'] := by
      rw [← String.toList_inj]; rfl
    simp only [htext, Text.toString_eq_iff_of_signed64? hwhole, ← hzero]
    exact ⟨fun h ↦ ⟨fun b hword ↦ absurd hword (hwords b), fun _ ↦ h, fun x hnone ↦ by
      rw [hwhole] at hnone; cases hnone⟩, fun h ↦ h.whole (hwhole ▸ rfl)⟩
  | decimal x hwords hwhole hdecimal =>
    refine ⟨fun h ↦ ⟨fun b hword ↦ absurd hword (hwords b), fun hsome ↦ ?_, fun y _ hy ↦ ?_⟩,
      fun h ↦ (h.decimal x hwhole hdecimal).symm⟩
    · rw [hwhole] at hsome; cases hsome
    · rw [hdecimal] at hy
      exact Option.some.inj hy ▸ h.symm
  | text hwords hwhole hdecimal =>
    refine ⟨fun _ ↦ ⟨fun b hword ↦ absurd hword (hwords b), fun hsome ↦ ?_, fun y _ hy ↦ ?_⟩,
      fun _ ↦ rfl⟩
    · rw [hwhole] at hsome; cases hsome
    · rw [hdecimal] at hy; cases hy

end Variable

/-! ## The settings that are texts -/

inductive TextSetting where
  | queueNames
  | databaseConnectThrottle
  | failureThrottle
  | deduplicateDisable
deriving DecidableEq, Repr

namespace TextSetting

def variableName : TextSetting → String
  | queueNames => "PGQUEUE_QUEUE_NAMES"
  | databaseConnectThrottle => "PGQUEUE_DATABASE_CONNECT_THROTTLE"
  | failureThrottle => "PGQUEUE_FAILURE_THROTTLE"
  | deduplicateDisable => "PGQUEUE_DEDUPLICATE_DISABLE"

def key : TextSetting → String
  | queueNames => "queue_names"
  | databaseConnectThrottle => "database_connect_throttle"
  | failureThrottle => "failure_throttle"
  | deduplicateDisable => "deduplicate_disable"

def put (setting : TextSetting) (v : String) (overrides : Overrides) : Overrides :=
  match setting with
  | queueNames => { overrides with queueNames := some (splitQueueNames v) }
  | databaseConnectThrottle => { overrides with databaseConnectThrottle := some v }
  | failureThrottle => { overrides with failureThrottle := some v }
  | deduplicateDisable => { overrides with deduplicateDisable := some v }

/-- A variable is about a setting, or about a part of it. -/
def Concerns (setting : TextSetting) (pair : String × String) : Prop :=
  ∃ place ∈ Environment.placed? pair, place.1.root = setting.key

instance (setting : TextSetting) (pair : String × String) : Decidable (setting.Concerns pair) :=
  inferInstanceAs (Decidable (∃ place ∈ Environment.placed? pair, place.1.root = setting.key))

/-- The variable of a setting is placed at the root of that setting. -/
theorem placed?_variableName (setting : TextSetting) (v : String) :
    Environment.placed? (setting.variableName, v) = some (⟨setting.key, []⟩, v) := by
  have hname : Environment.settingName? setting.variableName = some setting.key.toList := by
    cases setting <;> decide
  have hpath : Environment.Path.ofName setting.key.toList = ⟨setting.key, []⟩ := by
    cases setting <;> decide
  rw [Environment.placed?, hname, Option.map_some, hpath]

end TextSetting

namespace Environment

variable {setting : TextSetting} {v : String} {before after : List (String × String)}

/-- A variable for a whole setting has no index that could be impossible. -/
theorem find?_impossible_insert (placed placed' : List (Path × String)) :
    (placed ++ (⟨setting.key, []⟩, v) :: placed').find? (fun (path, _) ↦ !path.isPossible) =
      (placed ++ placed').find? fun (path, _) ↦ !path.isPossible := by
  rw [List.find?_append, List.find?_cons_of_neg Bool.false_ne_true, List.find?_append]

/-- Nothing is found for a setting that no variable concerns. -/
theorem lookup_eq_none {pairs : List (String × String)}
    (h : ∀ pair ∈ pairs, ¬ setting.Concerns pair) :
    ((pairs.filterMap placed?).map fun (path, text) ↦ (path.root, path.valueAtRoot text)).lookup
      setting.key = none := by
  rw [List.lookup_eq_none_iff]
  intro entry hentry
  obtain ⟨⟨path, text⟩, hplaced, rfl⟩ := List.mem_map.1 hentry
  obtain ⟨pair, hpair, hplace⟩ := List.mem_filterMap.1 hplaced
  exact bne_iff_ne.2 fun heq ↦ h pair hpair ⟨_, hplace, heq.symm⟩

/-- One more variable for a setting changes what is found for that setting alone. -/
theorem ofVariables_insert {environment : Environment}
    (hothers : ∀ pair ∈ before ++ after, ¬ setting.Concerns pair)
    (h : ofVariables (before ++ after) = .ok environment) :
    ∃ environment',
      ofVariables (before ++ (setting.variableName, v) :: after) = .ok environment' ∧
      environment.find? setting.key = none ∧
      environment'.find? setting.key = some (Variable.ofText v) ∧
      ∀ key, key ≠ setting.key → environment'.find? key = environment.find? key := by
  have hbefore := lookup_eq_none fun pair hpair ↦ hothers pair (List.mem_append_left _ hpair)
  have hafter := lookup_eq_none fun pair hpair ↦ hothers pair (List.mem_append_right _ hpair)
  unfold ofVariables at h ⊢
  simp only [List.filterMap_append, List.filterMap_cons, setting.placed?_variableName,
    find?_impossible_insert] at h ⊢
  split at h
  · cases h
  · obtain rfl := Except.ok.inj h
    refine ⟨_, rfl, ?_, ?_, fun key hkey ↦ ?_⟩
    · simp only [find?, List.map_append, List.lookup_append, hbefore, hafter, Option.or_none]
    · simp only [find?, List.map_append, List.map_cons, List.lookup_append, hbefore,
        Option.none_or, List.lookup_cons, beq_self_eq_true]
      rfl
    · have hne : (key == setting.key) = false := beq_false_of_ne hkey
      simp only [find?, List.map_append, List.map_cons, List.lookup_append, List.lookup_cons, hne]

theorem ofVariables_insert_eq_error {fault : Fault}
    (h : ofVariables (before ++ after) = .error fault) :
    ofVariables (before ++ (setting.variableName, v) :: after) = .error fault := by
  unfold ofVariables at h ⊢
  simp only [List.filterMap_append, List.filterMap_cons, setting.placed?_variableName,
    find?_impossible_insert] at h ⊢
  split at h
  · exact h
  · cases h

end Environment

namespace Overrides

variable {setting : TextSetting} {v : String}

/-- A text for a setting that is open otherwise changes that setting alone. -/
theorem ofEnvironment_put {environment environment' : Environment}
    (hnone : environment.find? setting.key = none)
    (hsome : environment'.find? setting.key = some (Variable.ofText v))
    (hothers : ∀ key, key ≠ setting.key → environment'.find? key = environment.find? key) :
    ofEnvironment environment' =
      (ofEnvironment environment).map (setting.put (Variable.respelled v)) := by
  have hread : ∀ {α : Type} (convert : Variable → Except Variable.Mismatch α) (key : String),
      key ≠ setting.key → environment'.read convert key = environment.read convert key := by
    intro α convert key hkey
    rw [Environment.read, hothers key hkey, Environment.read]
  have hopen : environment.read Variable.toText setting.key = .ok none := by
    rw [Environment.read, hnone]
  have harrived : environment'.read Variable.toText setting.key =
      .ok (some (Variable.respelled v)) := by
    simp only [Environment.read, hsome, Variable.toText_ofText]
  -- The record is put together behind the reads, so the change passes through them to its end.
  change _ = setting.put (Variable.respelled v) <$> ofEnvironment environment
  cases setting
  all_goals
    simp only [TextSetting.key] at hread hopen harrived
    simp only [ofEnvironment, hopen, harrived, hread, ne_eq, String.reduceEq, not_false_eq_true,
      map_bind, map_pure]
    rfl

/-- A text setting is given what its text is respelled as. -/
theorem ofVariables_insert {before after : List (String × String)}
    (hothers : ∀ pair ∈ before ++ after, ¬ setting.Concerns pair) :
    ofVariables (before ++ (setting.variableName, v) :: after) =
      (ofVariables (before ++ after)).map (setting.put (Variable.respelled v)) := by
  unfold ofVariables
  cases h : Environment.ofVariables (before ++ after) with
  | error fault => rw [Environment.ofVariables_insert_eq_error h]; rfl
  | ok environment =>
    obtain ⟨environment', h', hnone, hsome, hkept⟩ := Environment.ofVariables_insert hothers h
    rw [h']
    simp only [Except.bind, ofEnvironment_put hnone hsome hkept]
    cases ofEnvironment environment <;> rfl

/-- A list of queue names with a comma in its text arrives. A single name may be taken for a number
or a truth value, but not with a comma behind it. -/
theorem ofVariables_insert_of_enlists {names : List String} {before after : List (String × String)}
    (hothers : ∀ pair ∈ before ++ after, ¬ TextSetting.queueNames.Concerns pair)
    (hlist : Enlists v names) (hnames : ∀ name ∈ names, IsQueueName name)
    (hcomma : ',' ∈ v.toList) :
    ofVariables (before ++ (TextSetting.queueNames.variableName, v) :: after) =
      (ofVariables (before ++ after)).map fun overrides ↦
        { overrides with queueNames := some names } := by
  have hinsert := ofVariables_insert (v := v) hothers
  rw [Variable.respelled_of_isDelimiter hcomma rfl] at hinsert
  rw [hinsert, ← hlist.splitQueueNames_eq hnames]
  rfl

example : ofVariables [("PGQUEUE_QUEUE_NAMES", "007,")] =
    .ok { empty with queueNames := some ["007"] } := rfl

/-- A text that is respelled makes another setting, also where it is separated into names. -/
theorem put_respelled_eq_iff (setting : TextSetting) (v : String) (overrides : Overrides) :
    setting.put (Variable.respelled v) overrides = setting.put v overrides ↔
      Variable.respelled v = v := by
  refine ⟨fun h ↦ ?_, fun h ↦ by rw [h]⟩
  cases setting with
  | queueNames =>
    by_contra hne
    obtain ⟨hsolid, hsolid'⟩ := Variable.isSolid_of_respelled_ne hne
    have hnames := Option.some.inj (congrArg Overrides.queueNames h)
    rw [hsolid.splitQueueNames_eq, hsolid'.splitQueueNames_eq] at hnames
    exact hne (List.singleton_inj.1 hnames)
  | databaseConnectThrottle =>
    exact Option.some.inj (congrArg Overrides.databaseConnectThrottle h)
  | failureThrottle => exact Option.some.inj (congrArg Overrides.failureThrottle h)
  | deduplicateDisable => exact Option.some.inj (congrArg Overrides.deduplicateDisable h)

/-- The text of a variable arrives as its setting if and only if it is plain; what arrives in any
case is the text respelled, and nothing else changes. A text with a delimiter is plain, and so is
every rule set and every breaker that can be read. -/
theorem keeps_text_iff_isPlain (setting : TextSetting) (v : String)
    {before after : List (String × String)}
    (hothers : ∀ pair ∈ before ++ after, ¬ setting.Concerns pair) :
    ofVariables (before ++ (setting.variableName, v) :: after) =
      (ofVariables (before ++ after)).map (setting.put (Variable.respelled v)) ∧
    (∀ overrides, ofVariables (before ++ after) = .ok overrides →
      (ofVariables (before ++ (setting.variableName, v) :: after) = .ok (setting.put v overrides) ↔
        Variable.IsPlain v)) ∧
    ((∃ c ∈ v.toList, isDelimiter c = true) ∨ (∃ throttle, Throttle.ofSpec v = .ok throttle) ∨
      (∃ breaker, Breaker.parse v = .ok breaker) → Variable.IsPlain v) := by
  have hinsert := ofVariables_insert (v := v) hothers
  refine ⟨hinsert, fun overrides hrest ↦ ?_, fun h ↦ (Variable.respelled_eq_iff v).1 ?_⟩
  · rw [hinsert, hrest, ← Variable.respelled_eq_iff, ← put_respelled_eq_iff setting v overrides]
    exact iff_of_eq (Except.ok.injEq ..)
  · rcases h with ⟨c, hmem, hc⟩ | ⟨throttle, hthrottle⟩ | ⟨breaker, hbreaker⟩
    · exact Variable.respelled_of_isDelimiter hmem hc
    · exact Variable.respelled_of_ofSpec hthrottle
    · exact Variable.respelled_of_parse hbreaker

/-- Beside other variables a rule set arrives, and a queue name with an exponent does not. -/
theorem keeps_text_iff_isPlain_of_exponent :
    (∀ pair ∈ [("PGQUEUE_MAX_TRIES", "5")] ++ [("UNRELATED", "ignored")],
      ¬ TextSetting.queueNames.Concerns pair ∧ ¬ TextSetting.failureThrottle.Concerns pair) ∧
    ofVariables [("PGQUEUE_MAX_TRIES", "5"), ("PGQUEUE_FAILURE_THROTTLE", "3/500ms, 5/m!"),
      ("UNRELATED", "ignored")] =
        .ok { empty with maxTries := some 5, failureThrottle := some "3/500ms, 5/m!" } ∧
    ofVariables [("PGQUEUE_MAX_TRIES", "5"), ("PGQUEUE_QUEUE_NAMES", "1e3"),
      ("UNRELATED", "ignored")] =
        .ok { empty with maxTries := some 5, queueNames := some ["1000"] } ∧
    Variable.IsPlain "3/500ms, 5/m!" ∧ ¬ Variable.IsPlain "1e3" := by
  have hothers : ∀ pair ∈ [("PGQUEUE_MAX_TRIES", "5")] ++ [("UNRELATED", "ignored")],
      ¬ TextSetting.queueNames.Concerns pair ∧ ¬ TextSetting.failureThrottle.Concerns pair := by
    decide
  have hrest : ofVariables ([("PGQUEUE_MAX_TRIES", "5")] ++ [("UNRELATED", "ignored")]) =
      .ok { empty with maxTries := some 5 } := rfl
  obtain ⟨hrules, -, hplain⟩ := keeps_text_iff_isPlain .failureThrottle "3/500ms, 5/m!"
    fun pair hpair ↦ (hothers pair hpair).2
  obtain ⟨hnames, hiff, -⟩ := keeps_text_iff_isPlain .queueNames "1e3"
    fun pair hpair ↦ (hothers pair hpair).1
  refine ⟨hothers, hrules.trans rfl, hnames.trans rfl, hplain (.inl ⟨'/', by decide, rfl⟩), ?_⟩
  rw [← hiff _ hrest, hnames]
  decide

/-- Leading zeros are lost, of a queue name as of any other text. -/
theorem loses_leadingZeros :
    ofVariables [("PGQUEUE_QUEUE_NAMES", "007"), ("PGQUEUE_FAILURE_THROTTLE", "007")] =
      .ok { empty with queueNames := some ["7"], failureThrottle := some "7" } ∧
    splitQueueNames "007" = ["007"] ∧
    ¬ ∀ v, ofVariables [("PGQUEUE_QUEUE_NAMES", v), ("PGQUEUE_FAILURE_THROTTLE", v)] =
      .ok { empty with queueNames := some (splitQueueNames v), failureThrottle := some v } := by
  have hlost : ofVariables [("PGQUEUE_QUEUE_NAMES", "007"), ("PGQUEUE_FAILURE_THROTTLE", "007")] =
      .ok { empty with queueNames := some ["7"], failureThrottle := some "7" } := rfl
  refine ⟨hlost, by decide, fun h ↦ ?_⟩
  have hkept := Except.ok.inj ((h "007").symm.trans hlost)
  exact absurd (Option.some.inj (congrArg failureThrottle hkept)) (by decide)

end Overrides

end TableQueue
