import TableQueue.Proofs.Text.Margins
import TableQueue.Proofs.Text.Pieces
import TableQueue.Settings.QueueNames

/-!
# Texts of lists of queue names

One list of queue names has many texts: blanks may stand around the names, and items that are empty
or blank before, between and after them. Reading finds the list again in each of its texts and in no
other, provided that its names can be told apart: none is empty, has a comma, or has a blank at
either end. For then no item has a comma, so that the commas of the text are those between the
items, and an item is trimmed to its name or to nothing. Whatever the text, only names of this kind
are read from it; hence what is read survives being joined and read again.
-/

namespace TableQueue

structure IsQueueName (name : String) : Prop where
  ne_empty : name ≠ ""
  comma_notMem : ',' ∉ name.toList
  isTrim : Text.IsTrim name.toList

instance (name : String) : Decidable (IsQueueName name) :=
  decidable_of_iff (name ≠ "" ∧ ',' ∉ name.toList ∧ Text.IsTrim name.toList)
    ⟨fun h ↦ ⟨h.1, h.2.1, h.2.2⟩, fun h ↦ ⟨h.1, h.2, h.3⟩⟩

/-- Items for some names, in order: one for each name, which stands there between margins, and any
number of blank items before, between and after these. -/
inductive Itemizes : List String → List String → Prop
  | nil : Itemizes [] []
  | blank {items names : List String} (margin : String) (hmargin : Text.IsMargin margin.toList)
    (hrest : Itemizes items names) : Itemizes (margin :: items) names
  | name {items names : List String} (before name after : String)
    (hbefore : Text.IsMargin before.toList) (hafter : Text.IsMargin after.toList)
    (hrest : Itemizes items names) : Itemizes ((before ++ name ++ after) :: items) (name :: names)

/-- A text is a list of names if it consists of items for them, with commas between the items. -/
def Enlists (text : String) (names : List String) : Prop :=
  ∃ items, Itemizes items names ∧ joinQueueNames items = text

variable {text name : String} {items names : List String}

/-! ## Items without commas -/

/-- Every text consists of such items. -/
theorem exists_items (text : String) :
    ∃ items, (∀ item ∈ items, ',' ∉ item.toList) ∧ joinQueueNames items = text := by
  refine ⟨(text.toList.splitOn ',').map String.ofList, fun item hitem hcomma ↦ ?_, ?_⟩
  · obtain ⟨part, hpart, rfl⟩ := List.mem_map.1 hitem
    rw [String.toList_ofList] at hcomma
    exact absurd (Text.not_isSeparator_of_mem_splitOnP hpart ',' hcomma) (by decide)
  · have hparts : String.toList ∘ String.ofList = id := funext fun _ ↦ String.toList_ofList
    rw [← String.toList_inj, joinQueueNames, String.toList_intercalate, List.map_map, hparts,
      List.map_id]
    exact List.intercalate_splitOn ','

/-- The names in such items are what trimming leaves of them, where it leaves anything. -/
theorem splitQueueNames_joinQueueNames (hitems : ∀ item ∈ items, ',' ∉ item.toList) :
    splitQueueNames (joinQueueNames items) = (items.map Text.trimmed).filter (· ≠ "") := by
  cases items with
  | nil => rfl
  | cons first others =>
    have hparts : (joinQueueNames (first :: others)).toList.splitOn ',' =
        (first :: others).map String.toList := by
      rw [joinQueueNames, String.toList_intercalate]
      refine List.splitOn_intercalate ',' (fun part hpart ↦ ?_) (List.cons_ne_nil _ _)
      obtain ⟨item, hitem, rfl⟩ := List.mem_map.1 hpart
      exact hitems item hitem
    have hkept : (fun name : List Char ↦ !name.isEmpty) =
        (fun name : String ↦ decide (name ≠ "")) ∘ String.ofList := by
      funext name
      cases name <;> simp
    calc
      _ = ((((first :: others).map String.toList).map Text.trim).filter
            fun name ↦ !name.isEmpty).map String.ofList := by rw [← hparts]; rfl
      _ = ((((first :: others).map String.toList).map Text.trim).map String.ofList).filter
            (· ≠ "") := by rw [hkept, ← List.filter_map]
      _ = _ := by rw [List.map_map, List.map_map]; rfl

/-! ## Items for names -/

/-- Each item is what is left of it between its margins, or is a margin. -/
theorem itemizes_trimmed (items : List String) :
    Itemizes items ((items.map Text.trimmed).filter (· ≠ "")) := by
  induction items with
  | nil => exact .nil
  | cons item rest ih =>
    rw [List.map_cons]
    by_cases hempty : Text.trimmed item = ""
    · rw [List.filter_cons_of_neg (by simpa using hempty)]
      exact .blank item (Text.trimmed_eq_empty_iff.1 hempty) ih
    · rw [List.filter_cons_of_pos (by simpa using hempty)]
      obtain ⟨before, after, hbefore, hafter, hitem⟩ := Text.exists_packed_margins item
      have hfirst := Itemizes.name before (Text.trimmed item) after hbefore hafter ih
      rwa [hitem] at hfirst

/-- Names are items for themselves, each between empty margins. -/
theorem itemizes_self (names : List String) : Itemizes names names := by
  induction names with
  | nil => exact .nil
  | cons name rest ih =>
    have hfirst := Itemizes.name "" name "" Text.isMargin_nil Text.isMargin_nil ih
    rwa [String.empty_append, String.append_empty] at hfirst

namespace Itemizes

theorem comma_notMem (h : Itemizes items names) (hnames : ∀ name ∈ names, IsQueueName name) :
    ∀ item ∈ items, ',' ∉ item.toList := by
  induction h with
  | nil => exact List.forall_mem_nil _
  | blank margin hmargin _ ih =>
    exact List.forall_mem_cons.2 ⟨hmargin.comma_notMem, ih hnames⟩
  | name before name after hbefore hafter _ ih =>
    obtain ⟨hname, hrest⟩ := List.forall_mem_cons.1 hnames
    refine List.forall_mem_cons.2 ⟨?_, ih hrest⟩
    simp only [String.toList_append, List.mem_append, not_or]
    exact ⟨⟨hbefore.comma_notMem, hname.comma_notMem⟩, hafter.comma_notMem⟩

/-- The trimmed items that are not empty are the names. -/
theorem trimmed_eq (h : Itemizes items names) (hnames : ∀ name ∈ names, IsQueueName name) :
    (items.map Text.trimmed).filter (· ≠ "") = names := by
  induction h with
  | nil => rfl
  | blank margin hmargin _ ih =>
    have hempty : Text.trimmed margin = "" := Text.trimmed_eq_empty_iff.2 hmargin
    rw [List.map_cons, List.filter_cons_of_neg (by simpa using hempty), ih hnames]
  | name before name after hbefore hafter _ ih =>
    obtain ⟨hname, hrest⟩ := List.forall_mem_cons.1 hnames
    have htrimmed := Text.trimmed_between_margins hbefore hname.isTrim hafter
    rw [List.map_cons, htrimmed, List.filter_cons_of_pos (by simpa using hname.ne_empty), ih hrest]

end Itemizes

/-! ## Texts of a list -/

theorem Enlists.splitQueueNames_eq (hlist : Enlists text names)
    (hnames : ∀ name ∈ names, IsQueueName name) : splitQueueNames text = names := by
  obtain ⟨items, hitems, rfl⟩ := hlist
  rw [splitQueueNames_joinQueueNames (hitems.comma_notMem hnames), hitems.trimmed_eq hnames]

/-- Every text is a list of the names that are split off it. -/
theorem enlists_splitQueueNames (text : String) : Enlists text (splitQueueNames text) := by
  obtain ⟨items, hitems, rfl⟩ := exists_items text
  rw [splitQueueNames_joinQueueNames hitems]
  exact ⟨items, itemizes_trimmed items, rfl⟩

theorem isQueueName_of_mem_splitQueueNames (hname : name ∈ splitQueueNames text) :
    IsQueueName name := by
  obtain ⟨items, hitems, rfl⟩ := exists_items text
  rw [splitQueueNames_joinQueueNames hitems, List.mem_filter] at hname
  obtain ⟨hmem, hne⟩ := hname
  obtain ⟨item, hitem, rfl⟩ := List.mem_map.1 hmem
  have htext := Text.toList_trimmed item
  exact ⟨of_decide_eq_true hne,
    fun hcomma ↦ hitems item hitem (Text.mem_of_mem_trim (htext ▸ hcomma)),
    htext ▸ Text.isTrim_trim item.toList⟩

/-- The names that are split off a text are the ones it is a list of. -/
theorem splitQueueNames_eq_iff :
    splitQueueNames text = names ↔ Enlists text names ∧ ∀ name ∈ names, IsQueueName name := by
  refine ⟨?_, fun ⟨hlist, hnames⟩ ↦ hlist.splitQueueNames_eq hnames⟩
  rintro rfl
  exact ⟨enlists_splitQueueNames text, fun _ ↦ isQueueName_of_mem_splitQueueNames⟩

/-- Joining is undone by splitting just for names that a list can hold. -/
theorem splitQueueNames_joinQueueNames_eq_iff :
    splitQueueNames (joinQueueNames names) = names ↔ ∀ name ∈ names, IsQueueName name := by
  have hlist : Enlists (joinQueueNames names) names := ⟨names, itemizes_self names, rfl⟩
  rw [splitQueueNames_eq_iff, and_iff_right hlist]

/-- A text is read as a list of names if and only if it is a text of that list and the list can hold
each of the names. So the lists that are read again when they are joined are those of such names,
and what is read from any text is one of them. -/
theorem reads_names_iff_enlists (text : String) (names : List String) :
    (splitQueueNames text = names ↔ Enlists text names ∧ ∀ name ∈ names, IsQueueName name) ∧
    (splitQueueNames (joinQueueNames names) = names ↔ ∀ name ∈ names, IsQueueName name) ∧
    (∀ name ∈ splitQueueNames text, IsQueueName name) ∧
    splitQueueNames (joinQueueNames (splitQueueNames text)) = splitQueueNames text := by
  have hread : ∀ name ∈ splitQueueNames text, IsQueueName name :=
    fun _ ↦ isQueueName_of_mem_splitQueueNames
  exact ⟨splitQueueNames_eq_iff, splitQueueNames_joinQueueNames_eq_iff, hread,
    splitQueueNames_joinQueueNames_eq_iff.2 hread⟩

/-- A list with a repeated name and a blank inside a name, among typographic blanks and with empty
and blank items. -/
theorem reads_names_of_untidyList :
    (∀ name ∈ ["foo", "a b", "foo", "é"], IsQueueName name) ∧
    Enlists ",foo,\u00a0a b \t,, ,foo\n,\u3000é\u2003," ["foo", "a b", "foo", "é"] ∧
    splitQueueNames ",foo,\u00a0a b \t,, ,foo\n,\u3000é\u2003," = ["foo", "a b", "foo", "é"] ∧
    splitQueueNames "foo,a b,foo,é" = ["foo", "a b", "foo", "é"] := by
  have hnames : ∀ name ∈ ["foo", "a b", "foo", "é"], IsQueueName name := by decide
  have hlist : Enlists ",foo,\u00a0a b \t,, ,foo\n,\u3000é\u2003," ["foo", "a b", "foo", "é"] := by
    refine ⟨_, .blank "" (by decide) <| .name "" "foo" "" (by decide) (by decide) <|
      .name "\u00a0" "a b" " \t" (by decide) (by decide) <| .blank "" (by decide) <|
      .blank " " (by decide) <| .name "" "foo" "\n" (by decide) (by decide) <|
      .name "\u3000" "é" "\u2003" (by decide) (by decide) <| .blank "" (by decide) .nil, ?_⟩
    decide
  obtain ⟨hiff, hjoin, -, -⟩ := reads_names_iff_enlists
    ",foo,\u00a0a b \t,, ,foo\n,\u3000é\u2003," ["foo", "a b", "foo", "é"]
  exact ⟨hnames, hlist, hiff.2 ⟨hlist, hnames⟩, hjoin.2 hnames⟩

example : splitQueueNames "foo, bar,,baz" = ["foo", "bar", "baz"] := by decide

end TableQueue
