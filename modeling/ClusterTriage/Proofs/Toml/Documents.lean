import ClusterTriage.Proofs.Toml.Lines

/-!
# Documents come back

A table is written in pieces: its plain entries under its own header, and every table in it under a
header that names the whole way from the root. The reader puts them together again, and a table whose
header was left out comes into being with the first table in it.

> **What is written for a table is read as that table** (`parse_pretty`), if its plain entries come
> before its tables, at every level.

A header is looked up from the root, while the recursion of the writer is inside some table. `At` says
how the two fit: what a header does to the whole document is what it does to the table at hand, with the
document around it left as it is.
-/

namespace ClusterTriage
namespace Toml

variable {name : String} {path : List String} {d : Datum} {m : Manner} {root inner es : Entries}
  {plug : Entries → Entries} {doc doc' doc'' : Document}

/-! ## 1. Tables within tables -/

def names (es : Entries) : List String := es.map Prod.fst

theorem lookup_of_not_mem (h : name ∉ names es) : es.lookup name = none := by
  refine List.lookup_eq_none_iff.mpr fun e he => ?_
  have hne : name ≠ e.1 := fun heq => h (by rw [heq]; exact List.mem_map_of_mem he)
  simpa using hne

theorem lookup_concat {n : Node} (h : name ∉ names es) :
    (es ++ [(name, n)]).lookup name = some n := by
  rw [List.lookup_append, lookup_of_not_mem h, Option.none_or]
  simp

theorem replaceEntry_concat {n n' : Node} (h : name ∉ names es) :
    replaceEntry name n' (es ++ [(name, n)]) = es ++ [(name, n')] := by
  induction es with
  | nil => rw [List.nil_append, replaceEntry, if_pos rfl, List.nil_append]
  | cons e es ih =>
    obtain ⟨k, n''⟩ := e
    rw [names, List.map_cons, List.mem_cons, not_or] at h
    rw [List.cons_append, replaceEntry, if_neg (Ne.symm h.1), ih h.2, List.cons_append]

theorem descend_append (change : Manner → Entries → Option Entries) (q : List String) :
    descend false change m (path ++ q) es =
      descend false (fun m es => descend false change m q es) m path es := by
  induction path generalizing m es with
  | nil => rfl
  | cons k path ih =>
    rw [List.cons_append, descend, descend]
    cases es.lookup k with
    | none => simp only [ih]
    | some n => cases n <;> simp only [ih]

/-- The table at a path, and how the document is rebuilt around whatever becomes of it. -/
def At (path : List String) (root : Entries) (m : Manner) (inner : Entries)
    (plug : Entries → Entries) : Prop :=
  ∀ change, descend false change .header path root = (change m inner).map plug

/-- A path that leads to the same place whatever the table there holds. -/
def Frame (path : List String) (m : Manner) (plug : Entries → Entries) : Prop :=
  ∀ es, At path (plug es) m es plug

theorem frame_root : Frame [] .header id := fun es change => by
  rw [descend, Option.map_id, id, id]

/-- A table that is not there yet comes into being on the way. -/
theorem At.new (h : At path root m inner plug) (hname : name ∉ names inner) :
    At (path ++ [name]) root .implied []
      (fun es => plug (inner ++ [(name, .table .implied es)])) := by
  intro change
  rw [descend_append, h, descend, lookup_of_not_mem hname]
  cases hchange : change .implied [] <;> simp [descend, hchange]

theorem Frame.table {m' : Manner} (h : Frame path m plug) (hname : name ∉ names inner) :
    Frame (path ++ [name]) m' (fun es => plug (inner ++ [(name, .table m' es)])) := by
  intro es change
  rw [descend_append, h, descend, lookup_concat hname]
  cases hchange : change m' es <;> simp [descend, hchange, replaceEntry_concat hname]

/-- The way into an array of tables leads into its last one. -/
theorem Frame.item (h : Frame path m plug) (hname : name ∉ names inner) (before : List Entries) :
    Frame (path ++ [name]) .header
      (fun es => plug (inner ++ [(name, .tables (before ++ [es]))])) := by
  intro es change
  rw [descend_append, h, descend, lookup_concat hname]
  cases hchange : change .header es <;> simp [descend, hchange, replaceEntry_concat hname]

theorem At.open (h : At path doc.entries m inner plug) (hname : name ∉ names inner) :
    doc.open false path name =
      some ⟨plug (inner ++ [(name, .table .header [])]), path ++ [name]⟩ := by
  rw [Document.open]
  simp only [Bool.false_eq_true, if_false]
  rw [h, openTable, lookup_of_not_mem hname]
  rfl

theorem At.openItem (h : At path doc.entries m inner plug) (hname : name ∉ names inner) :
    doc.open true path name =
      some ⟨plug (inner ++ [(name, .tables [[]])]), path ++ [name]⟩ := by
  rw [Document.open]
  simp only [if_true]
  rw [h, Toml.openItem, lookup_of_not_mem hname]
  rfl

theorem At.openFurther {items : List Entries}
    (h : At path doc.entries m (inner ++ [(name, .tables items)]) plug) (hname : name ∉ names inner) :
    doc.open true path name =
      some ⟨plug (inner ++ [(name, .tables (items ++ [[]]))]), path ++ [name]⟩ := by
  rw [Document.open]
  simp only [if_true]
  rw [h, Toml.openItem, lookup_concat hname]
  simp only [replaceEntry_concat hname]
  rfl

theorem Frame.define (h : Frame path .header plug) (hname : name ∉ names es) :
    (⟨plug es, path⟩ : Document).define [] name d =
      some ⟨plug (es ++ [(name, .value d)]), path⟩ := by
  rw [Document.define, h, Toml.define, descend, lookup_of_not_mem hname]
  rfl

/-! ## 2. Entries -/

theorem entryLine?_plain (name : String) (h : Plain d) :
    ∃ l, entryLine? (name, d) = some l ∧ l.toList = entryChars name d := by
  have htable : (isTable d || isTables d) = false := by
    cases h with
    | scalar h => cases h <;> rfl
    | @array items h =>
      cases items with
      | nil => rfl
      | cons d ds =>
        have := h d List.mem_cons_self
        cases this <;> rfl
  have hnull : d ≠ .null := by
    rintro rfl
    cases h with
    | scalar h => cases h
  refine ⟨keyText name ++ " = " ++ valueText d ++ "\n", ?_, ?_⟩
  · rw [entryLine?]
    · rw [if_neg (by simp [htable])]
    · exact hnull
  · rw [entryChars]
    simp

theorem entryLine?_table (h : (isTable d || isTables d) = true) : entryLine? (name, d) = none := by
  unfold entryLine?
  split
  · rfl
  · rename_i heq
    obtain ⟨-, rfl⟩ := Prod.mk.inj heq
    rw [if_pos h]

def entriesChars (plain : List (String × Datum)) : List Char :=
  plain.flatMap fun e => entryChars e.1 e.2

theorem toList_entryLines {plain tables : List (String × Datum)} (hplain : ∀ e ∈ plain, Plain e.2)
    (htables : ∀ e ∈ tables, (isTable e.2 || isTables e.2) = true) :
    (entryLines (plain ++ tables)).toList = entriesChars plain := by
  have hnone : tables.filterMap entryLine? = [] :=
    List.filterMap_eq_nil_iff.mpr fun e he => entryLine?_table (htables e he)
  unfold entryLines
  rw [List.filterMap_append, hnone, List.append_nil]
  clear hnone htables
  induction plain with
  | nil => rfl
  | cons e plain ih =>
    obtain ⟨l, hl, hchars⟩ := entryLine?_plain e.1 (hplain e List.mem_cons_self)
    rw [List.filterMap_cons_some hl, String.join_cons, String.toList_append, hchars,
      ih fun e he => hplain e (List.mem_cons_of_mem _ he)]
    rfl

/-- Plain entries as they are kept. -/
def valueNodes (plain : List (String × Datum)) : Entries := plain.map fun e => (e.1, .value e.2)

theorem passes_entries {plain : List (String × Datum)} (hplain : ∀ e ∈ plain, Plain e.2)
    (hnodup : (names es ++ plain.map Prod.fst).Nodup) (h : Frame path .header plug) :
    Passes ⟨plug es, path⟩ (entriesChars plain) ⟨plug (es ++ valueNodes plain), path⟩ := by
  induction plain generalizing es with
  | nil =>
    rw [valueNodes, List.map_nil, List.append_nil]
    exact passes_nil
  | cons e plain ih =>
    have hfree : e.1 ∉ names es := fun hmem =>
      (List.nodup_append.mp hnodup).2.2 _ hmem _ List.mem_cons_self rfl
    have hline : Passes ⟨plug es, path⟩ (entryChars e.1 e.2)
        ⟨plug (es ++ [(e.1, .value e.2)]), path⟩ :=
      passes_of_line (by simp [entryChars]) fun rest =>
        line_entry (hplain e List.mem_cons_self) (h.define hfree)
    have hrest := @ih (es ++ [(e.1, .value e.2)])
      (fun e he => hplain e (List.mem_cons_of_mem _ he)) (by simpa [names] using hnodup)
    rw [List.append_assoc] at hrest
    exact hline.append hrest

/-! ## 3. Sections -/

/-- A table whose plain entries come before its tables, or a sequence of such tables. -/
inductive Tabular : Datum → Prop where
  | table {plain tables : List (String × Datum)} :
      (∀ e ∈ plain, Plain e.2) → (∀ e ∈ tables, Tabular e.2) →
      ((plain ++ tables).map Prod.fst).Nodup → Tabular (.object (plain ++ tables))
  | tables {items : List Datum} :
      items ≠ [] → (∀ d ∈ items, isTable d = true) → (∀ d ∈ items, Tabular d) →
      Tabular (.array items)

theorem Tabular.isTable_or (h : Tabular d) : (isTable d || isTables d) = true := by
  cases h with
  | table => rfl
  | @tables items hne htable =>
    simp only [isTable, isTables, Bool.false_or, Bool.and_eq_true, Bool.not_eq_true',
      List.isEmpty_eq_false_iff, List.all_eq_true]
    exact ⟨hne, htable⟩

/-- Sections read one after another, with a blank line between any two. -/
inductive Covers : Document → List String → Document → Prop where
  | nil {doc : Document} : Covers doc [] doc
  | cons {doc doc' doc'' : Document} {t : String} {ts : List String} :
      Passes doc t.toList doc' → Covers doc' ts doc'' → Covers doc (t :: ts) doc''

theorem Covers.append {ts us : List String} (h : Covers doc ts doc') (h' : Covers doc' us doc'') :
    Covers doc (ts ++ us) doc'' := by
  induction h with
  | nil => exact h'
  | cons hpass _ ih => exact .cons hpass (ih h')

theorem Covers.passes {ts : List String} (h : Covers doc ts doc') :
    Passes doc ("\n".intercalate ts).toList doc' := by
  induction h with
  | nil => exact passes_nil
  | @cons doc doc' doc'' t ts hpass hts ih =>
    cases ts with
    | nil =>
      cases hts
      rwa [String.intercalate_singleton]
    | cons u us =>
      have hblank : Passes doc' ['\n'] doc' :=
        passes_of_line (List.cons_ne_nil _ _) fun _ => line_blank
      rw [String.intercalate_cons_cons, String.toList_append, String.toList_append]
      exact (hpass.append hblank).append ih

theorem sections_cons (e : String × Datum) (rest : List (String × Datum)) :
    sections path (e :: rest) = sections path [e] ++ sections path rest := by
  obtain ⟨name, d⟩ := e
  cases d <;> simp [sections]

theorem sections_plain {plain tables : List (String × Datum)} (h : ∀ e ∈ plain, Plain e.2) :
    sections path (plain ++ tables) = sections path tables := by
  induction plain with
  | nil => rfl
  | cons e plain ih =>
    obtain ⟨name, d⟩ := e
    have hd := h _ List.mem_cons_self
    have hone : sections path [(name, d)] = [] := by
      cases hd with
      | scalar hd => cases hd <;> simp [sections]
      | @array items hitems =>
        cases items with
        | nil => simp [sections, isTables]
        | cons d ds =>
          have := hitems d List.mem_cons_self
          cases this <;> simp [sections, isTables, isTable]
    rw [List.cons_append, sections_cons, hone, List.nil_append,
      ih fun e he => h e (List.mem_cons_of_mem _ he)]

/-- The sections of a value add that value to whatever table they are in. -/
def Returns (d : Datum) : Prop :=
  ∀ {path : List String} {m : Manner} {inner : Entries} {plug : Entries → Entries} {doc : Document}
    {name : String}, At path doc.entries m inner plug → Frame path m plug → name ∉ names inner →
    ∃ doc' node, Covers doc (sections path [(name, d)]) doc' ∧
      doc'.entries = plug (inner ++ [(name, node)]) ∧ node.datum = d

/-- The sections of several tables add all of them. Without any, the document stays as it is. -/
theorem covers_sections {tables : List (String × Datum)} (hreturns : ∀ e ∈ tables, Returns e.2)
    (hnodup : (names inner ++ tables.map Prod.fst).Nodup) (hat : At path doc.entries m inner plug)
    (hframe : Frame path m plug) (hsome : tables ≠ [] ∨ doc.entries = plug inner) :
    ∃ doc' es, Covers doc (sections path tables) doc' ∧ doc'.entries = plug (inner ++ es) ∧
      entriesData es = tables := by
  -- each table adds its node at the end of `inner`, and the frame carries the next one there
  induction tables generalizing doc inner with
  | nil =>
    have hdoc := hsome.resolve_left (absurd rfl)
    exact ⟨doc, [], by rw [sections]; exact .nil, by rw [hdoc, List.append_nil], rfl⟩
  | cons e tables ih =>
    have hfree : e.1 ∉ names inner := fun hmem =>
      (List.nodup_append.mp hnodup).2.2 _ hmem _ List.mem_cons_self rfl
    obtain ⟨doc₁, node, hcovers, hentries, hnode⟩ :=
      hreturns e List.mem_cons_self hat hframe hfree
    obtain ⟨doc₂, es, hcovers', hentries', hes⟩ := @ih (inner ++ [(e.1, node)]) doc₁
      (fun e he => hreturns e (List.mem_cons_of_mem _ he)) (by simpa [names] using hnodup)
      (by rw [hentries]; exact hframe _) (.inr hentries)
    refine ⟨doc₂, (e.1, node) :: es, ?_, by rw [hentries', List.append_assoc]; rfl, ?_⟩
    · rw [sections_cons]
      exact hcovers.append hcovers'
    · rw [entriesData, hnode, hes]

theorem entriesData_append (es es' : Entries) :
    entriesData (es ++ es') = entriesData es ++ entriesData es' := by
  induction es with
  | nil => rfl
  | cons e es ih =>
    obtain ⟨name, node⟩ := e
    rw [List.cons_append, entriesData, ih, entriesData, List.cons_append]

theorem entriesData_valueNodes (plain : List (String × Datum)) :
    entriesData (valueNodes plain) = plain := by
  induction plain with
  | nil => rfl
  | cons e plain ih =>
    rw [valueNodes] at ih ⊢
    rw [List.map_cons, entriesData, ih, Node.datum]

theorem names_valueNodes (plain : List (String × Datum)) :
    names (valueNodes plain) = plain.map Prod.fst := by
  simp [names, valueNodes]

/-- What stands after the header of a table fills that table, which is empty before. -/
def Fills (members : List (String × Datum)) : Prop :=
  ∀ {path : List String} {plug : Entries → Entries}, Frame path .header plug →
    ∃ doc doc' es, Passes ⟨plug [], path⟩ (entryLines members).toList doc ∧
      Covers doc (sections path members) doc' ∧ doc'.entries = plug es ∧ entriesData es = members

theorem fills {plain tables : List (String × Datum)} (hplain : ∀ e ∈ plain, Plain e.2)
    (htables : ∀ e ∈ tables, (isTable e.2 || isTables e.2) = true)
    (hreturns : ∀ e ∈ tables, Returns e.2) (hnodup : ((plain ++ tables).map Prod.fst).Nodup) :
    Fills (plain ++ tables) := by
  intro path plug hframe
  rw [List.map_append] at hnodup
  have hpass := @passes_entries path [] plug plain hplain (List.nodup_append.mp hnodup).1 hframe
  rw [List.nil_append] at hpass
  obtain ⟨doc', es, hcovers, hentries, hes⟩ :=
    @covers_sections path .header (valueNodes plain) plug ⟨plug (valueNodes plain), path⟩ tables
      hreturns (by rw [names_valueNodes]; exact hnodup) (hframe _) hframe (.inr rfl)
  refine ⟨⟨plug (valueNodes plain), path⟩, doc', valueNodes plain ++ es, ?_, ?_, hentries, ?_⟩
  · rw [toList_entryLines hplain htables]
    exact hpass
  · rw [sections_plain hplain]
    exact hcovers
  · rw [entriesData_append, entriesData_valueNodes, hes]

/-- The sections of a sequence of tables add one table after another. -/
theorem covers_items {items : List Datum} (before : List Entries)
    (hfills : ∀ d ∈ items, ∃ members, d = .object members ∧ Fills members)
    (hframe : Frame path m plug) (hname : name ∉ names inner)
    (hopen : doc.open true path name =
      some ⟨plug (inner ++ [(name, .tables (before ++ [[]]))]), path ++ [name]⟩)
    (hsome : items ≠ [] ∨ doc.entries = plug (inner ++ [(name, .tables before)])) :
    ∃ doc' after, Covers doc (itemSections (path ++ [name]) items) doc' ∧
      doc'.entries = plug (inner ++ [(name, .tables (before ++ after))]) ∧
      itemsData after = items := by
  -- `before` grows by one table, and each header finds the last table that was added
  induction items generalizing doc before with
  | nil =>
    have hdoc := hsome.resolve_left (absurd rfl)
    exact ⟨doc, [], by rw [itemSections]; exact .nil, by rw [hdoc, List.append_nil], rfl⟩
  | cons d items ih =>
    obtain ⟨members, rfl, hmembers⟩ := hfills d List.mem_cons_self
    obtain ⟨doc₁, doc₂, es, hpass, hcovers, hentries, hes⟩ := hmembers (hframe.item hname before)
    have hheader : Passes doc (itemHeader (path ++ [name]))
        ⟨plug (inner ++ [(name, .tables (before ++ [[]]))]), path ++ [name]⟩ :=
      passes_of_line (List.cons_ne_nil _ _) fun _ => line_item hopen
    have hfurther : doc₂.open true path name =
        some ⟨plug (inner ++ [(name, .tables (before ++ [es] ++ [[]]))]), path ++ [name]⟩ :=
      At.openFurther (by rw [hentries]; exact hframe _) hname
    obtain ⟨doc₃, after, hcovers', hentries', hafter⟩ :=
      ih (before ++ [es]) (fun d hd => hfills d (List.mem_cons_of_mem _ hd)) hfurther (.inr hentries)
    refine ⟨doc₃, es :: after, ?_, by rw [hentries', List.append_assoc]; rfl, ?_⟩
    · rw [itemSections]
      refine .cons ?_ (hcovers.append hcovers')
      have htext : ("[[" ++ pathText (path ++ [name]) ++ "]]\n" ++ entryLines members).toList =
          itemHeader (path ++ [name]) ++ (entryLines members).toList := by
        rw [itemHeader]
        simp
      rw [htext]
      exact hheader.append hpass
    · rw [itemsData, hes, hafter]

/-! ## 4. Whole documents -/

theorem returns_tables {items : List Datum} (hne : items ≠ [])
    (htables : isTables (.array items) = true)
    (hfills : ∀ d ∈ items, ∃ members, d = .object members ∧ Fills members) :
    Returns (.array items) := by
  intro path m inner plug doc name hat hframe hname
  obtain ⟨doc', after, hcovers, hentries, hafter⟩ :=
    covers_items [] hfills hframe hname (hat.openItem hname) (.inl hne)
  refine ⟨doc', .tables after, ?_, hentries, by rw [Node.datum, hafter]⟩
  rw [sections, sections, if_pos htables, List.append_nil]
  exact hcovers

theorem eq_nil_of_entriesChars {plain : List (String × Datum)} (h : entriesChars plain = []) :
    plain = [] := by
  cases plain with
  | nil => rfl
  | cons e plain =>
    simp [entriesChars, entryChars] at h

theorem returns_table {plain tables : List (String × Datum)} (hplain : ∀ e ∈ plain, Plain e.2)
    (htables : ∀ e ∈ tables, (isTable e.2 || isTables e.2) = true)
    (hreturns : ∀ e ∈ tables, Returns e.2) (hnodup : ((plain ++ tables).map Prod.fst).Nodup) :
    Returns (.object (plain ++ tables)) := by
  intro path m inner plug doc name hat hframe hname
  have hlines := toList_entryLines hplain htables
  rw [sections, sections, List.append_nil]
  split
  · -- the header is left out: there are tables only, and the first of them makes the table
    rename_i hown
    simp only [Bool.and_eq_true, decide_eq_true_eq, Bool.not_eq_true', List.isEmpty_eq_false_iff]
      at hown
    obtain rfl : plain = [] := eq_nil_of_entriesChars (by rw [← hlines, hown.1]; rfl)
    rw [List.nil_append] at hown hnodup ⊢
    obtain ⟨doc', es, hcovers, hentries, hes⟩ :=
      covers_sections hreturns (by simpa [names] using hnodup) (hat.new hname)
        (hframe.table hname) (.inl hown.2)
    exact ⟨doc', .table .implied es, hcovers, hentries, by rw [Node.datum, hes, List.nil_append]⟩
  · obtain ⟨doc₁, doc', es, hpass, hcovers, hentries, hes⟩ :=
      fills hplain htables hreturns hnodup (hframe.table hname)
    have hheader : Passes doc (header (path ++ [name]))
        ⟨plug (inner ++ [(name, .table .header [])]), path ++ [name]⟩ :=
      passes_of_line (List.cons_ne_nil _ _) fun _ => line_header (hat.open hname)
    have htext : ("[" ++ pathText (path ++ [name]) ++ "]\n" ++ entryLines (plain ++ tables)).toList =
        header (path ++ [name]) ++ (entryLines (plain ++ tables)).toList := by
      rw [header]
      simp
    refine ⟨doc', .table .header es, .cons ?_ hcovers, hentries, by rw [Node.datum, hes]⟩
    rw [htext]
    exact hheader.append hpass

theorem Tabular.returns_fills (h : Tabular d) :
    Returns d ∧ ∀ members, d = .object members → Fills members := by
  -- both at once: an item of a sequence has its header written outside, so it only fills
  induction h with
  | @table plain tables hplain htables hnodup ih =>
    have hor : ∀ e ∈ tables, (isTable e.2 || isTables e.2) = true := fun e he =>
      (htables e he).isTable_or
    have hreturns : ∀ e ∈ tables, Returns e.2 := fun e he => (ih e he).1
    refine ⟨returns_table hplain hor hreturns hnodup, fun members h => ?_⟩
    obtain rfl := Datum.object.inj h
    exact fills hplain hor hreturns hnodup
  | @tables items hne htable hitems ih =>
    have hfills : ∀ d ∈ items, ∃ members, d = .object members ∧ Fills members := fun d hd => by
      have hobject := htable d hd
      cases d <;> simp only [isTable, Bool.false_eq_true] at hobject
      exact ⟨_, rfl, (ih _ hd).2 _ rfl⟩
    refine ⟨returns_tables hne ?_ hfills, fun members h => Datum.noConfusion h⟩
    simpa [isTables, hne] using htable

/-- No line starts with a byte order mark. -/
theorem line_mark {rest : List Char} : line doc ('\uFEFF' :: rest) = none := by
  have hkey : key ('\uFEFF' :: rest).length ('\uFEFF' :: rest) = none := by
    rw [List.length_cons, key, skipBlanks_cons (by decide)]
    rfl
  rw [line_of_halts (by decide), hkey]
  rfl

theorem Reads.parse {text : String} (h : Reads {} text.toList doc) :
    parse text = some (.object (entriesData doc.entries)) := by
  have hread := h text.toList.length (Nat.le_refl _)
  unfold Toml.parse
  split
  · rename_i rest htext
    rw [htext, List.length_cons, lines, line_mark] at hread
    · cases hread
    · exact List.cons_ne_nil _ _
  · dsimp only
    rw [hread]
    rfl

/-- **What is written for a table is read as that table.** -/
theorem parse_pretty {members : List (String × Datum)} (h : Tabular (.object members)) :
    parse (pretty (.object members)) = some (.object members) := by
  obtain ⟨doc₁, doc, es, hpass, hcovers, hentries, hes⟩ :=
    h.returns_fills.2 members rfl frame_root
  have hall : Covers {} ((if entryLines members = "" then [] else [entryLines members]) ++
      sections [] members) doc := by
    split
    · rename_i hown
      -- without entries of its own the root is as it was
      rw [hown] at hpass
      have hsame : doc₁ = {} := by
        have := hpass.reads 0 (Nat.le_refl 0)
        rw [String.toList_empty, lines] at this
        exact (Option.some.inj this).symm
      rw [List.nil_append]
      rwa [hsame] at hcovers
    · exact .cons hpass hcovers
  rw [pretty, hall.passes.reads.parse, hentries, id, hes]

end Toml
end ClusterTriage
