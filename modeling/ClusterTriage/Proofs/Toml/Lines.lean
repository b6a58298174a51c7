import ClusterTriage.Proofs.Toml.Values

/-!
# Lines come back

A document is written as three kinds of lines: headers of tables, headers in double brackets, and
definitions.

> **Each is read as what it is** (`line_header`, `line_item`, `line_entry`): as an opening of that
> table, or a definition of that key in the table that is open.

`Reads` strings lines together. It is about any fuel that covers the text, as each line takes up
characters of its own.
-/

namespace ClusterTriage
namespace Toml

variable {c : Char} {cs rest : List Char} {d : Datum} {name last : String} {path : List String}
  {fuel : Nat} {doc doc' doc'' : Document}

/-! ## 1. Keys -/

theorem keyText_eq_cons (s : String) :
    ∃ c cs, (keyText s).toList = c :: cs ∧ (c = '"' ∨ c = '\'' ∨ isBareChar c = true) := by
  unfold keyText
  simp only
  split
  · rename_i h
    simp only [Bool.and_eq_true, Bool.not_eq_true', List.isEmpty_eq_false_iff] at h
    obtain ⟨c, cs, hcs⟩ := List.exists_cons_of_ne_nil h.1
    exact ⟨c, cs, hcs, .inr (.inr (List.all_eq_true.mp h.2 c (hcs ▸ List.mem_cons_self)))⟩
  split
  · rw [toList_between]
    exact ⟨'\'', _, rfl, .inr (.inl rfl)⟩
  · rw [toList_between]
    exact ⟨'"', _, rfl, .inl rfl⟩

/-- What a key starts with opens nothing else in a line. -/
theorem halts_of_key (hc : c = '"' ∨ c = '\'' ∨ isBareChar c = true) : Halts c ∧ c ≠ '[' := by
  have hne : ∀ a, (a = '"' ∨ a = '\'' ∨ isBareChar a = true → False) → c ≠ a := by
    rintro a ha rfl
    exact ha hc
  have hspace := hne ' ' (by decide)
  have htab := hne '\t' (by decide)
  exact ⟨⟨by simp [isBlankChar, hspace, htab], hne '#' (by decide), hne '\n' (by decide),
    hne '\r' (by decide)⟩, hne '[' (by decide)⟩

/-- What may follow a key. -/
def EndsKey (rest : List Char) : Prop :=
  ∃ c r, rest = c :: r ∧ (c = ' ' ∨ c = '.' ∨ c = ']')

theorem EndsKey.keyPart (h : EndsKey rest) :
    keyPart (skipBlanks ((keyText name).toList ++ rest)) = some (name, rest) := by
  obtain ⟨c, cs, hcs, hc⟩ := keyText_eq_cons name
  rw [hcs, List.cons_append, skipBlanks_cons (halts_of_key hc).1.1, ← List.cons_append, ← hcs]
  obtain ⟨c, r, rfl, rfl | rfl | rfl⟩ := h
  all_goals exact keyPart_keyText (apart_cons (by decide)) (by simp; decide)

theorem toList_pathText (name : String) (path : List String) :
    (pathText (name :: path)).toList = (keyText name).toList ++
      if path = [] then [] else '.' :: (pathText path).toList := by
  cases path with
  | nil => rw [pathText, List.map_cons, List.map_nil, String.intercalate_singleton]; simp
  | cons k path =>
    rw [pathText, List.map_cons, List.map_cons, String.intercalate_cons_cons, ← List.map_cons,
      ← pathText, String.toList_append, String.toList_append, List.append_assoc,
      if_neg (List.cons_ne_nil _ _)]
    rfl

theorem toList_pathText_concat_cons :
    (pathText (name :: path ++ [last])).toList =
      (keyText name).toList ++ ('.' :: (pathText (path ++ [last])).toList) := by
  rw [List.cons_append, toList_pathText, if_neg (by simp)]

theorem key_of_dot (h : keyPart (skipBlanks cs) = some (name, '.' :: rest)) :
    key (fuel + 1) cs =
      (key fuel rest).bind fun ((path, last), rest) => some ((name :: path, last), rest) := by
  rw [key, h]
  rfl

/-- A key in parts is read up to what follows it. -/
theorem key_pathText (hfuel : path.length < fuel) (hrest : EndsKey rest)
    (hdot : ∀ r, skipBlanks rest ≠ '.' :: r) :
    key fuel ((pathText (path ++ [last])).toList ++ rest) = some ((path, last), skipBlanks rest) := by
  induction path generalizing fuel with
  | nil =>
    obtain ⟨fuel, rfl⟩ := Nat.exists_eq_add_one_of_ne_zero (by omega : fuel ≠ 0)
    rw [List.nil_append, toList_pathText, if_pos rfl, List.append_nil, key, hrest.keyPart,
      Option.bind_eq_bind, Option.bind_some]
    dsimp only
    split
    · rename_i h
      exact absurd h (hdot _)
    · rfl
  | cons name path ih =>
    obtain ⟨fuel, rfl⟩ := Nat.exists_eq_add_one_of_ne_zero (by omega : fuel ≠ 0)
    have hends : EndsKey ('.' :: ((pathText (path ++ [last])).toList ++ rest)) :=
      ⟨'.', _, rfl, .inr (.inl rfl)⟩
    rw [toList_pathText_concat_cons, List.append_assoc, List.cons_append, key_of_dot hends.keyPart,
      ih (by simpa using hfuel)]
    rfl

theorem length_lt_pathText : path.length < (pathText (path ++ [last])).toList.length := by
  have hone : ∀ name, 1 ≤ (keyText name).toList.length := fun name => by
    obtain ⟨c, cs, h, -⟩ := keyText_eq_cons name
    simp [h]
  induction path with
  | nil =>
    rw [List.nil_append, toList_pathText, if_pos rfl, List.append_nil]
    exact hone last
  | cons name path ih =>
    rw [toList_pathText_concat_cons]
    simp only [List.length_cons, List.length_append]
    omega

theorem pathText_eq_cons (name : String) (path : List String) :
    ∃ c cs, (pathText (name :: path)).toList = c :: cs ∧ Halts c ∧ c ≠ '[' := by
  obtain ⟨c, cs, h, hc⟩ := keyText_eq_cons name
  exact ⟨c, _, by rw [toList_pathText, h]; rfl, halts_of_key hc⟩

/-- The key of a header, up to its bracket. -/
theorem key_header (hfuel : (pathText (path ++ [last])).toList.length ≤ fuel) :
    key fuel ((pathText (path ++ [last])).toList ++ ']' :: rest) = some ((path, last), ']' :: rest) :=
  key_pathText (Nat.lt_of_lt_of_le length_lt_pathText hfuel) ⟨']', rest, rfl, .inr (.inr rfl)⟩
    fun r h => absurd (List.cons.inj h).1 (by decide)

/-! ## 2. One line -/

theorem line_blank : line doc ('\n' :: rest) = some (doc, rest) := rfl

def header (path : List String) : List Char := '[' :: ((pathText path).toList ++ [']', '\n'])

def itemHeader (path : List String) : List Char :=
  '[' :: '[' :: ((pathText path).toList ++ [']', ']', '\n'])

def entryChars (name : String) (d : Datum) : List Char :=
  (keyText name).toList ++ (' ' :: '=' :: ' ' :: ((valueText d).toList ++ ['\n']))

/-- A line that opens with one bracket, by the key after it. -/
theorem line_of_bracket (hc : c ≠ '[')
    (hkey : key (c :: cs).length (c :: cs) = some ((path, last), ']' :: '\n' :: rest))
    (hopen : doc.open false path last = some doc') :
    line doc ('[' :: c :: cs) = some (doc', rest) := by
  rw [line, skipBlanks_cons (by decide)]
  split
  · rename_i h
    exact absurd (List.cons.inj (List.cons.inj h).2).1 hc
  · rename_i h
    obtain rfl := (List.cons.inj h).2
    rw [hkey, Option.bind_eq_bind, Option.bind_some]
    dsimp only
    rw [hopen]
    rfl
  · rename_i h
    exact absurd (List.cons.inj h).1 (by decide)
  · rename_i h
    cases h
  · rename_i h _ _
    exact (h _ rfl).elim

theorem line_of_brackets
    (hkey : key cs.length cs = some ((path, last), ']' :: ']' :: '\n' :: rest))
    (hopen : doc.open true path last = some doc') :
    line doc ('[' :: '[' :: cs) = some (doc', rest) := by
  rw [line, skipBlanks_cons (by decide)]
  split
  · rename_i h
    obtain rfl := (List.cons.inj (List.cons.inj h).2).2
    rw [hkey, Option.bind_eq_bind, Option.bind_some]
    dsimp only [expect]
    rw [if_pos rfl, Option.bind_eq_bind, Option.bind_some]
    dsimp only [expect]
    rw [if_pos rfl, Option.bind_eq_bind, Option.bind_some, hopen]
    rfl
  · rename_i hne h
    obtain rfl := (List.cons.inj h).2
    exact (hne _ rfl).elim
  · rename_i h
    exact absurd (List.cons.inj h).1 (by decide)
  · rename_i h
    cases h
  · rename_i h _ _ _
    exact (h _ rfl).elim

/-- A line that opens with nothing else is an entry. -/
theorem line_of_halts (hc : Halts c ∧ c ≠ '[') :
    line doc (c :: cs) = (do
      let ((path, last), rest) ← key (c :: cs).length (c :: cs)
      let (d, rest) ← value (2 * rest.length) 0 (skipBlanks (← expect '=' rest))
      some (← doc.define path last d, ← lineEnd rest)) := by
  rw [line, skipBlanks_cons hc.1.1]
  split
  · rename_i h
    exact absurd (List.cons.inj h).1 hc.2
  · rename_i h
    exact absurd (List.cons.inj h).1 hc.2
  · rename_i h
    exact absurd (List.cons.inj h).1 hc.1.2.1
  · rename_i h
    cases h
  · rw [newline?_cons hc.1.2.2.1 hc.1.2.2.2]

/-- A line that opens with a key, by the value after it. -/
theorem line_of_key {more : List Char} (hc : Halts c ∧ c ≠ '[')
    (hkey : key (c :: cs).length (c :: cs) = some ((path, last), '=' :: more))
    (hvalue : value (2 * (more.length + 1)) 0 (skipBlanks more) = some (d, '\n' :: rest))
    (hdefine : doc.define path last d = some doc') :
    line doc (c :: cs) = some (doc', rest) := by
  have hexpect : expect '=' ('=' :: more) = some more := rfl
  rw [line_of_halts hc, hkey, Option.bind_eq_bind, Option.bind_some]
  dsimp only
  rw [hexpect, Option.bind_eq_bind, Option.bind_some, List.length_cons, hvalue,
    Option.bind_eq_bind, Option.bind_some]
  dsimp only
  rw [hdefine]
  rfl

theorem line_header (h : doc.open false path last = some doc') :
    line doc (header (path ++ [last]) ++ rest) = some (doc', rest) := by
  have hhead : ∃ c cs, (pathText (path ++ [last])).toList = c :: cs ∧ Halts c ∧ c ≠ '[' := by
    cases path with
    | nil => exact pathText_eq_cons last []
    | cons name path => exact pathText_eq_cons name (path ++ [last])
  obtain ⟨c, cs, hcs, -, hc⟩ := hhead
  have htext : header (path ++ [last]) ++ rest = '[' :: c :: (cs ++ ']' :: '\n' :: rest) := by
    rw [header, hcs, List.cons_append, List.append_assoc]
    rfl
  rw [htext]
  refine line_of_bracket hc ?_ h
  rw [← List.cons_append, ← hcs]
  exact key_header (by simp)

theorem line_item (h : doc.open true path last = some doc') :
    line doc (itemHeader (path ++ [last]) ++ rest) = some (doc', rest) := by
  have htext : itemHeader (path ++ [last]) ++ rest =
      '[' :: '[' :: ((pathText (path ++ [last])).toList ++ ']' :: ']' :: '\n' :: rest) := by
    rw [itemHeader, List.cons_append, List.cons_append, List.append_assoc]
    rfl
  rw [htext]
  exact line_of_brackets (key_header (by simp)) h

theorem line_entry (hd : Plain d) (h : doc.define [] name d = some doc') :
    line doc (entryChars name d ++ rest) = some (doc', rest) := by
  obtain ⟨c, cs, hcs, hc⟩ := keyText_eq_cons name
  obtain ⟨b, bs, hbs, hb⟩ := valueText_eq_cons hd
  have htext : entryChars name d ++ rest =
      (pathText ([] ++ [name])).toList ++
        (' ' :: '=' :: ' ' :: ((valueText d).toList ++ '\n' :: rest)) := by
    rw [List.nil_append, toList_pathText, if_pos rfl, List.append_nil, entryChars]
    simp only [List.append_assoc, List.cons_append, List.nil_append]
  have hcons : entryChars name d ++ rest =
      c :: (cs ++ (' ' :: '=' :: ' ' :: ((valueText d).toList ++ ['\n'])) ++ rest) := by
    rw [entryChars, hcs]
    rfl
  have hkey : key (entryChars name d ++ rest).length (entryChars name d ++ rest) =
      some (([], name), '=' :: ' ' :: ((valueText d).toList ++ '\n' :: rest)) := by
    rw [htext]
    refine key_pathText ?_ ⟨' ', _, rfl, .inl rfl⟩ fun r h => absurd (List.cons.inj h).1 (by decide)
    simp only [List.length_append, List.length_cons, List.length_nil]
    omega
  rw [hcons] at hkey ⊢
  refine line_of_key (halts_of_key hc) hkey ?_ h
  have hskip : skipBlanks (' ' :: ((valueText d).toList ++ '\n' :: rest)) =
      (valueText d).toList ++ '\n' :: rest := by
    rw [hbs]
    exact skipBlanks_cons hb
  rw [hskip]
  exact value_valueText hd (by simp; omega) (follows_cons (.inl rfl))

/-! ## 3. Lines in a row -/

/-- Reading the lines of a text makes one document of another. -/
def Reads (doc : Document) (cs : List Char) (doc' : Document) : Prop :=
  ∀ fuel, cs.length ≤ fuel → lines fuel doc cs = some doc'

theorem reads_nil : Reads doc [] doc := fun _ _ => by rw [lines]

theorem Reads.line {l : List Char} (hl : l ≠ []) (hline : line doc (l ++ rest) = some (doc', rest))
    (h : Reads doc' rest doc'') : Reads doc (l ++ rest) doc'' := by
  intro fuel hfuel
  obtain ⟨c, l, rfl⟩ := List.exists_cons_of_ne_nil hl
  rw [List.cons_append, List.length_cons, List.length_append] at hfuel
  obtain ⟨fuel, rfl⟩ := Nat.exists_eq_add_one_of_ne_zero (by omega : fuel ≠ 0)
  rw [lines, hline, Option.bind_eq_bind, Option.bind_some]
  · exact h fuel (by omega)
  · exact List.cons_ne_nil _ _

/-- A text that holds whole lines, whatever comes after it. -/
def Passes (doc : Document) (l : List Char) (doc' : Document) : Prop :=
  ∀ rest doc'', Reads doc' rest doc'' → Reads doc (l ++ rest) doc''

theorem passes_nil : Passes doc [] doc := fun _ _ h => h

theorem passes_of_line {l : List Char} (hl : l ≠ [])
    (h : ∀ rest, line doc (l ++ rest) = some (doc', rest)) : Passes doc l doc' :=
  fun rest _ hrest => hrest.line hl (h rest)

theorem Passes.append {l m : List Char} (h : Passes doc l doc') (h' : Passes doc' m doc'') :
    Passes doc (l ++ m) doc'' := by
  intro rest _ hrest
  rw [List.append_assoc]
  exact h _ _ (h' _ _ hrest)

theorem Passes.reads {l : List Char} (h : Passes doc l doc') : Reads doc l doc' := by
  have := h [] doc' reads_nil
  rwa [List.append_nil] at this

end Toml
end ClusterTriage
