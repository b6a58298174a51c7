import ClusterTriage.Proofs.Json.Scalars

/-!
# Texts in JSON

A value can be spelled in many ways, by what blanks stand between its tokens, and both printers choose one of
them. What the reader does is the same for all.

> **What is printed is read again** (`parse_compact`, `parse_pretty`): a value made of scalars, arrays and
> objects, with no more than 127 of them in one another, comes back from either layout.

The reader counts down its fuel at every value and at every item, and never needs more than a text is long.
-/

namespace ClusterTriage
namespace Json

variable {c : Char} {cs cs' rest before between after gap : List Char} {fuel depth room : Nat} {d : Datum}
  {ds : List Datum} {members : List (String × Datum)}

/-! ## 1. Spellings -/

def Blank (cs : List Char) : Prop := ∀ c ∈ cs, isSpace c = true

/-- A member of an object, with blanks after its colon. -/
def memberText (gap : List Char) (name : String) (cs : List Char) : List Char :=
  (quote name).toList ++ ':' :: (gap ++ cs)

/-- Texts with commas between them, within brackets. -/
def bracketed (left right : Char) (before between after : List Char) (texts : List (List Char)) : List Char :=
  left :: (before ++ ((',' :: between).intercalate texts ++ (after ++ [right])))

/-- A value and a text for it, where no more than `room` containers lie in one another. Items and members
come with their texts. -/
inductive Spelled : Nat → Datum → List Char → Prop
  | scalar {room : Nat} {d : Datum} (h : Scalar d) : Spelled room d (scalar d).toList
  | array {room : Nat} {parts : List (Datum × List Char)} {before between after : List Char}
      (hbefore : Blank before) (hbetween : Blank between) (hafter : Blank after)
      (each : ∀ p ∈ parts, Spelled room p.1 p.2) :
      Spelled (room + 1) (.array (parts.map (·.1)))
        (bracketed '[' ']' before between after (parts.map (·.2)))
  | object {room : Nat} {parts : List (String × Datum × List Char)} {before between after gap : List Char}
      (hbefore : Blank before) (hbetween : Blank between) (hafter : Blank after) (hgap : Blank gap)
      (each : ∀ p ∈ parts, Spelled room p.2.1 p.2.2) :
      Spelled (room + 1) (.object (parts.map fun p => (p.1, p.2.1)))
        (bracketed '{' '}' before between after (parts.map fun p => memberText gap p.1 p.2.2))

theorem Spelled.opens (h : Spelled room d cs) : ∃ c cs', cs = c :: cs' ∧ isSpace c = false ∧ c ≠ ']' := by
  cases h with
  | scalar h => exact scalar_eq_cons h
  | array => exact ⟨_, _, rfl, by decide, by decide⟩
  | object => exact ⟨_, _, rfl, by decide, by decide⟩

/-! ## 2. Blanks and brackets -/

theorem skipSpace_append (h : Blank before) : skipSpace (before ++ cs) = skipSpace cs :=
  List.dropWhile_append_of_pos h

theorem value_append (h : Blank before) : value fuel depth (before ++ cs) = value fuel depth cs := by
  cases fuel with
  | zero => rfl
  | succ fuel => rw [value, value, skipSpace_append h]

theorem members_append (h : Blank before) : Json.members fuel depth (before ++ cs) = Json.members fuel depth cs := by
  cases fuel with
  | zero => rfl
  | succ fuel => rw [Json.members, Json.members, skipSpace_append h]

theorem stops_cons (hc : c = ',' ∨ c = ']' ∨ c = '}') : Stops (c :: rest) := by
  intro a ha
  obtain rfl := Option.some.inj ha
  rcases hc with rfl | rfl | rfl <;> simp

theorem stops_append (h : Blank after) (hc : c = ',' ∨ c = ']' ∨ c = '}') : Stops (after ++ c :: rest) := by
  cases after with
  | nil => exact stops_cons hc
  | cons a after =>
    intro b hb
    obtain rfl := Option.some.inj hb
    exact .inr (.inr (.inr (h a List.mem_cons_self)))

theorem atDepth_of_lt (h : depth < maxDepth) : atDepth depth d = d := if_pos h

theorem value_bracket (cs : List Char) : value (fuel + 1) depth ('[' :: cs) =
    match skipSpace cs with
    | ']' :: rest => some (atDepth depth (.array []), rest)
    | rest => (items fuel (depth + 1) rest).bind fun r => some (atDepth depth (.array r.1), r.2) := by
  rw [value, skipSpace_cons (by decide)]
  rfl

theorem value_brace (cs : List Char) : value (fuel + 1) depth ('{' :: cs) =
    match skipSpace cs with
    | '}' :: rest => some (atDepth depth (.object []), rest)
    | rest => (Json.members fuel (depth + 1) rest).bind fun r =>
      some (atDepth depth ((r.1.map Datum.object).getD .unreadable), r.2) := by
  rw [value, skipSpace_cons (by decide)]
  rfl

theorem value_array_nil (h : skipSpace cs = ']' :: rest) (hdepth : depth < maxDepth) :
    value (fuel + 1) depth ('[' :: cs) = some (.array [], rest) := by
  rw [value_bracket, h, atDepth_of_lt hdepth]
  rfl

theorem value_array (hopen : ∀ cs', skipSpace cs ≠ ']' :: cs')
    (h : items fuel (depth + 1) (skipSpace cs) = some (ds, rest)) (hdepth : depth < maxDepth) :
    value (fuel + 1) depth ('[' :: cs) = some (.array ds, rest) := by
  rw [value_bracket]
  split
  · exact absurd ‹_› (hopen _)
  · rw [h, Option.bind_some, atDepth_of_lt hdepth]

theorem value_object_nil (h : skipSpace cs = '}' :: rest) (hdepth : depth < maxDepth) :
    value (fuel + 1) depth ('{' :: cs) = some (.object [], rest) := by
  rw [value_brace, h, atDepth_of_lt hdepth]
  rfl

theorem value_object (hopen : ∀ cs', skipSpace cs ≠ '}' :: cs')
    (h : Json.members fuel (depth + 1) (skipSpace cs) = some (some members, rest)) (hdepth : depth < maxDepth) :
    value (fuel + 1) depth ('{' :: cs) = some (.object members, rest) := by
  rw [value_brace]
  split
  · exact absurd ‹_› (hopen _)
  · rw [h, Option.bind_some, atDepth_of_lt hdepth]
    rfl

theorem items_last (h : value fuel depth cs = some (d, before)) (hclose : skipSpace before = ']' :: rest) :
    items (fuel + 1) depth cs = some ([d], rest) := by
  simp only [items, h, Option.bind_eq_bind, Option.bind_some, hclose]

theorem items_cons (h : value fuel depth cs = some (d, before)) (hcomma : skipSpace before = ',' :: after)
    (hmore : items fuel depth after = some (ds, rest)) : items (fuel + 1) depth cs = some (d :: ds, rest) := by
  simp only [items, h, Option.bind_eq_bind, Option.bind_some, hcomma, hmore]

theorem members_last (name : String) (h : value fuel depth cs = some (d, after))
    (hclose : skipSpace after = '}' :: rest) :
    Json.members (fuel + 1) depth ((quote name).toList ++ ':' :: cs) = some (some [(name, d)], rest) := by
  have hcolon : skipSpace (':' :: cs) = ':' :: cs := skipSpace_cons (by decide)
  rw [quote_append, Json.members, skipSpace_cons (by decide)]
  simp only [stringBody_quote, hcolon, h, hclose, Option.bind_eq_bind, Option.bind_some]

theorem members_cons (name : String) (h : value fuel depth cs = some (d, after))
    (hcomma : skipSpace after = ',' :: between)
    (hmore : Json.members fuel depth between = some (some members, rest)) :
    Json.members (fuel + 1) depth ((quote name).toList ++ ':' :: cs) =
      some (some ((name, d) :: members), rest) := by
  have hcolon : skipSpace (':' :: cs) = ':' :: cs := skipSpace_cons (by decide)
  rw [quote_append, Json.members, skipSpace_cons (by decide)]
  simp only [stringBody_quote, hcolon, h, hcomma, hmore, Option.bind_eq_bind, Option.bind_some]

/-! ## 3. Reading -/

/-- However a text goes on, this value is read from it. -/
def Reads (room : Nat) (d : Datum) (cs : List Char) : Prop :=
  ∀ fuel depth rest, cs.length ≤ fuel → room + depth ≤ maxDepth → Stops rest →
    value fuel depth (cs ++ rest) = some (d, rest)

/-- Items with commas between them are read one by one. -/
theorem items_intercalate {parts : List (Datum × List Char)} (hparts : parts ≠ []) (hbefore : Blank before)
    (hbetween : Blank between) (hafter : Blank after) (each : ∀ p ∈ parts, Reads room p.1 p.2)
    (hdepth : room + depth ≤ maxDepth)
    (hfuel : before.length + ((',' :: between).intercalate (parts.map (·.2))).length < fuel) :
    items fuel depth (before ++ ((',' :: between).intercalate (parts.map (·.2)) ++ (after ++ ']' :: rest))) =
      some (parts.map (·.1), rest) := by
  induction parts generalizing before fuel with
  | nil => exact absurd rfl hparts
  | cons p parts ih =>
    obtain ⟨fuel, rfl⟩ := Nat.exists_eq_succ_of_ne_zero (Nat.ne_of_gt (Nat.zero_lt_of_lt hfuel))
    have hvalue (more : List Char) (hmore : Stops more) (h : p.2.length ≤ fuel) :
        value fuel depth (before ++ (p.2 ++ more)) = some (p.1, more) := by
      rw [value_append hbefore]
      exact each p List.mem_cons_self fuel depth more h hdepth hmore
    cases parts with
    | nil =>
      rw [List.map_singleton, List.intercalate_singleton] at hfuel ⊢
      refine items_last (hvalue (after ++ ']' :: rest) (stops_append hafter (.inr (.inl rfl))) (by omega)) ?_
      rw [skipSpace_append hafter, skipSpace_cons (by decide)]
    | cons q parts =>
      simp only [List.map_cons, List.intercalate_cons_cons] at hfuel ih ⊢
      generalize (',' :: between).intercalate (q.2 :: parts.map (·.2)) = more at hfuel ih ⊢
      simp only [List.length_append, List.length_cons] at hfuel
      simp only [List.append_assoc, List.cons_append]
      refine items_cons (hvalue (',' :: (between ++ (more ++ (after ++ ']' :: rest)))) (stops_cons (.inl rfl))
        (by omega)) (skipSpace_cons (by decide)) ?_
      exact ih (List.cons_ne_nil _ _) hbetween (fun p hp => each p (List.mem_cons_of_mem _ hp)) (by omega)

/-- Members with commas between them are read one by one. -/
theorem members_intercalate {parts : List (String × Datum × List Char)} (hparts : parts ≠ [])
    (hbefore : Blank before) (hbetween : Blank between) (hafter : Blank after) (hgap : Blank gap)
    (each : ∀ p ∈ parts, Reads room p.2.1 p.2.2) (hdepth : room + depth ≤ maxDepth)
    (hfuel : before.length +
      ((',' :: between).intercalate (parts.map fun p => memberText gap p.1 p.2.2)).length < fuel) :
    Json.members fuel depth (before ++
      ((',' :: between).intercalate (parts.map fun p => memberText gap p.1 p.2.2) ++ (after ++ '}' :: rest))) =
      some (some (parts.map fun p => (p.1, p.2.1)), rest) := by
  induction parts generalizing before fuel with
  | nil => exact absurd rfl hparts
  | cons p parts ih =>
    obtain ⟨fuel, rfl⟩ := Nat.exists_eq_succ_of_ne_zero (Nat.ne_of_gt (Nat.zero_lt_of_lt hfuel))
    have hlength : p.2.2.length < (memberText gap p.1 p.2.2).length := by
      simp only [memberText, List.length_append, List.length_cons]
      omega
    have hvalue (more : List Char) (hmore : Stops more) (h : p.2.2.length ≤ fuel) :
        value fuel depth (gap ++ p.2.2 ++ more) = some (p.2.1, more) := by
      rw [List.append_assoc, value_append hgap]
      exact each p List.mem_cons_self fuel depth more h hdepth hmore
    cases parts with
    | nil =>
      rw [List.map_singleton, List.intercalate_singleton] at hfuel ⊢
      rw [members_append hbefore, memberText, List.append_assoc, List.cons_append]
      refine members_last p.1 (hvalue (after ++ '}' :: rest) ?_ (by omega)) ?_
      · exact stops_append hafter (.inr (.inr rfl))
      · rw [skipSpace_append hafter, skipSpace_cons (by decide)]
    | cons q parts =>
      simp only [List.map_cons, List.intercalate_cons_cons] at hfuel ih ⊢
      generalize (',' :: between).intercalate
        (memberText gap q.1 q.2.2 :: parts.map fun p => memberText gap p.1 p.2.2) = more at hfuel ih ⊢
      simp only [List.length_append, List.length_cons] at hfuel
      rw [members_append hbefore, memberText]
      simp only [List.append_assoc, List.cons_append]
      rw [← List.append_assoc gap]
      refine members_cons p.1 (hvalue (',' :: (between ++ (more ++ (after ++ '}' :: rest)))) ?_ (by omega))
        (skipSpace_cons (by decide)) ?_
      · exact stops_cons (.inl rfl)
      · exact ih (List.cons_ne_nil _ _) hbetween (fun p hp => each p (List.mem_cons_of_mem _ hp)) (by omega)

/-- After the blanks at the start comes the first text. -/
theorem skipSpace_intercalate {text : List Char} (hbefore : Blank before) (htext : text = c :: cs)
    (hspace : isSpace c = false) (sep : List Char) (texts : List (List Char)) (tail : List Char) :
    skipSpace (before ++ (sep.intercalate (text :: texts) ++ tail)) = sep.intercalate (text :: texts) ++ tail ∧
      (sep.intercalate (text :: texts) ++ tail).head? = some c := by
  obtain ⟨more, hmore⟩ : ∃ more, sep.intercalate (text :: texts) = text ++ more := by
    cases texts with
    | nil => exact ⟨[], by rw [List.intercalate_singleton, List.append_nil]⟩
    | cons next texts => exact ⟨_, by rw [List.intercalate_cons_cons, List.append_assoc]⟩
  rw [skipSpace_append hbefore, hmore, htext, List.cons_append, List.cons_append, skipSpace_cons hspace]
  exact ⟨rfl, rfl⟩

/-- **A spelling is read as its value.** -/
theorem Spelled.reads (h : Spelled room d cs) : Reads room d cs := by
  induction h with
  | @scalar room d h =>
    intro fuel depth rest hfuel _ hrest
    obtain ⟨c, cs, hcs, -⟩ := scalar_eq_cons h
    obtain ⟨fuel, rfl⟩ : ∃ n, fuel = n + 1 := ⟨fuel - 1, by rw [hcs, List.length_cons] at hfuel; omega⟩
    exact value_scalar h hrest
  | @array room parts before between after hbefore hbetween hafter each ih =>
    intro fuel depth rest hfuel hdepth _
    simp only [bracketed, List.length_cons, List.length_append, List.length_nil] at hfuel
    obtain ⟨fuel, rfl⟩ : ∃ n, fuel = n + 1 := ⟨fuel - 1, by omega⟩
    simp only [bracketed, List.cons_append, List.append_assoc, List.nil_append]
    cases parts with
    | nil =>
      refine value_array_nil ?_ (by omega)
      rw [skipSpace_append hbefore, List.map_nil, List.intercalate_nil, List.nil_append, skipSpace_append hafter,
        skipSpace_cons (by decide)]
    | cons p parts =>
      obtain ⟨c, cs, hcs, hspace, hclose⟩ := (each p List.mem_cons_self).opens
      obtain ⟨hskip, hhead⟩ := skipSpace_intercalate hbefore hcs hspace (',' :: between) (parts.map (·.2))
        (after ++ ']' :: rest)
      refine value_array (fun cs' heq => ?_) ?_ (by omega)
      · rw [List.map_cons, hskip] at heq
        rw [heq] at hhead
        exact hclose (Option.some.inj hhead).symm
      · rw [List.map_cons, hskip]
        show items fuel (depth + 1)
          ([] ++ ((',' :: between).intercalate ((p :: parts).map (·.2)) ++ (after ++ ']' :: rest))) = _
        exact items_intercalate (List.cons_ne_nil _ _) nofun hbetween hafter ih (by omega)
          (by simp only [List.length_nil]; omega)
  | @object room parts before between after gap hbefore hbetween hafter hgap each ih =>
    intro fuel depth rest hfuel hdepth _
    simp only [bracketed, List.length_cons, List.length_append, List.length_nil] at hfuel
    obtain ⟨fuel, rfl⟩ : ∃ n, fuel = n + 1 := ⟨fuel - 1, by omega⟩
    simp only [bracketed, List.cons_append, List.append_assoc, List.nil_append]
    cases parts with
    | nil =>
      refine value_object_nil ?_ (by omega)
      rw [skipSpace_append hbefore, List.map_nil, List.intercalate_nil, List.nil_append, skipSpace_append hafter,
        skipSpace_cons (by decide)]
    | cons p parts =>
      have htext : memberText gap p.1 p.2.2 = '"' :: (escaped p.1.toList ++ '"' :: ':' :: (gap ++ p.2.2)) :=
        quote_append _ _
      obtain ⟨hskip, hhead⟩ := skipSpace_intercalate hbefore htext (by decide) (',' :: between)
        (parts.map fun p => memberText gap p.1 p.2.2) (after ++ '}' :: rest)
      refine value_object (fun cs' heq => ?_) ?_ (by omega)
      · rw [List.map_cons, hskip] at heq
        rw [heq] at hhead
        cases hhead
      · rw [List.map_cons, hskip]
        show Json.members fuel (depth + 1) ([] ++ ((',' :: between).intercalate
          ((p :: parts).map fun p => memberText gap p.1 p.2.2) ++ (after ++ '}' :: rest))) = _
        exact members_intercalate (List.cons_ne_nil _ _) nofun hbetween hafter hgap ih (by omega)
          (by simp only [List.length_nil]; omega)

/-- **A spelling is parsed as its value.** -/
theorem parse_of_spelled {text : String} (h : Spelled room d text.toList) (hroom : room ≤ maxDepth) :
    parse text = some d := by
  have hread : value (2 * text.toList.length + 2) 0 (text.toList ++ []) = some (d, []) :=
    h.reads _ 0 [] (by omega) hroom nofun
  rw [List.append_nil] at hread
  rw [parse]
  show (value (2 * text.toList.length + 2) 0 text.toList).bind _ = _
  rw [hread]
  rfl

/-! ## 4. Both layouts -/

/-- A value of scalars, with no more than `room` containers in one another. -/
inductive Fits : Nat → Datum → Prop
  | scalar {room : Nat} {d : Datum} (h : Scalar d) : Fits room d
  | array {room : Nat} {ds : List Datum} (each : ∀ d ∈ ds, Fits room d) : Fits (room + 1) (.array ds)
  | object {room : Nat} {members : List (String × Datum)} (each : ∀ m ∈ members, Fits room m.2) :
      Fits (room + 1) (.object members)

theorem compactItems_eq (ds : List Datum) : compactItems ds = ds.map compact := by
  induction ds with
  | nil => rfl
  | cons d ds ih => rw [compactItems, ih, List.map_cons]

theorem compactMembers_eq (members : List (String × Datum)) :
    compactMembers members = members.map fun m => quote m.1 ++ ":" ++ compact m.2 := by
  induction members with
  | nil => rfl
  | cons m members ih => rw [compactMembers, ih, List.map_cons]

theorem prettyItems_eq (level : Nat) (ds : List Datum) : prettyItems level ds = ds.map (prettyAt level) := by
  induction ds with
  | nil => rfl
  | cons d ds ih => rw [prettyItems, ih, List.map_cons]

theorem prettyMembers_eq (level : Nat) (members : List (String × Datum)) :
    prettyMembers level members = members.map fun m => quote m.1 ++ ": " ++ prettyAt level m.2 := by
  induction members with
  | nil => rfl
  | cons m members ih => rw [prettyMembers, ih, List.map_cons]

theorem compact_scalar (h : Scalar d) : compact d = scalar d := by cases h <;> rfl

theorem prettyAt_scalar (level : Nat) (h : Scalar d) : prettyAt level d = scalar d := by cases h <;> rfl

theorem toList_compact_array (ds : List Datum) : (compact (.array ds)).toList =
    bracketed '[' ']' [] [] [] (ds.map fun d => (compact d).toList) := by
  rw [compact, compactItems_eq, String.toList_append, String.toList_append, String.toList_intercalate,
    List.map_map]
  rfl

theorem toList_compact_object (members : List (String × Datum)) : (compact (.object members)).toList =
    bracketed '{' '}' [] [] [] (members.map fun m => memberText [] m.1 (compact m.2).toList) := by
  have hmember (m : String × Datum) :
      (quote m.1 ++ ":" ++ compact m.2).toList = memberText [] m.1 (compact m.2).toList := by
    rw [String.toList_append, String.toList_append, List.append_assoc]
    rfl
  rw [compact, compactMembers_eq, String.toList_append, String.toList_append, String.toList_intercalate,
    List.map_map]
  simp only [Function.comp_def, hmember]
  rfl

/-- Items that are all written in one way make the text of an array. -/
theorem Spelled.array_map (text : Datum → List Char) (hbefore : Blank before) (hbetween : Blank between)
    (hafter : Blank after) (each : ∀ d ∈ ds, Spelled room d (text d)) :
    Spelled (room + 1) (.array ds) (bracketed '[' ']' before between after (ds.map text)) := by
  have hparts : Spelled (room + 1) (.array ((ds.map fun d => (d, text d)).map (·.1)))
      (bracketed '[' ']' before between after ((ds.map fun d => (d, text d)).map (·.2))) :=
    .array hbefore hbetween hafter (List.forall_mem_map.mpr each)
  rw [List.map_map, List.map_map] at hparts
  simpa only [Function.comp_def, List.map_id'] using hparts

/-- Members whose values are all written in one way make the text of an object. -/
theorem Spelled.object_map (text : Datum → List Char) (hbefore : Blank before) (hbetween : Blank between)
    (hafter : Blank after) (hgap : Blank gap) (each : ∀ m ∈ members, Spelled room m.2 (text m.2)) :
    Spelled (room + 1) (.object members)
      (bracketed '{' '}' before between after (members.map fun m => memberText gap m.1 (text m.2))) := by
  let parts := members.map fun m => (m.1, m.2, text m.2)
  have hparts : Spelled (room + 1) (.object (parts.map fun p => (p.1, p.2.1)))
      (bracketed '{' '}' before between after (parts.map fun p => memberText gap p.1 p.2.2)) :=
    .object hbefore hbetween hafter hgap (List.forall_mem_map.mpr each)
  rw [List.map_map, List.map_map] at hparts
  simpa only [Function.comp_def, List.map_id'] using hparts

/-- **Values without blanks are spellings.** -/
theorem Fits.spelled_compact (h : Fits room d) : Spelled room d (compact d).toList := by
  induction h with
  | scalar h =>
    rw [compact_scalar h]
    exact .scalar h
  | array _ ih =>
    rw [toList_compact_array]
    exact .array_map (fun d => (compact d).toList) nofun nofun nofun ih
  | object _ ih =>
    rw [toList_compact_object]
    exact .object_map (fun d => (compact d).toList) nofun nofun nofun nofun ih

theorem blank_indent (level : Nat) : Blank ('\n' :: (indent level).toList) := by
  intro c hc
  rw [indent, String.toList_ofList] at hc
  rcases List.mem_cons.mp hc with rfl | hspace
  · rfl
  · rw [List.eq_of_mem_replicate hspace]
    rfl

theorem intercalate_indented (sep start : List Char) {texts : List (List Char)} (h : texts ≠ []) :
    sep.intercalate (texts.map (start ++ ·)) = start ++ (sep ++ start).intercalate texts := by
  induction texts with
  | nil => exact absurd rfl h
  | cons text texts ih =>
    cases texts with
    | nil => simp only [List.map_singleton, List.intercalate_singleton]
    | cons next texts =>
      have hmore := ih (List.cons_ne_nil _ _)
      simp only [List.map_cons, List.intercalate_cons_cons] at hmore ⊢
      rw [hmore]
      simp only [List.append_assoc]

/-- Lines between brackets are texts with commas between them. -/
theorem exists_block (left right : Char) (level : Nat) (parts : List String) :
    ∃ before between after, Blank before ∧ Blank between ∧ Blank after ∧
      (block (String.singleton left) (String.singleton right) level parts).toList =
        bracketed left right before between after (parts.map String.toList) := by
  cases parts with
  | nil => exact ⟨[], [], [], nofun, nofun, nofun, by simp [block, bracketed]⟩
  | cons part parts =>
    refine ⟨'\n' :: (indent (level + 1)).toList, '\n' :: (indent (level + 1)).toList,
      '\n' :: (indent level).toList, blank_indent _, blank_indent _, blank_indent _, ?_⟩
    have hlines : (",\n".intercalate ((part :: parts).map (indent (level + 1) ++ ·))).toList =
        (indent (level + 1)).toList ++ (',' :: '\n' :: (indent (level + 1)).toList).intercalate
          ((part :: parts).map String.toList) := by
      have hsep := intercalate_indented [',', '\n'] (indent (level + 1)).toList
        (List.cons_ne_nil part.toList (parts.map String.toList))
      rw [String.toList_intercalate, List.map_map]
      simp only [List.map_cons, List.map_map, Function.comp_def, String.toList_append] at hsep ⊢
      exact hsep
    simp only [block, List.isEmpty_cons, Bool.false_eq_true, if_false, String.toList_append, hlines, bracketed,
      List.append_assoc, String.toList_singleton, List.cons_append, List.nil_append]
    rfl

/-- **Values over several lines are spellings.** -/
theorem Fits.spelled_prettyAt (h : Fits room d) (level : Nat) : Spelled room d (prettyAt level d).toList := by
  induction h generalizing level with
  | scalar h =>
    rw [prettyAt_scalar level h]
    exact .scalar h
  | @array room ds _ ih =>
    obtain ⟨before, between, after, hbefore, hbetween, hafter, htext⟩ :=
      exists_block '[' ']' level (prettyItems (level + 1) ds)
    have harray : (prettyAt level (.array ds)).toList = _ := htext
    rw [harray, prettyItems_eq, List.map_map]
    exact .array_map (fun d => (prettyAt (level + 1) d).toList) hbefore hbetween hafter
      fun d hd => ih d hd (level + 1)
  | @object room members _ ih =>
    obtain ⟨before, between, after, hbefore, hbetween, hafter, htext⟩ :=
      exists_block '{' '}' level (prettyMembers (level + 1) members)
    have hobject : (prettyAt level (.object members)).toList = _ := htext
    have hmember (m : String × Datum) : (quote m.1 ++ ": " ++ prettyAt (level + 1) m.2).toList =
        memberText [' '] m.1 (prettyAt (level + 1) m.2).toList := by
      rw [String.toList_append, String.toList_append, List.append_assoc]
      rfl
    rw [hobject, prettyMembers_eq, List.map_map]
    simp only [Function.comp_def, hmember]
    exact .object_map (fun d => (prettyAt (level + 1) d).toList) hbefore hbetween hafter
      (by simp [Blank, isSpace]) fun m hm => ih m hm (level + 1)

/-- **What is printed without blanks is read again.** -/
theorem parse_compact (h : Fits room d) (hroom : room ≤ maxDepth) : parse (compact d) = some d :=
  parse_of_spelled h.spelled_compact hroom

/-- **What is printed over several lines is read again.** -/
theorem parse_pretty (h : Fits room d) (hroom : room ≤ maxDepth) : parse (pretty d) = some d :=
  parse_of_spelled (h.spelled_prettyAt 0) hroom

end Json
end ClusterTriage
