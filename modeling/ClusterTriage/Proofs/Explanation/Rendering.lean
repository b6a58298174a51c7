import ClusterTriage.Explanation.Template
import ClusterTriage.Proofs.Text.Substitution

/-!
# Filling in templates in one pass

`Templates.fill` goes over a template twice: it puts in the language, and then it puts the failures
into what came of that. The second time it reads a text that nobody wrote as a template. A language
could contain a mark, or complete one (between `{fai` and `es}` the language `lur` does), and the failures
would be put in where no template asked for them.

What is meant is said here without any order: a template is read once, from left to right, as a list of
`tokens`, and every token has its value.

> **Filling in is reading once** (`fill_eq_expand`), for any language that has no brace and is no part
> of the word between the braces.

The failures are inserted last and never read at all, so nothing is asked of them. They come from the
cluster and may hold braces and marks of their own.
-/

namespace ClusterTriage
namespace Templates

variable {s t : List Char} {c : Char}

/-! ## 1. Marks -/

/-- What may stand in a template for something else. -/
inductive Mark where
  | language
  | failures
deriving DecidableEq

namespace Mark

def text : Mark → String
  | .language => languageMark
  | .failures => failuresMark

/-- The mark as it is written, character by character. -/
abbrev chars (m : Mark) : List Char := m.text.toList

variable {m m' : Mark}

/-- A mark begins with a brace, and has no other of that kind. -/
theorem exists_body (m : Mark) : ∃ body, m.chars = '\x7b' :: body ∧ '\x7b' ∉ body := by
  cases m with
  | language => exact ⟨"language\x7d".toList, by decide, by decide⟩
  | failures => exact ⟨"failures\x7d".toList, by decide, by decide⟩

theorem chars_ne_nil (m : Mark) : m.chars ≠ [] := by
  obtain ⟨body, hbody, -⟩ := m.exists_body
  rw [hbody]
  exact List.cons_ne_nil _ _

/-- At most one mark stands at a place. -/
theorem eq_of_starts (h : m.chars <+: s) (h' : m'.chars <+: s) : m = m' := by
  have hcomparable := List.prefix_or_prefix_of_prefix h h'
  cases m with
  | language =>
    cases m' with
    | language => rfl
    | failures => exact absurd hcomparable (by decide)
  | failures =>
    cases m' with
    | language => exact absurd hcomparable (by decide)
    | failures => rfl

/-- A mark does not run into a mark that stands further on. -/
theorem starts_cons_append_iff : m.chars <+: c :: (s ++ (m'.chars ++ t)) ↔ m.chars <+: c :: s := by
  obtain ⟨body, hbody, hbrace⟩ := m.exists_body
  obtain ⟨body', hbody', -⟩ := m'.exists_body
  rw [hbody, hbody', List.cons_append, List.cons_prefix_cons, List.cons_prefix_cons,
    Text.starts_append_cons_iff hbrace]

end Mark

/-! ## 2. Reading -/

/-- What stands at a place of a template. -/
inductive Token where
  | mark (m : Mark)
  | copied (c : Char)
deriving DecidableEq

variable {m : Mark} {ts : List Token}

/-- The mark that a text begins with, if it begins with one. -/
def mark? (s : List Char) : Option Mark :=
  [Mark.language, Mark.failures].find? (·.chars.isPrefixOf s)

/-- A template read from left to right. -/
def tokens : List Char → List Token
  | [] => []
  | c :: cs =>
    match mark? (c :: cs) with
    | some m => .mark m :: tokens (cs.drop (m.chars.length - 1))
    | none => .copied c :: tokens cs
termination_by s => s.length
decreasing_by all_goals simp only [List.length_cons, List.length_drop]; omega

/-- The two ways to go on reading: past a mark, or past a character at which there is none. -/
inductive Reading : List Char → List Token → Prop
  | nil : Reading [] []
  | mark (m : Mark) {s : List Char} {ts : List Token} (h : Reading s ts) :
      Reading (m.chars ++ s) (.mark m :: ts)
  | copied {c : Char} {s : List Char} {ts : List Token} (hno : ∀ m : Mark, ¬ m.chars <+: c :: s)
      (h : Reading s ts) : Reading (c :: s) (.copied c :: ts)

theorem mark?_eq_some : mark? s = some m ↔ m.chars <+: s := by
  constructor
  · intro h
    exact List.isPrefixOf_iff_prefix.mp
      (List.find?_some (p := fun m : Mark => m.chars.isPrefixOf s) h)
  · intro h
    cases hfound : mark? s with
    | none =>
      have hnone := List.find?_eq_none.mp hfound m (by cases m <;> decide)
      exact absurd (List.isPrefixOf_iff_prefix.mpr h) hnone
    | some m' =>
      have hstarts := List.find?_some (p := fun m : Mark => m.chars.isPrefixOf s) hfound
      rw [Mark.eq_of_starts h (List.isPrefixOf_iff_prefix.mp hstarts)]

theorem mark?_eq_none : mark? s = none ↔ ∀ m : Mark, ¬ m.chars <+: s := by
  simp only [Option.eq_none_iff_forall_ne_some, ne_eq, mark?_eq_some]

theorem tokens_mark (m : Mark) (s : List Char) : tokens (m.chars ++ s) = .mark m :: tokens s := by
  obtain ⟨body, hbody, -⟩ := m.exists_body
  have hfound : mark? ('\x7b' :: (body ++ s)) = some m := by
    rw [mark?_eq_some, hbody]
    exact List.prefix_append ('\x7b' :: body) s
  rw [hbody, List.cons_append, tokens, hfound]
  simp [hbody]

theorem tokens_copied (hno : ∀ m : Mark, ¬ m.chars <+: c :: s) :
    tokens (c :: s) = .copied c :: tokens s := by
  rw [tokens, mark?_eq_none.mpr hno]

theorem reading_tokens (s : List Char) : Reading s (tokens s) := by
  induction s using tokens.induct with
  | case1 => rw [tokens]; exact .nil
  | case2 c cs m hfound ih =>
    obtain ⟨rest, hrest⟩ := mark?_eq_some.mp hfound
    obtain ⟨body, hbody, -⟩ := m.exists_body
    have hdrop : cs.drop (m.chars.length - 1) = rest := by
      rw [hbody, List.cons_append] at hrest
      rw [← (List.cons.inj hrest).2, hbody, List.length_cons, Nat.add_sub_cancel, List.drop_left]
    rw [← hrest, tokens_mark]
    exact .mark m (hdrop ▸ ih)
  | case3 c cs hnone ih =>
    have hno := mark?_eq_none.mp hnone
    rw [tokens_copied hno]
    exact .copied hno ih

/-- A template can be read in one way only. -/
theorem Reading.eq_tokens (h : Reading s ts) : ts = tokens s := by
  induction h with
  | nil => rw [tokens]
  | mark m _ ih => rw [tokens_mark, ih]
  | copied hno _ ih => rw [tokens_copied hno, ih]

/-- **Every mark of a template is read**, wherever it stands. -/
theorem Reading.append_mark (h : Reading s ts) (m : Mark) (t : List Char) :
    Reading (s ++ (m.chars ++ t)) (ts ++ .mark m :: tokens t) := by
  induction h with
  | nil => exact .mark m (reading_tokens t)
  | mark m' _ ih =>
    rw [List.append_assoc]
    exact .mark m' ih
  | copied hno _ ih => exact .copied (fun m' hm' => hno m' (Mark.starts_cons_append_iff.mp hm')) ih

theorem tokens_append_mark (s : List Char) (m : Mark) (t : List Char) :
    tokens (s ++ (m.chars ++ t)) = tokens s ++ .mark m :: tokens t :=
  ((reading_tokens s).append_mark m t).eq_tokens.symm

/-- The number of places at which a mark stands. -/
def places (m : Mark) (s : List Char) : Nat := s.tails.countP fun u => m.chars.isPrefixOf u

theorem places_cons (m : Mark) (c : Char) (s : List Char) :
    places m (c :: s) = places m s + if m.chars.isPrefixOf (c :: s) then 1 else 0 := by
  rw [places, List.tails_cons, List.countP_cons, places]

/-- No mark begins where there is no brace. -/
theorem places_append_of_no_brace (h : '\x7b' ∉ s) : places m (s ++ t) = places m t := by
  induction s with
  | nil => rfl
  | cons c s ih =>
    have hno : ¬ m.chars.isPrefixOf (c :: (s ++ t)) = true := by
      obtain ⟨body, hbody, -⟩ := m.exists_body
      rw [hbody, List.isPrefixOf_iff_prefix, List.cons_prefix_cons]
      exact fun hstarts => List.ne_of_not_mem_cons h hstarts.1
    rw [List.cons_append, places_cons, if_neg hno, Nat.add_zero,
      ih (List.not_mem_of_not_mem_cons h)]

/-- **A mark is read as often as it stands in the template.** -/
theorem Reading.count (h : Reading s ts) (m : Mark) : ts.count (.mark m) = places m s := by
  induction h with
  | nil =>
    obtain ⟨body, hbody, -⟩ := m.exists_body
    rw [places, hbody]
    rfl
  | @mark m' s ts _ ih =>
    obtain ⟨body, hbody, hbrace⟩ := m'.exists_body
    have hhere : m.chars.isPrefixOf ('\x7b' :: (body ++ s)) = true ↔ Token.mark m' = .mark m := by
      have hstarts : m'.chars <+: '\x7b' :: (body ++ s) := ⟨s, by rw [hbody, List.cons_append]⟩
      rw [List.isPrefixOf_iff_prefix, Token.mark.injEq]
      exact ⟨Mark.eq_of_starts hstarts, fun hsame => hsame ▸ hstarts⟩
    rw [hbody, List.cons_append, places_cons, places_append_of_no_brace hbrace, List.count_cons, ih]
    simp only [beq_iff_eq, hhere]
  | copied hno _ ih =>
    rw [List.count_cons_of_ne (by simp), ih, places_cons,
      if_neg (mt List.isPrefixOf_iff_prefix.mp (hno m)), Nat.add_zero]

/-! ## 3. Filling in -/

/-- What a mark stands for. -/
def Mark.value (language failures : String) : Mark → String
  | .language => language
  | .failures => failures

/-- What a token stands for. -/
def Token.value (language failures : String) : Token → List Char
  | .mark m => (m.value language failures).toList
  | .copied c => [c]

/-- A template in one pass: every token is replaced by its value. -/
def expand (template language failures : String) : String :=
  .ofList ((tokens template.toList).flatMap (Token.value language failures))

variable {language failures : String}

/-- **Filling in the failures last is filling in both at once.** -/
theorem Reading.replaceAll_replaceAll (h : Reading s ts) (hopen : '\x7b' ∉ language.toList)
    (hclose : '\x7d' ∉ language.toList) (hfit : ¬ language.toList <:+: "failures".toList) :
    Text.replaceAll Mark.failures.chars failures.toList
        (Text.replaceAll Mark.language.chars language.toList s) =
      ts.flatMap (Token.value language failures) := by
  have hmark : Mark.failures.chars = '\x7b' :: ("failures".toList ++ ['\x7d']) := by decide
  induction h with
  | nil => rw [Text.replaceAll_nil, Text.replaceAll_nil]; rfl
  | @mark m s ts _ ih =>
    cases m with
    | language =>
      -- a mark that begins in the language would begin with a brace
      have hno : ¬ Text.RunsInto language.toList Mark.failures.chars := fun hruns =>
        hopen (hmark ▸ hruns).head_mem
      rw [Text.replaceAll_append_of_occurrence Mark.language.chars_ne_nil,
        Text.replaceAll_append_of_not_runsInto hno, ih]
      rfl
    | failures =>
      have hno : ¬ Text.RunsInto Mark.failures.chars Mark.language.chars := by decide
      rw [Text.replaceAll_append_of_not_runsInto hno,
        Text.replaceAll_append_of_occurrence Mark.failures.chars_ne_nil, ih]
      rfl
  | @copied c s ts hno _ ih =>
    -- what follows the character may have changed, but not into the rest of a mark
    have hstill : ¬ Mark.failures.chars <+:
        c :: Text.replaceAll Mark.language.chars language.toList s := by
      rw [hmark, List.cons_prefix_cons]
      rintro ⟨rfl, hrest⟩
      refine hno .failures ?_
      rw [hmark, List.cons_prefix_cons]
      exact ⟨rfl, (Text.replaced_replaceAll Mark.language.chars_ne_nil s).closed_starts hclose hfit
        List.suffix_rfl hrest⟩
    rw [Text.replaceAll_cons_of_no_occurrence (hno .language),
      Text.replaceAll_cons_of_no_occurrence hstill, ih]
    rfl

/-! ## 4. Prompts -/

theorem expand_append_mark (before : String) (m : Mark) (after language failures : String) :
    expand (before ++ m.text ++ after) language failures =
      expand before language failures ++ m.value language failures ++
        expand after language failures := by
  rw [← String.toList_inj]
  simp only [expand, String.toList_append, String.toList_ofList, List.append_assoc]
  rw [tokens_append_mark, List.flatMap_append, List.flatMap_cons]
  rfl

theorem fill_eq_expand (template failures : String) (hopen : '\x7b' ∉ language.toList)
    (hclose : '\x7d' ∉ language.toList) (hfit : ¬ language.toList <:+: "failures".toList) :
    fill template language failures = expand template language failures := by
  rw [← String.toList_inj, fill, Text.toList_replaceString, Text.toList_replaceString, expand,
    String.toList_ofList]
  exact (reading_tokens template.toList).replaceAll_replaceAll hopen hclose hfit

/-- **A prompt is its template, filled in by one pass.** With a language that has no brace and is no
part of the word between the braces, the prompt for any failures is the template of the kind in which
every mark is replaced by what it stands for and everything else is copied. Wherever a mark stands in
the template, its value stands in the prompt as it is, between what comes of the template before it and
after it; and there are as many such marks as there are places where the mark is written. -/
theorem rendering_is_one_pass (t : Templates) (kind language failures : String)
    (hbraces : '\x7b' ∉ language.toList ∧ '\x7d' ∉ language.toList)
    (hfit : ¬ language.toList <:+: "failures".toList) :
    t.render kind language failures = expand (t.template kind) language failures ∧
    (∀ (m : Mark) before after, t.template kind = before ++ m.text ++ after →
      t.render kind language failures =
        expand before language failures ++ m.value language failures ++
          expand after language failures) ∧
    ∀ m, (tokens (t.template kind).toList).count (.mark m) = places m (t.template kind).toList := by
  have hrender : t.render kind language failures = expand (t.template kind) language failures :=
    fill_eq_expand (t.template kind) failures hbraces.1 hbraces.2 hfit
  refine ⟨hrender, fun m before after htemplate => ?_, fun m => (reading_tokens _).count m⟩
  rw [hrender, htemplate, expand_append_mark]

/-- A prompt in German for a failure that looks like a template. -/
theorem rendering_of_marks_is_one_pass :
    let t := standard.insert "Pod" "\x7blanguage\x7d: \x7b\x7bfailures\x7d\x7d"
    let failures := "no image \x7blanguage\x7d\x7bfailures\x7d"
    ('\x7b' ∉ "german".toList ∧ '\x7d' ∉ "german".toList) ∧
    ¬ "german".toList <:+: "failures".toList ∧
    t.render "Pod" "german" failures = expand (t.template "Pod") "german" failures ∧
    t.render "Pod" "german" failures =
      expand "\x7blanguage\x7d: \x7b" "german" failures ++ failures ++
        expand "\x7d" "german" failures := by
  intro t failures
  have hbraces : '\x7b' ∉ "german".toList ∧ '\x7d' ∉ "german".toList := by decide
  have hfit : ¬ "german".toList <:+: "failures".toList := by decide
  obtain ⟨hrender, hmarks, -⟩ := rendering_is_one_pass t "Pod" "german" failures hbraces hfit
  exact ⟨hbraces, hfit, hrender, hmarks .failures "\x7blanguage\x7d: \x7b" "\x7d" (by decide)⟩

/-- A language that fits into the word completes a mark that no template has. -/
example : fill "\x7bfai\x7blanguage\x7des\x7d" "lur" "no image" = "no image" := by decide

end Templates
end ClusterTriage
