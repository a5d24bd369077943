import DocFilter.Proofs.Pattern.Matching

/-!
# Wildcard patterns in place of regular expressions

A plain regular expression is a sequence of characters, escaped where they would mean
something, and of `.`, `.*` and `.+`, between an optional `^` and an optional `$`.  On these
the wildcard pattern that stands in for a regular expression is no approximation: a text holds
a match of the expression exactly when the whole of it matches the pattern, in each of the
pattern languages (`PlainRegex.accepts_ofRegex`).

Two things could go wrong in between.  The anchors are looked for at the ends of the text, where
a `$` may be the second half of an escape; the backslashes in front of it decide, and their
number is even exactly behind a complete item (`PlainRegex.endsInEscape_chars`).  And a run
directly behind a run is dropped, which changes nothing because a run of runs is a run.
-/

namespace DocFilter

open scoped Computability

/-- The characters that mean something in a regular expression. -/
def Regex.isMeta (c : Char) : Bool :=
  ['\\', '^', '$', '.', '|', '?', '*', '+', '(', ')', '[', ']', '\x7b', '\x7d'].contains c

namespace PlainRegex

/-- A piece of a plain regular expression. -/
inductive Item where
  /-- A character that stands for itself. -/
  | plain (c : Char) (h : Regex.isMeta c = false)
  /-- A character behind a backslash. -/
  | escaped (c : Char) (h : Regex.isMeta c = true)
  /-- `.` -/
  | any
  /-- `.*` -/
  | anyRun
  /-- `.+` -/
  | anySome

namespace Item

/-- A piece as it is written. -/
def chars : Item → List Char
  | plain c _ => [c]
  | escaped c _ => ['\\', c]
  | any => ['.']
  | anyRun => ['.', '*']
  | anySome => ['.', '+']

/-- The texts a piece matches; the dot matches every character. -/
def meaning : Item → Language Char
  | plain c _ | escaped c _ => {[c]}
  | any => Element.anyOne
  | anyRun => Element.anyOne∗
  | anySome => Element.anyOne * Element.anyOne∗

/-- The wildcards that stand in for a piece. -/
def wildcards : Item → List Wildcard
  | plain c _ | escaped c _ => [.literal c]
  | any => [.one]
  | anyRun => [.run]
  | anySome => [.one, .run]

end Item

end PlainRegex

/-- A plain regular expression. -/
structure PlainRegex where
  anchoredStart : Bool
  items : List PlainRegex.Item
  anchoredEnd : Bool

namespace PlainRegex

/-- Pieces as they are written, one after the other. -/
def chars (items : List Item) : List Char := items.flatMap Item.chars

/-- A plain regular expression as it is written. -/
def text (r : PlainRegex) : String :=
  String.ofList ((if r.anchoredStart then ['^'] else []) ++ chars r.items ++
    (if r.anchoredEnd then ['$'] else []))

/-- The texts that pieces match, one after the other. -/
def denote (items : List Item) : Language Char := (items.map Item.meaning).prod

/-- A text holds a match: at its beginning and up to its end where the expression is anchored
there, and anywhere in it otherwise. -/
def FoundIn (r : PlainRegex) (s : String) : Prop :=
  ∃ before found after, s.toList = before ++ found ++ after ∧ found ∈ denote r.items ∧
    (r.anchoredStart = true → before = []) ∧ (r.anchoredEnd = true → after = [])

/-! ## Reading the pieces -/

theorem chars_cons (item : Item) (items : List Item) :
    chars (item :: items) = item.chars ++ chars items := List.flatMap_cons

/-- Pieces begin with none of the signs that would change the meaning of what stands in front
of them. -/
theorem head_chars {items : List Item} {c : Char} (h : c ∈ (chars items).head?) :
    Regex.isMeta c = false ∨ c = '\\' ∨ c = '.' := by
  cases items with
  | nil => cases h
  | cons item items =>
    rw [chars_cons] at h
    cases item with
    | plain d hd =>
      obtain rfl : d = c := Option.some.inj h
      exact .inl hd
    | escaped d hd => exact .inr (.inl (Option.some.inj h).symm)
    | any | anyRun | anySome => exact .inr (.inr (Option.some.inj h).symm)

theorem ofBody_plain {c : Char} (h : Regex.isMeta c = false) (rest : List Char) :
    Wildcard.ofBody (c :: rest) = .literal c :: Wildcard.ofBody rest := by
  have hbackslash : c ≠ '\\' := by rintro rfl; exact absurd h (by decide)
  have hdot : c ≠ '.' := by rintro rfl; exact absurd h (by decide)
  rw [Wildcard.ofBody]
  · exact fun hc => absurd hc hbackslash
  · exact fun _ _ hc => absurd hc hbackslash
  · exact fun _ hc => absurd hc hdot
  · exact fun _ hc => absurd hc hdot
  · exact hdot

theorem ofBody_dot {rest : List Char} (h : ∀ c ∈ rest.head?, c ≠ '*' ∧ c ≠ '+') :
    Wildcard.ofBody ('.' :: rest) = .one :: Wildcard.ofBody rest := by
  rw [Wildcard.ofBody]
  · rintro rest rfl
    exact (h '*' rfl).1 rfl
  · rintro rest rfl
    exact (h '+' rfl).2 rfl

/-- Pieces are read one by one. -/
theorem ofBody_chars (items : List Item) :
    Wildcard.ofBody (chars items) = items.flatMap Item.wildcards := by
  induction items with
  | nil => rfl
  | cons item items ih =>
    rw [chars_cons, List.flatMap_cons, ← ih]
    cases item with
    | plain c hc => exact ofBody_plain hc (chars items)
    | any =>
      refine ofBody_dot fun c hc => ⟨?_, ?_⟩ <;>
      · rintro rfl
        exact absurd (head_chars hc) (by decide)
    | escaped | anyRun | anySome => rfl

/-! ## Anchors -/

/-- A backslash at the end changes whether the end escapes; any other sign there does not
escape. -/
theorem endsInEscape_concat (cs : List Char) (c : Char) :
    Wildcard.endsInEscape (cs ++ [c]) = (c == '\\' && !Wildcard.endsInEscape cs) := by
  simp only [Wildcard.endsInEscape, List.reverse_append, List.reverse_singleton,
    List.singleton_append, List.takeWhile_cons]
  cases hc : c == '\\' with
  | false => rfl
  | true =>
    rw [if_pos rfl, List.length_cons, Bool.true_and, Bool.eq_iff_iff, Bool.not_eq_true',
      beq_iff_eq, beq_eq_false_iff_ne]
    omega

theorem endsInEscape_item {cs : List Char} (h : Wildcard.endsInEscape cs = false)
    (item : Item) : Wildcard.endsInEscape (cs ++ item.chars) = false := by
  cases item with
  | plain c hc =>
    have hbackslash : (c == '\\') = false := by
      rw [beq_eq_false_iff_ne]
      rintro rfl
      exact absurd hc (by decide)
    rw [Item.chars, endsInEscape_concat, hbackslash, Bool.false_and]
  | escaped c _ =>
    -- The backslash of the piece escapes, so a backslash behind it does not.
    rw [Item.chars, List.append_cons, endsInEscape_concat, endsInEscape_concat, h]
    exact Bool.and_false _
  | any => exact endsInEscape_concat cs '.'
  | anyRun =>
    rw [Item.chars, List.append_cons]
    exact endsInEscape_concat _ '*'
  | anySome =>
    rw [Item.chars, List.append_cons]
    exact endsInEscape_concat _ '+'

theorem endsInEscape_append_chars {cs : List Char} (h : Wildcard.endsInEscape cs = false)
    (items : List Item) : Wildcard.endsInEscape (cs ++ chars items) = false := by
  induction items generalizing cs with
  | nil => rwa [chars, List.flatMap_nil, List.append_nil]
  | cons item items ih =>
    rw [chars_cons, ← List.append_assoc]
    exact ih (endsInEscape_item h item)

/-- The backslashes in front of the end are paired off behind complete pieces. -/
theorem endsInEscape_chars (items : List Item) : Wildcard.endsInEscape (chars items) = false :=
  @endsInEscape_append_chars [] rfl items

theorem dropEndAnchor_concat (cs : List Char) (c : Char) :
    Wildcard.dropEndAnchor (cs ++ [c]) =
      if c = '$' ∧ Wildcard.endsInEscape cs = false then (cs, true) else (cs ++ [c], false) := by
  rw [Wildcard.dropEndAnchor, List.getLast?_concat, List.dropLast_concat]
  split
  · rename_i hc
    obtain rfl := Option.some.inj hc
    cases Wildcard.endsInEscape cs <;> rfl
  · rename_i hc
    rw [if_neg]
    rintro ⟨rfl, -⟩
    exact hc rfl

theorem dropEndAnchor_anchored (items : List Item) :
    Wildcard.dropEndAnchor (chars items ++ ['$']) = (chars items, true) := by
  rw [dropEndAnchor_concat, if_pos ⟨rfl, endsInEscape_chars items⟩]

/-- A `$` at the end of pieces is the second half of an escape. -/
theorem dropEndAnchor_chars (items : List Item) :
    Wildcard.dropEndAnchor (chars items) = (chars items, false) := by
  obtain rfl | ⟨items, item, rfl⟩ := List.eq_nil_or_concat' items
  · rfl
  have hconcat : chars (items ++ [item]) = chars items ++ item.chars := by simp [chars]
  rw [hconcat]
  cases item with
  | plain c hc =>
    rw [Item.chars, dropEndAnchor_concat, if_neg]
    rintro ⟨rfl, -⟩
    exact absurd hc (by decide)
  | escaped c _ =>
    rw [Item.chars, List.append_cons, dropEndAnchor_concat, if_neg]
    rintro ⟨-, h⟩
    rw [endsInEscape_concat, endsInEscape_chars items] at h
    cases h
  | any => rw [Item.chars, dropEndAnchor_concat, if_neg (by simp)]
  | anyRun | anySome =>
    rw [Item.chars, List.append_cons, dropEndAnchor_concat, if_neg (by simp)]

theorem dropStartAnchor_of_head_ne {cs : List Char} (h : '^' ∉ cs.head?) :
    Wildcard.dropStartAnchor cs = (cs, false) := by
  rw [Wildcard.dropStartAnchor]
  rintro rest rfl
  exact h rfl

theorem dropStartAnchor_chars (items : List Item) {rest : List Char} (h : '^' ∉ rest.head?) :
    Wildcard.dropStartAnchor (chars items ++ rest) = (chars items ++ rest, false) := by
  refine dropStartAnchor_of_head_ne fun hhead => ?_
  rw [List.head?_append, Option.mem_def, Option.or_eq_some_iff] at hhead
  obtain hhead | ⟨-, hhead⟩ := hhead
  · exact absurd (head_chars hhead) (by decide)
  · exact h hhead

/-- The wildcards for a plain regular expression: those of its pieces, between runs where it is
not anchored. -/
theorem ofRegex_text (r : PlainRegex) : Wildcard.ofRegex r.text.toList =
    Wildcard.mergeRuns ((if r.anchoredStart then [] else [.run]) ++
      r.items.flatMap Item.wildcards ++ (if r.anchoredEnd then [] else [.run])) := by
  obtain ⟨start, items, stop⟩ := r
  have hend : Wildcard.dropEndAnchor (chars items ++ if stop then ['$'] else []) =
      (chars items, stop) := by
    cases stop with
    | true => exact dropEndAnchor_anchored items
    | false => simpa using dropEndAnchor_chars items
  have hhead : '^' ∉ (if stop then ['$'] else []).head? := by cases stop <;> decide
  have hstart : Wildcard.dropStartAnchor (text ⟨start, items, stop⟩).toList =
      (chars items ++ if stop then ['$'] else [], start) := by
    rw [text, String.toList_ofList]
    cases start with
    | true => rfl
    | false => exact dropStartAnchor_chars items hhead
  rw [Wildcard.ofRegex, hstart]
  simp only [hend, ofBody_chars]

/-! ## What the wildcards match -/

theorem denote_cons (w : Wildcard) (ws : List Wildcard) :
    Wildcard.denote (w :: ws) = w.meaning * Wildcard.denote ws := List.prod_cons

theorem denote_append (ws ws' : List Wildcard) :
    Wildcard.denote (ws ++ ws') = Wildcard.denote ws * Wildcard.denote ws' := by
  rw [Wildcard.denote, Element.denote, List.map_append, List.map_append, List.prod_append]
  rfl

/-- A run behind a run changes nothing. -/
theorem denote_mergeRuns (ws : List Wildcard) :
    Wildcard.denote (Wildcard.mergeRuns ws) = Wildcard.denote ws := by
  fun_induction Wildcard.mergeRuns ws with
  | case1 rest ih =>
    have hruns : Wildcard.meaning .run * Wildcard.meaning .run = Wildcard.meaning .run :=
      kstar_mul_kstar Element.anyOne
    rw [ih, denote_cons .run (.run :: rest), denote_cons, ← mul_assoc, hruns]
  | case2 w rest _ ih => rw [denote_cons, ih, denote_cons]
  | case3 => rfl

theorem meaning_literal (c : Char) : Wildcard.meaning (.literal c) = {[c]} := by
  ext w
  constructor
  · rintro ⟨d, hd, rfl⟩
    obtain rfl := beq_iff_eq.mp hd
    rfl
  · rintro rfl
    exact ⟨c, beq_self_eq_true c, rfl⟩

theorem meaning_one : Wildcard.meaning .one = Element.anyOne := by
  ext w
  exact exists_congr fun c => and_iff_right rfl

/-- What stands in for a piece matches what the piece matches. -/
theorem denote_wildcards (item : Item) : Wildcard.denote item.wildcards = item.meaning := by
  have hsingle (w : Wildcard) : Wildcard.denote [w] = w.meaning := mul_one w.meaning
  cases item with
  | plain c | escaped c => exact (hsingle _).trans (meaning_literal c)
  | any => exact (hsingle _).trans meaning_one
  | anyRun => exact hsingle .run
  | anySome =>
    rw [Item.wildcards, denote_cons, hsingle, meaning_one]
    rfl

theorem denote_flatMap_wildcards (items : List Item) :
    Wildcard.denote (items.flatMap Item.wildcards) = denote items := by
  induction items with
  | nil => rfl
  | cons item items ih =>
    rw [List.flatMap_cons, denote_append, denote_wildcards, ih]
    exact List.prod_cons.symm

/-- What may stand on one side of a match. -/
def margin (anchored : Bool) : Language Char := if anchored then 1 else Element.anyOne∗

theorem mem_margin {anchored : Bool} {cs : List Char} :
    cs ∈ margin anchored ↔ (anchored = true → cs = []) := by
  cases anchored with
  | true => simp [margin, Language.mem_one]
  | false => simp [margin, Element.mem_anyOne_kstar]

theorem denote_margin (anchored : Bool) :
    Wildcard.denote (if anchored then [] else [.run]) = margin anchored := by
  cases anchored with
  | true => rfl
  | false => exact mul_one _

/-- Holding a match is being a match between two margins. -/
theorem foundIn_iff (r : PlainRegex) (s : String) : r.FoundIn s ↔
    s.toList ∈ margin r.anchoredStart * denote r.items * margin r.anchoredEnd := by
  simp only [FoundIn, Language.mem_mul, mem_margin]
  constructor
  · rintro ⟨before, found, after, hs, hfound, hbefore, hafter⟩
    exact ⟨before ++ found, ⟨before, hbefore, found, hfound, rfl⟩, after, hafter, hs.symm⟩
  · rintro ⟨_, ⟨before, hbefore, found, hfound, rfl⟩, after, hafter, hs⟩
    exact ⟨before, found, after, hs.symm, hfound, hbefore, hafter⟩

/-- The wildcard pattern for a plain regular expression matches the whole of a text exactly
when the text holds a match of the expression. -/
theorem accepts_ofRegex (r : PlainRegex) (s : String) (language : PatternLanguage) :
    language.accepts (language.ofRegex r.text) s = true ↔ r.FoundIn s := by
  have hdenote : Wildcard.denote (Wildcard.ofRegex r.text.toList) =
      margin r.anchoredStart * denote r.items * margin r.anchoredEnd := by
    rw [ofRegex_text, denote_mergeRuns, denote_append, denote_append, denote_margin,
      denote_margin, denote_flatMap_wildcards]
  rw [PatternLanguage.ofRegex, PatternLanguage.accepts_spell, foundIn_iff, ← hdenote]

-- A run at the end is not repeated where the end is open, and a closing `$` is no anchor
-- behind a backslash.
example : PatternLanguage.ofRegex .likeWithSets
    (text ⟨true, [.plain '%' rfl, .escaped '[' rfl, .anySome], false⟩) = "\\%\\[_%" := by
  decide

example : PatternLanguage.ofRegex .glob (text ⟨true, [.any, .escaped '$' rfl], false⟩) = "?$*" := by
  decide

end PlainRegex
end DocFilter
