import DocFilter.Proofs.Pattern.Matching

/-!
# Wildcard patterns without faults

A regular expression is turned into a wildcard pattern whatever is in it, and each pattern
language spells the same wildcards in its own way.  What is spelled is free of faults in its
language (`PatternLanguage.WellFormed`): no escape is left without a character to escape, no
set is left open, and a set is never opened by a character that was to stand for itself.  The
only sets there are hold one character each, in the language that has no escape.

So every database that gets such a pattern makes the same of it, also of an expression that no
wildcard can stand in for (`PatternLanguage.interchangeable_ofRegex`).
-/

namespace DocFilter
namespace PatternLanguage

variable (language : PatternLanguage)

/-! ## Sets -/

/-- The bodies of the sets in the rest of a pattern, inside a set whose body so far is given,
or outside of all sets; none where a set is left open. -/
def setsFrom? : Option (List Mark) → List Mark → Option (List (List Mark))
  | none, [] => some []
  | some _, [] => none
  | none, m :: rest =>
    if language.hasSets && m.is '[' then setsFrom? (some []) rest else setsFrom? none rest
  | some body, m :: rest =>
    if language.closes body m then (setsFrom? none rest).map (body :: ·)
    else setsFrom? (some (body ++ [m])) rest

/-- The bodies of the sets of a pattern; none where it has a fault. -/
def sets? (pattern : List Char) : Option (List (List Mark)) :=
  (language.marks? pattern).bind (language.setsFrom? none)

/-- A pattern is written as the language asks, and nothing in it means something by
accident. -/
structure WellFormed (pattern : String) : Prop where
  /-- No escape is left at the end, and no set is left open. -/
  faultless : (language.elements? pattern.toList).isSome
  /-- What is escaped would mean something otherwise. -/
  escapes : ∀ ms ∈ language.marks? pattern.toList, ∀ m ∈ ms,
    m.escaped = true → language.isSpecial m.char = true
  /-- A set holds one character that would mean something otherwise, and there is none where
  that character could be escaped. -/
  sets : ∃ bodies, language.sets? pattern.toList = some bodies ∧ ∀ body ∈ bodies,
    language.hasEscape = false ∧ ∃ c, body = [⟨c, false⟩] ∧ language.isSpecial c = true

/-- The bodies of the sets that a wildcard is spelled with. -/
def setsOf : Wildcard → List (List Mark)
  | .run | .one => []
  | .literal c => if language.isSpecial c ∧ language = .glob then [[⟨c, false⟩]] else []

/-! ## What is spelled -/

/-- A mark that opens no set is passed over. -/
theorem setsFrom?_ordinary {m : Mark} (h : (language.hasSets && m.is '[') = false)
    (rest : List Mark) : language.setsFrom? none (m :: rest) = language.setsFrom? none rest := by
  simp [setsFrom?, h]

/-- A bracketed character is a set of its own, unless it turns the set around or closes it. -/
theorem setsFrom?_bracketed {c : Char} (hcaret : c ≠ '^') (rest : List Mark) :
    setsFrom? .glob none (⟨'[', false⟩ :: ⟨c, false⟩ :: ⟨']', false⟩ :: rest) =
      (setsFrom? .glob none rest).map ([⟨c, false⟩] :: ·) := by
  simp [setsFrom?, closes, Mark.is, hasSets, hcaret]

theorem setsFrom?_marksOf (w : Wildcard) (rest : List Mark) :
    language.setsFrom? none (language.marksOf w ++ rest) =
      (language.setsFrom? none rest).map (language.setsOf w ++ ·) := by
  have hnone : (language.setsFrom? none rest).map ([] ++ ·) = language.setsFrom? none rest :=
    Option.map_id'
  cases w with
  | run =>
    rw [setsOf, hnone]
    exact language.setsFrom?_ordinary (by cases language <;> rfl) rest
  | one =>
    rw [setsOf, hnone]
    exact language.setsFrom?_ordinary (by cases language <;> rfl) rest
  | literal c =>
    simp only [marksOf, setsOf]
    by_cases hspecial : language.isSpecial c = true
    · rw [if_pos hspecial]
      by_cases hglob : language = .glob
      · subst hglob
        rw [if_pos rfl, if_pos ⟨hspecial, rfl⟩]
        have hcaret : c ≠ '^' := by
          rintro rfl
          exact absurd hspecial (by decide)
        exact setsFrom?_bracketed hcaret rest
      · rw [if_neg hglob, if_neg fun h => hglob h.2, hnone]
        exact language.setsFrom?_ordinary (by simp [Mark.is]) rest
    · -- an opening bracket would have been special where it opens a set
      rw [if_neg hspecial, if_neg fun h => hspecial h.1, hnone]
      refine language.setsFrom?_ordinary ?_ rest
      rw [Bool.eq_false_iff]
      intro h
      obtain ⟨hsets, hbracket⟩ := Bool.and_eq_true_iff.mp h
      obtain ⟨hc, -⟩ := Bool.and_eq_true_iff.mp hbracket
      exact hspecial (language.isSpecial_iff.mpr (.inr (.inr (.inl ⟨hsets, beq_iff_eq.mp hc⟩))))

theorem sets?_spell (ws : List Wildcard) :
    language.sets? (ws.flatMap language.spell) = some (ws.flatMap language.setsOf) := by
  rw [sets?, marks?_flatMap_spell, Option.bind_some]
  induction ws with
  | nil => rfl
  | cons w ws ih => rw [List.flatMap_cons, setsFrom?_marksOf, ih]; rfl

variable {language}

theorem isSpecial_of_mem_marksOf {w : Wildcard} {m : Mark} (hm : m ∈ language.marksOf w)
    (hescaped : m.escaped = true) : language.isSpecial m.char = true := by
  have hplain {c : Char} (h : m = ⟨c, false⟩) : language.isSpecial m.char = true := by
    rw [h] at hescaped
    exact absurd hescaped Bool.false_ne_true
  cases w with
  | run => exact hplain (List.mem_singleton.mp hm)
  | one => exact hplain (List.mem_singleton.mp hm)
  | literal c =>
    rw [marksOf] at hm
    split at hm
    · next hspecial =>
      split at hm
      · simp only [List.mem_cons, List.not_mem_nil, or_false] at hm
        rcases hm with h | h | h <;> exact hplain h
      · rw [List.mem_singleton.mp hm]
        exact hspecial
    · exact hplain (List.mem_singleton.mp hm)

theorem special_of_mem_setsOf {w : Wildcard} {body : List Mark} (h : body ∈ language.setsOf w) :
    language.hasEscape = false ∧ ∃ c, body = [⟨c, false⟩] ∧ language.isSpecial c = true := by
  cases w with
  | run => exact absurd h List.not_mem_nil
  | one => exact absurd h List.not_mem_nil
  | literal c =>
    rw [setsOf] at h
    split at h
    · next hspecial =>
      obtain ⟨hspecial, rfl⟩ := hspecial
      exact ⟨rfl, c, List.mem_singleton.mp h, hspecial⟩
    · exact absurd h List.not_mem_nil

/-- What is spelled is well formed, whatever the wildcards. -/
theorem wellFormed_spell (ws : List Wildcard) :
    language.WellFormed (String.ofList (ws.flatMap language.spell)) where
  faultless := by
    rw [String.toList_ofList, elements?_spell]
    rfl
  escapes := by
    intro ms hms m hm hescaped
    rw [String.toList_ofList, marks?_flatMap_spell] at hms
    obtain rfl := Option.some.inj hms
    obtain ⟨w, -, hw⟩ := List.mem_flatMap.mp hm
    exact isSpecial_of_mem_marksOf hw hescaped
  sets := by
    refine ⟨ws.flatMap language.setsOf, by rw [String.toList_ofList, sets?_spell], ?_⟩
    intro body hbody
    obtain ⟨w, -, hw⟩ := List.mem_flatMap.mp hbody
    exact special_of_mem_setsOf hw

/-! ## Any regular expression -/

/-- Whatever the regular expression, its pattern is well formed in each language, and matches
the same texts in all of them: those that are made up of what its wildcards are meant to
match. -/
theorem interchangeable_ofRegex (pattern : String) :
    (∀ language : PatternLanguage, language.WellFormed (language.ofRegex pattern)) ∧
      (∀ (language language' : PatternLanguage) (text : String),
        language.accepts (language.ofRegex pattern) text =
          language'.accepts (language'.ofRegex pattern) text) ∧
      ∀ (language : PatternLanguage) (text : String),
        language.accepts (language.ofRegex pattern) text = true ↔
          text.toList ∈ Wildcard.denote (Wildcard.ofRegex pattern.toList) := by
  have hmeant (language : PatternLanguage) (text : String) :
      language.accepts (language.ofRegex pattern) text = true ↔
        text.toList ∈ Wildcard.denote (Wildcard.ofRegex pattern.toList) :=
    language.accepts_spell
  refine ⟨fun language => wellFormed_spell _, fun language language' text => ?_, hmeant⟩
  rw [Bool.eq_iff_iff]
  exact (hmeant language text).trans (hmeant language' text).symm

-- A group, a set and a repetition are no wildcards, and a backslash at the end is one too many.
example : PatternLanguage.ofRegex .glob "^(a|[*]\x7b2\x7d\\" = "(a|[[][*]]\x7b2\x7d\\*" := by decide

example : PatternLanguage.ofRegex .likeWithSets "^(a|[%]\\" = "(a|\\[\\%]\\\\%" := by decide

end PatternLanguage
end DocFilter
