import DocFilter.Pattern.Wildcard
import Mathlib.Computability.Language

/-!
# What a database makes of a wildcard pattern

A database reads a wildcard pattern from left to right.  In the languages of `LIKE` a backslash
makes the next character ordinary, and a backslash at the very end is a fault.  An opening
bracket begins a set in the languages that have sets; a set holds characters and ranges, and a
caret at its beginning turns it around.  A set that is not closed is a fault.  A pattern with a
fault matches nothing.

`PatternLanguage.accepts` is that matching, of a whole text, and it can be computed.  As a
language in the sense of formal languages it is the product of what the elements match
(`Element.mem_denote`).

What `PatternLanguage.spell` writes is read back as what was meant
(`PatternLanguage.elements?_spell`): a character that would mean something is escaped in the
languages of `LIKE`, and made a set of its own in `GLOB`.
-/

namespace DocFilter

open scoped Computability

/-! ## Elements -/

/-- What one place of a pattern matches. -/
inductive Element where
  /-- Any run of characters, also the empty one. -/
  | run
  /-- One character that passes a test. -/
  | single (test : Char → Bool)

namespace Element

/-- Whether elements, one after the other, match the whole of a text. -/
def matchAll : List Element → List Char → Bool
  | [], cs => cs.isEmpty
  | .run :: es, cs => cs.tails.any (matchAll es)
  | .single _ :: _, [] => false
  | .single test :: es, c :: cs => test c && matchAll es cs

/-- Every text of one character. -/
def anyOne : Language Char := {w | ∃ c, w = [c]}

/-- The texts an element matches. -/
def meaning : Element → Language Char
  | .run => anyOne∗
  | .single test => {w | ∃ c, test c = true ∧ w = [c]}

/-- The texts that elements match, one after the other. -/
def denote (es : List Element) : Language Char := (es.map meaning).prod

/-- A run of characters is any text. -/
theorem mem_anyOne_kstar (cs : List Char) : cs ∈ anyOne∗ := by
  refine Language.mem_kstar.mpr ⟨cs.map ([·]), (List.flatMap_singleton' cs).symm, fun w hw => ?_⟩
  obtain ⟨c, -, rfl⟩ := List.mem_map.mp hw
  exact ⟨c, rfl⟩

theorem mem_run_mul {l : Language Char} {cs : List Char} :
    cs ∈ anyOne∗ * l ↔ ∃ suffix ∈ l, suffix <:+ cs := by
  rw [Language.mem_mul]
  constructor
  · rintro ⟨before, -, after, hafter, rfl⟩
    exact ⟨after, hafter, before, rfl⟩
  · rintro ⟨after, hafter, before, rfl⟩
    exact ⟨before, mem_anyOne_kstar before, after, hafter, rfl⟩

theorem mem_single_mul {test : Char → Bool} {l : Language Char} {cs : List Char} :
    cs ∈ meaning (.single test) * l ↔ ∃ c rest, test c = true ∧ rest ∈ l ∧ cs = c :: rest := by
  rw [Language.mem_mul]
  constructor
  · rintro ⟨_, ⟨c, hc, rfl⟩, rest, hrest, rfl⟩
    exact ⟨c, rest, hc, hrest, rfl⟩
  · rintro ⟨c, rest, hc, hrest, rfl⟩
    exact ⟨[c], ⟨c, hc, rfl⟩, rest, hrest, rfl⟩

/-- Matching computes the product of what the elements match. -/
theorem mem_denote {es : List Element} {cs : List Char} :
    cs ∈ denote es ↔ matchAll es cs = true := by
  induction es generalizing cs with
  | nil => exact List.isEmpty_iff.symm
  | cons e es ih =>
    have hcons : denote (e :: es) = e.meaning * denote es := List.prod_cons
    rw [hcons]
    cases e with
    | run =>
      rw [meaning, mem_run_mul, matchAll, List.any_eq_true]
      simp only [List.mem_tails, ih]
      exact exists_congr fun suffix => and_comm
    | single test =>
      rw [mem_single_mul]
      cases cs with
      | nil => simp [matchAll]
      | cons c cs => simp [matchAll, ih]

end Element

namespace Wildcard

/-- The element of a pattern that a wildcard is meant to be. -/
def element : Wildcard → Element
  | run => .run
  | one => .single fun _ => true
  | literal c => .single (· == c)

/-- The texts a wildcard is meant to match. -/
def meaning (w : Wildcard) : Language Char := w.element.meaning

/-- The texts that wildcards are meant to match, one after the other. -/
def denote (ws : List Wildcard) : Language Char := Element.denote (ws.map element)

end Wildcard

namespace PatternLanguage

/-! ## Reading a pattern -/

/-- A character of a pattern, and whether an escape made it ordinary. -/
structure Mark where
  char : Char
  escaped : Bool
  deriving DecidableEq, Repr

/-- The mark is this sign, and not made ordinary. -/
def Mark.is (m : Mark) (sign : Char) : Bool := m.char == sign && !m.escaped

/-- Whether a backslash makes the next character ordinary. -/
def hasEscape : PatternLanguage → Bool
  | .like | .likeWithSets => true
  | .glob => false

/-- Whether an opening bracket begins a set. -/
def hasSets : PatternLanguage → Bool
  | .like => false
  | .likeWithSets | .glob => true

/-- The sign for any run of characters. -/
def runSign : PatternLanguage → Char
  | .like | .likeWithSets => '%'
  | .glob => '*'

/-- The sign for any one character. -/
def oneSign : PatternLanguage → Char
  | .like | .likeWithSets => '_'
  | .glob => '?'

variable (language : PatternLanguage)

/-- The marks of a pattern; none where an escape has nothing to escape. -/
def marks? : List Char → Option (List Mark)
  | [] => some []
  | [c] => if language.hasEscape && c == escapeChar then none else some [⟨c, false⟩]
  | c :: d :: rest =>
    if language.hasEscape && c == escapeChar then (marks? rest).map (⟨d, true⟩ :: ·)
    else (marks? (d :: rest)).map (⟨c, false⟩ :: ·)

/-- Whether a character is among the members of a set: characters, and ranges with a hyphen
between their ends.  A closing bracket among the members stands for itself. -/
def isMember (c : Char) : List Mark → Bool
  | [] => false
  | [m] => c == m.char
  | [m, n] => c == m.char || c == n.char
  | low :: m :: high :: rest =>
    if m.is '-' && !low.is ']' then
      (decide (low.char ≤ c) && decide (c ≤ high.char)) || isMember c rest
    else c == low.char || isMember c (m :: high :: rest)

/-- Whether a character is in a set with this body. -/
def inSet (body : List Mark) (c : Char) : Bool :=
  match body with
  | [] => false
  | m :: rest => if m.is '^' then !isMember c rest else isMember c (m :: rest)

/-- Whether a mark closes the set with this body.  In `GLOB` a closing bracket right at the
beginning of a set is a member of it. -/
def closes (body : List Mark) (m : Mark) : Bool :=
  m.is ']' && !(language == .glob && (body.isEmpty || body == [⟨'^', false⟩]))

/-- The elements of the rest of a pattern, inside a set whose body so far is given, or outside
of all sets. -/
def elementsFrom? : Option (List Mark) → List Mark → Option (List Element)
  | none, [] => some []
  | some _, [] => none
  | none, m :: rest =>
    if m.is language.runSign then (elementsFrom? none rest).map (.run :: ·)
    else if m.is language.oneSign then
      (elementsFrom? none rest).map (.single (fun _ => true) :: ·)
    else if language.hasSets && m.is '[' then elementsFrom? (some []) rest
    else (elementsFrom? none rest).map (.single (· == m.char) :: ·)
  | some body, m :: rest =>
    if language.closes body m then (elementsFrom? none rest).map (.single (inSet body) :: ·)
    else elementsFrom? (some (body ++ [m])) rest

/-- The elements of a pattern; none where it has a fault. -/
def elements? (pattern : List Char) : Option (List Element) :=
  (language.marks? pattern).bind (language.elementsFrom? none)

/-- Whether the whole of a text matches a pattern. -/
def accepts (pattern text : String) : Bool :=
  match language.elements? pattern.toList with
  | some es => Element.matchAll es text.toList
  | none => false

/-! ## Reading back what is spelled -/

/-- The marks of a wildcard as it is spelled. -/
def marksOf : Wildcard → List Mark
  | .run => [⟨language.runSign, false⟩]
  | .one => [⟨language.oneSign, false⟩]
  | .literal c =>
    if language.isSpecial c then
      if language = .glob then [⟨'[', false⟩, ⟨c, false⟩, ⟨']', false⟩] else [⟨c, true⟩]
    else [⟨c, false⟩]

theorem marks?_cons {c : Char} (h : (language.hasEscape && c == escapeChar) = false)
    (rest : List Char) :
    language.marks? (c :: rest) = (language.marks? rest).map (⟨c, false⟩ :: ·) := by
  cases rest with
  | nil => simp [marks?, h]
  | cons d rest => simp [marks?, h]

theorem marks?_escape {c : Char} (h : language.hasEscape = true) (rest : List Char) :
    language.marks? (escapeChar :: c :: rest) = (language.marks? rest).map (⟨c, true⟩ :: ·) := by
  simp [marks?, h]

/-- The characters that are escaped are those that would be read as signs. -/
theorem isSpecial_iff {c : Char} : language.isSpecial c = true ↔
    c = language.runSign ∨ c = language.oneSign ∨ (language.hasSets = true ∧ c = '[') ∨
      (language.hasEscape = true ∧ c = escapeChar) := by
  cases language <;> simp [isSpecial, runSign, oneSign, hasSets, hasEscape, or_assoc]

variable {language}

theorem hasEscape_of_ne_glob (h : language ≠ .glob) : language.hasEscape = true := by
  cases language with
  | like | likeWithSets => rfl
  | glob => exact absurd rfl h

variable (language)

theorem marks?_spell (w : Wildcard) (rest : List Char) :
    language.marks? (language.spell w ++ rest) =
      (language.marks? rest).map (language.marksOf w ++ ·) := by
  cases w with
  | run => cases language <;> exact marks?_cons _ (by decide) rest
  | one => cases language <;> exact marks?_cons _ (by decide) rest
  | literal c =>
    simp only [spell, marksOf]
    by_cases hspecial : language.isSpecial c = true
    · rw [if_pos hspecial, if_pos hspecial]
      by_cases hglob : language = .glob
      · subst hglob
        have hplain (d : Char) (rest : List Char) :=
          marks?_cons .glob (c := d) (Bool.false_and _) rest
        rw [if_pos rfl, if_pos rfl, List.cons_append, List.cons_append, List.singleton_append,
          hplain, hplain, hplain, Option.map_map, Option.map_map]
        rfl
      · rw [if_neg hglob, if_neg hglob]
        exact marks?_escape language (hasEscape_of_ne_glob hglob) rest
    · rw [if_neg hspecial, if_neg hspecial]
      have hplain : (language.hasEscape && c == escapeChar) = false := by
        rw [Bool.eq_false_iff]
        intro h
        obtain ⟨hescape, hc⟩ := Bool.and_eq_true_iff.mp h
        exact hspecial (language.isSpecial_iff.mpr (.inr (.inr (.inr ⟨hescape, beq_iff_eq.mp hc⟩))))
      exact marks?_cons language hplain rest

theorem Mark.is_eq_false_of_ne {c sign : Char} (h : c ≠ sign) :
    (Mark.mk c false).is sign = false := by
  simp [Mark.is, h]

theorem elementsFrom?_ordinary {m : Mark} (hrun : m.is language.runSign = false)
    (hone : m.is language.oneSign = false) (hset : (language.hasSets && m.is '[') = false)
    (rest : List Mark) : language.elementsFrom? none (m :: rest) =
      (language.elementsFrom? none rest).map (.single (· == m.char) :: ·) := by
  simp [elementsFrom?, hrun, hone, hset]

/-- A set of one character matches that character. -/
theorem elementsFrom?_bracketed {c : Char} (h : c ≠ '^') (rest : List Mark) :
    elementsFrom? .glob none (⟨'[', false⟩ :: ⟨c, false⟩ :: ⟨']', false⟩ :: rest) =
      (elementsFrom? .glob none rest).map (.single (· == c) :: ·) := by
  have hset : inSet [⟨c, false⟩] = (· == c) := by
    funext d
    simp [inSet, isMember, Mark.is, h]
  simp [elementsFrom?, closes, Mark.is, runSign, oneSign, hasSets, h, hset]

theorem elementsFrom?_marksOf (w : Wildcard) (rest : List Mark) :
    language.elementsFrom? none (language.marksOf w ++ rest) =
      (language.elementsFrom? none rest).map (w.element :: ·) := by
  cases w with
  | run => simp [marksOf, elementsFrom?, Wildcard.element, Mark.is]
  | one =>
    have hne : (Mark.mk language.oneSign false).is language.runSign = false := by
      cases language <;> rfl
    have hone : (Mark.mk language.oneSign false).is language.oneSign = true := by simp [Mark.is]
    simp [marksOf, elementsFrom?, Wildcard.element, hne, hone]
  | literal c =>
    simp only [marksOf, Wildcard.element]
    by_cases hspecial : language.isSpecial c = true
    · rw [if_pos hspecial]
      by_cases hglob : language = .glob
      · subst hglob
        rw [if_pos rfl]
        have hcaret : c ≠ '^' := by
          rintro rfl
          exact absurd hspecial (by decide)
        exact elementsFrom?_bracketed hcaret rest
      · rw [if_neg hglob]
        have hescaped (sign : Char) : (Mark.mk c true).is sign = false := Bool.and_false _
        exact elementsFrom?_ordinary language (hescaped _) (hescaped _)
          (by rw [hescaped, Bool.and_false]) rest
    · rw [if_neg hspecial]
      have hsigns := fun h => hspecial (language.isSpecial_iff.mpr h)
      have hrun : c ≠ language.runSign := fun h => hsigns (.inl h)
      have hone : c ≠ language.oneSign := fun h => hsigns (.inr (.inl h))
      have hset : (language.hasSets && (Mark.mk c false).is '[') = false := by
        cases hsets : language.hasSets with
        | false => rfl
        | true => exact Mark.is_eq_false_of_ne fun h => hsigns (.inr (.inr (.inl ⟨hsets, h⟩)))
      exact elementsFrom?_ordinary language (Mark.is_eq_false_of_ne hrun)
        (Mark.is_eq_false_of_ne hone) hset rest

theorem marks?_flatMap_spell (ws : List Wildcard) :
    language.marks? (ws.flatMap language.spell) = some (ws.flatMap language.marksOf) := by
  induction ws with
  | nil => rfl
  | cons w ws ih => rw [List.flatMap_cons, marks?_spell, ih]; rfl

/-- What is spelled is read back as what was meant. -/
theorem elements?_spell (ws : List Wildcard) :
    language.elements? (ws.flatMap language.spell) = some (ws.map Wildcard.element) := by
  rw [elements?, marks?_flatMap_spell, Option.bind_some]
  induction ws with
  | nil => rfl
  | cons w ws ih => rw [List.flatMap_cons, elementsFrom?_marksOf, ih]; rfl

/-- A text matches what is spelled when its parts are what the wildcards are meant to match. -/
theorem accepts_spell {ws : List Wildcard} {text : String} :
    language.accepts (String.ofList (ws.flatMap language.spell)) text = true ↔
      text.toList ∈ Wildcard.denote ws := by
  rw [accepts, String.toList_ofList, elements?_spell]
  exact Element.mem_denote.symm

end PatternLanguage
end DocFilter
