import DocFilter.Proofs.Dialect.Extraction
import DocFilter.Proofs.Document.Scan
import DocFilter.Proofs.List
import DocFilter.Proofs.Text.Character

/-!
# Arrays of texts, as the database reads them

A path of more than one step is handed over as an array of texts.  `TextArray.read` reads
such an array in one pass.  Elements stand between braces with commas between them, and
blanks around an element do not belong to it.  An element between double quotes is taken as
it stands; in any element a backslash makes the character after it an ordinary one.  The
bare word `NULL`, in letters of either case, is no text but a missing element.

Reading what was written gives back the texts of the steps, however many and whatever
characters the keys are made of, with one exception (`TextArray.read_arrayChars`): a key
that is the word `NULL` counts as a plain word, is written bare, and is missing when the
array is read.
-/

namespace DocFilter

open Sql (isWordChar isWordChar_of_mem_toDigits)

namespace TextArray

open Scan

/-! ## Reading -/

/-- A character of a bare element, and whether a backslash stands in front of it. -/
structure Letter where
  char : Char
  escaped : Bool
  deriving DecidableEq, Repr

namespace Letter

/-- A blank that is skipped in front of an element and behind it. -/
def isBlank (l : Letter) : Bool :=
  !l.escaped && [' ', '\t', '\n', '\x0b', '\x0c', '\r'].contains l.char

/-- A character as it stands. -/
def plain (c : Char) : Letter := ⟨c, false⟩

end Letter

/-- The word for a missing element. -/
def isNullWord (cs : List Char) : Bool := cs.map Char.toLower = "null".toList

/-- The element that a bare run of characters is; the characters are given newest first. -/
def bareElement (ls : List Letter) : Option (List Char) :=
  let kept := (ls.dropWhile Letter.isBlank).reverse
  let content := kept.map Letter.char
  if isNullWord content && kept.all (!Letter.escaped ·) then none else some content

/-- The elements of an array, none for the missing ones. -/
abbrev Elements := List (Option (List Char))

/-- Where a reading stands.  The elements read so far, and the characters of an unfinished
one, are kept newest first. -/
inductive State where
  /-- In front of the opening brace. -/
  | opening
  /-- Where an element has to begin. -/
  | before (read : Elements)
  /-- Inside a bare element. -/
  | bare (read : Elements) (ls : List Letter)
  /-- Inside a bare element, after a backslash. -/
  | bareEscape (read : Elements) (ls : List Letter)
  /-- Between double quotes. -/
  | quoted (read : Elements) (content : List Char)
  /-- Between double quotes, after a backslash. -/
  | quotedEscape (read : Elements) (content : List Char)
  /-- Behind the quote that ends an element. -/
  | behind (read : Elements)
  /-- Behind the closing brace. -/
  | closed (read : Elements)
  deriving DecidableEq, Repr

namespace State

/-- One character read; none where an array cannot go on with it. -/
def step : State → Char → Option State
  | opening, c =>
    if c = '\x7b' then some (before [])
    else if (Letter.plain c).isBlank then some opening else none
  | before read, c =>
    if c = '\"' then some (quoted read [])
    else if c = '\\' then some (bareEscape read [])
    -- only an array without elements ends where an element has to begin
    else if c = '\x7d' then if read = [] then some (closed read) else none
    else if c = '\x7b' ∨ c = ',' then none
    else if (Letter.plain c).isBlank then some (before read)
    else some (bare read [.plain c])
  | bare read ls, c =>
    if c = ',' then some (before (bareElement ls :: read))
    else if c = '\x7d' then some (closed (bareElement ls :: read))
    else if c = '\\' then some (bareEscape read ls)
    else if c = '\x7b' ∨ c = '\"' then none
    else some (bare read (.plain c :: ls))
  | bareEscape read ls, c => some (bare read (⟨c, true⟩ :: ls))
  | quoted read content, c =>
    if c = '\"' then some (behind (some content.reverse :: read))
    else if c = '\\' then some (quotedEscape read content)
    else some (quoted read (c :: content))
  | quotedEscape read content, c => some (quoted read (c :: content))
  | behind read, c =>
    if c = ',' then some (before read)
    else if c = '\x7d' then some (closed read)
    else if (Letter.plain c).isBlank then some (behind read) else none
  | closed read, c => if (Letter.plain c).isBlank then some (closed read) else none

/-- The elements of an array that ends here. -/
def finish : State → Option Elements
  | closed read => some read.reverse
  | _ => none

end State

/-- The elements of an array; none where the text is no array. -/
def read (cs : List Char) : Option Elements :=
  (run State.step .opening cs).bind State.finish

-- blanks around an element, escapes, and words that are not `NULL`
example : read "\x7ba, nUll ,\" b\\\"\",\"NULL\",c\\ ,n\\ull\x7d".toList =
    some [some ['a'], none, some [' ', 'b', '\"'], some ['N', 'U', 'L', 'L'], some ['c', ' '],
      some ['n', 'u', 'l', 'l']] := by decide

/-! ## Runs of characters -/

namespace State

variable {read : Elements}

/-- Behind an element, where a comma or the closing brace has to follow. -/
structure Completes (s : State) (read : Elements) : Prop where
  comma : s.step ',' = some (before read)
  brace : s.step '\x7d' = some (closed read)

theorem quotes (read : Elements) : Quotes step (quoted read) where
  escape _ _ _ := rfl
  plain c before hplain := by
    obtain ⟨hback, hquote⟩ := not_or.mp hplain
    rw [step, if_neg hquote, if_neg hback]

theorem run_quotedKey (name : String) :
    run step (before read) (Segment.quotedKey name) = some (behind (some name.toList :: read)) := by
  refine (quotes read).run_quotedKey rfl ?_
  rw [step, if_pos rfl, List.reverse_reverse]

/-! ## Words -/

theorem not_isBlank_plain {c : Char} (h : isWordChar c = true) :
    (Letter.plain c).isBlank = false := by
  have hwordless : [' ', '\t', '\n', '\x0b', '\x0c', '\r'].all (fun d => !isWordChar d) = true :=
    rfl
  rw [Letter.isBlank, Letter.plain, Bool.not_false, Bool.true_and, List.contains_eq_mem,
    decide_eq_false_iff_not]
  intro hmem
  have hnot := List.all_eq_true.mp hwordless c hmem
  rw [h, Bool.not_true] at hnot
  exact Bool.false_ne_true hnot

/-- A character of a word goes on with a bare element. -/
theorem step_bare {c : Char} (h : isWordChar c = true) (read : Elements) (ls : List Letter) :
    (bare read ls).step c = some (bare read (.plain c :: ls)) := by
  have hcomma : c ≠ ',' := Text.ne_of_class h rfl
  have hclosing : c ≠ '\x7d' := Text.ne_of_class h rfl
  have hback : c ≠ '\\' := Text.ne_of_class h rfl
  have hother : ¬ (c = '\x7b' ∨ c = '\"') :=
    not_or.mpr ⟨Text.ne_of_class h rfl, Text.ne_of_class h rfl⟩
  rw [step, if_neg hcomma, if_neg hclosing, if_neg hback, if_neg hother]

/-- A character of a word begins a bare element. -/
theorem step_before {c : Char} (h : isWordChar c = true) (read : Elements) :
    (before read).step c = some (bare read [.plain c]) := by
  have hquote : c ≠ '\"' := Text.ne_of_class h rfl
  have hback : c ≠ '\\' := Text.ne_of_class h rfl
  have hclosing : c ≠ '\x7d' := Text.ne_of_class h rfl
  have hother : ¬ (c = '\x7b' ∨ c = ',') :=
    not_or.mpr ⟨Text.ne_of_class h rfl, Text.ne_of_class h rfl⟩
  rw [step, if_neg hquote, if_neg hback, if_neg hclosing, if_neg hother, not_isBlank_plain h,
    if_neg Bool.false_ne_true]

theorem run_word {cs : List Char} (hne : cs ≠ []) (h : ∀ c ∈ cs, isWordChar c = true) :
    run step (before read) cs = some (bare read (cs.map Letter.plain).reverse) := by
  cases cs with
  | nil => exact absurd rfl hne
  | cons c cs =>
    obtain ⟨hc, hcs⟩ := List.forall_mem_cons.mp h
    rw [run_cons (step_before hc read),
      run_added (bare read) Letter.plain (fun c hc => step_bare (hcs c hc) read), List.map_cons,
      List.reverse_cons]

end State

/-- A word is the element it spells, unless it is the word for a missing one. -/
theorem bareElement_word {cs : List Char} (h : ∀ c ∈ cs, isWordChar c = true) :
    bareElement (cs.map Letter.plain).reverse = if isNullWord cs then none else some cs := by
  have hblank : ∀ l ∈ (cs.map Letter.plain).reverse, l.isBlank = false := by
    intro l hl
    obtain ⟨c, hc, rfl⟩ := List.mem_map.mp (List.mem_reverse.mp hl)
    exact State.not_isBlank_plain (h c hc)
  have hkept : (cs.map Letter.plain).reverse.dropWhile Letter.isBlank =
      (cs.map Letter.plain).reverse :=
    dropWhile_of_head? fun l hl => hblank l (List.mem_of_mem_head? hl)
  have hcontent : (cs.map Letter.plain).map Letter.char = cs := by
    rw [List.map_map]
    exact List.map_id cs
  have hplain : (cs.map Letter.plain).all (!Letter.escaped ·) = true := by
    rw [List.all_map]
    exact List.all_eq_true.mpr fun _ _ => rfl
  simp only [bareElement, hkept, List.reverse_reverse, hcontent, hplain, Bool.and_true]

end TextArray

/-! ## The steps of a path -/

namespace Segment

open Scan TextArray

/-- What the text of a step is read as: nothing, for a key that is the word for a missing
element. -/
def element? (s : Segment) : Option (List Char) :=
  if isNullWord s.label.toList then none else some s.label.toList

theorem isAlpha_of_isNullWord {cs : List Char} (h : isNullWord cs = true) :
    ∀ c ∈ cs, c.isAlpha = true := by
  intro c hc
  have hletters : "null".toList.all Char.isAlpha = true := rfl
  have hword : cs.map Char.toLower = "null".toList := of_decide_eq_true h
  have hlower : c.toLower ∈ "null".toList := hword ▸ List.mem_map_of_mem hc
  exact Text.isAlpha_of_toLower (List.all_eq_true.mp hletters _ hlower)

/-- The word for a missing element needs no quotes as a key. -/
theorem isPlainKey_of_isNullWord {name : String} (h : isNullWord name.toList = true) :
    isPlainKey name = true := by
  have halpha := isAlpha_of_isNullWord h
  unfold isPlainKey
  cases hchars : name.toList with
  | nil =>
    rw [hchars] at h
    exact absurd h (by decide)
  | cons c rest =>
    rw [hchars] at halpha
    rw [Bool.and_eq_true, halpha c List.mem_cons_self, Bool.true_or, List.all_eq_true]
    refine ⟨rfl, fun d hd => ?_⟩
    rw [Char.isAlphanum, halpha d hd, Bool.true_or, Bool.true_or]

theorem word_of_isPlainKey {name : String} (h : isPlainKey name = true) :
    name.toList ≠ [] ∧ ∀ c ∈ name.toList, isWordChar c = true := by
  unfold isPlainKey at h
  cases hchars : name.toList with
  | nil =>
    rw [hchars] at h
    exact absurd h Bool.false_ne_true
  | cons c rest =>
    rw [hchars, Bool.and_eq_true] at h
    exact ⟨List.cons_ne_nil c rest, List.all_eq_true.mp h.2⟩

/-- The digits of an index are not the word for a missing element. -/
theorem not_isNullWord_toDigits (n : Nat) : isNullWord (Nat.toDigits 10 n) = false := by
  by_contra hnull
  have hword : (Nat.toDigits 10 n).map Char.toLower = "null".toList :=
    of_decide_eq_true (Bool.not_eq_false _ ▸ hnull)
  have hn : 'n' ∈ (Nat.toDigits 10 n).map Char.toLower := by
    rw [hword]
    decide
  obtain ⟨c, hc, hlower⟩ := List.mem_map.mp hn
  have hdigit : c.isDigit = true := Nat.isDigit_of_mem_toDigits (by decide) (by decide) hc
  rw [Text.toLower_of_isDigit hdigit] at hlower
  rw [hlower] at hdigit
  exact absurd hdigit (by decide)

theorem element?_index (n : Nat) : (index n).element? = some (Nat.toDigits 10 n) := by
  rw [element?, label, Nat.toList_repr, not_isNullWord_toDigits, if_neg Bool.false_ne_true]

open State in
/-- Where an element has to begin, the text of a step is one element. -/
theorem run_elementChars (s : Segment) (read : Elements) :
    ∃ t, run step (before read) s.elementChars = some t ∧ t.Completes (s.element? :: read) := by
  cases s with
  | key name =>
    rw [elementChars, keyChars]
    by_cases hplain : isPlainKey name = true
    · obtain ⟨hne, hword⟩ := word_of_isPlainKey hplain
      rw [if_pos hplain, element?, label, ← bareElement_word hword]
      exact ⟨_, run_word hne hword, rfl, rfl⟩
    · have hnull : ¬ isNullWord name.toList = true := mt isPlainKey_of_isNullWord hplain
      rw [if_neg hplain, element?, label, if_neg hnull]
      exact ⟨_, run_quotedKey name, rfl, rfl⟩
  | index n =>
    have hword : ∀ c ∈ Nat.toDigits 10 n, isWordChar c = true := fun _ => isWordChar_of_mem_toDigits
    have helement : bareElement ((Nat.toDigits 10 n).map Letter.plain).reverse =
        (index n).element? := by
      rw [bareElement_word hword, element?, label, Nat.toList_repr]
    rw [elementChars, ← helement]
    exact ⟨_, run_word Nat.toDigits_ne_nil hword, rfl, rfl⟩

end Segment

namespace TextArray

open Scan State

/-- The elements that are left are read one after another, up to the closing brace. -/
theorem run_elements {path : Path} (hne : path ≠ []) (read : Elements) :
    run step (before read) (Text.joinWith ',' (path.map Segment.elementChars) ++ ['\x7d']) =
      some (closed ((path.map Segment.element?).reverse ++ read)) := by
  induction path generalizing read with
  | nil => exact absurd rfl hne
  | cons s path ih =>
    obtain ⟨t, hrun, hcompletes⟩ := s.run_elementChars read
    cases path with
    | nil =>
      rw [List.map_cons, List.map_nil, Text.joinWith, run_append hrun,
        run_cons hcompletes.brace]
      rfl
    | cons s' path =>
      have hjoin : Text.joinWith ',' ((s :: s' :: path).map Segment.elementChars) =
          s.elementChars ++ ',' :: Text.joinWith ',' ((s' :: path).map Segment.elementChars) := rfl
      rw [hjoin, List.append_assoc, run_append hrun, List.cons_append,
        run_cons hcompletes.comma, ih (List.cons_ne_nil s' path), List.map_cons (l := s' :: path),
        List.reverse_cons, List.append_assoc, List.singleton_append]

/-- What a path is read as when it was written as an array. -/
theorem read_arrayChars (path : Path) :
    read path.arrayChars = some (path.map Segment.element?) := by
  have hopen : opening.step '\x7b' = some (before []) := rfl
  cases path with
  | nil => rfl
  | cons s path =>
    rw [read, Path.arrayChars, run_cons hopen, run_elements (List.cons_ne_nil _ _),
      Option.bind_some, finish, List.append_nil, List.reverse_reverse]

/-- The elements of an array in a string literal. -/
def readLiteral (cs : List Char) : Option Elements :=
  match Sql.lex .plain cs with
  | some [.literal content] => read content
  | _ => none

theorem readLiteral_arrayText (path : Path) :
    readLiteral (Dialect.postgres.literal path.arrayText).chars =
      some (path.map Segment.element?) := by
  have hchars : (Dialect.postgres.literal path.arrayText).chars =
      Sql.literalChars .plain path.arrayText := List.append_nil _
  have hcontent : path.arrayText.toList = path.arrayChars := String.toList_ofList
  rw [readLiteral, hchars, Sql.lex_literalChars, hcontent]
  exact read_arrayChars path

end TextArray

namespace Segment

/-- The text of a step is what it is read as, unless it is a key that is the word `NULL`. -/
theorem element?_eq_label_iff (s : Segment) :
    s.element? = some s.label.toList ↔
      ∀ name, s = .key name → TextArray.isNullWord name.toList = false := by
  cases s with
  | key name =>
    rw [element?, label]
    constructor
    · intro helement other hother
      obtain rfl : name = other := Segment.key.inj hother
      by_contra hnull
      rw [if_pos (Bool.not_eq_false _ ▸ hnull)] at helement
      exact absurd helement (Option.some_ne_none _).symm
    · intro hname
      rw [hname name rfl, if_neg Bool.false_ne_true]
  | index n =>
    rw [element?_index, label, Nat.toList_repr]
    exact ⟨fun _ _ hkey => Segment.noConfusion hkey, fun _ => rfl⟩

end Segment

namespace Dialect

open Sql Sql.Fragment TextArray

/-- A path of several steps is handed over as an array that is read as the texts of the steps,
where a key that is the word `NULL` is missing; so it is read as those texts exactly if no key is
that word. -/
theorem readLiteral_arrow (column : Fragment) {path : Path} (h : 2 ≤ path.length)
    (asText : Bool) :
    arrow column path asText =
        column ++ sql (if asText then " #>> " else " #> ") ++ postgres.literal path.arrayText ∧
      readLiteral (postgres.literal path.arrayText).chars = some (path.map Segment.element?) ∧
      (readLiteral (postgres.literal path.arrayText).chars =
          some (path.map fun s => some s.label.toList) ↔
        ∀ name, .key name ∈ path → isNullWord name.toList = false) := by
  refine ⟨?_, readLiteral_arrayText path, ?_⟩
  · cases path with
    | nil => exact absurd h (by simp)
    | cons s path =>
      cases path with
      | nil => exact absurd h (by simp)
      | cons s' path => cases s <;> rfl
  · rw [readLiteral_arrayText, Option.some.injEq, List.map_inj_left]
    simp only [Segment.element?_eq_label_iff]
    constructor
    · intro hall name hname
      exact hall _ hname name rfl
    · rintro hall s hs name rfl
      exact hall name hs

/-- Keys with every character that means something in a literal or in an array, an empty key, and
one that begins like the word `NULL`. -/
theorem readLiteral_arrow_special :
    let path : Path := [.key "it's", .key "", .key " a,\"\x7b\\\x7d", .index 7, .key "NULLs"]
    2 ≤ path.length ∧
      arrow (sql "data") path true = sql "data" ++ sql " #>> " ++ postgres.literal path.arrayText ∧
      readLiteral (postgres.literal path.arrayText).chars =
        some (path.map fun s => some s.label.toList) := by
  intro path
  have hlength : 2 ≤ path.length := by decide
  obtain ⟨harrow, -, hread⟩ := readLiteral_arrow (sql "data") hlength true
  refine ⟨hlength, harrow, hread.mpr ?_⟩
  have hkeys : ∀ s ∈ path, ∀ name, s = .key name → isNullWord name.toList = false := by
    intro s hs
    rw [← Segment.element?_eq_label_iff]
    revert s
    decide
  exact fun name hname => hkeys _ hname name rfl

/-- A key that is the word `NULL` in letters of either case is lost. -/
theorem readLiteral_arrow_null :
    let path := Path.ofField "a.null"
    path = [.key "a", .key "null"] ∧ 2 ≤ path.length ∧
      (arrow (sql "data") path true).text = "data #>> '\x7ba,null\x7d'" ∧
      readLiteral (postgres.literal path.arrayText).chars = some [some ['a'], none] ∧
      readLiteral (postgres.literal path.arrayText).chars ≠
        some (path.map fun s => some s.label.toList) := by
  decide

end Dialect
end DocFilter
