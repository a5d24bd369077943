import DocFilter.Proofs.Query.Rewriting
import Mathlib.Data.List.TakeWhile

/-!
# Texts divided at the places of parameters

A division is a text taken apart: texts, and the name of a parameter between each two.  Read
with names behind sigils it is one text (`Division.text`), read with positions another one
(`Division.numbered`), and the texts around the names are the same in both.

Many divisions have the same text.  `Division.Places` picks one of them by the text alone: at
each place the sigil stands outside quotes and the name is bound and is the longest word behind
it, and no sigil that is left in the texts has a bound name behind it, unless it stands in
quotes.  A text has no two such divisions (`Places.eq_of_text_eq`), and what stands inside
quotes and what is not bound is left in the texts of the one it has (`Places.keeps_quoted`,
`Places.keeps_unbound`).
-/

namespace DocFilter

/-! ## Open quotes -/

namespace Sql

variable {q : Char} {cs : List Char}

/-- The quote that is open behind a character.  A quote ends at the next one of its kind: one
that is written twice ends it and opens it again, and a backslash in front makes no difference. -/
def openedBy (opened : Option Char) (c : Char) : Option Char :=
  match opened with
  | none => if Dialect.opensQuote c then some c else none
  | some q => if c = q then none else some q

/-- The quote that is open behind a text. -/
def quoteAfter (opened : Option Char) (cs : List Char) : Option Char := cs.foldl openedBy opened

theorem quoteAfter_append (opened : Option Char) (a b : List Char) :
    quoteAfter opened (a ++ b) = quoteAfter (quoteAfter opened a) b := List.foldl_append

theorem quoteAfter_of_quoteless (h : ∀ c ∈ cs, Dialect.opensQuote c = false) :
    quoteAfter none cs = none := by
  induction cs with
  | nil => rfl
  | cons c cs ih =>
    obtain ⟨hc, hcs⟩ := List.forall_mem_cons.mp h
    rw [quoteAfter, List.foldl_cons, openedBy, hc]
    exact ih hcs

theorem quoteAfter_of_notMem (h : q ∉ cs) : quoteAfter (some q) cs = some q := by
  induction cs with
  | nil => rfl
  | cons c cs ih =>
    obtain ⟨hc, hcs⟩ := not_or.mp (mt List.mem_cons.mpr h)
    rw [quoteAfter, List.foldl_cons, openedBy, if_neg (Ne.symm hc)]
    exact ih hcs

theorem opensQuote_of_isWordChar {c : Char} (h : isWordChar c = true) :
    Dialect.opensQuote c = false := by
  rw [Dialect.opensQuote, Bool.or_eq_false_iff, beq_eq_false_iff_ne, beq_eq_false_iff_ne]
  constructor <;> rintro rfl <;> exact absurd h (by decide)

/-- The longest word a text begins with. -/
def wordOf (cs : List Char) : List Char := cs.takeWhile isWordChar

/-- A text behind its longest word. -/
def behindWord (cs : List Char) : List Char := cs.dropWhile isWordChar

theorem wordOf_append_behindWord (cs : List Char) : wordOf cs ++ behindWord cs = cs :=
  List.takeWhile_append_dropWhile

theorem isWordChar_of_mem_wordOf {c : Char} (h : c ∈ wordOf cs) : isWordChar c = true :=
  List.mem_takeWhile_imp h

theorem isWordChar_head?_behindWord {c : Char} (h : c ∈ (behindWord cs).head?) :
    isWordChar c = false := by
  have hfirst := List.head?_dropWhile_not isWordChar cs
  rw [show (cs.dropWhile isWordChar).head? = some c from h] at hfirst
  exact hfirst

/-- A word ends where a character stands that is in no word. -/
theorem wordOf_append_cons {c : Char} (hc : isWordChar c = false) (a b : List Char) :
    wordOf (a ++ c :: b) = wordOf a := by
  induction a with
  | nil => exact List.takeWhile_cons_of_neg (by simp [hc])
  | cons x a ih =>
    rw [List.cons_append, wordOf, wordOf, List.takeWhile_cons, List.takeWhile_cons]
    split
    · exact congrArg (x :: ·) ih
    · rfl

theorem behindWord_append_cons {c : Char} (hc : isWordChar c = false) (a b : List Char) :
    behindWord (a ++ c :: b) = behindWord a ++ c :: b := by
  have hword : wordOf a ++ behindWord (a ++ c :: b) = wordOf a ++ (behindWord a ++ c :: b) := by
    rw [← List.append_assoc, wordOf_append_behindWord, ← wordOf_append_cons hc a b,
      wordOf_append_behindWord]
  exact List.append_cancel_left hword

end Sql

/-! ## Divisions -/

/-- A text taken apart: texts, and between each two the name of a parameter. -/
inductive Division where
  | last (text : List Char)
  | place (text : List Char) (name : String) (rest : Division)

namespace Division

variable {d : Dialect} {a b t before after : List Char} {x : String} {l r v w : Division}

/-- The text with names behind sigils. -/
def text (d : Dialect) : Division → List Char
  | last t => t
  | place t x v => t ++ d.sigil :: (x.toList ++ v.text d)

/-- The text with positions, when `n` is the first one. -/
def numbered (d : Dialect) (n : Nat) : Division → List Char
  | last t => t
  | place t _ v => t ++ ((d.positional n).toList ++ v.numbered d (n + 1))

/-- The names, in order. -/
def names : Division → List String
  | last _ => []
  | place _ x v => x :: v.names

/-- Two divisions as one: the last text of the first goes on with the first text of the
second. -/
def append : Division → Division → Division
  | last t, last u => last (t ++ u)
  | last t, place u x v => place (t ++ u) x v
  | place t x l, r => place t x (append l r)

instance : Append Division := ⟨append⟩

@[simp] theorem last_append_last : last a ++ last b = last (a ++ b) := rfl

@[simp] theorem last_append_place : last a ++ place b x v = place (a ++ b) x v := rfl

@[simp] theorem place_append : place t x l ++ r = place t x (l ++ r) := rfl

@[simp] theorem nil_append : last [] ++ v = v := by
  cases v <;> rfl

theorem text_append (l r : Division) : (l ++ r).text d = l.text d ++ r.text d := by
  induction l with
  | last t =>
    cases r with
    | last u => rfl
    | place u x v => exact List.append_assoc _ _ _
  | place t x l ih =>
    rw [place_append, text, text, ih, List.append_assoc, List.cons_append, List.append_assoc]

theorem numbered_append (n : Nat) (l r : Division) :
    (l ++ r).numbered d n = l.numbered d n ++ r.numbered d (n + l.names.length) := by
  induction l generalizing n with
  | last t =>
    cases r with
    | last u => rfl
    | place u x v => exact List.append_assoc _ _ _
  | place t x l ih =>
    rw [place_append, numbered, numbered, ih, List.append_assoc, List.append_assoc, names,
      List.length_cons, Nat.add_assoc, Nat.add_comm 1]

protected theorem append_assoc (u v w : Division) : u ++ v ++ w = u ++ (v ++ w) := by
  induction u with
  | last t =>
    cases v with
    | last s =>
      cases w with
      | last s' => exact congrArg last (List.append_assoc _ _ _)
      | place s' x w => exact congrArg (place · x w) (List.append_assoc _ _ _)
    | place s x v => rfl
  | place t x u ih => exact congrArg (place t x) ih

theorem char_append_inj {c c' : Char} :
    last [c] ++ v = last [c'] ++ w ↔ c = c' ∧ v = w := by
  cases v <;> cases w <;> simp [and_assoc]

theorem char_append_ne_place {c : Char} : last [c] ++ v ≠ place [] x w := by
  cases v <;> simp

/-- Where a character and a division behind it are cut. -/
theorem eq_of_char_append {c : Char} (h : last [c] ++ v = l ++ r) :
    (l = last [] ∧ r = last [c] ++ v) ∨ ∃ l', l = last [c] ++ l' ∧ v = l' ++ r := by
  cases l with
  | last a =>
    cases a with
    | nil => exact Or.inl ⟨rfl, by rw [h, nil_append]⟩
    | cons c' a =>
      have hsplit : last (c' :: a) = last [c'] ++ last a := rfl
      rw [hsplit, Division.append_assoc] at h
      obtain ⟨rfl, hv⟩ := char_append_inj.mp h
      exact Or.inr ⟨last a, rfl, hv⟩
  | place t x l =>
    right
    cases v with
    | last u => exact absurd h (by simp)
    | place u y v =>
      simp only [last_append_place, place_append, place.injEq] at h
      obtain ⟨rfl, rfl, rfl⟩ := h
      exact ⟨place u y l, rfl, rfl⟩

/-- Where a place and a division behind it are cut. -/
theorem eq_of_place_append (h : place [] x v = l ++ r) :
    (l = last [] ∧ r = place [] x v) ∨ ∃ l', l = place [] x l' ∧ v = l' ++ r := by
  cases l with
  | last a =>
    left
    cases r with
    | last b => exact absurd h (by simp)
    | place b y r =>
      simp only [last_append_place, place.injEq] at h
      obtain ⟨hab, rfl, rfl⟩ := h
      obtain ⟨rfl, rfl⟩ := List.append_eq_nil_iff.mp hab.symm
      exact ⟨rfl, rfl⟩
  | place t y l =>
    right
    simp only [place_append, place.injEq] at h
    obtain ⟨rfl, rfl, rfl⟩ := h
    exact ⟨l, rfl, rfl⟩

/-- Where the text of a division is cut, the division is cut as well, or a name is. -/
theorem exists_cut (h : v.text d = before ++ after) :
    (∃ l r, v = l ++ r ∧ l.text d = before ∧ r.text d = after) ∨
      ∃ l x r a b, v = l ++ place [] x r ∧ before = l.text d ++ d.sigil :: a ∧
        x.toList = a ++ b ∧ b ≠ [] ∧ after = b ++ r.text d := by
  induction v generalizing before with
  | last t => exact Or.inl ⟨last before, last after, congrArg last h, rfl, rfl⟩
  | place t x v ih =>
    -- The cut is behind the first text, or in it.
    rcases List.append_eq_append_iff.mp h with ⟨e, rfl, he⟩ | ⟨e, rfl, rfl⟩
    · cases e with
      | nil =>
        exact Or.inl ⟨last t, place [] x v, by simp, (List.append_nil t).symm, he⟩
      | cons c e =>
        rw [List.cons_append] at he
        obtain ⟨rfl, hrest⟩ := List.cons.inj he
        -- It is behind the first name, or in it.
        rcases List.append_eq_append_iff.mp hrest with ⟨e', rfl, he'⟩ | ⟨b, hx, rfl⟩
        · rcases ih he' with ⟨l, r, rfl, rfl, hr⟩ | ⟨l, y, r, a, b, rfl, rfl, hy⟩
          · exact Or.inl ⟨place t x l, r, rfl, rfl, hr⟩
          · refine Or.inr ⟨place t x l, y, r, a, b, rfl, ?_, hy⟩
            rw [text, List.append_assoc, List.cons_append, List.append_assoc]
        · by_cases hb : b = []
          · refine Or.inl ⟨place t x (last []), v, by simp, ?_, ?_⟩
            · rw [text, text, hx, hb]
              simp
            · rw [hb, List.nil_append]
          · exact Or.inr ⟨last t, x, v, e, b, by simp, rfl, hx, hb, rfl⟩
    · exact Or.inl ⟨last before, place e x v, rfl, rfl, rfl⟩

/-! ## The places of parameters -/

/-- A parameter is marked in a text that begins inside `opened`: the sigil stands outside
quotes, and the name is bound and is the longest word behind it. -/
structure Marked (bindings : Bindings) (opened : Option Char) (before : List Char) (name : String)
    (behind : List Char) : Prop where
  outside : Sql.quoteAfter opened before = none
  longest : Sql.wordOf (name.toList ++ behind) = name.toList
  bound : name ∈ bindings.keys

/-- The places of a division are the places of parameters in its text. -/
structure Places (d : Dialect) (bindings : Bindings) (opened : Option Char) (v : Division) :
    Prop where
  /-- At each place a parameter is marked. -/
  marked : ∀ l x r, v = l ++ place [] x r → Marked bindings opened (l.text d) x (r.text d)
  /-- A sigil that stands in one of the texts, outside quotes, marks no parameter. -/
  unmarked : ∀ l r, v = l ++ (last [d.sigil] ++ r) → Sql.quoteAfter opened (l.text d) = none →
    String.ofList (Sql.wordOf (r.text d)) ∉ bindings.keys

variable {bindings : Bindings} {opened : Option Char} {c : Char}

theorem Marked.append (h : Marked bindings (Sql.quoteAfter opened a) before x after) :
    Marked bindings opened (a ++ before) x after :=
  ⟨(Sql.quoteAfter_append _ _ _).trans h.outside, h.longest, h.bound⟩

theorem Marked.isWordChar (h : Marked bindings opened before x after) {c : Char}
    (hc : c ∈ x.toList) : Sql.isWordChar c = true := by
  rw [← h.longest] at hc
  exact Sql.isWordChar_of_mem_wordOf hc

/-- Behind a sigil that stands outside quotes, a word leads into no quote. -/
theorem quoteAfter_sigil_append (d : Dialect) (ha : ∀ c ∈ a, Sql.isWordChar c = true) :
    Sql.quoteAfter none (d.sigil :: a) = none := by
  refine Sql.quoteAfter_of_quoteless fun c hc => ?_
  rcases List.mem_cons.mp hc with rfl | hc
  · exact d.opensQuote_sigil
  · exact Sql.opensQuote_of_isWordChar (ha c hc)

theorem places_nil : Places d bindings opened (last []) where
  marked l x r h := by
    have htext := congrArg (text d) h
    rw [text_append] at htext
    exact absurd htext (by simp [text])
  unmarked l r h := by
    have htext := congrArg (text d) h
    rw [text_append, text_append] at htext
    exact absurd htext (by simp [text])

/-- A character in front, which marks no parameter. -/
theorem Places.cons_char (h : Places d bindings (Sql.openedBy opened c) v)
    (hc : opened = none → c = d.sigil → String.ofList (Sql.wordOf (v.text d)) ∉ bindings.keys) :
    Places d bindings opened (last [c] ++ v) where
  marked l x r heq := by
    rcases eq_of_char_append heq with ⟨-, hr⟩ | ⟨l', rfl, hv⟩
    · exact absurd hr.symm char_append_ne_place
    · rw [text_append]
      exact (h.marked l' x r hv).append
  unmarked l r heq hopened := by
    rcases eq_of_char_append heq with ⟨rfl, hr⟩ | ⟨l', rfl, hv⟩
    · obtain ⟨rfl, rfl⟩ := char_append_inj.mp hr
      exact hc hopened rfl
    · rw [text_append, Sql.quoteAfter_append] at hopened
      exact h.unmarked l' r hv hopened

/-- A place in front. -/
theorem Places.cons_place (h : Places d bindings none v)
    (hx : Marked bindings none [] x (v.text d)) : Places d bindings none (place [] x v) where
  marked l y r heq := by
    rcases eq_of_place_append heq with ⟨rfl, hr⟩ | ⟨l', rfl, hv⟩
    · obtain ⟨-, rfl, rfl⟩ := place.inj hr
      exact hx
    · have hopened := quoteAfter_sigil_append d fun c hc => hx.isWordChar hc
      have htext : (place [] x l').text d = (d.sigil :: x.toList) ++ l'.text d := rfl
      rw [htext]
      refine Marked.append ?_
      rw [hopened]
      exact h.marked l' y r hv
  unmarked l r heq hopened := by
    rcases eq_of_place_append heq with ⟨rfl, hr⟩ | ⟨l', rfl, hv⟩
    · exact absurd hr char_append_ne_place
    · have htext : (place [] x l').text d = (d.sigil :: x.toList) ++ l'.text d := rfl
      rw [htext, Sql.quoteAfter_append,
        quoteAfter_sigil_append d fun c hc => hx.isWordChar hc] at hopened
      exact h.unmarked l' r hv hopened

theorem Places.marked_append (h : Places d bindings opened (l ++ place t x r)) :
    Marked bindings opened (l.text d ++ t) x (r.text d) := by
  have hcut : l ++ place t x r = l ++ last t ++ place [] x r := by
    rw [Division.append_assoc, last_append_place, List.append_nil]
  have hmarked := h.marked _ x r hcut
  rw [text_append] at hmarked
  exact hmarked

theorem Places.first (h : Places d bindings opened (place t x v)) :
    Marked bindings opened t x (v.text d) :=
  h.marked_append (l := last [])

/-- Behind a place, the places are those of the rest. -/
theorem Places.rest (h : Places d bindings opened (place t x v)) : Places d bindings none v := by
  have hx := h.first
  have htext (l : Division) :
      (place t x l).text d = t ++ ((d.sigil :: x.toList) ++ l.text d) := rfl
  have hopened (l : Division) : Sql.quoteAfter opened ((place t x l).text d) =
      Sql.quoteAfter none (l.text d) := by
    rw [htext, Sql.quoteAfter_append, hx.outside, Sql.quoteAfter_append,
      quoteAfter_sigil_append d fun c hc => hx.isWordChar hc]
  constructor
  · intro l y r hv
    obtain ⟨hout, hlongest, hbound⟩ := h.marked (place t x l) y r (congrArg (place t x) hv)
    exact ⟨(hopened l).symm.trans hout, hlongest, hbound⟩
  · intro l r hv hout
    exact h.unmarked (place t x l) r (congrArg (place t x) hv) ((hopened l).trans hout)

/-! ## One division for each text -/

/-- Where one division has its first place, no other goes on with its first text. -/
theorem Places.not_longer (hv : Places d bindings opened (place t x v))
    (hw : Places d bindings opened (last t ++ (last [d.sigil] ++ w)))
    (htext : w.text d = x.toList ++ v.text d) : False := by
  have hx := hv.first
  refine hw.unmarked (last t) w rfl hx.outside ?_
  rw [htext, hx.longest, String.ofList_toList]
  exact hx.bound

/-- Two divisions of a text have the same text in front of their first places. -/
theorem Places.first_eq (hv : Places d bindings opened (place t x v))
    (hw : Places d bindings opened (place b y w))
    (htext : (place t x v).text d = (place b y w).text d) : t = b := by
  rcases List.append_eq_append_iff.mp htext with ⟨e, rfl, he⟩ | ⟨e, rfl, he⟩
  · cases e with
    | nil => exact (List.append_nil t).symm
    | cons c e =>
      obtain ⟨rfl, hrest⟩ := List.cons.inj he
      exact (hv.not_longer (w := place e y w) hw hrest.symm).elim
  · cases e with
    | nil => exact List.append_nil b
    | cons c e =>
      obtain ⟨rfl, hrest⟩ := List.cons.inj he
      exact (hw.not_longer (w := place e x v) hv hrest.symm).elim

/-- A text has one division at the places of parameters, and no other. -/
theorem Places.eq_of_text_eq (hv : Places d bindings opened v) (hw : Places d bindings opened w)
    (htext : v.text d = w.text d) : v = w := by
  induction v generalizing opened w with
  | last t =>
    cases w with
    | last u => exact congrArg last htext
    | place u y w =>
      obtain rfl : t = u ++ d.sigil :: (y.toList ++ w.text d) := htext
      exact (hw.not_longer (w := last (y.toList ++ w.text d)) hv rfl).elim
  | place t x v ih =>
    cases w with
    | last u =>
      obtain rfl : t ++ d.sigil :: (x.toList ++ v.text d) = u := htext
      exact (hv.not_longer (w := last (x.toList ++ v.text d)) hw rfl).elim
    | place u y w =>
      obtain rfl := hv.first_eq hw htext
      have hbehind : x.toList ++ v.text d = y.toList ++ w.text d :=
        (List.cons.inj (List.append_cancel_left htext)).2
      have hname : x = y :=
        String.toList_injective (by rw [← hv.first.longest, hbehind, hw.first.longest])
      obtain rfl := hname
      rw [ih hv.rest hw.rest (List.append_cancel_left hbehind)]

/-! ## What stays as it is -/

/-- A stretch of a text stays as it is: it stands in one of the texts of the division, and it
comes out between what the texts in front of it and behind it come out as. -/
def Keeps (d : Dialect) (v : Division) (before stretch after : List Char) : Prop :=
  ∃ l r : Division, l.text d = before ∧ r.text d = after ∧ v = l ++ (last stretch ++ r) ∧
    v.numbered d 1 = l.numbered d 1 ++ (stretch ++ r.numbered d (1 + l.names.length))

theorem keeps_of_eq {z : List Char} (h : v = l ++ (last z ++ r)) :
    Keeps d v (l.text d) z (r.text d) := by
  refine ⟨l, r, rfl, rfl, h, ?_⟩
  rw [h, numbered_append, numbered_append]
  rfl

/-- Inside quotes no place begins. -/
theorem Places.exists_of_quoted {q : Char} (h : Places d bindings opened v)
    (hq : Sql.quoteAfter opened before = some q) (htext : v.text d = before ++ after) :
    ∃ l r, v = l ++ r ∧ l.text d = before ∧ r.text d = after := by
  rcases exists_cut htext with hcut | ⟨l, x, r, a, b, rfl, rfl, hx, -, -⟩
  · exact hcut
  · have hmarked := h.marked l x r rfl
    have hword (c : Char) (hc : c ∈ a) : Sql.isWordChar c = true :=
      hmarked.isWordChar (by rw [hx]; exact List.mem_append_left b hc)
    rw [Sql.quoteAfter_append, hmarked.outside, quoteAfter_sigil_append d hword] at hq
    exact absurd hq (by simp)

/-- Text inside quotes stays as it is. -/
theorem Places.keeps_quoted {q : Char} {z : List Char} (h : Places d bindings opened v)
    (hq : Sql.quoteAfter opened before = some q) (hz : q ∉ z)
    (htext : v.text d = before ++ (z ++ after)) : Keeps d v before z after := by
  obtain ⟨l, r, rfl, rfl, hr⟩ := h.exists_of_quoted hq htext
  cases r with
  | last u =>
    obtain rfl : u = z ++ after := hr
    exact keeps_of_eq (r := last after) rfl
  | place u x r =>
    rcases List.append_eq_append_iff.mp hr with ⟨e, rfl, -⟩ | ⟨e, rfl, rfl⟩
    · -- A place that begins in the stretch would begin inside its quote.
      have hu : q ∉ u := fun hmem => hz (List.mem_append_left e hmem)
      have hout := h.marked_append.outside
      rw [Sql.quoteAfter_append, hq] at hout
      exact absurd ((Sql.quoteAfter_of_notMem hu).symm.trans hout) (by simp)
    · exact keeps_of_eq (r := place e x r) rfl

/-- A sigil with a name that is not bound stays as it is. -/
theorem Places.keeps_unbound (h : Places d bindings opened v)
    (hopened : Sql.quoteAfter opened before = none)
    (hunbound : String.ofList (Sql.wordOf after) ∉ bindings.keys)
    (htext : v.text d = before ++ d.sigil :: after) :
    Keeps d v before (d.sigil :: Sql.wordOf after) (Sql.behindWord after) := by
  rcases exists_cut htext with ⟨l, r, rfl, rfl, hr⟩ | ⟨l, x, r, a, b, rfl, rfl, hx, hb, hr⟩
  · cases r with
    | last u =>
      obtain rfl : u = d.sigil :: after := hr
      refine keeps_of_eq (r := last (Sql.behindWord after)) ?_
      rw [last_append_last, List.cons_append, Sql.wordOf_append_behindWord]
    | place u x r =>
      have hmarked := h.marked_append
      cases u with
      | nil =>
        obtain rfl : x.toList ++ r.text d = after := (List.cons.inj hr).2
        rw [hmarked.longest, String.ofList_toList] at hunbound
        exact absurd hmarked.bound hunbound
      | cons c u =>
        obtain ⟨rfl, rfl⟩ := List.cons.inj hr
        -- The word ends in this text, at the latest in front of the next sigil.
        rw [List.append_eq, Sql.wordOf_append_cons d.isWordChar_sigil,
          Sql.behindWord_append_cons d.isWordChar_sigil]
        refine keeps_of_eq (r := place (Sql.behindWord u) x r) ?_
        rw [last_append_place, List.cons_append, Sql.wordOf_append_behindWord]
  · -- A sigil is no character of a name.
    have hmarked := h.marked l x r rfl
    obtain ⟨c, b, rfl⟩ := List.exists_cons_of_ne_nil hb
    obtain ⟨rfl, -⟩ := List.cons.inj hr
    have hword := hmarked.isWordChar (hx ▸ List.mem_append_right a List.mem_cons_self)
    rw [d.isWordChar_sigil] at hword
    exact absurd hword (by simp)

end Division

end DocFilter
