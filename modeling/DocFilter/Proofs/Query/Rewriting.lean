import DocFilter.Proofs.Dialect.Operand
import DocFilter.Proofs.Dict
import DocFilter.Proofs.Text.Character
import DocFilter.Query.Positional

/-!
# Positions replace names, and nothing else

`rewrite` reads characters and knows nothing of the pieces they were made from.  It still
finds the places of the parameters again, and only those, because of what every laid
fragment is: quotes are closed where they were opened, outside of them no character but
the sigil of a place marks a parameter, and the name behind it ends where the piece ends.
The one exception is the double colon of a conversion to `numeric`, and no parameter has
that name, since every name has an underscore in it.

`positioned` is the fragment with positions for names, and `rewriteFrom_laid` says that
reading the text of the one yields the text of the other.  Both have the same texts around
the places (`chars_eq_spread`, `chars_positioned`).
-/

namespace DocFilter

namespace Rewritten

theorem prepend_prepend (a b : List Char) (r : Rewritten) :
    (r.prepend b).prepend a = r.prepend (a ++ b) := by
  rw [prepend, prepend, prepend, List.append_assoc]

end Rewritten

namespace Dialect

open Sql

variable {d : Dialect} {bindings : Bindings} {n : Nat} {f : Fragment}

/-! ## What one reading does to plain SQL, to quotes and to names -/

theorem rewriteFrom_plain {cs : List Char}
    (h : ∀ c ∈ cs, opensQuote c = false ∧ c ≠ d.sigil) (n : Nat) (rest : List Char) :
    d.rewriteFrom bindings .outside n (cs ++ rest) =
      (d.rewriteFrom bindings .outside n rest).prepend cs := by
  induction cs with
  | nil => rfl
  | cons c cs ih =>
    obtain ⟨hq, hs⟩ := h c List.mem_cons_self
    rw [List.cons_append, rewriteFrom, hq, if_neg Bool.false_ne_true, if_neg hs,
      ih fun x hx => h x (List.mem_cons_of_mem _ hx), Rewritten.prepend_prepend]
    rfl

/-- A quote is passed over as a whole: what is written twice in it closes it and opens it
again. -/
theorem rewriteFrom_quoted {q : Char} (hq : opensQuote q = true) (content : List Char) (n : Nat)
    (rest : List Char) :
    d.rewriteFrom bindings .outside n (q :: (doubled q content ++ [q]) ++ rest) =
      (d.rewriteFrom bindings .outside n rest).prepend (q :: (doubled q content ++ [q])) := by
  have hinside : d.rewriteFrom bindings (.quoted q) n (doubled q content ++ q :: rest) =
      (d.rewriteFrom bindings .outside n rest).prepend (doubled q content ++ [q]) := by
    induction content with
    | nil =>
      rw [doubled, List.flatMap_nil, List.nil_append, rewriteFrom, if_pos rfl]
      rfl
    | cons c content ih =>
      rw [doubled_cons]
      by_cases hc : c = q
      · rw [if_pos hc, List.append_assoc, List.cons_append, List.cons_append, List.nil_append,
          rewriteFrom, if_pos rfl, rewriteFrom, if_pos hq, ih, Rewritten.prepend_prepend,
          Rewritten.prepend_prepend]
        rfl
      · rw [if_neg hc, List.append_assoc, List.cons_append, List.nil_append, rewriteFrom,
          if_neg hc, ih, Rewritten.prepend_prepend]
        rfl
  rw [List.cons_append, List.append_assoc, List.singleton_append, rewriteFrom, if_pos hq,
    hinside, Rewritten.prepend_prepend]
  rfl

theorem rewriteFrom_word {w : List Char} (h : ∀ c ∈ w, isWordChar c = true) (seen : List Char)
    (n : Nat) (rest : List Char) :
    d.rewriteFrom bindings (.named seen) n (w ++ rest) =
      d.rewriteFrom bindings (.named (w.reverse ++ seen)) n rest := by
  induction w generalizing seen with
  | nil => rfl
  | cons c w ih =>
    rw [List.cons_append, rewriteFrom, if_pos (h c List.mem_cons_self),
      ih (fun x hx => h x (List.mem_cons_of_mem _ hx)), List.reverse_cons, List.append_assoc]
    rfl

/-- A name ends where no word goes on. -/
theorem rewriteFrom_named {rest : List Char}
    (h : ∀ c ∈ rest.head?, isWordChar c = false) (seen : List Char) (n : Nat) :
    d.rewriteFrom bindings (.named seen) n rest =
      d.settleName bindings seen n fun n => d.rewriteFrom bindings .outside n rest := by
  cases rest with
  | nil => rfl
  | cons c rest =>
    rw [rewriteFrom, h c rfl, if_neg Bool.false_ne_true]
    rfl

end Dialect

/-! ## The places, and the texts around them -/

/-- Texts with a place in front of each but the first. -/
def spread (first : List Char) (places gaps : List (List Char)) : List Char :=
  first ++ (List.zipWith (· ++ ·) places gaps).flatten

theorem append_spread (cs first : List Char) (places gaps : List (List Char)) :
    cs ++ spread first places gaps = spread (cs ++ first) places gaps :=
  (List.append_assoc _ _ _).symm

theorem spread_cons (place first : List Char) (places gaps : List (List Char)) :
    spread [] (place :: places) (first :: gaps) = place ++ spread first places gaps := by
  rw [spread, spread, List.nil_append, List.zipWith_cons_cons, List.flatten_cons,
    List.append_assoc]

namespace Sql.Fragment

/-- The text in front of the first place. -/
def firstGap : Fragment → List Char
  | [] => []
  | p :: f =>
    match p.name? with
    | some _ => []
    | none => p.chars ++ firstGap f

/-- The texts behind the places, each up to the next one. -/
def gaps : Fragment → List (List Char)
  | [] => []
  | p :: f =>
    match p.name? with
    | some _ => firstGap f :: gaps f
    | none => gaps f

/-- The fragment with positions for names, when `n` is the next position. -/
def positioned (d : Dialect) (n : Nat) : Fragment → Fragment
  | [] => []
  | p :: f =>
    match p.name? with
    | some _ => .bare (d.positional n) :: positioned d (n + 1) f
    | none => p :: positioned d n f

theorem length_gaps (f : Fragment) : f.gaps.length = f.names.length := by
  induction f with
  | nil => rfl
  | cons p f ih =>
    cases p with
    | placeholder sigil name => exact congrArg Nat.succ ih
    | _ => exact ih

end Sql.Fragment

namespace Dialect

open Sql

variable {d : Dialect} {bindings : Bindings} {f : Fragment}

theorem chars_eq_spread (h : d.Laid f) :
    f.chars = spread f.firstGap (f.names.map fun name => d.sigil :: name.toList) f.gaps := by
  induction f with
  | nil => rfl
  | cons p f ih =>
    obtain ⟨hp, hf, -⟩ := h.of_cons
    rw [Fragment.chars_cons, ih hf]
    cases p with
    | placeholder sigil name =>
      have hs : sigil = d.sigil := hp.1
      rw [hs]
      exact (spread_cons _ _ _ _).symm
    | _ => exact append_spread _ _ _ _

theorem chars_positioned (d : Dialect) (n : Nat) (f : Fragment) :
    (Fragment.positioned d n f).chars =
      spread f.firstGap ((List.range' n f.names.length).map fun i => (d.positional i).toList)
        f.gaps := by
  induction f generalizing n with
  | nil => rfl
  | cons p f ih =>
    cases hp : p.name? with
    | some name =>
      have hchars := Fragment.chars_cons (.bare (d.positional n)) (Fragment.positioned d (n + 1) f)
      rw [ih] at hchars
      simp only [Fragment.positioned, Fragment.firstGap, Fragment.gaps, Fragment.names,
        List.filterMap_cons, hp]
      exact hchars.trans (spread_cons _ _ _ _).symm
    | none =>
      have hchars := Fragment.chars_cons p (Fragment.positioned d n f)
      rw [ih] at hchars
      simp only [Fragment.positioned, Fragment.firstGap, Fragment.gaps, Fragment.names,
        List.filterMap_cons, hp]
      exact hchars.trans (append_spread _ _ _ _)

/-! ## Reading a laid fragment -/

/-- No parameter is bound under a name that a conversion could have. -/
def Underscored (bindings : Bindings) : Prop := ∀ k ∈ bindings.keys, '_' ∈ k.toList

theorem isWordChar_sigil (d : Dialect) : isWordChar d.sigil = false := by
  cases d <;> rfl

theorem opensQuote_sigil (d : Dialect) : opensQuote d.sigil = false := by
  cases d <;> rfl

theorem settleName_of_underscoreless (hb : Underscored bindings) {seen : List Char}
    (hs : '_' ∉ seen) (n : Nat) (rest : Nat → Rewritten) :
    d.settleName bindings seen n rest = (rest n).prepend (d.sigil :: seen.reverse) := by
  have hnone : Dict.find? (String.ofList seen.reverse) bindings = none := by
    refine Dict.find?_eq_none fun hk => hs ?_
    have hmem := hb _ hk
    rw [String.toList_ofList] at hmem
    exact List.mem_reverse.mp hmem
  rw [settleName, hnone]

theorem rewriteFrom_mark (n : Nat) (rest : List Char) :
    d.rewriteFrom bindings .outside n (d.sigil :: rest) =
      d.rewriteFrom bindings (.named []) n rest := by
  rw [rewriteFrom, opensQuote_sigil, if_neg Bool.false_ne_true, if_pos rfl]

/-- A word without an underscore stays behind its mark. -/
theorem rewriteFrom_unbound (hb : Underscored bindings) (w : List Char) {rest : List Char}
    (hw : ∀ c ∈ w, isWordChar c = true) (hu : '_' ∉ w)
    (hrest : ∀ c ∈ rest.head?, isWordChar c = false) (n : Nat) :
    d.rewriteFrom bindings .outside n (d.sigil :: (w ++ rest)) =
      (d.rewriteFrom bindings .outside n rest).prepend (d.sigil :: w) := by
  rw [rewriteFrom_mark, rewriteFrom_word hw, List.append_nil, rewriteFrom_named hrest,
    settleName_of_underscoreless hb (fun h => hu (List.mem_reverse.mp h)), List.reverse_reverse]

theorem plain_of_all {cs : List Char} (h : cs.all (fun c => !opensQuote c && c != d.sigil) = true) :
    ∀ c ∈ cs, opensQuote c = false ∧ c ≠ d.sigil := by
  intro c hc
  simpa using List.all_eq_true.mp h c hc

theorem rewriteFrom_numericCast (hb : Underscored bindings) (n : Nat) (rest : List Char) :
    d.rewriteFrom bindings .outside n (numericCast.toList ++ rest) =
      (d.rewriteFrom bindings .outside n rest).prepend numericCast.toList := by
  by_cases hd : d.sigil = ':'
  · have hend : ∀ c ∈ " END".toList, opensQuote c = false ∧ c ≠ d.sigil :=
      plain_of_all (by rw [hd]; rfl)
    have hblank (c : Char) (hc : c ∈ (" END".toList ++ rest).head?) : isWordChar c = false := by
      rw [← Option.some.inj hc]
      rfl
    have hcolon (c : Char)
        (hc : c ∈ (d.sigil :: ("numeric".toList ++ (" END".toList ++ rest))).head?) :
        isWordChar c = false := by
      rw [← Option.some.inj hc, isWordChar_sigil]
    have htext : numericCast.toList ++ rest =
        d.sigil :: ([] ++ d.sigil :: ("numeric".toList ++ (" END".toList ++ rest))) := by
      rw [hd]
      rfl
    rw [htext, rewriteFrom_unbound hb [] (by simp) (by simp) hcolon,
      rewriteFrom_unbound hb "numeric".toList (List.all_eq_true.mp rfl) (by decide) hblank,
      rewriteFrom_plain hend, Rewritten.prepend_prepend, Rewritten.prepend_prepend, hd]
    rfl
  · cases d with
    | sqlServer => exact rewriteFrom_plain (plain_of_all rfl) n rest
    | _ => exact absurd rfl hd

theorem rewriteFrom_placeless (hb : Underscored bindings) {p : Piece} (hp : d.Writes p)
    (hname : p.name? = none) (n : Nat) (rest : List Char) :
    d.rewriteFrom bindings .outside n (p.chars ++ rest) =
      (d.rewriteFrom bindings .outside n rest).prepend p.chars := by
  cases p with
  | bare text =>
    rcases hp.2 with hinert | rfl
    · refine rewriteFrom_plain (fun c hc => ?_) n rest
      have hi := List.all_eq_true.mp hinert c hc
      have hsingle : c ≠ '\'' := Text.ne_of_class hi rfl
      have hdouble : c ≠ '\"' := Text.ne_of_class hi rfl
      refine ⟨?_, Text.ne_of_class hi (by cases d <;> rfl)⟩
      rw [opensQuote, beq_eq_false_iff_ne.mpr hsingle, beq_eq_false_iff_ne.mpr hdouble,
        Bool.or_false]
    · exact rewriteFrom_numericCast hb n rest
  | literal style content =>
    cases style with
    | plain => exact rewriteFrom_quoted rfl content.toList n rest
    | escaping => exact rewriteFrom_quoted rfl (doubled '\\' content.toList) n rest
  | identifier name => exact rewriteFrom_quoted rfl name.toList n rest
  | placeholder sigil name => exact absurd hname (by simp [Piece.name?])

theorem isWordChar_getLast?_placeholder {field : String} {k : Nat} {sigil x : Char}
    (hx : x ∈ (Piece.placeholder sigil (parameterName field k)).chars.getLast?) :
    isWordChar x = true := by
  have hne : (parameterName field k).toList ≠ [] :=
    List.ne_nil_of_mem (underscore_mem_parameterName field k)
  rw [Piece.chars, ← List.singleton_append, List.getLast?_append_of_ne_nil _ hne] at hx
  exact isWordChar_of_mem_parameterName (List.mem_of_getLast? hx)

/-- Where the place of a parameter stands, no word goes on behind it. -/
theorem isWordChar_head?_of_apart {field : String} {k : Nat} {sigil : Char} {rest : List Char}
    (h : Apart (Piece.placeholder sigil (parameterName field k)).chars rest) :
    ∀ c ∈ rest.head?, isWordChar c = false := by
  intro c hc
  have hne : (Piece.placeholder sigil (parameterName field k)).chars ≠ [] :=
    List.cons_ne_nil _ _
  have hx := List.getLast?_eq_some_getLast hne
  have hword := isWordChar_getLast?_placeholder hx
  have := (h _ hx c hc).1
  simpa [hword] using this

/-- Reading the text of a laid fragment gives the text of the fragment with positions for
names, and the values in order. -/
theorem rewriteFrom_laid (hb : Underscored bindings) (hf : d.Laid f) {vs : List Bound}
    (hvs : f.names.map (fun name => Dict.find? name bindings) = vs.map some) (n : Nat) :
    d.rewriteFrom bindings .outside n f.chars = ⟨(Fragment.positioned d n f).chars, vs⟩ := by
  induction f generalizing n vs with
  | nil =>
    have hnil : vs = [] := List.map_eq_nil_iff.mp hvs.symm
    rw [hnil]
    rfl
  | cons p f ih =>
    obtain ⟨hp, hrest, hapart⟩ := hf.of_cons
    rw [Fragment.chars_cons]
    cases hname : p.name? with
    | none =>
      have hnames : Fragment.names (p :: f) = Fragment.names f := List.filterMap_cons_none hname
      rw [hnames] at hvs
      rw [rewriteFrom_placeless hb hp hname, ih hrest hvs]
      simp only [Fragment.positioned, hname, Rewritten.prepend, Fragment.chars_cons]
    | some name =>
      obtain ⟨sigil, rfl⟩ : ∃ sigil, p = .placeholder sigil name := by
        cases p with
        | placeholder sigil name' => exact ⟨sigil, by rw [Option.some.inj hname]⟩
        | _ => exact absurd hname (by simp [Piece.name?])
      obtain ⟨rfl, field, k, rfl⟩ := hp
      have hnames : Fragment.names (.placeholder d.sigil (parameterName field k) :: f) =
          parameterName field k :: Fragment.names f := rfl
      rw [hnames, List.map_cons] at hvs
      obtain ⟨v, vs', rfl, hv, hvs'⟩ := List.map_eq_cons_iff.mp hvs.symm
      have hword : ∀ c ∈ (parameterName field k).toList, isWordChar c = true :=
        fun c hc => isWordChar_of_mem_parameterName hc
      rw [Piece.chars, List.cons_append, rewriteFrom_mark, rewriteFrom_word hword,
        List.append_nil, rewriteFrom_named (isWordChar_head?_of_apart hapart), settleName,
        List.reverse_reverse, String.ofList_toList, ← hv, ih hrest hvs'.symm]
      exact congrArg (Rewritten.mk · (v :: vs'))
        (Fragment.chars_cons (.bare (d.positional n)) (Fragment.positioned d (n + 1) f)).symm

end Dialect
end DocFilter
