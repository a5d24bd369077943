import DocFilter.Proofs.Query.Division
import DocFilter.Query.Translation

/-!
# Positions in any condition

A condition that is supplied as it stands need not be laid as a compiled one is: a quote may
stay open in it, a sigil may follow another one, a name may not be bound, or may be the beginning
of a longer one.  `rewrite` reads it all the same, and what it does is said by the one division
of the text at the places of its parameters: reading finds this division (`exists_reads`), so
positions stand at these places and nothing else has changed
(`Translation.existsUnique_division`).
-/

namespace DocFilter

/-! ## Reading finds the division -/

namespace Dialect

open Division

variable {d : Dialect} {bindings : Bindings} {opened : Option Char} {c : Char} {cs : List Char}
  {v : Division}

/-- Where a reading stands that is in no name. -/
def scanOf : Option Char → PlaceholderScan
  | none => .outside
  | some q => .quoted q

/-- Outside quotes, a sigil is read together with the word behind it. -/
theorem rewriteFrom_sigil (n : Nat) (cs : List Char) :
    d.rewriteFrom bindings .outside n (d.sigil :: cs) =
      d.settleName bindings (Sql.wordOf cs).reverse n fun n =>
        d.rewriteFrom bindings .outside n (Sql.behindWord cs) := by
  have hword (c : Char) (hc : c ∈ Sql.wordOf cs) : Sql.isWordChar c = true :=
    Sql.isWordChar_of_mem_wordOf hc
  have hread : d.rewriteFrom bindings (.named []) n (Sql.wordOf cs ++ Sql.behindWord cs) =
      d.rewriteFrom bindings (.named ((Sql.wordOf cs).reverse ++ [])) n (Sql.behindWord cs) :=
    rewriteFrom_word hword [] n _
  rw [Sql.wordOf_append_behindWord, List.append_nil] at hread
  rw [rewriteFrom_mark, hread, rewriteFrom_named fun c hc => Sql.isWordChar_head?_behindWord hc]

/-- Outside quotes, a word is passed over. -/
theorem rewriteFrom_wordOf (n : Nat) (cs : List Char) :
    d.rewriteFrom bindings .outside n cs =
      (d.rewriteFrom bindings .outside n (Sql.behindWord cs)).prepend (Sql.wordOf cs) := by
  have hplain : ∀ c ∈ Sql.wordOf cs, opensQuote c = false ∧ c ≠ d.sigil := by
    intro c hc
    have hword := Sql.isWordChar_of_mem_wordOf hc
    refine ⟨Sql.opensQuote_of_isWordChar hword, ?_⟩
    rintro rfl
    rw [d.isWordChar_sigil] at hword
    exact absurd hword (by simp)
  have hread : d.rewriteFrom bindings .outside n (Sql.wordOf cs ++ Sql.behindWord cs) = _ :=
    rewriteFrom_plain hplain n (Sql.behindWord cs)
  rw [Sql.wordOf_append_behindWord] at hread
  exact hread

/-- A character that marks no parameter comes out as it is. -/
theorem rewriteFrom_char
    (hc : opened = none → c = d.sigil → String.ofList (Sql.wordOf cs) ∉ bindings.keys) (n : Nat) :
    d.rewriteFrom bindings (scanOf opened) n (c :: cs) =
      (d.rewriteFrom bindings (scanOf (Sql.openedBy opened c)) n cs).prepend [c] := by
  cases opened with
  | some q =>
    rw [scanOf, rewriteFrom, Sql.openedBy]
    split <;> rfl
  | none =>
    by_cases hquote : opensQuote c = true
    · rw [scanOf, rewriteFrom, if_pos hquote, Sql.openedBy, if_pos hquote]
      rfl
    · rw [Sql.openedBy, if_neg hquote]
      by_cases hsigil : c = d.sigil
      · -- The name is not bound, so its word comes out as it does when it is read as no name.
        obtain rfl := hsigil
        have hnone := Dict.find?_eq_none (hc rfl rfl)
        rw [scanOf, rewriteFrom_sigil, settleName, List.reverse_reverse, hnone,
          rewriteFrom_wordOf n cs, Rewritten.prepend_prepend]
        rfl
      · rw [scanOf, rewriteFrom, if_neg hquote, if_neg hsigil]

/-- A sigil with a bound name comes out as a position. -/
theorem rewriteFrom_place {value : Bound}
    (hvalue : Dict.find? (String.ofList (Sql.wordOf cs)) bindings = some value) (n : Nat) :
    d.rewriteFrom bindings .outside n (d.sigil :: cs) =
      let after := d.rewriteFrom bindings .outside (n + 1) (Sql.behindWord cs)
      ⟨(d.positional n).toList ++ after.chars, value :: after.values⟩ := by
  rw [rewriteFrom_sigil, settleName, List.reverse_reverse, hvalue]

/-- A text that begins inside `opened` is read as a division says: it has the text, its places
are those of the parameters, and read from any position on the text comes out with positions. -/
structure Reads (d : Dialect) (bindings : Bindings) (opened : Option Char) (cs : List Char)
    (v : Division) : Prop where
  text_eq : v.text d = cs
  places : v.Places d bindings opened
  rewrite_eq : ∃ values : List Bound,
    v.names.map (fun x => Dict.find? x bindings) = values.map some ∧
    ∀ n, d.rewriteFrom bindings (scanOf opened) n cs = ⟨v.numbered d n, values⟩

theorem reads_nil : Reads d bindings opened [] (last []) :=
  ⟨rfl, places_nil, [], rfl, fun n => by cases opened <;> rfl⟩

theorem Reads.cons_char (h : Reads d bindings (Sql.openedBy opened c) cs v)
    (hc : opened = none → c = d.sigil → String.ofList (Sql.wordOf cs) ∉ bindings.keys) :
    Reads d bindings opened (c :: cs) (last [c] ++ v) := by
  obtain ⟨rfl, hplaces, values, hvalues, hrewrite⟩ := h
  refine ⟨text_append _ _, hplaces.cons_char hc, values, ?_, fun n => ?_⟩
  · cases v <;> exact hvalues
  · rw [rewriteFrom_char hc, hrewrite, numbered_append]
    rfl

theorem Reads.cons_place (h : Reads d bindings none (Sql.behindWord cs) v)
    (hx : String.ofList (Sql.wordOf cs) ∈ bindings.keys) :
    Reads d bindings none (d.sigil :: cs) (place [] (String.ofList (Sql.wordOf cs)) v) := by
  obtain ⟨htext, hplaces, values, hvalues, hrewrite⟩ := h
  have hcs : (String.ofList (Sql.wordOf cs)).toList ++ v.text d = cs := by
    rw [String.toList_ofList, htext, Sql.wordOf_append_behindWord]
  obtain ⟨value, hvalue⟩ := Option.isSome_iff_exists.mp (Dict.contains_iff.mpr hx)
  refine ⟨congrArg (d.sigil :: ·) hcs, hplaces.cons_place ⟨rfl, ?_, hx⟩, value :: values, ?_,
    fun n => ?_⟩
  · rw [hcs, String.toList_ofList]
  · rw [names, List.map_cons, hvalue, hvalues, List.map_cons]
  · rw [scanOf, rewriteFrom_place hvalue, ← scanOf, hrewrite]
    rfl

/-- Every text is read as some division says.  Behind a place reading goes on behind the whole
name, so the recursion is on the length. -/
theorem exists_reads (d : Dialect) (bindings : Bindings) (opened : Option Char) :
    ∀ cs, ∃ v, Reads d bindings opened cs v
  | [] => ⟨last [], reads_nil⟩
  | c :: cs => by
    by_cases hplace : opened = none ∧ c = d.sigil ∧
      String.ofList (Sql.wordOf cs) ∈ bindings.keys
    · obtain ⟨rfl, rfl, hx⟩ := hplace
      obtain ⟨v, hv⟩ := exists_reads d bindings none (Sql.behindWord cs)
      exact ⟨_, hv.cons_place hx⟩
    · obtain ⟨v, hv⟩ := exists_reads d bindings (Sql.openedBy opened c) cs
      exact ⟨_, hv.cons_char fun ho hc hx => hplace ⟨ho, hc, hx⟩⟩
termination_by cs => cs.length
decreasing_by
  · exact Nat.lt_succ_of_le (List.dropWhile_suffix _).length_le
  · exact Nat.lt_succ_self _

end Dialect

/-! ## Translations -/

namespace Translation

/-- A division tells what positions for names make of a translation. -/
structure DividedBy (out : Translation) (d : Dialect) (v : Division) : Prop where
  /-- With names behind sigils, the division is the condition. -/
  text_eq : v.text d = (out.conditionText.getD "").toList
  /-- With positions, counted from one, it is the condition with positions. -/
  positional_eq : v.numbered d 1 = (out.positional d).1.toList
  /-- The values are those of its names, in their order. -/
  values_eq : v.names.map (fun x => Dict.find? x out.bindings) = (out.positional d).2.map some
  /-- Its places are the places of parameters. -/
  places : v.Places d out.bindings none
  /-- What stands inside a quote stays as it is. -/
  quoted : ∀ before z after q, (out.conditionText.getD "").toList = before ++ (z ++ after) →
    Sql.quoteAfter none before = some q → q ∉ z → v.Keeps d before z after
  /-- A name that is not bound stays as it is, with its sigil. -/
  unbound : ∀ before behind, (out.conditionText.getD "").toList = before ++ d.sigil :: behind →
    Sql.quoteAfter none before = none →
    String.ofList (Sql.wordOf behind) ∉ out.bindings.keys →
    v.Keeps d before (d.sigil :: Sql.wordOf behind) (Sql.behindWord behind)

theorem positional_eq_rewrite (out : Translation) (d : Dialect) :
    out.positional d =
      (String.ofList (d.rewrite out.bindings (out.conditionText.getD "")).chars,
        (d.rewrite out.bindings (out.conditionText.getD "")).values) := by
  rw [positional]
  cases out.conditionText <;> rfl

/-- Whatever the condition and the bindings are, there is one division that tells what positions
for names make of them.  A condition that is supplied as it stands can be any text. -/
theorem existsUnique_division (out : Translation) (d : Dialect) :
    ∃! v : Division, out.DividedBy d v := by
  obtain ⟨v, htext, hplaces, values, hvalues, hrewrite⟩ :=
    d.exists_reads out.bindings none (out.conditionText.getD "").toList
  have hpositional : out.positional d = (String.ofList (v.numbered d 1), values) := by
    rw [positional_eq_rewrite, Dialect.rewrite, ← Dialect.scanOf, hrewrite]
  refine ⟨v, ⟨htext, ?_, ?_, hplaces, ?_, ?_⟩, fun w hw => ?_⟩
  · rw [hpositional, String.toList_ofList]
  · rw [hpositional, hvalues]
  · intro before z after q heq hq hz
    exact hplaces.keeps_quoted hq hz (htext.trans heq)
  · intro before behind heq hopened hunbound
    exact hplaces.keeps_unbound hopened hunbound (htext.trans heq)
  · exact hw.places.eq_of_text_eq hplaces (hw.text_eq.trans htext.symm)

/-- A name is read as far as it goes, and not inside quotes. -/
example : (⟨some (.verbatim "a = :a_1 OR a = :a_10 OR a = '::a_1' OR b = :a_1"), none,
    [("a_1", .int 7)], none, none, none⟩ : Translation).positional .postgres =
      ("a = $1 OR a = :a_10 OR a = '::a_1' OR b = $2", [.int 7, .int 7]) := by
  rfl

end Translation
end DocFilter
