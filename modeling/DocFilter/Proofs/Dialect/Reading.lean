import DocFilter.Proofs.Dialect.Operand
import DocFilter.Proofs.Sql.Reading

/-!
# Operands are read as one condition

An operand with a word or a symbol of its own, outside of its brackets, is read as
something, and as the same wherever it stands (`exists_reads`).  What formulas put around
their members is read as what it means: a conjunction as the conjunction of the readings of
its members, and so on (`all_reads`, `any_reads`, `not_reads`).

A `Clause` is a formula of both kinds, an operand that has a reading.
-/

namespace DocFilter
namespace Sql

/-! ## Fragments that are read as one condition -/

/-- Between two connectives, the fragment is read as this condition. -/
def Fragment.Reads (f : Fragment) (r : Reading) : Prop :=
  ∃ ns, nest f.tokens = some ns ∧ ReadsAs (partsOf ns) r

/-- A solid token stands outside of all brackets. -/
def Fragment.Solid (f : Fragment) : Prop :=
  ∃ ts t us, f.tokens = ts ++ t :: us ∧ depth [] ts = some [] ∧ t.isSolid = true

/-- An operand with a solid token in it is read as one condition. -/
theorem exists_reads {d : Dialect} {names : List String} {f : Fragment}
    (hf : d.Operand names f) (hs : f.Solid) : ∃ r, f.Reads r := by
  obtain ⟨ts, t, us, htokens, hts, ht⟩ := hs
  have hdepth := hf.depth
  rw [htokens, depth_append, hts, Option.bind_some, depth, List.foldlM_cons,
    Option.bind_eq_bind, Option.bind_eq_some_iff] at hdepth
  obtain ⟨bs, hstep, hus⟩ := hdepth
  rw [Token.depthStep_of_isSolid ht hstep] at hus
  have hrest : depth [] us = some [] := hus
  obtain ⟨ms, hms, -⟩ := exists_nest_of_depth hts
  obtain ⟨ns, hns, -⟩ := exists_nest_of_depth hrest
  obtain ⟨items, hitems, hjoinless⟩ := exists_nest_of_depth hf.depth
  have hwhole : nest f.tokens = some (ms ++ ([.token t] ++ ns)) := by
    rw [htokens]
    exact nest_append hms (nest_append (Token.nest_of_isSolid ht) hns)
  have heq : items = ms ++ ([.token t] ++ ns) := Option.some.inj (hitems.symm.trans hwhole)
  have hmem : Part.token t ∈ partsOf items := by
    rw [partsOf_eq_map, heq]
    exact List.mem_map.mpr ⟨.token t, List.mem_append_right _ List.mem_cons_self, rfl⟩
  obtain ⟨r, hr⟩ := readUnit_isSome hmem (Token.isSolid_iff.mp ht).2.2.2
  exact ⟨r, items, hitems, joinless_part hjoinless, hr⟩

/-! ## Formulas -/

theorem nest_formulaTail {word : String} {t : Token}
    (hword : nest (Dialect.bareTokens word) = some [.token t]) {φs : List Formula}
    {nss : List (List Nested)}
    (h : List.Forall₂ (fun φ ns => nest φ.fragment.tokens = some ns) φs nss) :
    nest (Formula.tailFragment word φs).tokens = some (nss.flatMap (.token t :: ·)) := by
  induction h with
  | nil => rfl
  | cons hφ _ ih =>
    rw [Formula.tailFragment, Fragment.tokens_append, Fragment.tokens_append, List.append_assoc,
      List.flatMap_cons, ← List.singleton_append, List.append_assoc]
    refine nest_append ?_ (nest_append hφ ih)
    rw [Fragment.sql, Dialect.tokens_singleton]
    exact hword

theorem exists_nests {φs : List Formula} {rs : List Reading}
    (h : List.Forall₂ (fun φ r => φ.fragment.Reads r) φs rs) :
    ∃ nss, List.Forall₂ (fun φ ns => nest φ.fragment.tokens = some ns) φs nss ∧
      List.Forall₂ ReadsAs (nss.map partsOf) rs := by
  induction h with
  | nil => exact ⟨[], .nil, .nil⟩
  | cons hφ _ ih =>
    obtain ⟨ns, hns, hreads⟩ := hφ
    obtain ⟨nss, hnss, hrest⟩ := ih
    exact ⟨ns :: nss, .cons hns hnss, .cons hreads hrest⟩

/-- A group in parentheses is read as what is in it. -/
theorem reads_group {f : Fragment} {ns : List Nested} {r : Reading}
    (hf : nest f.tokens = some [.group .paren ns]) (hr : readParts (partsOf ns) = some r) :
    f.Reads r := by
  refine ⟨_, hf, fun q hq => ?_, ?_⟩
  · rw [partsOf, partsOf, List.mem_singleton] at hq
    rw [hq]
    exact ⟨rfl, rfl⟩
  · exact hr

theorem nest_members {word : String} {t : Token}
    (hword : nest (Dialect.bareTokens word) = some [.token t]) {φ : Formula} {φs : List Formula}
    {ns : List Nested} {nss : List (List Nested)}
    (h : List.Forall₂ (fun φ ns => nest φ.fragment.tokens = some ns) (φ :: φs) (ns :: nss)) :
    nest (Fragment.sql "(" ++ (φ.fragment ++ Formula.tailFragment word φs) ++
        Fragment.sql ")").tokens =
      some [.group .paren (ns ++ nss.flatMap (.token t :: ·))] := by
  obtain ⟨hns, hnss⟩ := List.forall₂_cons.mp h
  rw [Fragment.tokens_append, Fragment.tokens_append, Fragment.tokens_append]
  exact nest_enclosed (nest_append hns (nest_formulaTail hword hnss))

/-- A conjunction of formulas is read as the conjunction of their readings. -/
theorem all_reads {φ : Formula} {φs : List Formula} {r : Reading} {rs : List Reading}
    (h : List.Forall₂ (fun φ r => φ.fragment.Reads r) (φ :: φs) (r :: rs)) :
    (Formula.all (φ :: φs)).fragment.Reads (.any [.all (r :: rs)]) := by
  obtain ⟨nss, hnss, hreads⟩ := exists_nests h
  obtain ⟨ns, nss, -, -, rfl⟩ := List.forall₂_cons_left_iff.mp hnss
  have hand : nest (Dialect.bareTokens " AND ") = some [.token (.word "AND".toList)] := rfl
  refine reads_group (nest_members hand hnss) ?_
  rw [partsOf_append, partsOf_flatMap]
  exact readParts_and rfl rfl hreads

/-- A disjunction of formulas is read as the disjunction of their readings. -/
theorem any_reads {φ : Formula} {φs : List Formula} {r : Reading} {rs : List Reading}
    (h : List.Forall₂ (fun φ r => φ.fragment.Reads r) (φ :: φs) (r :: rs)) :
    (Formula.any (φ :: φs)).fragment.Reads (.any ((r :: rs).map fun r => .all [r])) := by
  obtain ⟨nss, hnss, hreads⟩ := exists_nests h
  obtain ⟨ns, nss, -, -, rfl⟩ := List.forall₂_cons_left_iff.mp hnss
  have hor : nest (Dialect.bareTokens " OR ") = some [.token (.word "OR".toList)] := rfl
  refine reads_group (nest_members hor hnss) ?_
  rw [partsOf_append, partsOf_flatMap]
  exact readParts_or rfl hreads

/-- A formula counts as met by every document for its characters alone. -/
theorem Formula.chars_of_isAlways {φ : Formula} (h : φ.isAlways = true) :
    φ.fragment.chars = Formula.always.fragment.chars := by
  rw [← String.toList_ofList (l := φ.fragment.chars)]
  exact congrArg String.toList (beq_iff_eq.mp h)

theorem always_reads : Formula.always.fragment.Reads .always := by
  refine ⟨[.token (.word ['1']), .token (.symbol '='), .token (.word ['1'])], rfl,
    joinless_part fun t ht => ?_, rfl⟩
  simp only [List.mem_cons, Nested.token.injEq, List.not_mem_nil, or_false] at ht
  rcases ht with rfl | rfl | rfl <;> rfl

theorem never_reads : Formula.never.fragment.Reads .never := by
  refine ⟨[.token (.word ['1']), .token (.symbol '='), .token (.word ['0'])], rfl,
    joinless_part fun t ht => ?_, rfl⟩
  simp only [List.mem_cons, Nested.token.injEq, List.not_mem_nil, or_false] at ht
  rcases ht with rfl | rfl | rfl <;> rfl

/-- A negation is read as the negation of what it negates. -/
theorem not_reads {φ : Formula} {r : Reading} (h : φ.fragment.Reads r) :
    (Formula.not φ).fragment.Reads (.not (.any [.all [r]])) := by
  obtain ⟨ns, hns, hreads⟩ := h
  have hnot : nest [.word "NOT".toList, .symbol ' '] = some [.token (.word "NOT".toList)] := rfl
  have hnest : nest (Formula.not φ).fragment.tokens =
      some [.token (.word "NOT".toList), .group .paren ns] := by
    rw [Formula.fragment, Fragment.tokens_append, Fragment.tokens_append]
    exact nest_append hnot (nest_enclosed hns)
  have hgroup : readAtom [(Nested.group .paren ns).part] = some (.any [.all [r]]) :=
    readParts_single hreads
  refine ⟨_, hnest, joinless_part fun t ht => ?_, ?_⟩
  · rcases List.mem_cons.mp ht with ht | ht
    · rw [Nested.token.inj ht]
      rfl
    · exact absurd (List.mem_singleton.mp ht) (by simp)
  · exact congrArg (Option.map Reading.not) hgroup

/-- The text of an operand is read as the fragment is. -/
theorem read_chars {d : Dialect} {names : List String} {f : Fragment} {r : Reading}
    (hf : d.Operand names f) (hr : f.Reads r) :
    read d.literalStyle f.chars = some (.any [.all [r]]) := by
  obtain ⟨ns, hns, hreads⟩ := hr
  rw [read, hf.laid.lex, Option.bind_some, hns, Option.bind_some, readParts_single hreads]

end Sql

namespace Dialect

open Sql

variable {d : Dialect} {ns : List String} {f : Fragment}

/-! ## Solid fragments -/

/-- The token separates or negates. -/
def isIdle (t : Token) : Bool := t.isBlank || t.isKeyword "not"

/-- The text says something before it opens a bracket. -/
def saysFirst (text : String) : Bool :=
  ((bareTokens text).dropWhile isIdle).head?.any Token.isSolid

theorem depthStep_of_isIdle {t : Token} (h : isIdle t = true) : depthStep [] t = some [] := by
  cases t with
  | symbol c =>
    have hc : c = ' ' := by simpa [isIdle, Token.isBlank, Token.isKeyword] using h
    rw [hc]
    rfl
  | word w =>
    have hw : w.map Char.toLower = "not".toList := by
      simpa [isIdle, Token.isBlank, Token.isKeyword] using h
    simp only [depthStep, Token.opens?, Token.closes?, Token.isConnective, Token.isKeyword, hw]
    rfl
  | literal content => rfl
  | identifier name => rfl

theorem depth_idle {ts : List Token} (h : ∀ t ∈ ts, isIdle t = true) :
    depth [] ts = some [] := by
  induction ts with
  | nil => rfl
  | cons t ts ih =>
    rw [depth, List.foldlM_cons, depthStep_of_isIdle (h t List.mem_cons_self)]
    exact ih fun u hu => h u (List.mem_cons_of_mem _ hu)

theorem solid_sql {text : String} (h : saysFirst text = true) : (Fragment.sql text).Solid := by
  have htokens : (Fragment.sql text).tokens = bareTokens text := tokens_singleton _
  rw [saysFirst] at h
  cases hd : (bareTokens text).dropWhile isIdle with
  | nil =>
    rw [hd] at h
    exact absurd h Bool.false_ne_true
  | cons t us =>
    rw [hd] at h
    refine ⟨(bareTokens text).takeWhile isIdle, t, us, ?_,
      depth_idle fun u hu => List.all_eq_true.mp List.all_takeWhile u hu, h⟩
    rw [htokens, ← hd, List.takeWhile_append_dropWhile]

/-- A solid fragment stays solid in front of anything. -/
theorem solid_append {f : Fragment} (h : f.Solid) (g : Fragment) : Fragment.Solid (f ++ g) := by
  obtain ⟨ts, t, us, htokens, hts, ht⟩ := h
  refine ⟨ts, t, us ++ g.tokens, ?_, hts, ht⟩
  rw [Fragment.tokens_append, htokens, List.append_assoc]
  rfl

/-- A solid fragment stays solid behind an operand. -/
theorem solid_behind (hf : d.Operand ns f) {g : Fragment} (h : g.Solid) :
    Fragment.Solid (f ++ g) := by
  obtain ⟨ts, t, us, htokens, hts, ht⟩ := h
  refine ⟨f.tokens ++ ts, t, us, ?_, ?_, ht⟩
  · rw [Fragment.tokens_append, htokens, List.append_assoc]
  · rw [depth_append, hf.depth, Option.bind_some, hts]

/-! ## Clauses -/

/-- A formula whose text is an operand, and read as one condition. -/
structure Clause (d : Dialect) (names : List String) (φ : Formula) : Prop where
  operand : d.Operand names φ.fragment
  reads : ∃ r, φ.fragment.Reads r

namespace Clause

theorem self {φ : Formula} (h : d.Clause ns φ) : d.Clause φ.fragment.names φ :=
  ⟨h.operand.self, h.reads⟩

/-- An atom with a solid token is a clause. -/
theorem of_solid {a : Atom} (h : d.Operand ns a.fragment) (hs : a.fragment.Solid) :
    d.Clause ns (.atom a) :=
  ⟨h, exists_reads h hs⟩

theorem exists_readings {φs : List Formula} (h : ∀ φ ∈ φs, d.Clause φ.fragment.names φ) :
    ∃ rs, List.Forall₂ (fun φ r => φ.fragment.Reads r) φs rs := by
  induction φs with
  | nil => exact ⟨[], .nil⟩
  | cons φ φs ih =>
    obtain ⟨r, hr⟩ := (h φ List.mem_cons_self).reads
    obtain ⟨rs, hrs⟩ := ih fun ψ hψ => h ψ (List.mem_cons_of_mem _ hψ)
    exact ⟨r :: rs, .cons hr hrs⟩

end Clause

end Dialect
end DocFilter
