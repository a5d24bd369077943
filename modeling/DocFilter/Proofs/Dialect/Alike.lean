import DocFilter.Dialect.Condition
import DocFilter.Proofs.Dialect.Operand
import DocFilter.Proofs.Sql.Skeleton

/-!
# Fragments that differ in names only

Two fragments are alike when they have the same pieces but for what a client may choose:
the contents of literals, the names of parameters, and the number of an index behind an
arrow.  Alike fragments have one skeleton (`Alike.skeletonFrom_eq`), and every builder that
is given alike parts makes alike fragments.  A path enters a fragment as the content of a
literal, but for the arrows, which tell a key, an index and a longer path apart.
-/

namespace DocFilter
namespace Sql

/-- The steps of an arrow to a single key or index. -/
def arrowSteps : List String := [" -> ", " ->> "]

theorem dash_mem_of_mem_arrowSteps : ∀ step ∈ arrowSteps, '-' ∈ step.toList := by decide

/-- The same pieces, but for the contents of literals, the names of parameters and the
numbers of indices. -/
inductive Alike : Fragment → Fragment → Prop
  | nil : Alike [] []
  | cons (p : Piece) {f g : Fragment} (h : Alike f g) : Alike (p :: f) (p :: g)
  | literal (style : LiteralStyle) (a b : String) {f g : Fragment} (h : Alike f g) :
      Alike (.literal style a :: f) (.literal style b :: g)
  | placeholder (sigil : Char) (a b : String) {f g : Fragment} (h : Alike f g) :
      Alike (.placeholder sigil a :: f) (.placeholder sigil b :: g)
  | index {step : String} (hstep : step ∈ arrowSteps) (m n : Nat) {f g : Fragment}
      (h : Alike f g) : Alike (.bare step :: .bare m.repr :: f) (.bare step :: .bare n.repr :: g)

namespace Alike

variable {f g f' g' : Fragment}

theorem refl (f : Fragment) : Alike f f := by
  induction f with
  | nil => exact .nil
  | cons p f ih => exact .cons p ih

theorem symm (h : Alike f g) : Alike g f := by
  induction h with
  | nil => exact .nil
  | cons p _ ih => exact .cons p ih
  | literal style a b _ ih => exact .literal style b a ih
  | placeholder sigil a b _ ih => exact .placeholder sigil b a ih
  | index hstep m n _ ih => exact .index hstep n m ih

theorem append (h : Alike f g) (h' : Alike f' g') : Alike (f ++ f') (g ++ g') := by
  induction h with
  | nil => exact h'
  | cons p _ ih => exact .cons p ih
  | literal style a b _ ih => exact .literal style a b ih
  | placeholder sigil a b _ ih => exact .placeholder sigil a b ih
  | index hstep m n _ ih => exact .index hstep m n ih

/-- Plain SQL in front. -/
theorem opened (text : String) (h : Alike f g) :
    Alike (Fragment.sql text ++ f) (Fragment.sql text ++ g) := (refl _).append h

/-- Plain SQL behind. -/
theorem closed (h : Alike f g) (text : String) :
    Alike (f ++ Fragment.sql text) (g ++ Fragment.sql text) := h.append (refl _)

/-- Plain SQL between. -/
theorem linked (h : Alike f g) (text : String) (h' : Alike f' g') :
    Alike (f ++ Fragment.sql text ++ f') (g ++ Fragment.sql text ++ g') :=
  (h.closed text).append h'

/-! ## One skeleton -/

theorem bareTokens_repr (n : Nat) : Dialect.bareTokens n.repr = [.word (Nat.toDigits 10 n)] := by
  rw [Dialect.bareTokens, Nat.toList_repr,
    lex_word Nat.toDigits_ne_nil fun _ => isWordChar_of_mem_toDigits, Option.getD_some]

/-- The numeral behind an arrow is taken out. -/
theorem skeletonFrom_numeral (m : Char) (n : Nat) (ts : List Token) :
    skeletonFrom m .index (.word (Nat.toDigits 10 n) :: ts) = skeletonFrom m .anything ts := by
  have hdigits : (Nat.toDigits 10 n).all Char.isDigit = true := List.all_eq_true.mpr fun c hc =>
    Nat.isDigit_of_mem_toDigits (by decide) (by decide) hc
  rw [skeletonFrom, keep, if_pos (.inr ⟨rfl, hdigits⟩)]
  rfl

/-- The name behind a mark is taken out. -/
theorem skeletonFrom_name {m : Char} {s : Ahead} (hs : s ≠ .name) (w : List Char)
    (ts : List Token) :
    skeletonFrom m s (.symbol m :: .word w :: ts) =
      .symbol m :: skeletonFrom m .anything ts := by
  have hafter : s.after m (.symbol m) = .name := by rw [Ahead.after, if_pos rfl, if_neg hs]
  have hname : keep .name (.word w) = [] := by rw [keep, if_pos (.inl rfl)]
  rw [skeletonFrom, hafter, skeletonFrom, hname]
  rfl

/-- An arrow puts an index ahead. -/
theorem afterAll_arrow {d : Dialect} {step : String} (hstep : step ∈ arrowSteps) (s : Ahead) :
    s.afterAll d.sigil (Dialect.bareTokens step) = .index := by
  revert step
  cases d <;> cases s <;> decide

theorem afterAll_tokens_ne_name {d : Dialect} {p : Piece} (hp : d.Writes p) {s : Ahead}
    (hs : s ≠ .name) : s.afterAll d.sigil p.tokens ≠ .name := by
  cases hname : p.name? with
  | some name =>
    cases p with
    | placeholder sigil name => exact fun h => nomatch h
    | bare text => exact nomatch hname
    | literal style content => exact nomatch hname
    | identifier name => exact nomatch hname
  | none =>
    by_cases hcast : p = .bare Dialect.numericCast
    · rw [hcast]
      revert hs
      cases d <;> cases s <;> decide
    · have hsigil : Dialect.isInert d.sigil = false := by cases d <;> rfl
      exact Ahead.afterAll_ne_name hs
        (Dialect.symbol_notMem_tokens hp hname hsigil fun h => absurd h hcast)

/-- Alike fragments that the dialect writes have one skeleton. -/
theorem skeletonFrom_eq {d : Dialect} (h : Alike f g) (hf : ∀ p ∈ f, d.Writes p) {s : Ahead}
    (hs : s ≠ .name) :
    skeletonFrom d.sigil s f.tokens = skeletonFrom d.sigil s g.tokens := by
  induction h generalizing s with
  | nil => rfl
  | @cons p f g _ ih =>
    obtain ⟨hp, hf⟩ := List.forall_mem_cons.mp hf
    have hcons (f : Fragment) : Fragment.tokens (p :: f) = p.tokens ++ f.tokens := rfl
    rw [hcons, hcons, skeletonFrom_append, skeletonFrom_append,
      ih hf (afterAll_tokens_ne_name hp hs)]
  | @literal style a b f g _ ih =>
    obtain ⟨-, hf⟩ := List.forall_mem_cons.mp hf
    exact congrArg (Token.literal [] :: ·) (ih hf (s := .anything) (by decide))
  | @placeholder sigil a b f g _ ih =>
    obtain ⟨⟨rfl, -⟩, hrest⟩ := List.forall_mem_cons.mp hf
    have hcons (name : String) (f : Fragment) :
        Fragment.tokens (.placeholder d.sigil name :: f) =
          .symbol d.sigil :: .word name.toList :: f.tokens := rfl
    rw [hcons, hcons, skeletonFrom_name hs, skeletonFrom_name hs,
      ih hrest (s := .anything) (by decide)]
  | @index step hstep m n f g _ ih =>
    obtain ⟨-, hf⟩ := List.forall_mem_cons.mp hf
    obtain ⟨-, hf⟩ := List.forall_mem_cons.mp hf
    have hcons (n : Nat) (f : Fragment) : Fragment.tokens (.bare step :: .bare n.repr :: f) =
        Dialect.bareTokens step ++ .word (Nat.toDigits 10 n) :: f.tokens := by
      show Dialect.bareTokens step ++ (Dialect.bareTokens n.repr ++ f.tokens) = _
      rw [bareTokens_repr]
      rfl
    rw [hcons, hcons, skeletonFrom_append, skeletonFrom_append, afterAll_arrow hstep,
      skeletonFrom_numeral, skeletonFrom_numeral, ih hf (s := .anything) (by decide)]

/-- What is alike to plain SQL with neither quotes nor arrows in it is the same. -/
theorem eq_of_chars {d : Dialect} (h : Alike f g) (hf : ∀ p ∈ f, d.Writes p)
    (hplain : ∀ c ∈ f.chars, Dialect.isInert c = true ∧ c ≠ '-') : g = f := by
  induction h with
  | nil => rfl
  | @cons p f g _ ih =>
    obtain ⟨-, hrest⟩ := List.forall_mem_cons.mp hf
    rw [Fragment.chars_cons] at hplain
    rw [ih hrest fun c hc => hplain c (List.mem_append_right _ hc)]
  | literal style a b _ ih =>
    exact absurd (hplain '\'' List.mem_cons_self).1 (by decide)
  | @placeholder sigil a b f g _ ih =>
    obtain ⟨⟨rfl, -⟩, -⟩ := List.forall_mem_cons.mp hf
    exact absurd (hplain d.sigil List.mem_cons_self).1 (by cases d <;> decide)
  | @index step hstep m n f g _ ih =>
    have hdash : '-' ∈ step.toList := dash_mem_of_mem_arrowSteps step hstep
    rw [Fragment.chars_cons] at hplain
    exact absurd rfl (hplain '-' (List.mem_append_left _ hdash)).2

end Alike

/-- Fragments that are alike, one to one. -/
abbrev AlikeAll (fs gs : List Fragment) : Prop := List.Forall₂ Alike fs gs

theorem join_alike (between : String) {fs gs : List Fragment} (h : AlikeAll fs gs) :
    Alike (Fragment.join between fs) (Fragment.join between gs) := by
  induction h with
  | nil => exact .nil
  | cons hf hrest ih =>
    cases hrest with
    | nil => exact hf
    | cons hg hrest => exact hf.linked between ih

theorem call_alike (function : String) {fs gs : List Fragment} (h : AlikeAll fs gs) :
    Alike (Fragment.call function fs) (Fragment.call function gs) :=
  ((join_alike ", " h).opened _).closed ")"

theorem castBy_alike (function type : String) {f g : Fragment} (h : Alike f g) :
    Alike (Fragment.castBy function f type) (Fragment.castBy function g type) :=
  (h.opened _).closed _

theorem parens_alike {f g : Fragment} (h : Alike f g) :
    Alike (Fragment.parens f) (Fragment.parens g) := (h.opened "(").closed ")"

/-! ## Formulas -/

namespace Formula

/-- Formulas whose texts are alike, one to one. -/
abbrev AlikeAll (φs ψs : List Formula) : Prop :=
  List.Forall₂ (fun φ ψ => Alike φ.fragment ψ.fragment) φs ψs

variable {φ ψ : Formula} {φs ψs : List Formula}

theorem tail_alike (word : String) (h : AlikeAll φs ψs) :
    Alike (tailFragment word φs) (tailFragment word ψs) := by
  induction h with
  | nil => exact .nil
  | cons hφ _ ih => exact (hφ.opened word).append ih

theorem all_alike (h : AlikeAll φs ψs) :
    Alike (Formula.all φs).fragment (Formula.all ψs).fragment := by
  cases h with
  | nil => exact .refl _
  | cons hφ hrest => exact ((hφ.append (tail_alike _ hrest)).opened "(").closed ")"

theorem any_alike (h : AlikeAll φs ψs) :
    Alike (Formula.any φs).fragment (Formula.any ψs).fragment := by
  cases h with
  | nil => exact .refl _
  | cons hφ hrest => exact ((hφ.append (tail_alike _ hrest)).opened "(").closed ")"

theorem not_alike (h : Alike φ.fragment ψ.fragment) :
    Alike (Formula.not φ).fragment (Formula.not ψ).fragment := (h.opened "NOT (").closed ")"

end Formula
end Sql

/-! ## Places -/

/-- What a condition on a field shows of the field. -/
inductive FieldKind where
  | identity
  | key
  | index
  | longer
  deriving DecidableEq, Repr

/-- A single key, a single index, or a longer path. -/
def Path.kind : Path → FieldKind
  | [.key _] => .key
  | [.index _] => .index
  | _ => .longer

theorem Path.kind_ne_identity (p : Path) : p.kind ≠ .identity := by
  unfold Path.kind
  split
  all_goals exact fun h => nomatch h

theorem Path.exists_of_kind_key : ∀ {p : Path}, p.kind = .key → ∃ name, p = [.key name]
  | [.key name], _ => ⟨name, rfl⟩
  | [], h => nomatch h
  | [.index _], h => nomatch h
  | .key _ :: _ :: _, h => nomatch h
  | .index _ :: _ :: _, h => nomatch h

theorem Path.exists_of_kind_index : ∀ {p : Path}, p.kind = .index → ∃ n, p = [.index n]
  | [.index n], _ => ⟨n, rfl⟩
  | [], h => nomatch h
  | [.key _], h => nomatch h
  | .key _ :: _ :: _, h => nomatch h
  | .index _ :: _ :: _, h => nomatch h

/-- Places in one column, at paths of one kind. -/
inductive Location.Alike : Location → Location → Prop
  | identity (column : Sql.Fragment) : Location.Alike (.identity column) (.identity column)
  | document (column : Sql.Fragment) {p q : Path} (h : p.kind = q.kind) :
      Location.Alike (.document column p) (.document column q)

namespace Dialect

open Sql Sql.Fragment

variable {d : Dialect} {column subject subject' parameter parameter' : Fragment} {p q : Path}
  {place place' : Location}

theorem literal_alike (d : Dialect) (a b : String) : Alike (d.literal a) (d.literal b) :=
  .literal _ a b .nil

theorem placeholder_alike (d : Dialect) (a b : String) :
    Alike (d.placeholder a) (d.placeholder b) := .placeholder _ a b .nil

/-- The arrow of a longer path takes an array of texts. -/
theorem arrow_of_longer : ∀ {p : Path}, p.kind = .longer → ∀ asText : Bool,
    arrow column p asText = column ++ sql (if asText then " #>> " else " #> ") ++
      postgres.literal p.arrayText
  | [], _, _ => rfl
  | [.key _], h, _ => nomatch h
  | [.index _], h, _ => nomatch h
  | .key _ :: _ :: _, _, _ => rfl
  | .index _ :: _ :: _, _, _ => rfl

theorem arrow_alike (column : Fragment) (h : p.kind = q.kind) (asText : Bool) :
    Alike (arrow column p asText) (arrow column q asText) := by
  cases hp : p.kind with
  | identity => exact absurd hp (Path.kind_ne_identity p)
  | key =>
    obtain ⟨a, rfl⟩ := Path.exists_of_kind_key hp
    obtain ⟨b, rfl⟩ := Path.exists_of_kind_key (h.symm.trans hp)
    exact (Alike.refl column).linked _ (literal_alike .postgres a b)
  | index =>
    obtain ⟨m, rfl⟩ := Path.exists_of_kind_index hp
    obtain ⟨n, rfl⟩ := Path.exists_of_kind_index (h.symm.trans hp)
    have hstep : (if asText then " ->> " else " -> ") ∈ arrowSteps := by
      cases asText <;> decide
    have hindex := (Alike.refl column).append (.index hstep m n .nil)
    show Alike (column ++ sql _ ++ number m) (column ++ sql _ ++ number n)
    rw [List.append_assoc, List.append_assoc]
    exact hindex
  | longer =>
    rw [arrow_of_longer hp, arrow_of_longer (h.symm.trans hp)]
    exact (Alike.refl column).linked _ (literal_alike .postgres _ _)

/-- A column and a path, as the arguments of a function. -/
theorem pathLiteral_alike (d : Dialect) (column : Fragment) (p q : Path) :
    AlikeAll [column, d.pathLiteral p] [column, d.pathLiteral q] :=
  .cons (.refl column) (.cons (literal_alike d _ _) .nil)

theorem jsonAt_alike (column : Fragment) (h : p.kind = q.kind) :
    Alike (d.jsonAt column p) (d.jsonAt column q) := by
  cases d with
  | postgres => exact arrow_alike column h false
  | mySql => exact call_alike _ (pathLiteral_alike _ column p q)
  | sqlite => exact call_alike _ (pathLiteral_alike _ column p q)
  | sqlServer => exact call_alike _ (pathLiteral_alike _ column p q)

theorem textAt_alike (column : Fragment) (h : p.kind = q.kind) :
    Alike (d.textAt column p) (d.textAt column q) := by
  cases d with
  | postgres => exact arrow_alike column h true
  | mySql => exact call_alike _ (.cons (jsonAt_alike column h) .nil)
  | sqlite =>
    have htype := call_alike "json_type" (pathLiteral_alike .sqlite column p q)
    have hjson := castBy_alike "CAST" "TEXT" (jsonAt_alike (d := .sqlite) column h)
    have htrue := ((htype.opened "CASE ").linked " WHEN " (.refl (sqlite.literal "true"))).linked
      " THEN " (.refl (sqlite.literal "true"))
    have hfalse := (htrue.linked " WHEN " (.refl (sqlite.literal "false"))).linked " THEN "
      (.refl (sqlite.literal "false"))
    exact (hfalse.linked " ELSE " hjson).closed " END"
  | sqlServer => exact call_alike _ (pathLiteral_alike _ column p q)

theorem numberAt_alike (column : Fragment) (h : p.kind = q.kind) :
    Alike (d.numberAt column p) (d.numberAt column q) := by
  cases d with
  | postgres =>
    have htype := call_alike "jsonb_typeof" (.cons (arrow_alike column h false) .nil)
    have hvalue := parens_alike (arrow_alike column h true)
    exact (((htype.opened "CASE WHEN ").linked " = " (.refl _)).linked " THEN "
      hvalue).closed "::numeric END"
  | mySql => exact castBy_alike _ _ (textAt_alike column h)
  | sqlite => exact castBy_alike _ _ (jsonAt_alike column h)
  | sqlServer => exact castBy_alike _ _ (textAt_alike column h)

theorem comparable_alike (h : place.Alike place') :
    Alike (d.comparable place) (d.comparable place') := by
  cases h with
  | identity column => exact .refl column
  | document column h => exact textAt_alike column h

theorem orderable_alike (h : place.Alike place') :
    Alike (d.orderable place) (d.orderable place') := by
  cases h with
  | identity column => exact .refl column
  | document column h => exact numberAt_alike column h

theorem readable_alike (h : place.Alike place') :
    Alike (d.readable place) (d.readable place') := by
  cases h with
  | identity column => exact .refl _
  | document column h => exact textAt_alike column h

theorem jsonParameter_alike (h : Alike parameter parameter') :
    Alike (d.jsonParameter parameter) (d.jsonParameter parameter') := by
  cases d with
  | postgres => exact castBy_alike _ _ h
  | mySql => exact castBy_alike _ _ h
  | sqlite => exact call_alike _ (.cons h .nil)
  | sqlServer => exact h

/-! ## Conditions -/

theorem relate_alike (h : Alike subject subject') (relation : Relation)
    (hp : Alike parameter parameter') :
    Alike (relate subject relation parameter).fragment
      (relate subject' relation parameter').fragment := h.linked _ hp

theorem among_alike (h : Alike subject subject') {ps ps' : List Fragment} (hp : AlikeAll ps ps') :
    Alike (Atom.among subject ps).fragment (Atom.among subject' ps').fragment :=
  (h.linked " IN (" (join_alike ", " hp)).closed ")"

theorem notAmong_alike (h : Alike subject subject') {ps ps' : List Fragment}
    (hp : AlikeAll ps ps') :
    Alike (Atom.notAmong subject ps).fragment (Atom.notAmong subject' ps').fragment :=
  (h.linked " NOT IN (" (join_alike ", " hp)).closed ")"

theorem like_alike (h : Alike subject subject') (hp : Alike parameter parameter')
    (escape : Fragment) :
    Alike (Atom.like subject parameter escape).fragment
      (Atom.like subject' parameter' escape).fragment :=
  (h.linked " LIKE " hp).linked " ESCAPE " (.refl escape)

theorem nonNullIf_alike (wanted : Bool) (h : Alike subject subject') :
    Alike (nonNullIf wanted subject).fragment (nonNullIf wanted subject').fragment := by
  cases wanted with
  | true => exact h.closed " IS NOT NULL"
  | false => exact h.closed " IS NULL"

theorem holdsIf_alike (wanted : Bool) (h : Alike subject subject') :
    Alike (holdsIf wanted subject).fragment (holdsIf wanted subject').fragment := by
  cases wanted with
  | true => exact h
  | false => exact h.opened "NOT "

theorem orAbsent_alike (h : Alike subject subject') {a b : Atom}
    (hab : Alike a.fragment b.fragment) :
    Alike (orAbsent subject a).fragment (orAbsent subject' b).fragment :=
  Formula.any_alike (.cons (h.closed " IS NULL") (.cons hab .nil))

theorem equals_alike (h : place.Alike place') (hp : Alike parameter parameter') :
    Alike (d.equals place parameter).fragment (d.equals place' parameter').fragment :=
  relate_alike (comparable_alike h) .equal hp

theorem differs_alike (h : place.Alike place') (hp : Alike parameter parameter') :
    Alike (d.differs place parameter).fragment (d.differs place' parameter').fragment := by
  cases h with
  | identity column => exact relate_alike (.refl column) .notEqual hp
  | document column h =>
    exact orAbsent_alike (textAt_alike column h) ((textAt_alike column h).linked _ hp)

theorem equalsJson_alike (column : Fragment) (h : p.kind = q.kind)
    (hp : Alike parameter parameter') :
    Alike (d.equalsJson column p parameter).fragment
      (d.equalsJson column q parameter').fragment :=
  relate_alike (jsonAt_alike column h) .equal (jsonParameter_alike hp)

theorem differsJson_alike (column : Fragment) (h : p.kind = q.kind)
    (hp : Alike parameter parameter') :
    Alike (d.differsJson column p parameter).fragment
      (d.differsJson column q parameter').fragment :=
  orAbsent_alike (jsonAt_alike column h)
    ((jsonAt_alike column h).linked _ (jsonParameter_alike hp))

theorem holdsNoneOf_alike (h : place.Alike place') {ps ps' : List Fragment}
    (hp : AlikeAll ps ps') :
    Alike (d.holdsNoneOf place ps).fragment (d.holdsNoneOf place' ps').fragment := by
  cases h with
  | identity column => exact notAmong_alike (.refl column) hp
  | document column h =>
    exact orAbsent_alike (textAt_alike column h) (notAmong_alike (textAt_alike column h) hp)

theorem likes_alike (h : Alike subject subject') (hp : Alike parameter parameter')
    (escape : Fragment) (ignoreCase : Bool) :
    Alike (likes subject parameter escape ignoreCase).fragment
      (likes subject' parameter' escape ignoreCase).fragment := by
  cases ignoreCase with
  | true =>
    exact like_alike (call_alike "LOWER" (.cons h .nil)) (call_alike "LOWER" (.cons hp .nil))
      escape
  | false => exact like_alike h hp escape

theorem matchesWildcard_alike (h : place.Alike place') (hp : Alike parameter parameter')
    (ignoreCase : Bool) :
    Alike (d.matchesWildcard place parameter ignoreCase).fragment
      (d.matchesWildcard place' parameter' ignoreCase).fragment := by
  have hs : Alike (d.readable place) (d.readable place') := readable_alike h
  cases d with
  | postgres => exact likes_alike hs hp _ ignoreCase
  | mySql => exact likes_alike hs hp _ ignoreCase
  | sqlite =>
    cases ignoreCase with
    | true => exact likes_alike hs hp _ true
    | false => exact relate_alike hs .glob hp
  | sqlServer =>
    cases ignoreCase with
    | true => exact likes_alike hs hp _ true
    | false => exact likes_alike (hs.closed _) hp _ false

theorem matchesRegex_alike (h : place.Alike place') (hp : Alike parameter parameter')
    (ignoreCase : Bool) :
    Alike (d.matchesRegex place parameter ignoreCase).fragment
      (d.matchesRegex place' parameter' ignoreCase).fragment := by
  cases d with
  | postgres => exact relate_alike (readable_alike h) _ hp
  | mySql => exact call_alike _ (.cons (readable_alike h) (.cons hp (.cons (.refl _) .nil)))
  | sqlite => exact matchesWildcard_alike (d := .sqlite) h hp ignoreCase
  | sqlServer => exact matchesWildcard_alike (d := .sqlServer) h hp ignoreCase

/-- The last step and the steps above it stand in literals. -/
theorem entryExists_alike (column : Fragment) (p q : Path) (type : Option Nat) :
    Alike (entryExists column p type) (entryExists column q type) := by
  have hentries := call_alike "OPENJSON"
    (pathLiteral_alike .sqlServer column p.parent q.parent)
  have hwhere := (hentries.opened "EXISTS (SELECT 1 FROM ").closed " WHERE [key] = N"
  exact ((hwhere.append (literal_alike .sqlServer _ _)).append (.refl _)).closed ")"

theorem isPresent_alike (h : place.Alike place') (wanted : Bool) :
    Alike (d.isPresent place wanted).fragment (d.isPresent place' wanted).fragment := by
  cases h with
  | identity column => exact nonNullIf_alike wanted (.refl column)
  | @document column p q h =>
    cases d with
    | postgres => exact nonNullIf_alike wanted (parens_alike (jsonAt_alike column h))
    | mySql =>
      exact holdsIf_alike wanted
        (call_alike _ (.cons (.refl column) (.cons (.refl _) (.cons (literal_alike _ _ _) .nil))))
    | sqlite => exact nonNullIf_alike wanted (call_alike _ (pathLiteral_alike _ column p q))
    | sqlServer => exact holdsIf_alike wanted (entryExists_alike column p q none)

theorem named_alike (h : Alike subject subject') (words : List String) :
    Alike (d.named subject words).fragment (d.named subject' words).fragment := by
  unfold named
  split
  · exact relate_alike h .equal (.refl _)
  · exact among_alike h (List.forall₂_same.mpr fun f _ => .refl f)

theorem hasType_alike (h : place.Alike place') (type : JsonType) :
    Alike (d.hasType place type).fragment (d.hasType place' type).fragment := by
  cases h with
  | identity column => exact nonNullIf_alike _ (.refl column)
  | @document column p q h =>
    cases d with
    | postgres =>
      exact named_alike (call_alike "jsonb_typeof" (.cons (jsonAt_alike column h) .nil))
        [type.name]
    | mySql => exact named_alike (call_alike _ (.cons (jsonAt_alike column h) .nil)) _
    | sqlite => exact named_alike (call_alike _ (pathLiteral_alike _ column p q)) _
    | sqlServer => exact holdsIf_alike true (entryExists_alike column p q _)

end Dialect
end DocFilter
