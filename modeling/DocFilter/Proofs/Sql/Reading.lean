import DocFilter.Proofs.Sql.Nesting
import DocFilter.Proofs.List

/-!
# Reading SQL text as a condition

A condition is read back from the items of its text: `NOT` binds more tightly than `AND`,
and `AND` more tightly than `OR`; a parenthesis that stands alone is what is in it; `1=1`
and `1=0` are true and false.  Everything else that holds no connective outside of its
brackets is a condition of its own, whatever is inside them.

What a condition of its own says is left open: `Reading.value` takes its truth from
outside, and it may be unknown.

## One item at a time

A group is read before what is around it, so `Part` keeps the items of a group together
with their reading, and reading a list of parts needs no recursion into them.
-/

namespace DocFilter
namespace Sql

/-! ## Truth -/

/-- The truth values of SQL. -/
inductive Truth where
  | yes
  | no
  | unknown
  deriving DecidableEq, Repr

namespace Truth

/-- The opposite; what is unknown stays so. -/
def not : Truth → Truth
  | .yes => .no
  | .no => .yes
  | .unknown => .unknown

/-- Both: false as soon as one is. -/
def and : Truth → Truth → Truth
  | .no, _ | _, .no => .no
  | .yes, .yes => .yes
  | _, _ => .unknown

/-- One of both: true as soon as one is. -/
def or : Truth → Truth → Truth
  | .yes, _ | _, .yes => .yes
  | .no, .no => .no
  | _, _ => .unknown

/-- All of them. -/
def all (ks : List Truth) : Truth := ks.foldr and .yes

/-- Any of them. -/
def any (ks : List Truth) : Truth := ks.foldr or .no

@[simp] theorem and_yes (k : Truth) : k.and .yes = k := by cases k <;> rfl

@[simp] theorem or_no (k : Truth) : k.or .no = k := by cases k <;> rfl

end Truth

/-! ## Readings -/

/-- A condition as it is read. -/
inductive Reading where
  /-- A condition of its own. -/
  | atom (items : List Nested)
  | always
  | never
  | not (r : Reading)
  | all (rs : List Reading)
  | any (rs : List Reading)

namespace Reading

mutual

/-- The truth of a condition, when that of the conditions in it is given. -/
def value (v : List Nested → Truth) : Reading → Truth
  | .atom items => v items
  | .always => .yes
  | .never => .no
  | .not r => (r.value v).not
  | .all rs => .all (values v rs)
  | .any rs => .any (values v rs)

/-- The truth of each condition. -/
def values (v : List Nested → Truth) : List Reading → List Truth
  | [] => []
  | r :: rs => r.value v :: values v rs

end

theorem values_eq_map (v : List Nested → Truth) (rs : List Reading) :
    values v rs = rs.map (value v) := by
  induction rs with
  | nil => rfl
  | cons r rs ih => rw [values, ih, List.map_cons]

/-- A condition that is joined to no other keeps its truth. -/
@[simp] theorem value_alone (v : List Nested → Truth) (r : Reading) :
    value v (.any [.all [r]]) = r.value v :=
  (Truth.or_no _).trans (Truth.and_yes _)

end Reading

/-- A token, or a group with the reading of what is in it. -/
inductive Part where
  | token (t : Token)
  | group (b : Bracket) (items : List Nested) (inner : Option Reading)

namespace Part

/-- The item a part was made from. -/
def nested : Part → Nested
  | .token t => .token t
  | .group b items _ => .group b items

/-- The part is this word. -/
def isKeyword (keyword : String) : Part → Bool
  | .token t => t.isKeyword keyword
  | .group _ _ _ => false

end Part

/-- What stands between two connectives, without `NOT` in front. -/
def readAtom : List Part → Option Reading
  | [] => none
  | [.group .paren _ inner] => inner
  | [.token (.word ['1']), .token (.symbol '='), .token (.word ['1'])] => some .always
  | [.token (.word ['1']), .token (.symbol '='), .token (.word ['0'])] => some .never
  | ps => some (.atom (ps.map Part.nested))

/-- What stands between two connectives. -/
def readUnit : List Part → Option Reading
  | .token t :: ps =>
    if t.isKeyword "not" then (readUnit ps).map .not else readAtom (.token t :: ps)
  | ps => readAtom ps

/-- What stands between two `OR`. -/
def readConjunction (ps : List Part) : Option Reading :=
  ((ps.splitOnP (Part.isKeyword "and")).mapM readUnit).map .all

/-- A condition. -/
def readParts (ps : List Part) : Option Reading :=
  ((ps.splitOnP (Part.isKeyword "or")).mapM readConjunction).map .any

mutual

/-- The part an item makes. -/
def Nested.part : Nested → Part
  | .token t => .token t
  | .group b items => .group b items (readParts (partsOf items))

/-- The parts of a list of items. -/
def partsOf : List Nested → List Part
  | [] => []
  | n :: ns => n.part :: partsOf ns

end

/-- The condition a text is read as. -/
def read (style : LiteralStyle) (text : List Char) : Option Reading :=
  ((lex style text).bind nest).bind fun items => readParts (partsOf items)

/-- The truth of the condition a text is read as. -/
def truth? (style : LiteralStyle) (v : List Nested → Truth) (text : String) : Option Truth :=
  (read style text.toList).map (Reading.value v)

theorem partsOf_eq_map (ns : List Nested) : partsOf ns = ns.map Nested.part := by
  induction ns with
  | nil => rfl
  | cons n ns ih => rw [partsOf, ih, List.map_cons]

theorem partsOf_append (ms ns : List Nested) :
    partsOf (ms ++ ns) = partsOf ms ++ partsOf ns := by
  rw [partsOf_eq_map, partsOf_eq_map, partsOf_eq_map, List.map_append]

theorem partsOf_flatMap (t : Token) (nss : List (List Nested)) :
    partsOf (nss.flatMap (.token t :: ·)) = (nss.map partsOf).flatMap (.token t :: ·) := by
  induction nss with
  | nil => rfl
  | cons ns nss ih =>
    rw [List.flatMap_cons, partsOf_append, ih, List.map_cons, List.flatMap_cons, partsOf]
    rfl

/-! ## Items side by side -/

theorem foldl_push_outermost (ns items : List Nested) :
    ns.foldl (fun g n => g.push n) (OpenGroups.outermost items) =
      .outermost (ns.reverse ++ items) := by
  induction ns generalizing items with
  | nil => rfl
  | cons n ns ih =>
    rw [List.foldl_cons, OpenGroups.push, ih, List.reverse_cons, List.append_assoc]
    rfl

theorem foldl_push_within (ns items : List Nested) (b : Bracket) (outer : OpenGroups) :
    ns.foldl (fun g n => g.push n) (OpenGroups.within b items outer) =
      .within b (ns.reverse ++ items) outer := by
  induction ns generalizing items with
  | nil => rfl
  | cons n ns ih =>
    rw [List.foldl_cons, OpenGroups.push, ih, List.reverse_cons, List.append_assoc]
    rfl

theorem nest_append {ts us : List Token} {ms ns : List Nested} (ht : nest ts = some ms)
    (hu : nest us = some ns) : nest (ts ++ us) = some (ms ++ ns) := by
  rw [nest, nestFrom_append, nestFrom_frame ht, Option.bind_some, nestFrom_frame hu,
    foldl_push_outermost, foldl_push_outermost, Option.bind_some, OpenGroups.finish,
    List.append_nil, List.reverse_append, List.reverse_reverse, List.reverse_reverse]

/-- A text in parentheses is one group. -/
theorem nest_enclosed {ts : List Token} {ns : List Nested} (h : nest ts = some ns) :
    nest ([.symbol '('] ++ ts ++ [.symbol ')']) = some [.group .paren ns] := by
  have hopen : nestFrom (.outermost []) [.symbol '('] =
      some (.within .paren [] (.outermost [])) := rfl
  have hclose : nestFrom (.within .paren ns.reverse (.outermost [])) [.symbol ')'] =
      some (.outermost [.group .paren ns.reverse.reverse]) := rfl
  rw [nest, nestFrom_append, nestFrom_append, hopen, Option.bind_some, nestFrom_frame h,
    foldl_push_within, Option.bind_some, List.append_nil, hclose, List.reverse_reverse]
  rfl

/-! ## Conditions with words between them -/

/-- The part joins no conditions. -/
def Part.Joinless (q : Part) : Prop := q.isKeyword "and" = false ∧ q.isKeyword "or" = false

/-- Parts that hold no connective and are read as this condition. -/
def ReadsAs (qs : List Part) (r : Reading) : Prop :=
  (∀ q ∈ qs, q.Joinless) ∧ readUnit qs = some r

theorem joinless_of_forall₂ {qss : List (List Part)} {rs : List Reading}
    (h : List.Forall₂ ReadsAs qss rs) : ∀ qs ∈ qss, ∀ q ∈ qs, q.Joinless := by
  induction h with
  | nil => exact fun _ h => absurd h List.not_mem_nil
  | cons h _ ih =>
    intro qs hqs
    rcases List.mem_cons.mp hqs with rfl | hqs
    · exact h.1
    · exact ih qs hqs

variable {word : Part} {first : List Part} {rest : List (List Part)} {r : Reading}
  {rs : List Reading}

/-- Members with `AND` between each two. -/
theorem readConjunction_eq (hword : word.isKeyword "and" = true)
    (h : List.Forall₂ ReadsAs (first :: rest) (r :: rs)) :
    readConjunction (first ++ rest.flatMap (word :: ·)) = some (.all (r :: rs)) := by
  rw [readConjunction,
    splitOnP_flatMap hword first rest fun qs hqs q hq => (joinless_of_forall₂ h qs hqs q hq).1,
    mapM_eq_some (h.imp fun _ _ h => h.2)]
  rfl

theorem readConjunction_single {qs : List Part} (h : ReadsAs qs r) :
    readConjunction qs = some (.all [r]) := by
  rw [readConjunction, List.splitOnP_eq_singleton fun q hq => (h.1 q hq).1,
    mapM_eq_some (List.Forall₂.cons h.2 List.Forall₂.nil)]
  rfl

/-- Members with `AND` between each two are read as their conjunction. -/
theorem readParts_and (hand : word.isKeyword "and" = true) (hor : word.isKeyword "or" = false)
    (h : List.Forall₂ ReadsAs (first :: rest) (r :: rs)) :
    readParts (first ++ rest.flatMap (word :: ·)) = some (.any [.all (r :: rs)]) := by
  have hnone : ∀ q ∈ first ++ rest.flatMap (word :: ·), q.isKeyword "or" = false := by
    intro q hq
    have hjoinless := joinless_of_forall₂ h
    rcases List.mem_append.mp hq with hq | hq
    · exact (hjoinless first List.mem_cons_self q hq).2
    · obtain ⟨qs, hqs, hq⟩ := List.mem_flatMap.mp hq
      rcases List.mem_cons.mp hq with rfl | hq
      · exact hor
      · exact (hjoinless qs (List.mem_cons_of_mem _ hqs) q hq).2
  rw [readParts, List.splitOnP_eq_singleton hnone,
    mapM_eq_some (List.Forall₂.cons (readConjunction_eq hand h) List.Forall₂.nil)]
  rfl

/-- Members with `OR` between each two are read as their disjunction. -/
theorem readParts_or (hor : word.isKeyword "or" = true)
    (h : List.Forall₂ ReadsAs (first :: rest) (r :: rs)) :
    readParts (first ++ rest.flatMap (word :: ·)) =
      some (.any ((r :: rs).map fun r => .all [r])) := by
  have hmembers : List.Forall₂ (fun qs r => readConjunction qs = some r) (first :: rest)
      ((r :: rs).map fun r => .all [r]) :=
    List.forall₂_map_right_iff.mpr (h.imp fun _ _ h => readConjunction_single h)
  rw [readParts,
    splitOnP_flatMap hor first rest fun qs hqs q hq => (joinless_of_forall₂ h qs hqs q hq).2,
    mapM_eq_some hmembers]
  rfl

/-- A condition by itself. -/
theorem readParts_single {qs : List Part} (h : ReadsAs qs r) :
    readParts qs = some (.any [.all [r]]) := by
  rw [readParts, List.splitOnP_eq_singleton fun q hq => (h.1 q hq).2,
    mapM_eq_some (List.Forall₂.cons (readConjunction_single h) List.Forall₂.nil)]
  rfl

theorem joinless_part {ns : List Nested}
    (h : ∀ t, Nested.token t ∈ ns → t.isConnective = false) :
    ∀ q ∈ partsOf ns, q.Joinless := by
  intro q hq
  rw [partsOf_eq_map] at hq
  obtain ⟨n, hn, rfl⟩ := List.mem_map.mp hq
  cases n with
  | group b items => exact ⟨rfl, rfl⟩
  | token t => exact Bool.or_eq_false_iff.mp (h t hn)

/-! ## Units that are read as something -/

/-- The token says something: it neither separates nor encloses, and does not negate. -/
def Token.isSolid (t : Token) : Bool :=
  !t.isBlank && t.opens?.isNone && t.closes?.isNone && !t.isKeyword "not"

theorem readAtom_isSome {ps : List Part} {t : Token} (h : Part.token t ∈ ps) :
    ∃ r, readAtom ps = some r := by
  unfold readAtom
  split
  · exact absurd h List.not_mem_nil
  · exact absurd (List.mem_singleton.mp h) (by simp)
  · exact ⟨_, rfl⟩
  · exact ⟨_, rfl⟩
  · exact ⟨_, rfl⟩

/-- A unit with a token in it that does not negate is read as something. -/
theorem readUnit_isSome {ps : List Part} {t : Token} (h : Part.token t ∈ ps)
    (ht : t.isKeyword "not" = false) : ∃ r, readUnit ps = some r := by
  induction ps with
  | nil => exact absurd h List.not_mem_nil
  | cons q ps ih =>
    cases q with
    | group b items inner => exact readAtom_isSome h
    | token t' =>
      rw [readUnit]
      split
      · next hnot =>
        have hmem : Part.token t ∈ ps := by
          rcases List.mem_cons.mp h with he | hmem
          · rw [← Part.token.inj he, ht] at hnot
            exact absurd hnot Bool.false_ne_true
          · exact hmem
        obtain ⟨r, hr⟩ := ih hmem
        exact ⟨.not r, by rw [hr]; rfl⟩
      · exact readAtom_isSome h

namespace Token

variable {t : Token}

theorem isSolid_iff : t.isSolid = true ↔
    t.isBlank = false ∧ t.opens? = none ∧ t.closes? = none ∧ t.isKeyword "not" = false := by
  simp only [isSolid, Bool.and_eq_true, Bool.not_eq_true', Option.isNone_iff_eq_none, and_assoc]

/-- A solid token outside of all brackets leaves none open. -/
theorem depthStep_of_isSolid (h : t.isSolid = true) {bs : List Bracket}
    (hd : depthStep [] t = some bs) : bs = [] := by
  obtain ⟨-, hopens, hcloses, -⟩ := isSolid_iff.mp h
  simp only [depthStep, hopens, hcloses] at hd
  split_ifs at hd
  exact (Option.some.inj hd).symm

theorem nest_of_isSolid (h : t.isSolid = true) : nest [t] = some [.token t] := by
  obtain ⟨hblank, hopens, hcloses, -⟩ := isSolid_iff.mp h
  have hstep : (OpenGroups.outermost []).step t = some (.outermost [.token t]) := by
    simp only [OpenGroups.step, hopens, hcloses, hblank, Bool.false_eq_true, if_false]
    rfl
  rw [nest, nestFrom, List.foldlM_cons, hstep]
  rfl

end Token

end Sql
end DocFilter
