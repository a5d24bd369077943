import DocFilter.Proofs.Filter.Course

/-!
# Conditions that are left out

A translation leaves out a condition that is written as `1=1`.  Only the empty conjunction
is: every other condition has a blank or a bracket in it (`Formula.isAlways_eq`).  So
whether a filter has a condition at all can be read off its tree (`Filter.isVacuous`), and
depends neither on the dialect nor on the names of its parameters
(`Filter.isAlways_predicate`).
-/

namespace DocFilter

/-- A text with a character that can be seen is not blank. -/
theorem Text.isBlankText_eq_false {s : String} {c : Char} (hc : c ∈ s.toList)
    (h : isBlank c = false) : isBlankText s = false := by
  refine Bool.eq_false_iff.mpr fun hall => ?_
  rw [List.all_eq_true.mp hall c hc] at h
  exact absurd h (by simp)

namespace Sql

/-- Characters that tell a text from `1=1` and from a blank one. -/
def Speaks (cs : List Char) : Prop :=
  (∃ c ∈ cs, c = ' ' ∨ c = '(') ∧ ∃ c ∈ cs, Text.isBlank c = false

theorem Speaks.mono {cs cs' : List Char} (h : Speaks cs) (hcs : ∀ c ∈ cs, c ∈ cs') :
    Speaks cs' := by
  obtain ⟨⟨x, hx, hmark⟩, ⟨y, hy, hblank⟩⟩ := h
  exact ⟨⟨x, hcs x hx, hmark⟩, ⟨y, hcs y hy, hblank⟩⟩

theorem speaks_of_paren {cs : List Char} (h : '(' ∈ cs) : Speaks cs :=
  ⟨⟨'(', h, Or.inr rfl⟩, ⟨'(', h, rfl⟩⟩

/-- A word of SQL between blanks. -/
theorem speaks_word (word : String)
    (h : (word.toList.any (· = ' ') && word.toList.any (!Text.isBlank ·)) = true) :
    Speaks word.toList := by
  obtain ⟨hblank, hword⟩ := Bool.and_eq_true_iff.mp h
  obtain ⟨x, hx, hxb⟩ := List.any_eq_true.mp hblank
  obtain ⟨y, hy, hyb⟩ := List.any_eq_true.mp hword
  exact ⟨⟨x, hx, Or.inl (by simpa using hxb)⟩, ⟨y, hy, by simpa using hyb⟩⟩

theorem ne_alwaysText_of_speaks {cs : List Char} (h : Speaks cs) :
    cs ≠ Formula.alwaysText.toList := by
  obtain ⟨⟨x, hx, hmark⟩, -⟩ := h
  rintro rfl
  rcases hmark with rfl | rfl
  · exact absurd hx (by decide)
  · exact absurd hx (by decide)

namespace Fragment

theorem paren_mem_call (function : String) (arguments : List Fragment) :
    '(' ∈ (call function arguments).chars := by
  rw [call, chars_append, chars_append, sql, chars_cons, Piece.chars, String.toList_append]
  simp

end Fragment

namespace Atom

/-- A call has a bracket in it, as every call does that a dialect writes. -/
def Voiced (a : Atom) : Prop := ∀ test, a = .holds test → '(' ∈ test.chars

theorem speaks {a : Atom} (h : a.Voiced) : Speaks a.fragment.chars := by
  have hword (word : String) (f g : Fragment)
      (hw : (word.toList.any (· = ' ') && word.toList.any (!Text.isBlank ·)) = true) :
      Speaks (f ++ Fragment.sql word ++ g).chars := by
    refine (speaks_word word hw).mono fun c hc => ?_
    simp [Fragment.sql, Piece.chars, hc]
  cases a with
  | compare left relation right =>
    refine hword _ left right ?_
    cases relation <;> decide
  | among subject choices =>
    refine speaks_of_paren ?_
    simp [Atom.fragment, Fragment.sql, Piece.chars]
  | notAmong subject choices =>
    refine speaks_of_paren ?_
    simp [Atom.fragment, Fragment.sql, Piece.chars]
  | like subject pattern escape =>
    have := hword " LIKE " subject (pattern ++ Fragment.sql " ESCAPE " ++ escape) (by decide)
    rwa [← List.append_assoc, ← List.append_assoc] at this
  | isNull subject =>
    have := hword " IS NULL" subject [] (by decide)
    rwa [List.append_nil] at this
  | isNotNull subject =>
    have := hword " IS NOT NULL" subject [] (by decide)
    rwa [List.append_nil] at this
  | holds test => exact speaks_of_paren (h test rfl)
  | fails test => exact hword "NOT " [] test (by decide)

end Atom

namespace Formula

/-- A condition whose text is known to say something, or to be one of the two constants. -/
def Voiced : Formula → Prop
  | .verbatim _ => False
  | .atom a => a.Voiced
  | _ => True

/-- The empty conjunction. -/
def isEmptyAll : Formula → Bool
  | .all [] => true
  | _ => false

theorem speaks_or_constant {φ : Formula} (h : φ.Voiced) :
    Speaks φ.fragment.chars ∨ φ = .always ∨ φ = .never := by
  cases φ with
  | verbatim _ => exact h.elim
  | atom a => exact Or.inl (Atom.speaks h)
  | not φ =>
    refine Or.inl (speaks_of_paren ?_)
    simp [fragment, Fragment.sql, Piece.chars]
  | all φs =>
    cases φs with
    | nil => exact Or.inr (Or.inl rfl)
    | cons φ φs =>
      refine Or.inl (speaks_of_paren ?_)
      simp [fragment, Fragment.sql, Piece.chars]
  | any φs =>
    cases φs with
    | nil => exact Or.inr (Or.inr rfl)
    | cons φ φs =>
      refine Or.inl (speaks_of_paren ?_)
      simp [fragment, Fragment.sql, Piece.chars]

theorem toList_text (φ : Formula) : φ.text.toList = φ.fragment.chars := String.toList_ofList

/-- Only the empty conjunction is written as `1=1`. -/
theorem isAlways_eq {φ : Formula} (h : φ.Voiced) : φ.isAlways = φ.isEmptyAll := by
  rcases speaks_or_constant h with hs | rfl | rfl
  · have hne : φ.isAlways = false := by
      refine beq_eq_false_iff_ne.mpr fun he => ne_alwaysText_of_speaks hs ?_
      rw [← toList_text, he]
    rw [hne]
    unfold isEmptyAll
    split
    · exact absurd hs (fun hs => ne_alwaysText_of_speaks hs rfl)
    · rfl
  · decide
  · decide

/-- No condition is written as blanks. -/
theorem isBlankText_text {φ : Formula} (h : φ.Voiced) : Text.isBlankText φ.text = false := by
  rcases speaks_or_constant h with ⟨-, c, hc, hblank⟩ | rfl | rfl
  · rw [← toList_text] at hc
    exact Text.isBlankText_eq_false hc hblank
  · decide
  · decide

end Formula
end Sql

/-! ## Conditions on fields -/

open Sql

namespace Dialect

variable (d : Dialect) (place : Location)

/-- A condition that is not left out. -/
def Stated (φ : Formula) : Prop := φ.Voiced ∧ φ.isEmptyAll = false

theorem stated_atom {a : Atom} (h : a.Voiced) : Stated (.atom a) := ⟨h, rfl⟩

theorem stated_relate (left : Fragment) (relation : Relation) (right : Fragment) :
    Stated (relate left relation right) := stated_atom fun _ h => Atom.noConfusion h

theorem stated_orAbsent (subject : Fragment) (a : Atom) : Stated (orAbsent subject a) :=
  ⟨trivial, rfl⟩

theorem stated_likes (subject parameter escape : Fragment) (ignoreCase : Bool) :
    Stated (likes subject parameter escape ignoreCase) := by
  unfold likes
  split
  · exact stated_atom fun _ h => Atom.noConfusion h
  · exact stated_atom fun _ h => Atom.noConfusion h

theorem stated_nonNullIf (wanted : Bool) (subject : Fragment) :
    Stated (nonNullIf wanted subject) := by
  cases wanted with
  | true => exact stated_atom fun _ h => Atom.noConfusion h
  | false => exact stated_atom fun _ h => Atom.noConfusion h

theorem stated_holdsIf (wanted : Bool) {test : Fragment} (h : '(' ∈ test.chars) :
    Stated (holdsIf wanted test) := by
  cases wanted with
  | true => exact stated_atom fun test' ht => by rwa [← Atom.holds.inj ht]
  | false => exact stated_atom fun _ h => Atom.noConfusion h

theorem paren_mem_entryExists (column : Fragment) (path : Path) (type : Option Nat) :
    '(' ∈ (entryExists column path type).chars := by
  simp [entryExists, Fragment.sql, Piece.chars]

theorem stated_named (subject : Fragment) (names : List String) :
    Stated (d.named subject names) := by
  unfold named
  split
  · exact stated_relate _ _ _
  · exact stated_atom fun _ h => Atom.noConfusion h

theorem stated_equality (negated structured : Bool) (parameter : Fragment) :
    Stated (d.equality place negated structured parameter) := by
  have hdiffers : Stated (d.differs place parameter) := by
    cases place with
    | identity column => exact stated_relate _ _ _
    | document column path => exact stated_orAbsent _ _
  unfold equality
  split
  · cases negated with
    | true => exact stated_orAbsent _ _
    | false => exact stated_relate _ _ _
  · cases negated with
    | true => exact hdiffers
    | false => exact stated_relate _ _ _

theorem stated_membership (negated : Bool) {parameters : List Fragment} (h : parameters ≠ []) :
    Stated (d.membership place negated parameters) := by
  cases parameters with
  | nil => exact absurd rfl h
  | cons p ps =>
    cases negated with
    | false => exact stated_atom fun _ h => Atom.noConfusion h
    | true =>
      cases place with
      | identity column => exact stated_atom fun _ h => Atom.noConfusion h
      | document column path => exact stated_orAbsent _ _

theorem stated_matching (ignoreCase : Bool) (parameter : Fragment) :
    Stated (d.matching place ignoreCase parameter) := by
  cases d with
  | postgres => exact stated_relate _ _ _
  | mySql =>
    exact stated_atom fun test ht => by
      rw [← Atom.holds.inj ht]
      exact Fragment.paren_mem_call _ _
  | sqlite =>
    cases ignoreCase with
    | true => exact stated_likes (sqlite.readable place) parameter sqlite.escapeLiteral true
    | false => exact stated_relate _ _ _
  | sqlServer =>
    cases ignoreCase with
    | true => exact stated_likes (sqlServer.readable place) parameter sqlServer.escapeLiteral true
    | false => exact stated_likes _ parameter sqlServer.escapeLiteral false

theorem stated_isPresent (wanted : Bool) : Stated (d.isPresent place wanted) := by
  cases place with
  | identity column => exact stated_nonNullIf _ _
  | document column path =>
    cases d with
    | postgres => exact stated_nonNullIf _ _
    | mySql => exact stated_holdsIf _ (Fragment.paren_mem_call _ _)
    | sqlite => exact stated_nonNullIf _ _
    | sqlServer => exact stated_holdsIf _ (paren_mem_entryExists _ _ _)

theorem stated_hasType (type : JsonType) : Stated (d.hasType place type) := by
  cases place with
  | identity column => exact stated_nonNullIf _ _
  | document column path =>
    cases d with
    | postgres => exact stated_relate _ _ _
    | mySql => exact stated_named _ _ _
    | sqlite => exact stated_named _ _ _
    | sqlServer => exact stated_holdsIf _ (paren_mem_entryExists _ _ _)

end Dialect

namespace Condition

/-- A condition that every row meets: none of an empty list, or a type that is no type. -/
def isVacuous (c : Condition) : Bool :=
  match c.operator, c.operand with
  | .notAmong, .array elements => elements.isEmpty
  | .ofType, .string name => (JsonType.ofName? name).isNone
  | _, _ => false

theorem formula_voiced {d : Dialect} {place : Location} {ps : List Fragment} {c : Condition}
    (h : ps.length = c.arity) :
    (c.formula d place ps).Voiced ∧ (c.formula d place ps).isEmptyAll = c.isVacuous := by
  obtain ⟨operator, operand, options⟩ := c
  have hone (h : ps.length = 1) : ps ≠ [] := List.ne_nil_of_length_eq_add_one h
  cases operator with
  | equal => exact Dialect.stated_equality d place _ _ _
  | notEqual => exact Dialect.stated_equality d place _ _ _
  | greater => exact Dialect.stated_relate _ _ _
  | greaterEqual => exact Dialect.stated_relate _ _ _
  | less => exact Dialect.stated_relate _ _ _
  | lessEqual => exact Dialect.stated_relate _ _ _
  | among =>
    cases operand with
    | array elements =>
      cases ps with
      | nil => exact ⟨trivial, rfl⟩
      | cons p ps => exact Dialect.stated_membership d place false (List.cons_ne_nil p ps)
    | _ => exact Dialect.stated_membership d place false (hone h)
  | notAmong =>
    cases operand with
    | array elements =>
      cases elements with
      | nil =>
        rw [List.length_eq_zero_iff.mp h]
        exact ⟨trivial, rfl⟩
      | cons v rest =>
        exact Dialect.stated_membership d place true (List.ne_nil_of_length_eq_add_one h)
    | _ => exact Dialect.stated_membership d place true (hone h)
  | matching => exact Dialect.stated_matching d place _ _
  | present =>
    cases operand with
    | bool wanted => exact Dialect.stated_isPresent d place wanted
    | _ => exact ⟨trivial, rfl⟩
  | ofType =>
    cases operand with
    | string name =>
      unfold formula isVacuous Dialect.typed
      dsimp only
      cases JsonType.ofName? name with
      | some type => exact Dialect.stated_hasType d place type
      | none => exact ⟨trivial, rfl⟩
    | _ => exact ⟨trivial, rfl⟩

end Condition

/-! ## Trees -/

namespace Filter

/-- A filter that is left out: the empty map, and what stands for a vacuous part alone. -/
def isVacuous : Filter → Bool
  | .all [] => true
  | .all [f] => f.isVacuous
  | .field _ [] => true
  | .field _ [c] => c.isVacuous
  | .joined .and [] => true
  | _ => false

open Predicate

variable {t : Target}

theorem condition_predicate : ∀ (f : Filter) {ns : List String}, ns.length = f.binders.length →
    (f.predicate t ns).condition.Voiced ∧ (f.predicate t ns).condition.isEmptyAll = f.isVacuous
  | .all [], _, _ => ⟨trivial, rfl⟩
  | .all [f], ns, hl => by
    have hbinders : (all [f]).binders = f.binders := by
      rw [binders, conditions, conditionsOfAll, conditionsOfAll, List.append_nil, binders]
    rw [hbinders] at hl
    have hf := condition_predicate f hl
    have hpredicate : (all [f]).predicate t ns = f.predicate t ns := by
      rw [predicate, predicates, predicates, ← hl, List.take_length]
      rfl
    rw [hpredicate, hf.2, isVacuous]
    exact ⟨hf.1, rfl⟩
  | .all (f :: g :: rest), ns, hl => ⟨trivial, rfl⟩
  | .field name [], ns, _ => ⟨trivial, rfl⟩
  | .field name [c], ns, hl => by
    have hbinders : (field name [c]).binders.length = c.arity := by
      simp [binders, conditions, bindersOf]
    rw [hbinders] at hl
    have hpredicate : (field name [c]).predicate t ns = c.predicate t name ns := by
      rw [predicate, Condition.predicates, Condition.predicates, ← hl, List.take_length]
      rfl
    rw [hpredicate, isVacuous]
    exact Condition.formula_voiced (by rw [List.length_map, hl])
  | .field name (c :: c' :: rest), ns, hl => ⟨trivial, rfl⟩
  | .joined .and [], ns, _ => ⟨trivial, rfl⟩
  | .joined .and (f :: rest), ns, _ => ⟨trivial, rfl⟩
  | .joined .or children, ns, _ => ⟨trivial, rfl⟩
  | .joined .not children, ns, _ => ⟨trivial, rfl⟩
  | .joined .nor children, ns, _ => ⟨trivial, rfl⟩

/-- Whether the condition of a filter is left out can be read off its tree. -/
theorem isAlways_predicate (f : Filter) {ns : List String} (hl : ns.length = f.binders.length) :
    (f.predicate t ns).condition.isAlways = f.isVacuous := by
  rw [Formula.isAlways_eq (condition_predicate f hl).1]
  exact (condition_predicate f hl).2

/-- A filter that is left out has no parameters. -/
theorem binders_of_isVacuous : ∀ {f : Filter}, f.isVacuous = true → f.binders = []
  | .all [], _ => rfl
  | .all [f], h => by
    have hf : f.binders = [] := binders_of_isVacuous (by rwa [isVacuous] at h)
    rw [binders, conditions, conditionsOfAll, conditionsOfAll, List.append_nil]
    exact hf
  | .field name [], _ => rfl
  | .field name [⟨operator, operand, options⟩], h => by
    rw [isVacuous, Condition.isVacuous] at h
    dsimp only at h
    split at h
    · rw [List.isEmpty_iff.mp h]
      rfl
    · rfl
    · exact absurd h Bool.false_ne_true
  | .joined .and [], _ => rfl

end Filter
end DocFilter
