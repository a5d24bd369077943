import DocFilter.Proofs.Sql.Reading
import DocFilter.Proofs.Sql.Renaming

/-!
# Conditions on a row

A row gives values to expressions, and some of them are missing: what reads the document
comes to `NULL` where the path leads nowhere.  A comparison with a missing value is neither
true nor false, and neither is its negation; only `IS NULL` and `IS NOT NULL` look at whether
there is a value.

What an expression comes to, and how two values compare, is left to the row.  So all that is
said here of the truth of a condition holds in every database, for every document.

The truth of a condition depends on the parameters through the values bound to them, not
through their names (`Formula.truth_rename`), and it is known where every value that is
looked at is there (`Formula.truth_ne_unknown`).
-/

namespace DocFilter
namespace Sql

namespace Truth

/-- The truth of what is decided. -/
def ofBool : Bool → Truth
  | true => .yes
  | false => .no

theorem ofBool_ne_unknown (b : Bool) : ofBool b ≠ .unknown := by
  cases b <;> simp [ofBool]

@[simp] theorem not_eq_unknown {k : Truth} : k.not = .unknown ↔ k = .unknown := by
  cases k <;> simp [not]

@[simp] theorem not_eq_yes {k : Truth} : k.not = .yes ↔ k = .no := by
  cases k <;> simp [not]

theorem and_ne_unknown {j k : Truth} (hj : j ≠ .unknown) (hk : k ≠ .unknown) :
    j.and k ≠ .unknown := by
  cases j <;> cases k <;> simp_all [and]

theorem or_ne_unknown {j k : Truth} (hj : j ≠ .unknown) (hk : k ≠ .unknown) :
    j.or k ≠ .unknown := by
  cases j <;> cases k <;> simp_all [or]

theorem all_ne_unknown {ks : List Truth} (h : ∀ k ∈ ks, k ≠ .unknown) : all ks ≠ .unknown := by
  induction ks with
  | nil => simp [all]
  | cons k ks ih =>
    obtain ⟨hk, hks⟩ := List.forall_mem_cons.mp h
    exact and_ne_unknown hk (ih hks)

theorem any_ne_unknown {ks : List Truth} (h : ∀ k ∈ ks, k ≠ .unknown) : any ks ≠ .unknown := by
  induction ks with
  | nil => simp [any]
  | cons k ks ih =>
    obtain ⟨hk, hks⟩ := List.forall_mem_cons.mp h
    exact or_ne_unknown hk (ih hks)

/-- Any of them is false when each of them is. -/
theorem any_eq_no {ks : List Truth} : any ks = .no ↔ ∀ k ∈ ks, k = .no := by
  induction ks with
  | nil => simp [any]
  | cons k ks ih =>
    have hcons : any (k :: ks) = k.or (any ks) := rfl
    rw [hcons, List.forall_mem_cons, ← ih]
    cases k <;> cases any ks <;> simp [or]

end Truth

/-! ## Rows -/

/-- What a database makes of one row, with values of the type `V`. -/
structure Row (V : Type) where
  /-- The value of an expression, with these values for its parameters in order; `none` is
  `NULL`. -/
  value : Fragment → List Bound → Option V
  /-- Two values are in a relation. -/
  relates : Relation → V → V → Bool
  /-- A text matches a pattern of `LIKE` with an escape. -/
  likes : V → V → V → Bool
  /-- What a call says that yields a truth value. -/
  test : Fragment → List Bound → Truth

namespace Row

variable {V : Type} (row : Row V) (look : String → Bound)

/-- The value of an expression when the names of its parameters are looked up. -/
def eval (f : Fragment) : Option V := row.value (f.rename fun _ => "") (f.names.map look)

/-- What a call says when the names of its parameters are looked up. -/
def check (f : Fragment) : Truth := row.test (f.rename fun _ => "") (f.names.map look)

/-- The truth of a relation; it is unknown where a value is missing. -/
def compare (relation : Relation) : Option V → Option V → Truth
  | some a, some b => .ofBool (row.relates relation a b)
  | _, _ => .unknown

/-- The truth of a match; it is unknown where a value is missing. -/
def resembles (subject pattern escape : Option V) : Truth :=
  match subject, pattern, escape with
  | some s, some p, some e => .ofBool (row.likes s p e)
  | _, _, _ => .unknown

/-- An expression equal to one of several. -/
def amongst (subject : Fragment) (choices : List Fragment) : Truth :=
  .any (choices.map fun f => row.compare .equal (row.eval look subject) (row.eval look f))

/-- A row with an identity and an empty document, where an expression with a text for its one
parameter is that text, and everything else is missing. -/
def empty (identity : Fragment) : Row String where
  value f bounds :=
    match bounds with
    | [.text s] => some s
    | _ => if f = identity then some "1" else none
  relates relation a b :=
    match relation with
    | .equal => a == b
    | .notEqual => a != b
    | _ => false
  likes _ _ _ := false
  test _ _ := .unknown

end Row

/-- The truth of an atom on a row. -/
def Atom.truth {V : Type} (row : Row V) (look : String → Bound) : Atom → Truth
  | .compare left relation right =>
    row.compare relation (row.eval look left) (row.eval look right)
  | .among subject choices => row.amongst look subject choices
  | .notAmong subject choices => (row.amongst look subject choices).not
  | .like subject pattern escape =>
    row.resembles (row.eval look subject) (row.eval look pattern) (row.eval look escape)
  | .isNull subject => .ofBool (row.eval look subject).isNone
  | .isNotNull subject => .ofBool (row.eval look subject).isSome
  | .holds test => row.check look test
  | .fails test => (row.check look test).not

/-- Every value that the atom looks at is there. -/
def Atom.Valued {V : Type} (row : Row V) (look : String → Bound) : Atom → Prop
  | .compare left _ right => (row.eval look left).isSome ∧ (row.eval look right).isSome
  | .among subject choices | .notAmong subject choices =>
    (row.eval look subject).isSome ∧ ∀ f ∈ choices, (row.eval look f).isSome
  | .like subject pattern escape =>
    (row.eval look subject).isSome ∧ (row.eval look pattern).isSome ∧
      (row.eval look escape).isSome
  | .isNull _ | .isNotNull _ => True
  | .holds test | .fails test => row.check look test ≠ .unknown

namespace Formula

variable {V : Type} (row : Row V) (look : String → Bound)

mutual

/-- The truth of a condition on a row. -/
def truth : Formula → Truth
  | .verbatim text => row.check look (Fragment.sql text)
  | .atom a => a.truth row look
  | .not φ => (truth φ).not
  | .all φs => .all (truths φs)
  | .any φs => .any (truths φs)

/-- The truth of each condition on a row. -/
def truths : List Formula → List Truth
  | [] => []
  | φ :: φs => truth φ :: truths φs

end

mutual

/-- Every value that the condition looks at is there. -/
def Valued : Formula → Prop
  | .verbatim text => row.check look (Fragment.sql text) ≠ .unknown
  | .atom a => a.Valued row look
  | .not φ => Valued φ
  | .all φs => ValuedAll φs
  | .any φs => ValuedAll φs

/-- Every value that one of the conditions looks at is there. -/
def ValuedAll : List Formula → Prop
  | [] => True
  | φ :: φs => Valued φ ∧ ValuedAll φs

end

variable {row look}

theorem truths_eq_map (φs : List Formula) : truths row look φs = φs.map (truth row look) := by
  induction φs with
  | nil => rfl
  | cons φ φs ih => rw [truths, ih, List.map_cons]

end Formula

/-! ## Where every value is there -/

section Known

variable {V : Type} {row : Row V} {look : String → Bound}

theorem Row.compare_ne_unknown {relation : Relation} {a b : Option V} (ha : a.isSome)
    (hb : b.isSome) : row.compare relation a b ≠ .unknown := by
  obtain ⟨x, rfl⟩ := Option.isSome_iff_exists.mp ha
  obtain ⟨y, rfl⟩ := Option.isSome_iff_exists.mp hb
  exact Truth.ofBool_ne_unknown _

theorem Row.amongst_ne_unknown {subject : Fragment} {choices : List Fragment}
    (hs : (row.eval look subject).isSome) (hc : ∀ f ∈ choices, (row.eval look f).isSome) :
    row.amongst look subject choices ≠ .unknown := by
  refine Truth.any_ne_unknown fun k hk => ?_
  obtain ⟨f, hf, rfl⟩ := List.mem_map.mp hk
  exact compare_ne_unknown hs (hc f hf)

theorem Atom.truth_ne_unknown {a : Atom} (h : a.Valued row look) : a.truth row look ≠ .unknown := by
  cases a with
  | compare left relation right => exact Row.compare_ne_unknown h.1 h.2
  | among subject choices => exact Row.amongst_ne_unknown h.1 h.2
  | notAmong subject choices =>
    exact fun hk => Row.amongst_ne_unknown h.1 h.2 (Truth.not_eq_unknown.mp hk)
  | like subject pattern escape =>
    obtain ⟨hs, hp, he⟩ := h
    obtain ⟨x, hx⟩ := Option.isSome_iff_exists.mp hs
    obtain ⟨y, hy⟩ := Option.isSome_iff_exists.mp hp
    obtain ⟨z, hz⟩ := Option.isSome_iff_exists.mp he
    rw [truth, hx, hy, hz]
    exact Truth.ofBool_ne_unknown _
  | isNull subject => exact Truth.ofBool_ne_unknown _
  | isNotNull subject => exact Truth.ofBool_ne_unknown _
  | holds test => exact h
  | fails test => exact fun hk => h (Truth.not_eq_unknown.mp hk)

namespace Formula

mutual

/-- The truth of a condition is known where every value is there. -/
theorem truth_ne_unknown : ∀ {φ : Formula}, φ.Valued row look → φ.truth row look ≠ .unknown
  | .verbatim _, h => h
  | .atom _, h => Atom.truth_ne_unknown h
  | .not φ, h => by
    rw [truth, Ne, Truth.not_eq_unknown]
    have hφ : φ.Valued row look := h
    exact truth_ne_unknown hφ
  | .all _, h => Truth.all_ne_unknown (truths_ne_unknown h)
  | .any _, h => Truth.any_ne_unknown (truths_ne_unknown h)

theorem truths_ne_unknown : ∀ {φs : List Formula}, ValuedAll row look φs →
    ∀ k ∈ truths row look φs, k ≠ .unknown
  | [], _ => fun _ hk => absurd hk (by simp [truths])
  | _ :: _, h => List.forall_mem_cons.mpr ⟨truth_ne_unknown h.1, truths_ne_unknown h.2⟩

end

end Formula

end Known

/-! ## Other names, and other values for names that do not occur -/

section Names

variable {V : Type} {row : Row V} {look look' : String → Bound} {ρ : String → String}

theorem Fragment.rename_rename (σ : String → String) (f : Fragment) :
    (f.rename ρ).rename σ = f.rename (σ ∘ ρ) := by
  rw [rename, rename, rename, List.map_map]
  refine List.map_congr_left fun p _ => ?_
  cases p <;> rfl

theorem Row.eval_rename (f : Fragment) : row.eval look (f.rename ρ) = row.eval (look ∘ ρ) f := by
  rw [eval, eval, Fragment.rename_rename, Fragment.names_rename, List.map_map]
  rfl

theorem Row.check_rename (f : Fragment) :
    row.check look (f.rename ρ) = row.check (look ∘ ρ) f := by
  rw [check, check, Fragment.rename_rename, Fragment.names_rename, List.map_map]
  rfl

theorem Row.amongst_rename (subject : Fragment) (choices : List Fragment) :
    row.amongst look (subject.rename ρ) (choices.map (Fragment.rename ρ)) =
      row.amongst (look ∘ ρ) subject choices := by
  rw [amongst, amongst, List.map_map, eval_rename]
  exact congrArg Truth.any (List.map_congr_left fun f _ => by rw [Function.comp_apply, eval_rename])

theorem Atom.truth_rename (a : Atom) : (a.rename ρ).truth row look = a.truth row (look ∘ ρ) := by
  cases a <;>
    simp only [rename, truth, Row.eval_rename, Row.check_rename, Row.amongst_rename]

theorem Row.eval_congr {f : Fragment} (h : ∀ name ∈ f.names, look name = look' name) :
    row.eval look f = row.eval look' f := by
  rw [eval, eval, List.map_congr_left h]

theorem Row.check_congr {f : Fragment} (h : ∀ name ∈ f.names, look name = look' name) :
    row.check look f = row.check look' f := by
  rw [check, check, List.map_congr_left h]

theorem Row.amongst_congr {subject : Fragment} {choices : List Fragment}
    (hs : ∀ name ∈ subject.names, look name = look' name)
    (hc : ∀ name ∈ choices.flatMap Fragment.names, look name = look' name) :
    row.amongst look subject choices = row.amongst look' subject choices := by
  rw [amongst, amongst, eval_congr hs]
  refine congrArg Truth.any (List.map_congr_left fun f hf => ?_)
  rw [eval_congr fun name hname => hc name (List.mem_flatMap.mpr ⟨f, hf, hname⟩)]

theorem Atom.truth_congr {a : Atom} (h : ∀ name ∈ a.fragment.names, look name = look' name) :
    a.truth row look = a.truth row look' := by
  cases a <;>
    simp only [fragment, Fragment.names_append, Fragment.names_join, Fragment.names_sql,
      List.append_nil, List.nil_append, List.forall_mem_append] at h
  case compare left relation right => rw [truth, truth, Row.eval_congr h.1, Row.eval_congr h.2]
  case among subject choices => exact Row.amongst_congr h.1 h.2
  case notAmong subject choices => exact congrArg Truth.not (Row.amongst_congr h.1 h.2)
  case like subject pattern escape =>
    rw [truth, truth, Row.eval_congr h.1.1, Row.eval_congr h.1.2, Row.eval_congr h.2]
  case isNull subject => rw [truth, truth, Row.eval_congr h]
  case isNotNull subject => rw [truth, truth, Row.eval_congr h]
  case holds test => exact Row.check_congr h
  case fails test => exact congrArg Truth.not (Row.check_congr h)

namespace Formula

mutual

/-- The truth of a condition does not depend on the names of its parameters. -/
theorem truth_rename : ∀ φ : Formula, (φ.rename ρ).truth row look = φ.truth row (look ∘ ρ)
  | .verbatim _ => rfl
  | .atom a => Atom.truth_rename a
  | .not φ => congrArg Truth.not (truth_rename φ)
  | .all φs => congrArg Truth.all (truths_rename φs)
  | .any φs => congrArg Truth.any (truths_rename φs)

theorem truths_rename : ∀ φs : List Formula,
    truths row look (renameAll ρ φs) = truths row (look ∘ ρ) φs
  | [] => rfl
  | φ :: φs => by rw [renameAll, truths, truths, truth_rename φ, truths_rename φs]

end

mutual

/-- The truth of a condition depends on the values of its own parameters alone. -/
theorem truth_congr : ∀ {φ : Formula}, (∀ name ∈ φ.fragment.names, look name = look' name) →
    φ.truth row look = φ.truth row look'
  | .verbatim _, _ => rfl
  | .atom _, h => Atom.truth_congr h
  | .not φ, h => by
    rw [names_not] at h
    rw [truth, truth, truth_congr h]
  | .all [], _ => rfl
  | .all (φ :: φs), h => by
    rw [names_all_cons, List.forall_mem_append] at h
    rw [truth, truth, truths, truths, truth_congr h.1, truths_congr h.2]
  | .any [], _ => rfl
  | .any (φ :: φs), h => by
    rw [names_any_cons, List.forall_mem_append] at h
    rw [truth, truth, truths, truths, truth_congr h.1, truths_congr h.2]

theorem truths_congr {word : String} : ∀ {φs : List Formula},
    (∀ name ∈ (tailFragment word φs).names, look name = look' name) →
      truths row look φs = truths row look' φs
  | [], _ => rfl
  | φ :: φs, h => by
    rw [names_tailFragment_cons, List.forall_mem_append] at h
    rw [truths, truths, truth_congr h.1, truths_congr h.2]

end

end Formula

end Names

end Sql
end DocFilter
