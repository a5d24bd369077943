import DocFilter.Proofs.Course
import DocFilter.Proofs.Filter.Compile

/-!
# The compiler follows a course

Which names the compiler asks for, and where it stops, can be read off a tree before
anything is compiled, and neither depends on the dialect: an operand is checked against its
operator, the elements of a list one by one, an identity against an object, a pattern by the
library that reads patterns, a negation against the number of its children
(`Filter.course`).  What the compiler makes of the names is a function of the tree and the
names (`Filter.predicate`).  The compiler is the two together (`Filter.compile_eq_follow`).

Of a tree without a fault the course asks for the fields of all its parameters
(`Filter.fields_course`).
-/

namespace DocFilter

open Sql

namespace Dialect

/-- The text bound for the pattern of a regular expression: the expression itself, or the
wildcard pattern that stands in for it. -/
def boundPattern (d : Dialect) (regex : String) (ignoreCase : Bool) : String :=
  if d.hasRegex then regex else d.wildcardPattern regex ignoreCase

end Dialect

namespace Location

/-- A scalar as it is bound to be compared with what is at the place. -/
def scalarBound (place : Location) (v : Json) : Bound :=
  if place.isIdentity then Bound.ofJson v else Bound.textOf v

end Location

namespace Condition

/-! ## The course of a condition -/

/-- Names for the elements of a list, up to one that is no scalar. -/
def elementsCourse (comparison : Comparison) (field : String) : List Json → Course
  | [] => .done
  | v :: rest =>
    if v.isScalar then (Course.ask field).andThen (elementsCourse comparison field rest)
    else .stop (comparison.refusal field (.elementNotScalar v))

/-- The course of an equality: the name first, and only then the refusal of an object where
the place is the identity. -/
def equalityCourse (l : Layout) (field : String) (negated : Bool) (operand : Json) : Course :=
  (Course.ask field).andThen
    (if (l.locate field).isIdentity && operand.isStructured then
      .stop (Comparison.refusal (if negated then .notEqual else .equal) field .structuredIdentity)
    else .done)

/-- The options of a pattern, where they are given. -/
def readOptions (field : String) (c : Condition) : Except QueryError PatternOptions :=
  match c.options with
  | none => .ok .standard
  | some letters => PatternOptions.read field letters

/-- The course of a pattern with options that have been read. -/
def patternCourse (isPattern : String → Bool) (field pattern : String) : Course :=
  if isPattern pattern then .ask field
  else .stop (Comparison.matching.refusal field .invalidPattern)

/-- The course of a condition on a field. -/
def course (isPattern : String → Bool) (l : Layout) (field : String) (c : Condition) : Course :=
  if c.operator.accepts c.operand then
    match c.operator, c.operand with
    | .equal, v => equalityCourse l field false v
    | .notEqual, v => equalityCourse l field true v
    | .among, .array elements => elementsCourse .among field elements
    | .notAmong, .array elements => elementsCourse .notAmong field elements
    | .matching, .string pattern =>
      (Course.ofExcept (c.readOptions field)).andThen (patternCourse isPattern field pattern)
    | .greater, _ | .greaterEqual, _ | .less, _ | .lessEqual, _ => .ask field
    | _, _ => .done
  else .stop (c.operator.refusal field (c.operator.operandFault c.operand))

/-! ## What is made of the names -/

/-- The value bound for an equality at the place. -/
def equalityBound (place : Location) (v : Json) : Bound :=
  if !place.isIdentity && v.isStructured then .json v else place.scalarBound v

/-- The values bound for a condition on a place, where its operand is one the operator
accepts; there are as many as it has parameters. -/
def values (d : Dialect) (place : Location) (c : Condition) : List Bound :=
  match c.operator, c.operand with
  | .equal, v | .notEqual, v => [equalityBound place v]
  | .greater, v | .greaterEqual, v | .less, v | .lessEqual, v =>
    [(Bound.numberOf? v).getD .null]
  | .among, .array elements | .notAmong, .array elements => elements.map place.scalarBound
  | .matching, .string pattern => [.text (d.boundPattern pattern c.ignoresCase)]
  | .present, _ | .ofType, _ => []
  | .among, _ | .notAmong, _ | .matching, _ => [.null]

/-- The predicate of a condition on a field, with these names for its parameters. -/
def predicate (t : Target) (field : String) (c : Condition) (names : List String) : Predicate :=
  ⟨c.formula t.dialect (t.layout.locate field) (names.map t.dialect.placeholder),
    Dict.ofEntries (names.zip (c.values t.dialect (t.layout.locate field)))⟩

/-- A predicate with one parameter. -/
def single (t : Target) (φ : Fragment → Formula) (v : Bound) (names : List String) : Predicate :=
  ⟨φ (t.dialect.placeholder (names.headD "")), [(names.headD "", v)]⟩

variable {isPattern : String → Bool} {t : Target} {field : String}

theorem bindElements_eq_follow (comparison : Comparison) (elements : List Json) :
    bindElements t field comparison elements =
      Minting.follow (elementsCourse comparison field elements) fun ns =>
        (ns.map t.dialect.placeholder,
          ns.zip (elements.map (t.layout.locate field).scalarBound)) := by
  induction elements with
  | nil => rfl
  | cons v rest ih =>
    unfold bindElements elementsCourse
    cases v.isScalar with
    | false => rfl
    | true =>
      let place := t.layout.locate field
      let F (ns : List String) :=
        (ns.map t.dialect.placeholder, ns.zip (rest.map place.scalarBound))
      let G (name : String) (x : List Fragment × Bindings) :=
        (t.dialect.placeholder name :: x.1, (name, place.scalarBound v) :: x.2)
      rw [if_pos rfl, if_pos rfl, ih]
      change ((Minting.follow (.ask field) fun ns => ns.headD "").andThen fun name =>
        (Minting.follow (elementsCourse comparison field rest) F).andThen fun x =>
          Minting.result (G name x)) = _
      have hrest (name : String) :
          ((Minting.follow (elementsCourse comparison field rest) F).andThen fun x =>
            Minting.result (G name x)) =
          Minting.follow (elementsCourse comparison field rest) fun ns => G name (F ns) :=
        Minting.follow_map _ F (G name)
      rw [funext hrest, Minting.follow_andThen]
      refine Minting.follow_congr fun _ ns hns => ?_
      cases ns with
      | nil => exact absurd hns (by simp [Course.ask, Course.andThen])
      | cons n ns => rfl

/-! ## Conditions -/

theorem equalityCourse_fields (l : Layout) (field : String) (negated : Bool) (operand : Json) :
    (equalityCourse l field negated operand).fields = [field] := by
  unfold equalityCourse
  split
  · rfl
  · rfl

theorem patternCourse_fields {field pattern : String}
    (h : (patternCourse isPattern field pattern).fault = none) :
    (patternCourse isPattern field pattern).fields = [field] := by
  unfold patternCourse at h ⊢
  split at h
  · rw [if_pos ‹_›]
    rfl
  · exact absurd h (by simp [Course.stop])

/-- A list without a fault gets a name for each of its elements. -/
theorem elementsCourse_fields {comparison : Comparison} {elements : List Json}
    (h : (elementsCourse comparison field elements).fault = none) :
    (elementsCourse comparison field elements).fields =
      List.replicate elements.length field := by
  induction elements with
  | nil => rfl
  | cons v rest ih =>
    unfold elementsCourse at h ⊢
    split at h
    · rw [if_pos ‹_›]
      exact congrArg (field :: ·) (ih (Course.andThen_fault_eq_none.mp h).2)
    · exact absurd h (by simp [Course.stop])

/-- A condition with one parameter is made of its one name. -/
theorem single_eq_predicate {c : Condition} {φ : Fragment → Formula} {v : Bound}
    (hφ : ∀ p, c.formula t.dialect (t.layout.locate field) [p] = φ p)
    (hv : c.values t.dialect (t.layout.locate field) = [v]) {fields ns : List String}
    (hfields : fields = [field]) (hns : ns.length = fields.length) :
    single t φ v ns = predicate t field c ns := by
  rw [hfields] at hns
  obtain ⟨n, rfl⟩ := List.length_eq_one_iff.mp hns
  unfold predicate
  rw [hv, List.map_singleton, hφ]
  rfl

theorem compileEquality_eq_follow {comparison : Comparison} {negated : Bool} {operand : Json}
    {options : Option String}
    (hφ : ∀ p, formula t.dialect (t.layout.locate field) [p] ⟨comparison, operand, options⟩ =
      t.dialect.equality (t.layout.locate field) negated operand.isStructured p)
    (hv : values t.dialect (t.layout.locate field) ⟨comparison, operand, options⟩ =
      [equalityBound (t.layout.locate field) operand]) :
    compileEquality t field negated operand =
      Minting.follow (equalityCourse t.layout field negated operand)
        (predicate t field ⟨comparison, operand, options⟩) := by
  have hsingle : compileEquality t field negated operand =
      Minting.follow (equalityCourse t.layout field negated operand)
        (single t (t.dialect.equality (t.layout.locate field) negated operand.isStructured)
          (equalityBound (t.layout.locate field) operand)) := by
    unfold compileEquality equalityCourse equalityBound
    cases t.layout.locate field with
    | identity column =>
      cases operand.isStructured with
      | true => rfl
      | false => rfl
    | document column path =>
      cases operand.isStructured with
      | true => rfl
      | false => rfl
  rw [hsingle]
  exact Minting.follow_congr fun _ ns hns =>
    single_eq_predicate hφ hv (equalityCourse_fields _ _ _ _) hns

theorem compileOrdering_eq_follow {comparison : Comparison} {relation : Relation}
    {operand : Json} {options : Option String} (h : (Bound.numberOf? operand).isSome = true)
    (hφ : ∀ p, formula t.dialect (t.layout.locate field) [p] ⟨comparison, operand, options⟩ =
      t.dialect.compares (t.layout.locate field) relation p)
    (hv : values t.dialect (t.layout.locate field) ⟨comparison, operand, options⟩ =
      [(Bound.numberOf? operand).getD .null]) :
    compileOrdering t field comparison relation operand =
      Minting.follow (.ask field) (predicate t field ⟨comparison, operand, options⟩) := by
  have hsingle : compileOrdering t field comparison relation operand =
      Minting.follow (.ask field)
        (single t (t.dialect.compares (t.layout.locate field) relation)
          ((Bound.numberOf? operand).getD .null)) := by
    obtain ⟨number, hnumber⟩ := Option.isSome_iff_exists.mp h
    unfold compileOrdering
    rw [hnumber]
    rfl
  rw [hsingle]
  exact Minting.follow_congr fun _ ns hns => single_eq_predicate hφ hv rfl hns

theorem compileMembership_eq_follow (negated : Bool) (elements : List Json)
    (options : Option String) :
    compileMembership t field negated elements =
      Minting.follow (elementsCourse (if negated then .notAmong else .among) field elements)
        (predicate t field ⟨if negated then .notAmong else .among, .array elements, options⟩) := by
  cases elements with
  | nil =>
    cases negated with
    | true => rfl
    | false => rfl
  | cons v rest =>
    unfold compileMembership
    rw [if_neg (by simp)]
    dsimp only
    rw [bindElements_eq_follow]
    refine (Minting.follow_map _ _ _).trans (Minting.follow_congr fun hfault ns hns => ?_)
    rw [elementsCourse_fields hfault] at hns
    cases ns with
    | nil => exact absurd hns (by simp)
    | cons n ns =>
      cases negated with
      | true => rfl
      | false => rfl

theorem compileMatching_eq_follow (pattern : String) {options : Option String}
    {read : PatternOptions}
    (h : read.ignoreCase = ignoresCase ⟨.matching, .string pattern, options⟩) :
    compileMatching t field pattern read =
      Minting.follow (patternCourse t.isPattern field pattern)
        (predicate t field ⟨.matching, .string pattern, options⟩) := by
  have hsingle : compileMatching t field pattern read =
      Minting.follow (patternCourse t.isPattern field pattern)
        (single t (t.dialect.matching (t.layout.locate field) read.ignoreCase)
          (.text (t.dialect.boundPattern pattern read.ignoreCase))) := by
    unfold compileMatching patternCourse Dialect.matching Dialect.boundPattern
    cases t.isPattern pattern with
    | false => rfl
    | true =>
      cases t.dialect.hasRegex with
      | true => rfl
      | false => rfl
  rw [hsingle, h]
  exact Minting.follow_congr fun hfault ns hns =>
    single_eq_predicate (t := t) (c := ⟨.matching, .string pattern, options⟩) (fun _ => rfl) rfl
      (patternCourse_fields hfault) hns

theorem compileType_eq (name : String) (options : Option String) :
    compileType t field name = predicate t field ⟨.ofType, .string name, options⟩ [] := by
  unfold compileType predicate formula Dialect.typed
  dsimp only
  cases JsonType.ofName? name with
  | some type => rfl
  | none => rfl

/-- A condition is compiled along its course. -/
theorem compile_eq_follow (t : Target) (field : String) (c : Condition) :
    c.compile t field =
      Minting.follow (c.course t.isPattern t.layout field) (c.predicate t field) := by
  obtain ⟨operator, operand, options⟩ := c
  unfold compile course
  cases haccepts : operator.accepts operand with
  | false => rfl
  | true =>
    rw [if_neg (by simp), if_pos rfl]
    cases operator with
    | equal => exact compileEquality_eq_follow (fun _ => rfl) rfl
    | notEqual => exact compileEquality_eq_follow (fun _ => rfl) rfl
    | greater => exact compileOrdering_eq_follow haccepts (fun _ => rfl) rfl
    | greaterEqual => exact compileOrdering_eq_follow haccepts (fun _ => rfl) rfl
    | less => exact compileOrdering_eq_follow haccepts (fun _ => rfl) rfl
    | lessEqual => exact compileOrdering_eq_follow haccepts (fun _ => rfl) rfl
    | among =>
      cases operand with
      | array elements => exact compileMembership_eq_follow false elements options
      | _ => exact absurd haccepts Bool.false_ne_true
    | notAmong =>
      cases operand with
      | array elements => exact compileMembership_eq_follow true elements options
      | _ => exact absurd haccepts Bool.false_ne_true
    | matching =>
      cases operand with
      | string pattern =>
        cases options with
        | none => exact compileMatching_eq_follow pattern rfl
        | some letters =>
          dsimp only [readOptions]
          cases hread : PatternOptions.read field letters with
          | error e => rfl
          | ok read => exact compileMatching_eq_follow pattern (ignoreCase_of_readFrom hread)
      | _ => exact absurd haccepts Bool.false_ne_true
    | present =>
      cases operand with
      | bool wanted => rfl
      | _ => exact absurd haccepts Bool.false_ne_true
    | ofType =>
      cases operand with
      | string name => exact congrArg Minting.result (compileType_eq name options)
      | _ => exact absurd haccepts Bool.false_ne_true

/-- The course of a condition without a fault asks for the fields of its parameters. -/
theorem fields_course {l : Layout} {c : Condition}
    (h : (c.course isPattern l field).fault = none) :
    (c.course isPattern l field).fields = List.replicate c.arity field := by
  obtain ⟨operator, operand, options⟩ := c
  unfold course at h ⊢
  cases haccepts : operator.accepts operand with
  | false =>
    rw [haccepts] at h
    exact absurd h (by simp [Course.stop])
  | true =>
    rw [haccepts, if_pos rfl] at h
    rw [if_pos rfl]
    cases operator with
    | equal => exact equalityCourse_fields _ _ _ _
    | notEqual => exact equalityCourse_fields _ _ _ _
    | greater => rfl
    | greaterEqual => rfl
    | less => rfl
    | lessEqual => rfl
    | among =>
      cases operand with
      | array elements => exact elementsCourse_fields h
      | _ => exact absurd haccepts Bool.false_ne_true
    | notAmong =>
      cases operand with
      | array elements => exact elementsCourse_fields h
      | _ => exact absurd haccepts Bool.false_ne_true
    | matching =>
      cases operand with
      | string pattern =>
        have heq := Course.ofExcept_andThen h
        exact (congrArg Course.fields heq).trans
          (patternCourse_fields (Course.andThen_fault_eq_none.mp h).2)
      | _ => exact absurd haccepts Bool.false_ne_true
    | present => rfl
    | ofType => rfl

/-- A condition whose course has no fault compiles. -/
theorem run_compile_of_fault {c : Condition}
    (h : (c.course t.isPattern t.layout field).fault = none) (n : Nat) :
    (c.compile t field).run n =
      (.ok (c.predicate t field (parameterNames n (List.replicate c.arity field))),
        n + c.arity) := by
  have hverdict (p : Predicate) : (c.course t.isPattern t.layout field).verdict p = .ok p :=
    Course.verdict_eq_ok.mpr ⟨h, rfl⟩
  rw [compile_eq_follow, Minting.run_follow, fields_course h, hverdict, List.length_replicate]

/-- The course of conditions on one field, in order. -/
def courseAll (isPattern : String → Bool) (l : Layout) (field : String) :
    List Condition → Course
  | [] => .done
  | c :: rest => (c.course isPattern l field).andThen (courseAll isPattern l field rest)

/-- The predicates of conditions on one field, with these names for their parameters. -/
def predicates (t : Target) (field : String) : List Condition → List String → List Predicate
  | [], _ => []
  | c :: rest, names =>
    c.predicate t field (names.take c.arity) :: predicates t field rest (names.drop c.arity)

theorem compileAll_eq_follow (t : Target) (field : String) (cs : List Condition) :
    compileAll t field cs =
      Minting.follow (courseAll t.isPattern t.layout field cs) (predicates t field cs) := by
  induction cs with
  | nil => rfl
  | cons c rest ih =>
    unfold compileAll
    rw [compile_eq_follow, ih]
    refine (Minting.follow_cons _ _ _ _).trans (Minting.follow_congr fun hfault ns _ => ?_)
    have hc := fields_course (Course.andThen_fault_eq_none.mp hfault).1
    rw [hc, List.length_replicate]
    rfl

/-- Conditions without a fault ask for the fields of their parameters. -/
theorem fields_courseAll {l : Layout} {cs : List Condition}
    (h : (courseAll isPattern l field cs).fault = none) :
    (courseAll isPattern l field cs).fields = bindersOf (cs.map fun c => (field, c)) := by
  induction cs with
  | nil => rfl
  | cons c rest ih =>
    unfold courseAll at h ⊢
    obtain ⟨hc, hrest⟩ := Course.andThen_fault_eq_none.mp h
    rw [Course.andThen_of_fault_eq_none hc, fields_course hc, ih hrest]
    rfl

end Condition

/-! ## Joining -/

namespace Sql.Formula

/-- All of the conditions; a single one stands as it is. -/
def conjoin : List Formula → Formula
  | [φ] => φ
  | φs => .all φs

/-- The conditions joined by a connective; a negation joins all it is given. -/
def joined : Connective → List Formula → Formula
  | .and, φs => .all φs
  | .or, φs => .any φs
  | .nor, φs => .not (.any φs)
  | .not, φs => .not (conjoin φs)

end Sql.Formula

namespace Predicate

/-- The predicates joined by a connective; a negation joins all it is given. -/
def joined : Connective → List Predicate → Predicate
  | .and, ps => all ps
  | .or, ps => any ps
  | .nor, ps => not (any ps)
  | .not, ps => not (conjoin ps)

/-- A negation of any other number of filters than one is refused. -/
def joinCourse (op : Connective) (count : Nat) : Course :=
  if op = .not ∧ count ≠ 1 then .stop (.shape (.negationArity count)) else .done

theorem condition_conjoin (ps : List Predicate) :
    (conjoin ps).condition = Formula.conjoin (ps.map condition) := by
  match ps with
  | [] => rfl
  | [p] => rfl
  | p :: q :: ps => rfl

theorem condition_joined (op : Connective) (ps : List Predicate) :
    (joined op ps).condition = Formula.joined op (ps.map condition) := by
  cases op with
  | and => rfl
  | or => rfl
  | nor => rfl
  | not => exact congrArg Formula.not (condition_conjoin ps)

theorem combine_eq_verdict (op : Connective) (ps : List Predicate) :
    combine op ps = (joinCourse op ps.length).verdict (joined op ps) := by
  cases op with
  | and => rfl
  | or => rfl
  | nor => rfl
  | not =>
    match ps with
    | [] => rfl
    | [p] => rfl
    | p :: q :: ps => rw [joinCourse, if_pos (by simp)]; rfl

theorem joinCourse_fields (op : Connective) (count : Nat) : (joinCourse op count).fields = [] := by
  unfold joinCourse
  split
  · rfl
  · rfl

end Predicate

/-! ## Trees -/

namespace Filter

open Predicate

mutual

/-- The course of a filter. -/
def course (isPattern : String → Bool) (l : Layout) : Filter → Course
  | .all children => courseAll isPattern l children
  | .field name conditions => Condition.courseAll isPattern l name conditions
  | .joined connective children =>
    (courseAll isPattern l children).andThen (joinCourse connective children.length)

/-- The course of filters, in order. -/
def courseAll (isPattern : String → Bool) (l : Layout) : List Filter → Course
  | [] => .done
  | f :: rest => (f.course isPattern l).andThen (courseAll isPattern l rest)

end

mutual

/-- The predicate of a filter, with these names for its parameters. -/
def predicate (t : Target) : Filter → List String → Predicate
  | .all children, names => conjoin (predicates t children names)
  | .field name conditions, names => conjoin (Condition.predicates t name conditions names)
  | .joined connective children, names =>
    Predicate.joined connective (predicates t children names)

/-- The predicates of filters; the names are shared out in order. -/
def predicates (t : Target) : List Filter → List String → List Predicate
  | [], _ => []
  | f :: rest, names =>
    f.predicate t (names.take f.binders.length) :: predicates t rest (names.drop f.binders.length)

end

variable {isPattern : String → Bool} {l : Layout}

theorem length_predicates (t : Target) (fs : List Filter) (names : List String) :
    (predicates t fs names).length = fs.length := by
  induction fs generalizing names with
  | nil => rfl
  | cons f rest ih => rw [predicates, List.length_cons, ih, List.length_cons]

mutual

/-- A filter without a fault asks for the fields of its parameters. -/
theorem fields_course : ∀ (f : Filter), (f.course isPattern l).fault = none →
    (f.course isPattern l).fields = f.binders
  | .all children, h => fields_courseAll children h
  | .field name conditions, h => Condition.fields_courseAll h
  | .joined connective children, h => by
    unfold course at h ⊢
    have hchildren := (Course.andThen_fault_eq_none.mp h).1
    rw [Course.andThen_of_fault_eq_none hchildren, joinCourse_fields,
      fields_courseAll children hchildren]
    exact List.append_nil _

/-- Filters without a fault ask for the fields of their parameters. -/
theorem fields_courseAll : ∀ (fs : List Filter), (courseAll isPattern l fs).fault = none →
    (courseAll isPattern l fs).fields = bindersOf (conditionsOfAll fs)
  | [], _ => rfl
  | f :: rest, h => by
    unfold courseAll at h ⊢
    obtain ⟨hf, hrest⟩ := Course.andThen_fault_eq_none.mp h
    rw [Course.andThen_of_fault_eq_none hf, fields_course f hf, fields_courseAll rest hrest,
      conditionsOfAll, bindersOf_append]
    rfl

end

mutual

/-- A filter is compiled along its course. -/
theorem compile_eq_follow (t : Target) : ∀ f : Filter,
    f.compile t = Minting.follow (f.course t.isPattern t.layout) (f.predicate t)
  | .all children => by
    unfold compile course
    rw [compileAll_eq_follow t children]
    exact Minting.follow_map _ _ _
  | .field name conditions => by
    unfold compile course
    rw [Condition.compileAll_eq_follow]
    exact Minting.follow_map _ _ _
  | .joined connective children => by
    unfold compile course
    rw [compileAll_eq_follow t children]
    refine Minting.follow_check _ _ _ (Predicate.joined connective) (joinCourse_fields _ _)
      fun ns => ?_
    rw [combine_eq_verdict, length_predicates]

/-- Filters are compiled along their course. -/
theorem compileAll_eq_follow (t : Target) : ∀ fs : List Filter,
    compileAll t fs = Minting.follow (courseAll t.isPattern t.layout fs) (predicates t fs)
  | [] => rfl
  | f :: rest => by
    unfold compileAll
    rw [compile_eq_follow t f, compileAll_eq_follow t rest]
    refine (Minting.follow_cons _ _ _ _).trans (Minting.follow_congr fun hfault ns _ => ?_)
    rw [fields_course f (Course.andThen_fault_eq_none.mp hfault).1]
    rfl

end

end Filter
end DocFilter
