import DocFilter.Proofs.Filter.Admissible
import DocFilter.Proofs.Filter.Numbering
import DocFilter.Proofs.Number.Double
import DocFilter.Proofs.Number.Numeral
import DocFilter.Proofs.Query.Course

/-!
# Integers that are bound

A number of JSON carries an integer of 64 bits, with a sign or without; a parameter holds one
with a sign.  An ordering takes its operand as a number, be it one or a text that spells one, and
so does what is compared with the identity.  Whatever such a condition is and wherever in a filter
it stands, the parameter of an integer up to `int64Greatest` is bound to that integer, and that of
a greater one to the number of binary64 nearest to it (`Translator.bindsInteger`).

So two integers are bound alike exactly if they are the same, or both are too large and have the
same number next to them; the first two that are too large do
(`Translator.exists_same_identity`).
-/

namespace DocFilter

open Sql

/-! ## Integers as they are written -/

/-- A number of JSON carries the integer. -/
def Number.Carries (n : Int) : Prop := int64Least ≤ n ∧ n < 2 ^ 64

/-- The value is the integer, or a text that spells it, whatever blanks stand around it. -/
inductive Json.Spells (n : Int) : Json → Prop
  | number : Spells n (.ofInt n)
  | text {s : String} (h : int? (Text.trimChars s.toList) = some n) : Spells n (.string s)

variable {n m : Int} {cs : List Char}

/-- The decimal text of an integer spells it, with blanks around it or without. -/
theorem Json.spells_padded (n : Int) (before after : List Char)
    (hbefore : ∀ c ∈ before, Text.isBlank c = true) (hafter : ∀ c ∈ after, Text.isBlank c = true) :
    Json.Spells n (.string (String.ofList (before ++ intChars n ++ after))) := by
  refine .text ?_
  rw [String.toList_ofList, Text.trimChars_padded hbefore (trimmed_intChars n) hafter,
    int?_intChars]

/-- The numeral of a positive integer has digits and no minus. -/
theorem digits_of_int? (h : int? cs = some n) (hn : 0 < n) :
    ∃ ds, splitSign cs = (false, ds) ∧ isDigits ds = true ∧ digitsValue ds = n.toNat := by
  unfold int? at h
  rcases hsplit : splitSign cs with ⟨negative, ds⟩
  rw [hsplit] at h
  dsimp only at h
  split at h
  · next hdigits =>
    have hvalue := Option.some.inj h
    cases negative with
    | true =>
      rw [if_pos rfl, Int.ofNat_eq_natCast] at hvalue
      omega
    | false =>
      rw [if_neg Bool.false_ne_true, Int.ofNat_eq_natCast] at hvalue
      exact ⟨ds, rfl, hdigits, by omega⟩
  · exact absurd h (by simp)

/-- A natural number of 64 bits is rounded the same as a decimal without a point. -/
theorem Double.ofDecimal?_eq {k : Nat} (h : k < 2 ^ 64) :
    Double.ofDecimal? false k 0 = Double.ofNat? k := by
  have hlength : decimalLength k ≤ 20 :=
    (Nat.length_toDigits_le_iff (by omega) (by omega)).mpr (h.trans (by decide))
  unfold ofDecimal? ofNat?
  split
  · next hzero => rw [hzero]; rfl
  · dsimp only
    rw [Int.ofNat_eq_natCast, if_neg (by omega), if_neg (by omega), if_pos le_rfl]
    rw [Int.toNat_zero, Nat.pow_eq, Nat.pow_zero, Nat.mul_one]

/-- A numeral of a positive integer of 64 bits is rounded as that integer is. -/
theorem double?_of_int? (h : int? cs = some n) (hn : 0 < n) (hlt : n < 2 ^ 64) :
    double? cs = Double.ofNat? n.toNat := by
  obtain ⟨ds, hsplit, hdigits, hvalue⟩ := digits_of_int? h hn
  have hall : ds.all Char.isDigit = true := (Bool.and_eq_true_iff.mp hdigits).2
  have hne : ds.isEmpty = false := by
    simpa using (Bool.and_eq_true_iff.mp hdigits).1
  have hdigit : ∀ c ∈ ds, c.isDigit = true := List.all_eq_true.mp hall
  unfold double?
  rw [hsplit]
  simp only [List.takeWhile_eq_self_iff.mpr hdigit, List.dropWhile_eq_nil_iff.mpr hdigit,
    List.isEmpty_nil, hne, Bool.false_and, Bool.false_eq_true, if_false, List.append_nil]
  exact (congrArg (Double.ofDecimal? false · 0) hvalue).trans (Double.ofDecimal?_eq (by omega))

/-! ## What an integer is bound as -/

namespace Bound

/-- What is bound for an integer. -/
def ofInt (n : Int) : Bound := ofNumber (.integer n)

theorem fitsInt64_iff (hn : Number.Carries n) : fitsInt64 n = true ↔ n ≤ int64Greatest := by
  rw [fitsInt64, Bool.and_eq_true, decide_eq_true_eq, decide_eq_true_eq]
  exact ⟨And.right, And.intro hn.1⟩

theorem ofInt_of_le (hn : Number.Carries n) (h : n ≤ int64Greatest) : ofInt n = .int n := by
  rw [ofInt, ofNumber, Number.toInt64?, if_pos ((fitsInt64_iff hn).mpr h)]

/-- A greater integer is rounded to the nearest number of binary64. -/
theorem ofInt_of_gt (hn : Number.Carries n) (h : int64Greatest < n) :
    ∃ x, Double.ofNat? n.toNat = some x ∧ ofInt n = .float x ∧ x.Nearest n := by
  have hpos : 0 < n := lt_trans (by decide) h
  have hlt := hn.2
  obtain ⟨x, hx, hnearest⟩ := Double.exists_ofNat? (n := n.toNat) (by omega)
  have hcast : ((n.toNat : Nat) : ℚ) = n := by
    have hint : ((n.toNat : Nat) : Int) = n := Int.toNat_of_nonneg hpos.le
    exact_mod_cast hint
  rw [hcast] at hnearest
  refine ⟨x, hx, ?_, hnearest⟩
  have hfits : fitsInt64 n = false :=
    Bool.eq_false_iff.mpr fun hfits => absurd ((fitsInt64_iff hn).mp hfits) (by omega)
  have habs : n.natAbs = n.toNat := by omega
  have hsign : decide (n < 0) = false := by simpa using hpos.le
  rw [ofInt, ofNumber, Number.toInt64?, hfits, if_neg Bool.false_ne_true]
  dsimp only
  rw [Number.toDouble, habs, hx, Option.getD_some, hsign, Double.withSign]
  have hnegative : x.negative = false := Double.negative_of_ofRatio? hx
  rw [← hnegative]

/-- A value that spells an integer is taken for it where a number is asked for. -/
theorem numberOf?_of_spells {v : Json} (h : v.Spells n) (hn : Number.Carries n) :
    numberOf? v = some (ofInt n) := by
  cases h with
  | number => rfl
  | text h =>
    unfold numberOf?
    dsimp only
    rw [h]
    dsimp only
    by_cases hle : n ≤ int64Greatest
    · rw [if_pos ((fitsInt64_iff hn).mpr hle), ofInt_of_le hn hle]
    · have hgt : int64Greatest < n := not_le.mp hle
      obtain ⟨x, hx, hbound, -⟩ := ofInt_of_gt hn hgt
      rw [if_neg (mt (fitsInt64_iff hn).mp hle),
        double?_of_int? h (lt_trans (by decide) hgt) hn.2, hx, hbound]
      rfl

/-- Two integers are bound alike exactly if they are the same, or both are too large and have the
same number of binary64 next to them. -/
theorem ofInt_eq_iff (hn : Number.Carries n) (hm : Number.Carries m) :
    ofInt n = ofInt m ↔ n = m ∨ int64Greatest < n ∧ int64Greatest < m ∧
      Double.ofNat? n.toNat = Double.ofNat? m.toNat := by
  rcases le_or_gt n int64Greatest with hle | hgt
  · rw [ofInt_of_le hn hle]
    rcases le_or_gt m int64Greatest with hle' | hgt'
    · rw [ofInt_of_le hm hle', Bound.int.injEq]
      exact ⟨Or.inl, fun h => h.elim id fun h => absurd h.1 (not_lt.mpr hle)⟩
    · obtain ⟨y, -, hbound, -⟩ := ofInt_of_gt hm hgt'
      rw [hbound]
      refine ⟨fun h => absurd h (by simp), fun h => ?_⟩
      rcases h with rfl | h
      · exact absurd hgt' (not_lt.mpr hle)
      · exact absurd h.1 (not_lt.mpr hle)
  · obtain ⟨x, hx, hbound, -⟩ := ofInt_of_gt hn hgt
    rw [hbound]
    rcases le_or_gt m int64Greatest with hle' | hgt'
    · rw [ofInt_of_le hm hle']
      refine ⟨fun h => absurd h (by simp), fun h => ?_⟩
      rcases h with rfl | h
      · exact absurd hgt (not_lt.mpr hle')
      · exact absurd h.2.1 (not_lt.mpr hle')
    · obtain ⟨y, hy, hbound', -⟩ := ofInt_of_gt hm hgt'
      rw [hbound', Bound.float.injEq, hx, hy, Option.some.injEq]
      refine ⟨fun h => .inr ⟨hgt, hgt', h⟩, fun h => ?_⟩
      rcases h with rfl | h
      · exact Option.some.inj (hx.symm.trans hy)
      · exact h.2.2

end Bound

/-! ## Conditions that take an integer -/

namespace Condition

/-- The comparisons with a number. -/
def orderings : List Comparison := [.greater, .greaterEqual, .less, .lessEqual]

/-- The operand with this index among the values of the condition is the integer: as the operand
of an ordering on any field, or as an operand that the identity is compared with. -/
inductive Takes (l : Layout) (field : String) (n : Int) : Condition → Nat → Prop
  | ordering {c : Comparison} {v : Json} (hc : c ∈ orderings) (hv : v.Spells n)
      (options : Option String) : Takes l field n ⟨c, v, options⟩ 0
  | equality {c : Comparison} (hc : c = .equal ∨ c = .notEqual) (hfield : field = l.identityField)
      (options : Option String) : Takes l field n ⟨c, .ofInt n, options⟩ 0
  | membership {c : Comparison} {elements : List Json} {i : Nat}
      (hc : c = .among ∨ c = .notAmong) (hfield : field = l.identityField)
      (hscalar : ∀ v ∈ elements, v.isScalar = true) (hi : elements[i]? = some (.ofInt n))
      (options : Option String) : Takes l field n ⟨c, .array elements, options⟩ i

variable {l : Layout} {field : String} {c : Condition} {i : Nat}

/-- The integer is among the values. -/
theorem Takes.values (h : c.Takes l field n i) (hn : Number.Carries n) (d : Dialect) :
    (c.values d (l.locate field))[i]? = some (Bound.ofInt n) := by
  cases h with
  | @ordering c v hc hv options =>
    have hvalues : Condition.values d (l.locate field) ⟨c, v, options⟩ =
        [(Bound.numberOf? v).getD .null] := by
      simp only [orderings, List.mem_cons, List.not_mem_nil, or_false] at hc
      rcases hc with rfl | rfl | rfl | rfl <;> rfl
    rw [hvalues, Bound.numberOf?_of_spells hv hn]
    rfl
  | equality hc hfield options =>
    rw [Layout.locate_of_eq hfield]
    rcases hc with rfl | rfl
    · rfl
    · rfl
  | membership hc hfield hscalar hi options =>
    rw [Layout.locate_of_eq hfield]
    rcases hc with rfl | rfl
    · exact (List.getElem?_map ..).trans (congrArg (Option.map _) hi)
    · exact (List.getElem?_map ..).trans (congrArg (Option.map _) hi)

theorem Takes.lt_arity (h : c.Takes l field n i) (hn : Number.Carries n) : i < c.arity := by
  rw [← length_values .postgres (l.locate field)]
  exact (List.getElem?_eq_some_iff.mp (h.values hn .postgres)).1

/-- No such condition is refused. -/
theorem Takes.sound (h : c.Takes l field n i) (hn : Number.Carries n)
    (isPattern : String → Bool) : (c.course isPattern l field).fault = none := by
  cases h with
  | @ordering c v hc hv options =>
    have hcourse : Condition.course isPattern l field ⟨c, v, options⟩ =
        if (Bound.numberOf? v).isSome then .ask field
        else .stop (c.refusal field (c.operandFault v)) := by
      simp only [orderings, List.mem_cons, List.not_mem_nil, or_false] at hc
      rcases hc with rfl | rfl | rfl | rfl <;> rfl
    rw [hcourse, Bound.numberOf?_of_spells hv hn]
    rfl
  | equality hc hfield options =>
    rcases hc with rfl | rfl
    · exact equalityCourse_fault_eq_none_iff.mpr fun _ => rfl
    · exact equalityCourse_fault_eq_none_iff.mpr fun _ => rfl
  | membership hc hfield hscalar hi options =>
    rcases hc with rfl | rfl
    · exact elementsCourse_fault_eq_none_iff.mpr hscalar
    · exact elementsCourse_fault_eq_none_iff.mpr hscalar

end Condition

/-! ## In a filter -/

/-- The name of the parameter with this index for conditions one of which has it. -/
theorem getElem?_parameterNames_bindersOf (k : Nat) {before after : List (String × Condition)}
    {field : String} {c : Condition} {i : Nat} (hi : i < c.arity) :
    (parameterNames k (bindersOf (before ++ (field, c) :: after)))[(bindersOf before).length + i]? =
      some (parameterName field (k + (bindersOf before).length + i + 1)) := by
  have hbinders : bindersOf (before ++ (field, c) :: after) =
      bindersOf before ++ (List.replicate c.arity field ++ bindersOf after) :=
    bindersOf_append before ((field, c) :: after)
  have hfield : (List.replicate c.arity field ++ bindersOf after)[i]? = some field := by
    rw [List.getElem?_append_left (by rwa [List.length_replicate]), List.getElem?_replicate,
      if_pos hi]
  rw [getElem?_parameterNames, hbinders, List.getElem?_append_right (Nat.le_add_right _ _),
    Nat.add_sub_cancel_left, hfield, Option.map_some, ← Nat.add_assoc k]

/-- The value with this index for conditions one of which has it. -/
theorem getElem?_valuesOf {d : Dialect} {l : Layout} {before after : List (String × Condition)}
    {field : String} {c : Condition} {i : Nat} {v : Bound}
    (hv : (c.values d (l.locate field))[i]? = some v) :
    (valuesOf d l (before ++ (field, c) :: after))[(bindersOf before).length + i]? = some v := by
  have hvalues : valuesOf d l (before ++ (field, c) :: after) =
      valuesOf d l before ++ (c.values d (l.locate field) ++ valuesOf d l after) :=
    valuesOf_append d l before ((field, c) :: after)
  have hi : i < (c.values d (l.locate field)).length := (List.getElem?_eq_some_iff.mp hv).1
  rw [hvalues, List.getElem?_append_right (by rw [length_valuesOf]; exact Nat.le_add_right _ _),
    length_valuesOf, Nat.add_sub_cancel_left, List.getElem?_append_left hi, hv]

namespace Translator

/-- What is bound for an integer, by a translator. -/
structure BindsInteger (t : Translator) (n : Int) : Prop where
  /-- A condition that takes the integer compiles, and the parameter is bound. -/
  compiled : ∀ {field : String} {c : Condition} {i : Nat}, c.Takes t.layout field n i →
    ∀ k, ∃ p, (c.compile t.target field).run k = (.ok p, k + c.arity) ∧
      p.bindings[i]? = some (parameterName field (k + i + 1), Bound.ofInt n)
  /-- In a request that is translated, it is bound wherever the condition stands. -/
  translated : ∀ {r : Request} {filter : Filter} {k k' : Nat} {out : Translation},
    (t.translate r).run k = (.ok out, k') → t.readFilter r.filter = .ok filter →
    ∀ {before after : List (String × Condition)} {field : String} {c : Condition} {i : Nat},
      filter.conditions = before ++ (field, c) :: after → c.Takes t.layout field n i →
      out.bindings[(bindersOf before).length + i]? =
        some (parameterName field (k + (bindersOf before).length + i + 1), Bound.ofInt n)
  /-- What is bound is the integer, -/
  exact : n ≤ int64Greatest → Bound.ofInt n = .int n
  /-- or the nearest number of binary64, where no integer of 64 bits with a sign is meant. -/
  rounded : int64Greatest < n →
    ∃ x, Double.ofNat? n.toNat = some x ∧ Bound.ofInt n = .float x ∧ x.Nearest n
  /-- Another integer is bound alike only if both are rounded, and to the same number. -/
  alike_iff : ∀ {m : Int}, Number.Carries m →
    (Bound.ofInt n = Bound.ofInt m ↔ n = m ∨ int64Greatest < n ∧ int64Greatest < m ∧
      Double.ofNat? n.toNat = Double.ofNat? m.toNat)

/-- The parameter of an integer is bound to it, or to the number of binary64 nearest to it where
it is greater than every integer of 64 bits with a sign. -/
theorem bindsInteger (t : Translator) {n : Int} (hn : Number.Carries n) : t.BindsInteger n where
  compiled := by
    intro field c i htakes k
    refine ⟨_, Condition.run_compile_of_fault (htakes.sound hn _) k, ?_⟩
    have hname : (c.parameters field k)[i]? = some (parameterName field (k + i + 1)) := by
      rw [Condition.parameters, getElem?_parameterNames, List.getElem?_replicate,
        if_pos (htakes.lt_arity hn), Option.map_some]
    rw [Condition.bindings_predicate (nodup_parameterNames _ _) (c.length_parameters field k)]
    exact List.getElem?_zip_eq_some.mpr ⟨hname, htakes.values hn t.target.dialect⟩
  translated := by
    intro r filter k k' out htranslate hread before after field c i hsplit htakes
    obtain ⟨f, keys, projection, hadmitted, rfl, -⟩ := exists_of_translate htranslate
    obtain rfl : filter = f := Except.ok.inj (hread.symm.trans hadmitted.filter_eq)
    rw [bindings_assemble t r.options keys projection (nodup_parameterNames _ _)
      (length_parameterNames _ _), Filter.binders, Filter.values, hsplit]
    exact List.getElem?_zip_eq_some.mpr
      ⟨getElem?_parameterNames_bindersOf k (htakes.lt_arity hn),
        getElem?_valuesOf (htakes.values hn t.dialect)⟩
  exact := Bound.ofInt_of_le hn
  rounded := Bound.ofInt_of_gt hn
  alike_iff := Bound.ofInt_eq_iff hn

/-- The least integer of 64 bits, as a text with blanks around it, and in a list of identities. -/
theorem bindsInteger_least : ∃ (p : Predicate) (out : Translation) (k : Nat),
    ((⟨.less, .string " -9223372036854775808\n", none⟩ : Condition).compile
      ⟨.mySql, .standard, fun _ => true⟩ "a.b").run 4 = (.ok p, 5) ∧
    p.bindings[0]? = some ("a_b_5", .int (-9223372036854775808)) ∧
    ((permissive .mySql).translate (.ofFilter [("c", .bool true),
      ("_id", .object [("$in", .array [.string "x", .ofInt (-9223372036854775808)])])])).run 0 =
        (.ok out, k) ∧
    out.bindings[2]? = some ("p__id_3", .int (-9223372036854775808)) := by
  have hn : Number.Carries (-9223372036854775808) := ⟨by decide, by decide⟩
  have hbinds := bindsInteger (permissive .mySql) hn
  have hexact := hbinds.exact (by decide)
  have hspells : Json.Spells (-9223372036854775808) (.string " -9223372036854775808\n") :=
    Json.spells_padded _ [' '] ['\n'] (List.forall_mem_singleton.mpr rfl)
      (List.forall_mem_singleton.mpr rfl)
  have hless : Condition.Takes (permissive .mySql).layout "a.b" (-9223372036854775808)
      ⟨.less, .string " -9223372036854775808\n", none⟩ 0 := .ordering (by decide) hspells none
  have hlisted : Condition.Takes (permissive .mySql).layout "_id" (-9223372036854775808)
      ⟨.among, .array [.string "x", .ofInt (-9223372036854775808)], none⟩ 1 :=
    .membership (.inl rfl) rfl (by decide) rfl none
  obtain ⟨p, hcompile, hp⟩ := hbinds.compiled hless 4
  obtain ⟨out, k, htranslate⟩ : ∃ out k, ((permissive .mySql).translate (.ofFilter [
      ("c", .bool true), ("_id", .object
        [("$in", .array [.string "x", .ofInt (-9223372036854775808)])])])).run 0 = (.ok out, k) :=
    ⟨_, _, rfl⟩
  have hconditions : (Filter.all [.field "c" [⟨.equal, .bool true, none⟩], .field "_id"
      [⟨.among, .array [.string "x", .ofInt (-9223372036854775808)], none⟩]]).conditions =
      [("c", ⟨.equal, .bool true, none⟩)] ++ ("_id",
        ⟨.among, .array [.string "x", .ofInt (-9223372036854775808)], none⟩) :: [] := rfl
  have hout := hbinds.translated htranslate rfl hconditions hlisted
  rw [hexact] at hp hout
  exact ⟨p, out, k, hcompile, hp, htranslate, hout⟩

/-- The first two integers that are too large are bound as one value. -/
theorem exists_same_identity : ∃ p p' : Predicate,
    ((⟨.equal, .ofInt 9223372036854775808, none⟩ : Condition).compile
      ⟨.postgres, .standard, fun _ => true⟩ "_id").run 0 = (.ok p, 1) ∧
    ((⟨.equal, .ofInt 9223372036854775809, none⟩ : Condition).compile
      ⟨.postgres, .standard, fun _ => true⟩ "_id").run 0 = (.ok p', 1) ∧
    p.bindings = [("p__id_1", .float ⟨false, 2 ^ 52, 11⟩)] ∧
    p'.bindings = [("p__id_1", .float ⟨false, 2 ^ 52, 11⟩)] :=
  ⟨_, _, rfl, rfl, rfl, rfl⟩

end Translator
end DocFilter
