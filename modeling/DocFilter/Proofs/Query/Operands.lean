import DocFilter.Proofs.Filter.Operands
import DocFilter.Proofs.Query.Course

/-!
# Values never reach the text

Two requests that are the same but for the operands in their filters are translated to the
same statement: the same condition and order, the same names of parameters, the same page
and projection.  Only what is bound to the names is another
(`Translator.sameButValues_of_translate`).
-/

namespace DocFilter

/-- The same statement with the same names, and maybe other values bound to them. -/
structure Translation.SameButValues (out out' : Translation) : Prop where
  conditionText_eq : out.conditionText = out'.conditionText
  orderText_eq : out.orderText = out'.orderText
  names_eq : out.bindings.keys = out'.bindings.keys
  limit_eq : out.limit = out'.limit
  offset_eq : out.offset = out'.offset
  projection_eq : out.projection = out'.projection

namespace Translator

open Sql

variable {t : Translator}

/-- Requests that are the same but for the operands in their filters are translated to the
same statement, and only other values are bound. -/
theorem sameButValues_of_translate {r r' : Request} {filter filter' : Filter} {c c₁ c₂ : Nat}
    {out out' : Translation} (h : (t.translate r).run c = (.ok out, c₁))
    (h' : (t.translate r').run c = (.ok out', c₂)) (hr : t.readFilter r.filter = .ok filter)
    (hr' : t.readFilter r'.filter = .ok filter') (hfilter : filter.SameButOperands filter')
    (hoptions : r.options = r'.options) :
    out.SameButValues out' ∧ c₁ = c₂ := by
  obtain ⟨f, keys, projection, hadmitted, rfl, rfl⟩ := exists_of_translate h
  obtain ⟨f', keys', projection', hadmitted', rfl, rfl⟩ := exists_of_translate h'
  obtain rfl : filter = f := Except.ok.inj (hr.symm.trans hadmitted.filter_eq)
  obtain rfl : filter' = f' := Except.ok.inj (hr'.symm.trans hadmitted'.filter_eq)
  have hkeys := hadmitted.keys_eq
  have hprojection := hadmitted.projection_eq
  rw [hoptions] at hkeys hprojection
  obtain rfl : keys = keys' := Except.ok.inj (hkeys.symm.trans hadmitted'.keys_eq)
  obtain rfl : projection = projection' :=
    Except.ok.inj (hprojection.symm.trans hadmitted'.projection_eq)
  have hbinders := hfilter.binders_eq
  rw [hoptions, ← hbinders]
  generalize hns : parameterNames c filter.binders = ns
  have hn : ns.Nodup := hns ▸ nodup_parameterNames c filter.binders
  have hl : ns.length = filter.binders.length := hns ▸ length_parameterNames c filter.binders
  have hcondition := Filter.condition_predicate_eq (t := t.target) hfilter ns
  refine ⟨⟨?_, ?_, ?_, rfl, rfl, rfl⟩, rfl⟩
  · rw [Translation.conditionText, Translation.conditionText, condition_assemble,
      condition_assemble, hcondition]
  · rw [Translation.orderText, Translation.orderText, order_assemble, order_assemble]
  · rw [keys_assemble _ _ _ _ hn hl,
      keys_assemble _ _ _ _ hn (hl.trans (congrArg List.length hbinders))]

/-- A pattern, a list and an array whose operands hold quotes and SQL, beside ones that do
not, for a dialect that binds a wildcard pattern in place of the regular expression. -/
theorem sameButValues_of_translate_sqlServer : ∃ out out' c',
    ((permissive .sqlServer).translate (.ofFilter [
      ("a.b", .object [("$regex", .string "^x.y$"), ("$options", .string "i")]),
      ("c", .object [("$in", .array [.string "p", .bool true]), ("$gt", .string "7")]),
      ("d", .array [])])).run 3 = (.ok out, c') ∧
    ((permissive .sqlServer).translate (.ofFilter [
      ("a.b", .object [("$regex", .string "' OR 1=1 --"), ("$options", .string "i")]),
      ("c", .object [("$in", .array [.string "') --", .string ":c_1"]),
        ("$gt", .number (.integer 0))]),
      ("d", .array [.string "'", .null])])).run 3 = (.ok out', c') ∧
    out.SameButValues out' := by
  obtain ⟨out, c₁, h⟩ := Minting.exists_run_eq_ok (x := (permissive .sqlServer).translate
    (.ofFilter [
      ("a.b", .object [("$regex", .string "^x.y$"), ("$options", .string "i")]),
      ("c", .object [("$in", .array [.string "p", .bool true]), ("$gt", .string "7")]),
      ("d", .array [])])) (c := 3) rfl
  obtain ⟨out', c₂, h'⟩ := Minting.exists_run_eq_ok (x := (permissive .sqlServer).translate
    (.ofFilter [
      ("a.b", .object [("$regex", .string "' OR 1=1 --"), ("$options", .string "i")]),
      ("c", .object [("$in", .array [.string "') --", .string ":c_1"]),
        ("$gt", .number (.integer 0))]),
      ("d", .array [.string "'", .null])])) (c := 3) rfl
  have hr : (permissive .sqlServer).readFilter [
      ("a.b", .object [("$regex", .string "^x.y$"), ("$options", .string "i")]),
      ("c", .object [("$in", .array [.string "p", .bool true]), ("$gt", .string "7")]),
      ("d", .array [])] =
    .ok (.all [.field "a.b" [⟨.matching, .string "^x.y$", some "i"⟩],
      .field "c" [⟨.among, .array [.string "p", .bool true], none⟩,
        ⟨.greater, .string "7", none⟩],
      .field "d" [⟨.equal, .array [], none⟩]]) := rfl
  have hr' : (permissive .sqlServer).readFilter [
      ("a.b", .object [("$regex", .string "' OR 1=1 --"), ("$options", .string "i")]),
      ("c", .object [("$in", .array [.string "') --", .string ":c_1"]),
        ("$gt", .number (.integer 0))]),
      ("d", .array [.string "'", .null])] =
    .ok (.all [.field "a.b" [⟨.matching, .string "' OR 1=1 --", some "i"⟩],
      .field "c" [⟨.among, .array [.string "') --", .string ":c_1"], none⟩,
        ⟨.greater, .number (.integer 0), none⟩],
      .field "d" [⟨.equal, .array [.string "'", .null], none⟩]]) := rfl
  obtain ⟨hsame, rfl⟩ := sameButValues_of_translate h h' hr hr'
    ⟨⟨rfl, .cons ⟨rfl, rfl, trivial⟩ .nil⟩,
      ⟨rfl, .cons ⟨rfl, rfl, _, _, rfl, rfl, rfl⟩ (.cons ⟨rfl, rfl, trivial⟩ .nil)⟩,
      ⟨rfl, .cons ⟨rfl, rfl, rfl⟩ .nil⟩, trivial⟩ rfl
  exact ⟨out, out', c₁, h, h', hsame⟩

end Translator
end DocFilter
