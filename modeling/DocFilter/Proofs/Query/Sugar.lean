import DocFilter.Proofs.Filter.Sugar
import DocFilter.Proofs.Query.Course

/-!
# Requests without sugar

A request whose filter is written out is translated to the same, condition, bindings and all,
from the same number on; and where it is refused, it is refused for the same fault.
-/

namespace DocFilter
namespace Translator

variable {t : Translator} {r : Request} {filter : Filter}

/-- Where the limit admits the filter that is written out, too, the two filters are translated
to the same and spend the same numbers, or both are refused for the same fault. -/
theorem run_translate_desugar (hread : t.readFilter r.filter = .ok filter)
    (hwithin : Filter.Within t.maxDepth 1 (Filter.desugar r.filter)) (c : Nat) :
    (t.translate { r with filter := Filter.desugar r.filter }).run c = (t.translate r).run c := by
  have hplain : t.readFilter (Filter.desugar r.filter) = .ok filter.plain :=
    Filter.readAt_desugar r.filter 1 filter hread 1 hwithin
  rw [translate, translate, hread, hplain]
  exact congrArg (Minting.run · c)
    (translateRead_congr (Filter.compile_plain t.target filter) r.options)

/-- A field and the identity as siblings under `$nor`, beside an equality, at the greatest depth
that a limit of five admits. -/
theorem run_translate_desugar_siblings : ∃ filter t r,
    t = (permissive .sqlServer).withMaxDepth 5 ∧
    r = Request.ofFilter [("a", .string "x"),
      ("$NOR ", .array [.object [("b", .object [("$gt", Json.ofInt 3)]), ("_id", .bool true)]])] ∧
    t.readFilter r.filter = .ok filter ∧ Filter.Within t.maxDepth 1 (Filter.desugar r.filter) ∧
    Filter.desugar r.filter = [("$and", .array [.object [("a", .object [("$eq", .string "x")])],
      .object [("$not", .object [("$or", .array [.object [("$and", .array [
        .object [("b", .object [("$gt", Json.ofInt 3)])],
        .object [("_id", .object [("$eq", .bool true)])]])]])])]])] ∧
    (t.translate { r with filter := Filter.desugar r.filter }).run 4 = (t.translate r).run 4 := by
  let t := (permissive .sqlServer).withMaxDepth 5
  let r := Request.ofFilter [("a", .string "x"),
      ("$NOR ", .array [.object [("b", .object [("$gt", Json.ofInt 3)]), ("_id", .bool true)]])]
  have hread : t.readFilter r.filter = .ok (.all [.field "a" [⟨.equal, .string "x", none⟩],
      .joined .nor [.all [.field "b" [⟨.greater, Json.ofInt 3, none⟩],
        .field "_id" [⟨.equal, .bool true, none⟩]]]]) := rfl
  have hwithin : Filter.Within t.maxDepth 1 (Filter.desugar r.filter) := fun level entries hat =>
    (Filter.inGrammar_of_readAt (f := .joined .and [.field "a" [⟨.equal, .string "x", none⟩],
      .joined .not [.joined .or [.joined .and [.field "b" [⟨.greater, Json.ofInt 3, none⟩],
        .field "_id" [⟨.equal, .bool true, none⟩]]]]]) rfl level entries hat).1
  exact ⟨_, t, r, rfl, rfl, hread, hwithin, rfl, run_translate_desugar hread hwithin 4⟩

end Translator
end DocFilter
