import DocFilter.Filter.Reader
import DocFilter.Proofs.Sql.Name
import DocFilter.Proofs.Text.Blank

/-!
# The names of operators

What an operator is called by is a rule about texts: without blanks at its ends and in lower
case, the text is the symbol of the operator or its bare name (`Operator.Named`).  No text
names two operators, so looking an operator up finds the one that is named
(`Operator.ofSymbol?_eq_some_iff`).  The key that carries the options of a pattern names
none, in whatever case it is written.
-/

namespace DocFilter
namespace Operator

/-- The text names the operator, once blanks and case are set aside. -/
def Named (written : String) (op : Operator) : Prop :=
  Text.lower (Text.trim written) = op.symbol ∨ Text.lower (Text.trim written) = op.name

theorem mem_all (op : Operator) : op ∈ all := by
  rcases op with c | c <;> cases c <;> decide

/-- No two operators share a symbol or a name. -/
theorem eq_of_shared : ∀ op ∈ all, ∀ op' ∈ all,
    op.symbol = op'.symbol ∨ op.symbol = op'.name ∨ op.name = op'.symbol ∨ op.name = op'.name →
      op = op' := by
  decide +kernel

theorem Named.unique {written : String} {op op' : Operator} (h : Named written op)
    (h' : Named written op') : op = op' := by
  refine eq_of_shared op (mem_all op) op' (mem_all op') ?_
  rcases h with h | h <;> rcases h' with h' | h' <;> simp [← h, ← h']

/-- Looking a text up finds the operator it names. -/
theorem ofSymbol?_eq_some_iff {written : String} {op : Operator} :
    ofSymbol? written = some op ↔ Named written op := by
  unfold ofSymbol? Named
  dsimp only
  generalize hwanted : Text.lower (Text.trim written) = wanted
  have hnamed (op' : Operator) : (op'.symbol == wanted || op'.name == wanted) = true ↔
      wanted = op'.symbol ∨ wanted = op'.name := by
    rw [Bool.or_eq_true, beq_iff_eq, beq_iff_eq, eq_comm, @eq_comm _ op'.name]
  constructor
  · intro h
    have hfound := List.find?_some h
    exact (hnamed op).mp hfound
  · intro h
    have hsome : (all.find? fun op' => op'.symbol == wanted || op'.name == wanted).isSome =
        true := List.find?_isSome.mpr ⟨op, mem_all op, (hnamed op).mpr h⟩
    obtain ⟨op', hop'⟩ := Option.isSome_iff_exists.mp hsome
    have hfound := List.find?_some hop'
    have h' := (hnamed op').mp hfound
    rw [← hwanted] at h h'
    rwa [← Named.unique h' h]

end Operator

namespace Filter

/-! ## The key of options -/

theorem ascii_of_toLower {c d : Char} (h : c.toLower = d)
    (hd : d.toNat < 0x80 ∧ Text.isBlank d = false) : c.toNat < 0x80 ∧ Text.isBlank c = false := by
  delta Char.toLower at h
  split at h
  · next hupper =>
    have hleast : 65 ≤ c.toNat := UInt32.le_iff_toNat_le.mp hupper.1
    have hgreatest : c.toNat ≤ 90 := UInt32.le_iff_toNat_le.mp hupper.2
    exact ⟨by omega, Text.not_isBlank_of_visible (by omega)⟩
  · rw [h]
    exact hd

/-- The key of options is found by ASCII case alone, and so is any operator it might name. -/
theorem lower_of_isOptionsKey {key : String} (h : isOptionsKey key = true) :
    Text.lower (Text.trim key) = Cause.optionsKey := by
  have hmap : key.toList.map Char.toLower = Cause.optionsKey.toList := by
    simpa [isOptionsKey] using h
  have hascii (c : Char) (hc : c ∈ key.toList) : c.toNat < 0x80 ∧ Text.isBlank c = false := by
    refine ascii_of_toLower rfl ?_
    have hmem : c.toLower ∈ Cause.optionsKey.toList := hmap ▸ List.mem_map_of_mem hc
    have hall : (Cause.optionsKey.toList.all fun d =>
        decide (d.toNat < 0x80) && !Text.isBlank d) = true := by decide
    simpa using List.all_eq_true.mp hall _ hmem
  have htrim : Text.trim key = key := by
    rw [Text.trim, Text.trimChars_of_trimmed (Text.trimmed_of_forall fun c hc => (hascii c hc).2),
      String.ofList_toList]
  rw [htrim, Text.lower, Sql.lowerFrom_of_ascii fun c hc => (hascii c hc).1, hmap,
    String.ofList_toList]

/-- The key of options names no operator. -/
theorem ofSymbol?_of_isOptionsKey {key : String} (h : isOptionsKey key = true) :
    Operator.ofSymbol? key = none := by
  rw [Operator.ofSymbol?, lower_of_isOptionsKey h]
  decide +kernel

end Filter
end DocFilter
