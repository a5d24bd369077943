import DocFilter.Proofs.List
import DocFilter.Text.Blank
import Mathlib.Data.List.DropRight

/-!
# Texts that trimming leaves alone

Trimming takes nothing away from a text that neither begins nor ends with a blank, and what it
leaves of any text is such a text.
-/

namespace DocFilter
namespace Text

/-- The visible characters of ASCII. -/
theorem not_isBlank_of_visible {c : Char} (h : 0x20 < c.toNat ∧ c.toNat < 0x80) :
    isBlank c = false := by
  simp only [isBlank, Bool.or_eq_false_iff, Bool.and_eq_false_iff, beq_eq_false_iff_ne,
    decide_eq_false_iff_not]
  omega

/-- A text that neither begins nor ends with a blank. -/
structure Trimmed (cs : List Char) : Prop where
  head : ∀ c ∈ cs.head?, isBlank c = false
  last : ∀ c ∈ cs.getLast?, isBlank c = false

theorem trimChars_of_trimmed {cs : List Char} (h : Trimmed cs) : trimChars cs = cs := by
  have hlast : ∀ c ∈ cs.reverse.head?, isBlank c = false := by
    rw [List.head?_reverse]
    exact h.last
  rw [trimChars, dropWhile_of_head? h.head, dropEnd, dropWhile_of_head? hlast,
    List.reverse_reverse]

theorem trimmed_of_forall {cs : List Char} (h : ∀ c ∈ cs, isBlank c = false) : Trimmed cs :=
  ⟨fun c hc => h c (List.mem_of_mem_head? hc), fun c hc => h c (List.mem_of_mem_getLast? hc)⟩

/-- Blanks around a text that neither begins nor ends with one are trimmed away. -/
theorem trimChars_padded {before cs after : List Char} (hbefore : ∀ c ∈ before, isBlank c = true)
    (h : Trimmed cs) (hafter : ∀ c ∈ after, isBlank c = true) :
    trimChars (before ++ cs ++ after) = cs := by
  rw [trimChars, List.append_assoc, List.dropWhile_append_of_pos hbefore]
  cases cs with
  | nil =>
    rw [List.nil_append, List.dropWhile_eq_nil_iff.mpr hafter]
    rfl
  | cons c cs =>
    have hlast : ∀ x ∈ (c :: cs).reverse.head?, isBlank x = false := by
      rw [List.head?_reverse]
      exact h.last
    have hreverse : ∀ x ∈ after.reverse, isBlank x = true := fun x hx =>
      hafter x (List.mem_reverse.mp hx)
    have hhead : ∀ x ∈ (c :: cs ++ after).head?, isBlank x = false := h.head
    rw [dropWhile_of_head? hhead, dropEnd, List.reverse_append,
      List.dropWhile_append_of_pos hreverse, dropWhile_of_head? hlast, List.reverse_reverse]

/-! ## What trimming leaves -/

theorem dropEnd_eq_rdropWhile (p : Char → Bool) (cs : List Char) :
    dropEnd p cs = cs.rdropWhile p := rfl

theorem not_of_mem_getLast?_dropEnd {p : Char → Bool} {cs : List Char} {c : Char}
    (h : c ∈ (dropEnd p cs).getLast?) : p c = false := by
  obtain ⟨hne, rfl⟩ := List.mem_getLast?_eq_getLast h
  exact Bool.eq_false_iff.mpr (List.rdropWhile_last_not p cs hne)

theorem mem_head?_of_mem_head?_dropEnd {p : Char → Bool} {cs : List Char} {c : Char}
    (h : c ∈ (dropEnd p cs).head?) : c ∈ cs.head? := by
  obtain ⟨tail, htail⟩ := List.rdropWhile_prefix p cs
  rw [← dropEnd_eq_rdropWhile] at htail
  rw [← htail]
  exact List.mem_head?_append_of_mem_head? h

/-- What is left by trimming neither begins nor ends with a blank. -/
theorem trimmed_trimChars (cs : List Char) : Trimmed (trimChars cs) where
  head c hc := by
    have hfirst := List.head?_dropWhile_not isBlank cs
    rw [mem_head?_of_mem_head?_dropEnd hc] at hfirst
    exact hfirst
  last _ hc := not_of_mem_getLast?_dropEnd hc

theorem length_trimChars_le (cs : List Char) : (trimChars cs).length ≤ cs.length :=
  (List.rdropWhile_prefix _ _).length_le.trans (List.dropWhile_suffix _).length_le

theorem trimChars_eq_nil_iff {cs : List Char} :
    trimChars cs = [] ↔ cs.all isBlank = true := by
  rw [trimChars, dropEnd_eq_rdropWhile, List.rdropWhile_eq_nil_iff, List.all_eq_true,
    ← List.dropWhile_eq_nil_iff, List.dropWhile_idempotent, List.dropWhile_eq_nil_iff]

/-- What is dropped from the end is all alike. -/
theorem exists_eq_dropEnd_append (d : Char) (cs : List Char) :
    ∃ n, cs = dropEnd (· == d) cs ++ List.replicate n d := by
  refine ⟨(cs.rtakeWhile (· == d)).length, ?_⟩
  have hall : cs.rtakeWhile (· == d) = List.replicate (cs.rtakeWhile (· == d)).length d :=
    List.eq_replicate_of_mem fun c hc => by
      simpa using List.mem_rtakeWhile_imp hc
  rw [← hall, dropEnd_eq_rdropWhile, List.rdropWhile_append_rtakeWhile]

theorem dropEnd_append_replicate {c d : Char} (h : c ≠ d) (cs : List Char) (n : Nat) :
    dropEnd (· == d) (cs ++ c :: List.replicate n d) = cs ++ [c] := by
  rw [dropEnd_eq_rdropWhile]
  induction n with
  | zero => exact List.rdropWhile_concat_neg _ _ _ (by simpa using h)
  | succ n ih =>
    rw [List.replicate_succ', ← List.cons_append, ← List.append_assoc,
      List.rdropWhile_concat_pos (· == d) _ d (beq_self_eq_true d), ih]

/-- Nothing is dropped from the end across a character that stays. -/
theorem dropEnd_append_cons {p : Char → Bool} {c : Char} (h : p c = false)
    (xs ys : List Char) : dropEnd p (xs ++ c :: ys) = xs ++ c :: dropEnd p ys := by
  rw [dropEnd, dropEnd, List.reverse_append, List.reverse_cons, List.append_assoc,
    List.dropWhile_append]
  split
  · next hnone =>
    rw [List.isEmpty_iff] at hnone
    rw [hnone, List.singleton_append, List.dropWhile_cons_of_neg (by simp [h])]
    simp
  · simp

end Text
end DocFilter
