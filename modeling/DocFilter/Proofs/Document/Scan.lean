import DocFilter.Document.Path

/-!
# Scans of a path

A path that was written down, in whatever form, is read back by a scan: one character after the
other is read, and each changes the state or ends the scan.  What runs of characters do is said
here for every scan.  Characters that are each added to what was read before are added one after
the other (`Scan.run_spelled`), and so a quoted key, which all forms of a path write alike, is
read wherever a scan goes on between quotes as it should (`Scan.Quotes.run_quotedKey`).
-/

namespace DocFilter
namespace Scan

variable {σ α β : Type} {step : σ → Char → Option σ} {s s' : σ}

/-- Several characters read. -/
def run (step : σ → Char → Option σ) (s : σ) (cs : List Char) : Option σ := cs.foldlM step s

theorem run_cons {c : Char} {cs : List Char} (h : step s c = some s') :
    run step s (c :: cs) = run step s' cs := by
  rw [run, List.foldlM_cons, h]
  rfl

theorem run_append {a b : List Char} (h : run step s a = some s') :
    run step s (a ++ b) = run step s' b := by
  rw [run, List.foldlM_append]
  exact (congrArg (· >>= fun s => b.foldlM step s) h).trans (Option.bind_some _ _)

/-- Where each symbol is spelled so that its item is added to those before it, all items are added
in turn. -/
theorem run_spelled (push : List α → σ) (item : β → α) (spell : β → List Char) {xs : List β}
    (h : ∀ x ∈ xs, ∀ before, run step (push before) (spell x) = some (push (item x :: before)))
    (before : List α) : run step (push before) (xs.flatMap spell) =
      some (push ((xs.map item).reverse ++ before)) := by
  induction xs generalizing before with
  | nil => rfl
  | cons x xs ih =>
    obtain ⟨hx, hxs⟩ := List.forall_mem_cons.mp h
    rw [List.flatMap_cons, run_append (hx before), ih hxs, List.map_cons, List.reverse_cons,
      List.append_assoc, List.singleton_append]

/-- Characters that each add an item. -/
theorem run_added (push : List α → σ) (item : Char → α) {cs : List Char}
    (h : ∀ c ∈ cs, ∀ before, step (push before) c = some (push (item c :: before)))
    (before : List α) :
    run step (push before) cs = some (push ((cs.map item).reverse ++ before)) := by
  have hspelled := run_spelled push item (fun c => [c])
    (fun c hc before => run_cons (h c hc before)) before
  rwa [List.flatMap_singleton'] at hspelled

/-- Between double quotes, a quote or a backslash behind a backslash is added to what was read
before, and so is every character but these two. -/
structure Quotes (step : σ → Char → Option σ) (quoted : List Char → σ) : Prop where
  escape : ∀ c before, c = '\\' ∨ c = '\"' →
    run step (quoted before) ['\\', c] = some (quoted (c :: before))
  plain : ∀ c before, ¬ (c = '\\' ∨ c = '\"') → step (quoted before) c = some (quoted (c :: before))

/-- A quoted key is read from its first quote to its last. -/
theorem Quotes.run_quotedKey {quoted : List Char → σ} (h : Quotes step quoted) {name : String}
    (hopen : step s '\"' = some (quoted []))
    (hclose : step (quoted name.toList.reverse) '\"' = some s') :
    run step s (Segment.quotedKey name) = some s' := by
  have hspelled : ∀ c ∈ name.toList, ∀ before,
      run step (quoted before) (if c = '\\' ∨ c = '\"' then ['\\', c] else [c]) =
        some (quoted (c :: before)) := by
    intro c _ before
    split
    · next hspecial => exact h.escape c before hspecial
    · next hplain => exact run_cons (h.plain c before hplain)
  have hcontent := run_spelled quoted id _ hspelled []
  rw [List.map_id, List.append_nil] at hcontent
  rw [Segment.quotedKey, run_cons hopen, run_append hcontent, run_cons hclose]
  rfl

end Scan
end DocFilter
