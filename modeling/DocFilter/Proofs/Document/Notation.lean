import DocFilter.Proofs.Document.Scan
import DocFilter.Proofs.Number.Numeral
import DocFilter.Proofs.Sql.Name

/-!
# Paths in the standard notation, as the database reads them

A path in the standard notation is handed over as one text, and `Notation.read` reads it in one
pass.  Behind the dollar sign there are steps.  A key stands behind a dot, bare where it is a
word that begins with no digit, and between double quotes otherwise; there a backslash stands in
front of a quote or of another backslash, and in front of nothing else.  The digits of an index
stand in brackets.

Reading what was written gives back the path, whatever characters its keys are made of
(`Notation.read_chars`).
-/

namespace DocFilter
namespace Notation

open Scan
open Sql (isWordChar)

/-! ## Reading -/

/-- Where a reading stands.  The steps read so far, and the characters of an unfinished one,
are kept newest first. -/
inductive State where
  /-- In front of the dollar sign. -/
  | opening
  /-- Behind the dollar sign, a closing quote or a closing bracket. -/
  | between (read : Path)
  /-- Behind a dot. -/
  | dotted (read : Path)
  /-- Inside a bare key. -/
  | bare (read : Path) (name : List Char)
  /-- Between double quotes. -/
  | quoted (read : Path) (name : List Char)
  /-- Between double quotes, after a backslash. -/
  | escaped (read : Path) (name : List Char)
  /-- Between brackets. -/
  | bracketed (read : Path) (digits : List Char)
  deriving DecidableEq, Repr

namespace State

/-- The beginning of a step. -/
def next (read : Path) (c : Char) : Option State :=
  if c = '.' then some (dotted read) else if c = '[' then some (bracketed read []) else none

/-- The key with these characters, newest first. -/
def key (name : List Char) : Segment := .key (String.ofList name.reverse)

/-- One character read; none where a path cannot go on with it. -/
def step : State → Char → Option State
  | opening, c => if c = '$' then some (between []) else none
  | between read, c => next read c
  | dotted read, c =>
    if c = '\"' then some (quoted read [])
    else if c.isAlpha || c == '_' then some (bare read [c]) else none
  | bare read name, c =>
    if isWordChar c then some (bare read (c :: name)) else next (key name :: read) c
  | quoted read name, c =>
    if c = '\"' then some (between (key name :: read))
    else if c = '\\' then some (escaped read name)
    else some (quoted read (c :: name))
  | escaped read name, c =>
    if c = '\\' ∨ c = '\"' then some (quoted read (c :: name)) else none
  | bracketed read digits, c =>
    if c.isDigit then some (bracketed read (c :: digits))
    else if c = ']' ∧ digits ≠ [] then
      some (between (.index (digitsValue digits.reverse) :: read))
    else none

/-- The steps of a path that ends here. -/
def finish : State → Option Path
  | between read => some read.reverse
  | bare read name => some (key name :: read).reverse
  | _ => none

end State

/-- The path in the standard notation; none where the text is no path. -/
def read (cs : List Char) : Option Path := (run State.step .opening cs).bind State.finish

-- a quoted key with an escape, and an index with a zero in front
example : read "$._a.\"b \\\"\"[07]".toList = some [.key "_a", .key "b \"", .index 7] := by decide

/-! ## Runs of characters -/

namespace State

variable {read : Path} {s : State}

/-- Behind a step, where the path ends or goes on. -/
structure Completes (s : State) (read : Path) : Prop where
  dot : s.step '.' = some (dotted read)
  bracket : s.step '[' = some (bracketed read [])
  finish : s.finish = some read.reverse

theorem completes_between (read : Path) : (between read).Completes read := ⟨rfl, rfl, rfl⟩

theorem completes_bare (read : Path) (name : List Char) :
    (bare read name).Completes (key name :: read) := ⟨rfl, rfl, rfl⟩

theorem key_reverse (name : String) : key name.toList.reverse = .key name := by
  rw [key, List.reverse_reverse, String.ofList_toList]

theorem quotes (read : Path) : Quotes step (quoted read) where
  escape c before hspecial := by
    have hescape : (escaped read before).step c = some (quoted read (c :: before)) :=
      if_pos hspecial
    rw [run_cons rfl, run_cons hescape]
    rfl
  plain c before hplain := by
    obtain ⟨hback, hquote⟩ := not_or.mp hplain
    rw [step, if_neg hquote, if_neg hback]

theorem run_quotedKey (name : String) :
    run step (dotted read) (Segment.quotedKey name) = some (between (.key name :: read)) := by
  refine (quotes read).run_quotedKey rfl ?_
  rw [step, if_pos rfl, key_reverse]

/-- A key that needs no quotes is read bare. -/
theorem run_plainKey {name : String} (h : Segment.isPlainKey name = true) :
    run step (dotted read) name.toList = some (bare read name.toList.reverse) := by
  unfold Segment.isPlainKey at h
  cases hchars : name.toList with
  | nil =>
    rw [hchars] at h
    exact absurd h Bool.false_ne_true
  | cons c rest =>
    rw [hchars] at h
    obtain ⟨hfirst, hall⟩ := Bool.and_eq_true_iff.mp h
    have hquote : c ≠ '\"' := by
      rintro rfl
      exact absurd hfirst (by decide)
    have hstep : (dotted read).step c = some (bare read [c]) := by
      rw [step, if_neg hquote, if_pos hfirst]
    have hword : ∀ d ∈ rest, ∀ before, (bare read before).step d = some (bare read (d :: before)) :=
      fun d hd _ => if_pos (List.all_eq_true.mp hall d (List.mem_cons_of_mem _ hd))
    rw [run_cons hstep, run_added (bare read) id hword, List.map_id, List.reverse_cons]

theorem run_index (n : Nat) :
    run step (bracketed read []) (Nat.toDigits 10 n ++ [']']) =
      some (between (.index n :: read)) := by
  have hdigit : ∀ c ∈ Nat.toDigits 10 n, ∀ before,
      (bracketed read before).step c = some (bracketed read (c :: before)) := fun _ hc _ =>
    if_pos (Nat.isDigit_of_mem_toDigits (by decide) (by decide) hc)
  have hdigits := run_added (bracketed read) id hdigit []
  rw [List.map_id, List.append_nil] at hdigits
  have hne : (Nat.toDigits 10 n).reverse ≠ [] :=
    mt List.reverse_eq_nil_iff.mp Nat.toDigits_ne_nil
  have hclose : (bracketed read (Nat.toDigits 10 n).reverse).step ']' =
      some (between (.index n :: read)) := by
    rw [step, if_neg (by decide), if_pos ⟨rfl, hne⟩, List.reverse_reverse, digitsValue_toDigits]
  rw [run_append hdigits, run_cons hclose]
  rfl

/-! ## The steps of a path -/

/-- Behind a step, the text of another is one more step. -/
theorem run_pathChars (h : s.Completes read) (segment : Segment) :
    ∃ s', run step s segment.pathChars = some s' ∧ s'.Completes (segment :: read) := by
  cases segment with
  | key name =>
    rw [Segment.pathChars, run_cons h.dot, Segment.keyChars]
    by_cases hplain : Segment.isPlainKey name = true
    · have hcompletes := completes_bare read name.toList.reverse
      rw [key_reverse] at hcompletes
      rw [if_pos hplain]
      exact ⟨_, run_plainKey hplain, hcompletes⟩
    · rw [if_neg hplain]
      exact ⟨_, run_quotedKey name, completes_between _⟩
  | index n =>
    rw [Segment.pathChars, run_cons h.bracket]
    exact ⟨_, run_index n, completes_between _⟩

theorem run_steps (h : s.Completes read) (path : Path) :
    ∃ s', run step s (path.flatMap Segment.pathChars) = some s' ∧
      s'.Completes (path.reverse ++ read) := by
  induction path generalizing s read with
  | nil => exact ⟨s, rfl, h⟩
  | cons segment path ih =>
    obtain ⟨s₁, hrun, hsegment⟩ := run_pathChars h segment
    obtain ⟨s₂, hrest, hpath⟩ := ih hsegment
    refine ⟨s₂, ?_, ?_⟩
    · rw [List.flatMap_cons, run_append hrun, hrest]
    · rwa [List.reverse_cons, List.append_assoc, List.singleton_append]

end State

/-- A path that was written is read back, whatever its keys are. -/
theorem read_chars (path : Path) : read path.chars = some path := by
  obtain ⟨s, hrun, hpath⟩ := State.run_steps (State.completes_between []) path
  rw [read, Path.chars, run_cons rfl, hrun, Option.bind_some, hpath.finish, List.append_nil,
    List.reverse_reverse]

end Notation
end DocFilter
