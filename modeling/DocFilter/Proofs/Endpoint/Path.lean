import DocFilter.Proofs.Endpoint.History
import DocFilter.Proofs.List
import DocFilter.Proofs.Text.Blank

/-!
# Paths in normal form

A path loses the blanks around it, and then the slashes at its end.  What stands in front of the
slashes is not looked at again.  So a blank in front of them comes to the end and stays there
(`Endpoint.HidesBlank`), and a path of slashes alone loses all of them (`Endpoint.OnlySlashes`),
unless there is just one.  In all other cases the normal form is stable and says something
(`Endpoint.normalizePath_idempotent_iff`, `Endpoint.normalizePath_eq_empty_iff`).

A registry brings a path into normal form when an endpoint is registered, and again when one is
looked up; an endpoint made for a path has it in normal form already.  Where the normal form is
not stable, the path is not the same after one more time, and the endpoint is not found
(`Registry.finds_after`).
-/

namespace DocFilter

open Text

namespace Endpoint

/-! ## Which normal forms are stable -/

/-- A blank stands right in front of the slashes at the end of the path. -/
def HidesBlank (path : String) : Prop :=
  ∃ before blank n, isBlank blank = true ∧
    trimChars path.toList = before ++ blank :: List.replicate (n + 1) '/'

/-- The path is two slashes or more, and nothing else. -/
def OnlySlashes (path : String) : Prop :=
  ∃ n, trimChars path.toList = List.replicate (n + 2) '/'

variable {cs : List Char} {path : String}

/-- A single character stays, and else the slashes at the end go. -/
theorem normalizeChars_cases (cs : List Char) :
    (∃ c, trimChars cs = [c] ∧ normalizeChars cs = [c]) ∨
      (∀ c, trimChars cs ≠ [c]) ∧ normalizeChars cs = dropEnd (· == '/') (trimChars cs) := by
  unfold normalizeChars
  split
  · next c hc => exact .inl ⟨c, hc, rfl⟩
  · next hne => exact .inr ⟨hne, rfl⟩

theorem head?_normalizeChars {c : Char} (h : c ∈ (normalizeChars cs).head?) :
    isBlank c = false := by
  refine (trimmed_trimChars cs).head c ?_
  obtain ⟨d, htrim, hnormal⟩ | ⟨-, hnormal⟩ := normalizeChars_cases cs
  · rwa [htrim, ← hnormal]
  · rw [hnormal] at h
    exact mem_head?_of_mem_head?_dropEnd h

/-- Nothing is left where there are only blanks, or only slashes and more than one. -/
theorem normalizeChars_eq_nil_iff :
    normalizeChars cs = [] ↔
      trimChars cs = [] ∨ ∃ n, trimChars cs = List.replicate (n + 2) '/' := by
  obtain ⟨c, htrim, hnormal⟩ | ⟨hne, hnormal⟩ := normalizeChars_cases cs
  · simp [hnormal, htrim, List.replicate_succ]
  rw [hnormal, dropEnd_eq_rdropWhile, List.rdropWhile_eq_nil_iff]
  constructor
  · intro hall
    obtain ⟨m, hm⟩ : ∃ m, trimChars cs = List.replicate m '/' :=
      ⟨_, List.eq_replicate_of_mem fun c hc => by simpa using hall c hc⟩
    match m with
    | 0 => exact .inl hm
    | 1 => exact absurd hm (hne '/')
    | n + 2 => exact .inr ⟨n, hm⟩
  · rintro (hnil | ⟨n, hn⟩) c hc
    · exact absurd (hnil ▸ hc) List.not_mem_nil
    · rw [hn] at hc
      exact beq_iff_eq.mpr (List.eq_of_mem_replicate hc)

/-- Behind a blank, all slashes go. -/
theorem normalizeChars_of_blank {before : List Char} {blank : Char} {n : Nat}
    (hblank : isBlank blank = true)
    (h : trimChars cs = before ++ blank :: List.replicate (n + 1) '/') :
    normalizeChars cs = before ++ [blank] := by
  have hne : blank ≠ '/' := by
    rintro rfl
    exact absurd hblank (by decide)
  obtain ⟨c, htrim, -⟩ | ⟨-, hnormal⟩ := normalizeChars_cases cs
  · have hlength := congrArg List.length (htrim.symm.trans h)
    simp at hlength
    omega
  · rw [hnormal, h, dropEnd_append_replicate hne]

/-- The normal form ends with a blank exactly if the path hides one behind slashes. -/
theorem exists_blank_iff :
    (∃ c ∈ (normalizeChars cs).getLast?, isBlank c = true) ↔
      ∃ before blank n, isBlank blank = true ∧
        trimChars cs = before ++ blank :: List.replicate (n + 1) '/' := by
  have htrimmed := trimmed_trimChars cs
  constructor
  · rintro ⟨c, hc, hblank⟩
    -- A blank at the end is not the end of what was trimmed.
    have hinside : c ∉ (trimChars cs).getLast? := fun hlast =>
      absurd (hblank.symm.trans (htrimmed.last c hlast)) Bool.noConfusion
    obtain ⟨d, htrim, hnormal⟩ | ⟨-, hnormal⟩ := normalizeChars_cases cs
    · rw [hnormal, ← htrim] at hc
      exact absurd hc hinside
    · obtain ⟨n, hn⟩ := exists_eq_dropEnd_append '/' (trimChars cs)
      obtain ⟨before, hbefore⟩ := List.getLast?_eq_some_iff.mp hc
      rw [← hnormal, hbefore, List.append_assoc] at hn
      cases n with
      | zero =>
        refine absurd ?_ hinside
        rw [hn]
        exact List.getLast?_concat
      | succ n => exact ⟨before, c, n, hblank, hn⟩
  · rintro ⟨before, blank, n, hblank, htrim⟩
    rw [normalizeChars_of_blank hblank htrim]
    exact ⟨blank, List.getLast?_concat, hblank⟩

theorem normalizeChars_of_stable (h : ∀ c ∈ (normalizeChars cs).getLast?, isBlank c = false) :
    normalizeChars (normalizeChars cs) = normalizeChars cs := by
  have htrim : trimChars (normalizeChars cs) = normalizeChars cs :=
    trimChars_of_trimmed ⟨fun _ => head?_normalizeChars, h⟩
  obtain ⟨c, hc, hagain⟩ | ⟨hne, hagain⟩ := normalizeChars_cases (normalizeChars cs)
  · rw [hagain, ← hc, htrim]
  · rw [htrim] at hne hagain
    obtain ⟨c, -, hnormal⟩ | ⟨-, hnormal⟩ := normalizeChars_cases cs
    · exact absurd hnormal (hne c)
    · rw [hagain, hnormal, dropEnd_eq_rdropWhile, dropEnd_eq_rdropWhile,
        List.rdropWhile_idempotent]

/-- A blank at the end goes the next time, with the slashes that it uncovers. -/
theorem normalizeChars_ne_of_blank
    (h : ∃ c ∈ (normalizeChars cs).getLast?, isBlank c = true) :
    normalizeChars (normalizeChars cs) ≠ normalizeChars cs := by
  intro hstable
  rw [← hstable] at h
  obtain ⟨before, blank, n, hblank, htrim⟩ := exists_blank_iff.mp h
  have hlength := length_trimChars_le (normalizeChars cs)
  rw [htrim, ← hstable, normalizeChars_of_blank hblank htrim] at hlength
  simp at hlength

theorem toList_normalizePath (path : String) :
    (normalizePath path).toList = normalizeChars path.toList := String.toList_ofList

theorem normalizePath_idempotent_iff :
    normalizePath (normalizePath path) = normalizePath path ↔ ¬ HidesBlank path := by
  rw [← String.toList_inj, toList_normalizePath, toList_normalizePath, HidesBlank,
    ← exists_blank_iff]
  constructor
  · exact fun hstable hblank => normalizeChars_ne_of_blank hblank hstable
  · intro hnone
    exact normalizeChars_of_stable fun c hc =>
      Bool.eq_false_iff.mpr fun hblank => hnone ⟨c, hc, hblank⟩

theorem normalizePath_eq_empty_iff :
    normalizePath path = "" ↔ isBlankText path = true ∨ OnlySlashes path := by
  rw [← String.toList_inj, toList_normalizePath, String.toList_empty, normalizeChars_eq_nil_iff,
    trimChars_eq_nil_iff]
  rfl

/-- A normal form that says something is not blank. -/
theorem isBlankText_normalizePath :
    isBlankText (normalizePath path) = true ↔ normalizePath path = "" := by
  refine ⟨fun hblank => ?_, fun hempty => hempty ▸ rfl⟩
  rw [isBlankText, toList_normalizePath, List.all_eq_true] at hblank
  cases hnormal : normalizeChars path.toList with
  | nil => rw [← String.toList_inj, toList_normalizePath, hnormal, String.toList_empty]
  | cons c rest =>
    have hvisible : isBlank c = false := head?_normalizeChars (by rw [hnormal]; rfl)
    have hc := hblank c (by rw [hnormal]; exact List.mem_cons_self)
    exact absurd (hc.symm.trans hvisible) Bool.noConfusion

/-! ## Which endpoints stay valid -/

variable {e : Endpoint}

theorem validateSymbol_eq_ok_iff {field symbol : String} :
    e.validateSymbol field symbol = .ok () ↔ symbol = wildcard ∨
      ∃ comparison, Operator.ofSymbol? symbol = some (.comparison comparison) := by
  unfold validateSymbol
  by_cases hwildcard : symbol = wildcard
  · simp [hwildcard]
  · rw [if_neg hwildcard]
    split
    · next c hc => simp [hc]
    · next op hop => simp [hop, hwildcard]
    · next hnone => simp [hnone, hwildcard]

/-- The rules of the endpoint name comparisons, or allow all of them. -/
def NamesComparisons (e : Endpoint) : Prop :=
  ∀ rule ∈ e.filterable.getD [], ∀ symbol ∈ rule.2, symbol = wildcard ∨
    ∃ comparison, Operator.ofSymbol? symbol = some (.comparison comparison)

theorem forM_validateRule_eq_ok_iff :
    (e.filterable.getD []).forM e.validateRule = .ok () ↔ e.NamesComparisons := by
  rw [forM_eq_ok_iff]
  refine forall₂_congr fun rule _ => ?_
  rw [validateRule, forM_eq_ok_iff]
  exact forall₂_congr fun symbol _ => validateSymbol_eq_ok_iff

/-- An endpoint is valid that has a path and a table, and whose rules name comparisons. -/
theorem validate_eq_ok_iff :
    e.validate = .ok () ↔
      isBlankText e.path = false ∧ isBlankText e.table = false ∧ e.NamesComparisons := by
  rw [← forM_validateRule_eq_ok_iff]
  unfold validate
  cases isBlankText e.path with
  | true => simp [bind, Except.bind, throw, throwThe, MonadExceptOf.throw]
  | false =>
    cases isBlankText e.table with
    | true => simp [bind, Except.bind, throw, throwThe, MonadExceptOf.throw]
    | false => simp

/-- A valid endpoint is valid as it is kept, unless nothing is left of its path. -/
theorem validate_kept_iff (h : e.validate = .ok ()) :
    e.kept.validate = .ok () ↔ ¬ OnlySlashes e.path := by
  obtain ⟨hpath, htable, hrules⟩ := validate_eq_ok_iff.mp h
  have hkept : isBlankText e.kept.path = false ↔ ¬ OnlySlashes e.path := by
    rw [← Bool.not_eq_true, show e.kept.path = normalizePath e.path from rfl,
      isBlankText_normalizePath, normalizePath_eq_empty_iff, hpath]
    simp
  rw [validate_eq_ok_iff, hkept]
  exact and_iff_left ⟨htable, hrules⟩

end Endpoint

namespace Registry

variable {r : Registry} {accepted : List Endpoint}

/-! ## Which endpoints are found -/

theorem validate_of_call {e : Endpoint} (h : (r.call e).1 = .ok ()) : e.validate = .ok () := by
  cases hvalid : e.validate with
  | ok _ => rfl
  | error x =>
    rw [call_of_invalid hvalid] at h
    exact absurd h (by simp)

theorem validate_of_mem_acceptedBy {calls : List Endpoint} {a : Endpoint}
    (h : a ∈ r.acceptedBy calls) : a.validate = .ok () := by
  induction calls generalizing r with
  | nil => exact absurd h List.not_mem_nil
  | cons e rest ih =>
    unfold acceptedBy at h
    cases hcall : (r.call e).1 with
    | error x =>
      rw [hcall] at h
      exact ih h
    | ok u =>
      rw [hcall] at h
      obtain rfl | hrest := List.mem_cons.mp h
      · exact validate_of_call hcall
      · exact ih hrest

/-- An endpoint is found under a path exactly if it is registered under the normal form of the
path. -/
theorem Holds.get_eq_kept_iff (h : r.Holds accepted) {a : Endpoint} (ha : a ∈ accepted)
    {path : String} : r.get a.verb path = .ok a.kept ↔
      Endpoint.normalizePath a.path = Endpoint.normalizePath path := by
  rw [h.get_eq_ok_iff]
  constructor
  · rintro ⟨b, -, ⟨-, hpath⟩, hkept⟩
    rw [← hpath]
    exact (congrArg Endpoint.path hkept).symm
  · exact fun hpath => ⟨a, ha, ⟨rfl, hpath⟩, rfl⟩

/-- What becomes of the endpoints that a registry has accepted. -/
structure Finds (r : Registry) (accepted : List Endpoint) : Prop where
  /-- The registry has no other endpoints. -/
  toList_eq : r.toList = accepted.map Endpoint.kept
  /-- An endpoint is valid as it is kept, unless its path was made of slashes. -/
  validate_iff : ∀ a ∈ accepted, a.kept.validate = .ok () ↔ ¬ Endpoint.OnlySlashes a.path
  /-- It is found under the path it is kept with, unless its path hid a blank. -/
  get_kept_iff : ∀ a ∈ accepted,
    r.get a.kept.verb a.kept.path = .ok a.kept ↔ ¬ Endpoint.HidesBlank a.path
  /-- Where it was made for a path, it is found under that path, unless the path hides a blank. -/
  get_made_iff : ∀ a ∈ accepted, ∀ path, a.path = Endpoint.normalizePath path →
    (r.get a.verb path = .ok a.kept ↔ ¬ Endpoint.HidesBlank path)

theorem Holds.finds (h : r.Holds accepted) (hvalid : ∀ a ∈ accepted, a.validate = .ok ()) :
    r.Finds accepted where
  toList_eq := by
    rw [toList, Dict.values, h.endpoints_eq, List.map_map]
    rfl
  validate_iff a ha := Endpoint.validate_kept_iff (hvalid a ha)
  get_kept_iff a ha := by
    rw [← Endpoint.normalizePath_idempotent_iff]
    exact (h.get_eq_kept_iff ha).trans eq_comm
  get_made_iff a ha path hpath := by
    have hfound : r.get a.verb path = .ok a.kept ↔
        Endpoint.normalizePath a.path = Endpoint.normalizePath path := h.get_eq_kept_iff ha
    rw [hpath, Endpoint.normalizePath_idempotent_iff] at hfound
    exact hfound

/-- Whatever calls are made, an endpoint stays valid and is found exactly if its path is one whose
normal form says something and is stable. -/
theorem finds_after (calls : List Endpoint) :
    (∀ path, (Endpoint.normalizePath (Endpoint.normalizePath path) = Endpoint.normalizePath path ↔
        ¬ Endpoint.HidesBlank path) ∧
      (Endpoint.normalizePath path = "" ↔ isBlankText path = true ∨ Endpoint.OnlySlashes path)) ∧
    (empty.after calls).Finds (empty.acceptedBy calls) :=
  ⟨fun _ => ⟨Endpoint.normalizePath_idempotent_iff, Endpoint.normalizePath_eq_empty_iff⟩,
    (Holds.empty.after calls).finds fun _ ha => validate_of_mem_acceptedBy ha⟩

/-- Two slashes are registered under no path at all, and not valid any more; a path that hides a
blank is kept in a form under which it is not found, and an endpoint made for such a path is not
found under it. -/
theorem exists_not_found :
    let hidden : Endpoint := ⟨"/a /", .get, "t", none, none, none, []⟩
    let slashes : Endpoint := ⟨"//", .get, "t", none, none, none, []⟩
    let r := empty.after [hidden, slashes, .unrestricted "/b /" "t"]
    Endpoint.normalizePath "//" = "" ∧ isBlankText "//" = false ∧
      Endpoint.normalizePath (Endpoint.normalizePath "/a /") ≠ Endpoint.normalizePath "/a /" ∧
      r.toList.map Endpoint.path = ["/a ", "", "/b"] ∧
      slashes.kept.validate = .error (.setting "endpoints.path" .emptyPath) ∧
      r.get .get "/a " = .error (.ofCause (.unknownEndpoint "GET" "/a")) ∧
      r.get .get "/b /" = .error (.ofCause (.unknownEndpoint "GET" "/b ")) := by
  intro hidden slashes r
  refine ⟨by decide, by decide, by decide, by decide, ?_, ?_, ?_⟩
  · have hblank : isBlankText slashes.kept.path = true := by decide
    rw [Endpoint.validate, if_pos hblank]
    rfl
  · exact Registry.get_of_find?_eq_none (by decide)
  · exact Registry.get_of_find?_eq_none (by decide)

end Registry
end DocFilter
