import DocFilter.Proofs.Query.Positional

/-!
# Other names for the same parameters

The names of parameters are told apart by their numbers, and which numbers a computation is
given depends on who else asks for some.  `rename` puts other names in the places of the
parameters.  It goes through everything that puts SQL together (`rename_append`,
`rename_call`, `fragment_rename`), and changes no text but that of the names: a laid fragment
stays laid (`Laid.rename`), and with positions for names it is the same as before
(`positioned_rename`).

Any distinct names can be renamed to any other names, one by one (`exists_renaming`).
-/

namespace DocFilter
namespace Sql

variable {ρ : String → String}

/-! ## Pieces and fragments -/

/-- A piece with another name, where it is the place of a parameter. -/
def Piece.rename (ρ : String → String) : Piece → Piece
  | .placeholder sigil name => .placeholder sigil (ρ name)
  | p => p

theorem Piece.name?_rename (p : Piece) : (p.rename ρ).name? = p.name?.map ρ := by
  cases p <;> rfl

theorem Piece.rename_of_name?_eq_none {p : Piece} (h : p.name? = none) : p.rename ρ = p := by
  cases p with
  | placeholder sigil name => exact absurd h (by simp [Piece.name?])
  | _ => rfl

namespace Fragment

/-- A fragment with other names in the places of its parameters. -/
def rename (ρ : String → String) (f : Fragment) : Fragment := f.map (Piece.rename ρ)

@[simp] theorem rename_append (f g : Fragment) : rename ρ (f ++ g) = f.rename ρ ++ g.rename ρ :=
  List.map_append

@[simp] theorem rename_sql (text : String) : (sql text).rename ρ = sql text := rfl

@[simp] theorem names_sql (text : String) : (sql text).names = [] := rfl

theorem rename_join (between : String) (fs : List Fragment) :
    (join between fs).rename ρ = join between (fs.map (rename ρ)) := by
  induction fs with
  | nil => rfl
  | cons f fs ih =>
    cases fs with
    | nil => rfl
    | cons g gs =>
      rw [join, rename_append, rename_append, rename_sql, ih]
      rfl
      exact fun h => List.cons_ne_nil g gs h

@[simp] theorem rename_call (function : String) (arguments : List Fragment) :
    (call function arguments).rename ρ = call function (arguments.map (rename ρ)) := by
  rw [call, rename_append, rename_append, rename_join]
  rfl

@[simp] theorem rename_castBy (function type : String) (f : Fragment) :
    (castBy function f type).rename ρ = castBy function (f.rename ρ) type := by
  rw [castBy, rename_append, rename_append]
  rfl

/-- A fragment without parameters is left as it is. -/
theorem rename_of_names_eq_nil {f : Fragment} (h : f.names = []) : f.rename ρ = f := by
  have hp : ∀ p ∈ f, p.rename ρ = p := fun p hp =>
    Piece.rename_of_name?_eq_none (List.filterMap_eq_nil_iff.mp h p hp)
  rw [rename, List.map_congr_left hp]
  exact List.map_id f

theorem names_rename (f : Fragment) : (f.rename ρ).names = f.names.map ρ := by
  rw [names, names, rename, List.filterMap_map, List.map_filterMap]
  exact congrArg (List.filterMap · f) (funext Piece.name?_rename)

/-- With positions for names, the names make no difference. -/
theorem positioned_rename (d : Dialect) (n : Nat) (f : Fragment) :
    positioned d n (f.rename ρ) = positioned d n f := by
  induction f generalizing n with
  | nil => rfl
  | cons p f ih =>
    have hcons : rename ρ (p :: f) = p.rename ρ :: rename ρ f := rfl
    rw [hcons]
    cases p with
    | placeholder sigil name => exact congrArg (_ :: ·) (ih (n + 1))
    | _ => exact congrArg (_ :: ·) (ih n)

end Fragment

/-! ## Formulas -/

/-- An atom with other names for its parameters. -/
def Atom.rename (ρ : String → String) : Atom → Atom
  | .compare left relation right => .compare (left.rename ρ) relation (right.rename ρ)
  | .among subject choices => .among (subject.rename ρ) (choices.map (Fragment.rename ρ))
  | .notAmong subject choices => .notAmong (subject.rename ρ) (choices.map (Fragment.rename ρ))
  | .like subject pattern escape =>
    .like (subject.rename ρ) (pattern.rename ρ) (escape.rename ρ)
  | .isNull subject => .isNull (subject.rename ρ)
  | .isNotNull subject => .isNotNull (subject.rename ρ)
  | .holds test => .holds (test.rename ρ)
  | .fails test => .fails (test.rename ρ)

theorem Atom.fragment_rename (a : Atom) : (a.rename ρ).fragment = a.fragment.rename ρ := by
  cases a <;> simp [Atom.rename, Atom.fragment, Fragment.rename_join]

theorem Fragment.names_join (between : String) (fs : List Fragment) :
    (join between fs).names = fs.flatMap names := by
  induction fs with
  | nil => rfl
  | cons f fs ih =>
    cases fs with
    | nil => exact (List.append_nil _).symm
    | cons g gs =>
      rw [join, names_append, names_append, ih, List.flatMap_cons]
      · exact congrArg (· ++ _) (List.append_nil _)
      · exact fun h => List.cons_ne_nil g gs h

/-- An atom without parameters is left as it is. -/
theorem Atom.rename_of_names_eq_nil {a : Atom} (h : a.fragment.names = []) : a.rename ρ = a := by
  have hchoices {fs : List Fragment} (h : fs.flatMap Fragment.names = []) :
      fs.map (Fragment.rename ρ) = fs := by
    rw [List.flatMap_eq_nil_iff] at h
    exact (List.map_congr_left fun f hf => Fragment.rename_of_names_eq_nil (h f hf)).trans
      (List.map_id fs)
  cases a <;>
    simp only [Atom.fragment, Fragment.names_append, Fragment.names_join,
      List.append_eq_nil_iff] at h <;>
    simp [Atom.rename, Fragment.rename_of_names_eq_nil, hchoices, h]

namespace Formula

mutual

/-- A formula with other names for its parameters. -/
def rename (ρ : String → String) : Formula → Formula
  | .verbatim sql => .verbatim sql
  | .atom a => .atom (a.rename ρ)
  | .not φ => .not (φ.rename ρ)
  | .all φs => .all (renameAll ρ φs)
  | .any φs => .any (renameAll ρ φs)

/-- Formulas with other names for their parameters. -/
def renameAll (ρ : String → String) : List Formula → List Formula
  | [] => []
  | φ :: φs => φ.rename ρ :: renameAll ρ φs

end

theorem renameAll_eq_map (φs : List Formula) : renameAll ρ φs = φs.map (rename ρ) := by
  induction φs with
  | nil => rfl
  | cons φ φs ih => rw [renameAll, ih, List.map_cons]

mutual

/-- Renaming before or after writing is the same. -/
theorem fragment_rename : ∀ φ : Formula, (φ.rename ρ).fragment = φ.fragment.rename ρ
  | .verbatim _ => rfl
  | .atom a => Atom.fragment_rename a
  | .not φ => by
    rw [rename, fragment, fragment, fragment_rename φ]
    simp
  | .all [] => rfl
  | .all (φ :: φs) => by
    rw [rename, renameAll, fragment, fragment, fragment_rename φ, tailFragment_rename " AND " φs]
    simp
  | .any [] => rfl
  | .any (φ :: φs) => by
    rw [rename, renameAll, fragment, fragment, fragment_rename φ, tailFragment_rename " OR " φs]
    simp

theorem tailFragment_rename (word : String) : ∀ φs : List Formula,
    tailFragment word (renameAll ρ φs) = (tailFragment word φs).rename ρ
  | [] => rfl
  | φ :: φs => by
    rw [renameAll, tailFragment, tailFragment, fragment_rename φ, tailFragment_rename word φs]
    simp

end

/-! The names of a formula are those of its parts. -/

theorem names_not (φ : Formula) : (Formula.not φ).fragment.names = φ.fragment.names := by
  simp [fragment, Fragment.names_append]

theorem names_all_cons (φ : Formula) (φs : List Formula) :
    (Formula.all (φ :: φs)).fragment.names =
      φ.fragment.names ++ (tailFragment " AND " φs).names := by
  simp [fragment, Fragment.names_append]

theorem names_any_cons (φ : Formula) (φs : List Formula) :
    (Formula.any (φ :: φs)).fragment.names =
      φ.fragment.names ++ (tailFragment " OR " φs).names := by
  simp [fragment, Fragment.names_append]

theorem names_tailFragment_cons (word : String) (φ : Formula) (φs : List Formula) :
    (tailFragment word (φ :: φs)).names = φ.fragment.names ++ (tailFragment word φs).names := by
  simp [tailFragment, Fragment.names_append]

mutual

/-- A formula without parameters is left as it is. -/
theorem rename_of_names_eq_nil : ∀ {φ : Formula}, φ.fragment.names = [] → φ.rename ρ = φ
  | .verbatim _, _ => rfl
  | .atom a, h => congrArg Formula.atom (Atom.rename_of_names_eq_nil h)
  | .not φ, h => by
    rw [names_not] at h
    rw [rename, rename_of_names_eq_nil h]
  | .all [], _ => rfl
  | .all (φ :: φs), h => by
    rw [names_all_cons, List.append_eq_nil_iff] at h
    rw [rename, renameAll, rename_of_names_eq_nil h.1, renameAll_of_names_eq_nil h.2]
  | .any [], _ => rfl
  | .any (φ :: φs), h => by
    rw [names_any_cons, List.append_eq_nil_iff] at h
    rw [rename, renameAll, rename_of_names_eq_nil h.1, renameAll_of_names_eq_nil h.2]

theorem renameAll_of_names_eq_nil {word : String} : ∀ {φs : List Formula},
    (tailFragment word φs).names = [] → renameAll ρ φs = φs
  | [], _ => rfl
  | φ :: φs, h => by
    rw [names_tailFragment_cons, List.append_eq_nil_iff] at h
    rw [renameAll, rename_of_names_eq_nil h.1, renameAll_of_names_eq_nil h.2]

end

end Formula

/-! ## Renamings -/

/-- Distinct keys can be renamed to any names, one by one. -/
theorem exists_renaming {xs ys : List String} (hx : xs.Nodup) (hl : xs.length = ys.length) :
    ∃ ρ : String → String, xs.map ρ = ys := by
  -- a name becomes the one that stands beside it
  let pairs : Dict String String := xs.zip ys
  have hkeys : pairs.keys = xs := List.map_fst_zip (Nat.le_of_eq hl)
  have hvalues : pairs.values = ys := List.map_snd_zip (Nat.le_of_eq hl.symm)
  refine ⟨fun x => (pairs.find? x).getD "", ?_⟩
  rw [← hkeys, ← hvalues, Dict.keys, Dict.values, List.map_map]
  refine List.map_congr_left fun e he => ?_
  have hfind : pairs.find? e.1 = some e.2 := Dict.find?_of_mem (by rw [hkeys]; exact hx) he
  exact congrArg (Option.getD · "") hfind

end Sql

namespace Dialect

open Sql

variable {d : Dialect} {f : Fragment} {ρ : String → String}

/-! ## Laid fragments -/

theorem Writes.rename {p : Piece} (hp : d.Writes p)
    (hρ : ∀ name ∈ p.name?, ∃ field n, ρ name = parameterName field n) :
    d.Writes (p.rename ρ) := by
  cases p with
  | placeholder sigil name => exact ⟨hp.1, hρ name rfl⟩
  | _ => exact hp

theorem head?_chars_rename (p : Piece) : (p.rename ρ).chars.head? = p.chars.head? := by
  cases p <;> rfl

/-- Where a name ends, no word goes on, whatever the name. -/
theorem apart_rename {p q : Piece} (hp : d.Writes p) (hp' : d.Writes (p.rename ρ))
    (h : Apart p.chars q.chars) : Apart (p.rename ρ).chars (q.rename ρ).chars := by
  intro x hx y hy
  rw [head?_chars_rename] at hy
  cases p with
  | placeholder sigil name =>
    obtain ⟨-, field, k, rfl⟩ := hp
    obtain ⟨-, field', k', hname⟩ := hp'
    rw [Piece.rename, hname] at hx
    have hword := isWordChar_getLast?_placeholder hx
    have hnot := isWordChar_head?_of_apart h y hy
    refine ⟨fun hboth => ?_, fun hquote => ?_⟩
    · rw [hboth.2] at hnot
      exact absurd hnot (by simp)
    · rw [ofChar?_of_isInert (isInert_of_isWordChar hword)] at hquote
      exact absurd hquote.2 (by simp)
  | _ => exact h x hx y hy

/-- A laid fragment stays laid under other names of parameters. -/
theorem Laid.rename (hf : d.Laid f)
    (hρ : ∀ name ∈ f.names, ∃ field n, ρ name = parameterName field n) :
    d.Laid (f.rename ρ) := by
  have hwrites : ∀ p ∈ f, d.Writes (p.rename ρ) := fun p hp =>
    (hf.writes p hp).rename fun name hname => hρ name (List.mem_filterMap.mpr ⟨p, hp, hname⟩)
  refine ⟨fun q hq => ?_, ?_⟩
  · obtain ⟨p, hp, rfl⟩ := List.mem_map.mp hq
    exact hwrites p hp
  · refine (List.isChain_map _).mpr (hf.apart.imp_of_mem_imp fun p q hp _ h => ?_)
    exact apart_rename (hf.writes p hp) (hwrites p hp) h

end Dialect
end DocFilter
