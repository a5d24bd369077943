import DocFilter.Document.Layout
import DocFilter.Proofs.Endpoint.Access
import DocFilter.Proofs.Number.Numeral
import DocFilter.Proofs.Text.Split
import Mathlib.Data.Set.Function

/-!
# Names and the places they lead to

Rules of an endpoint speak of names, and conditions are compiled for places.  Going from
the one to the other loses something: the digits of an index become a number, so `a.7` and
`a.007` are the same place, while a rule on `a.7` says nothing about `a.007`.

Nothing else is lost.  The name is read off the path again, without the zeros in front of
its indices (`Path.dotted_ofField`).  So two names lead to the same place exactly if they
differ in such zeros only, and for names that have none what the rules decide is decided
about the place (`Layout.addressing`).
-/

namespace DocFilter

/-! ## Parts of a name -/

namespace Segment

/-- A part of a name that stands for the index of an array. -/
def IsIndex (cs : List Char) : Prop := isDigits cs = true ∧ digitsValue cs < Nat.pow 2 32

instance : DecidablePred IsIndex := fun cs =>
  inferInstanceAs (Decidable (isDigits cs = true ∧ digitsValue cs < Nat.pow 2 32))

/-- An index with a zero in front of further digits. -/
def IsPadded (cs : List Char) : Prop := IsIndex cs ∧ ∃ c rest, cs = '0' :: c :: rest

/-- A part of a name without the zeros in front, if it stands for an index. -/
def canonicalPart (cs : List Char) : List Char := if IsIndex cs then unpadded cs else cs

variable {cs : List Char}

instance : DecidablePred IsPadded := fun cs =>
  decidable_of_iff (IsIndex cs ∧ unpadded cs ≠ cs)
    (and_congr_right' (not_iff_comm.mp unpadded_eq_self_iff.symm))

theorem canonicalPart_eq_self_iff : canonicalPart cs = cs ↔ ¬ IsPadded cs := by
  unfold canonicalPart IsPadded
  split
  · next hindex => simp only [hindex, true_and, unpadded_eq_self_iff]
  · next hindex => simp only [hindex, false_and, not_false_eq_true]

theorem canonicalPart_suffix (cs : List Char) : canonicalPart cs <:+ cs := by
  unfold canonicalPart
  split
  · exact unpadded_suffix cs
  · exact List.suffix_rfl

theorem ofChars_of_isIndex (h : IsIndex cs) : ofChars cs = .index (digitsValue cs) := if_pos h

theorem ofChars_of_not_isIndex (h : ¬ IsIndex cs) : ofChars cs = .key (String.ofList cs) :=
  if_neg h

/-- The text of a step is the part it was read from, without zeros in front of an index. -/
theorem toList_label_ofChars (cs : List Char) :
    (ofChars cs).label.toList = canonicalPart cs := by
  unfold canonicalPart
  split
  · next hindex =>
    rw [ofChars_of_isIndex hindex, label, Nat.toList_repr, toDigits_digitsValue hindex.1]
  · next hindex => rw [ofChars_of_not_isIndex hindex, label, String.toList_ofList]

/-- Zeros in front of an index do not matter. -/
theorem ofChars_canonicalPart (cs : List Char) : ofChars (canonicalPart cs) = ofChars cs := by
  unfold canonicalPart
  split
  · next hindex =>
    have hdigits : unpadded cs = Nat.toDigits 10 (digitsValue cs) :=
      (toDigits_digitsValue hindex.1).symm
    have hvalue : digitsValue (unpadded cs) = digitsValue cs := by
      rw [hdigits, digitsValue_toDigits]
    have hindex' : IsIndex (unpadded cs) := by
      refine ⟨?_, hvalue.symm ▸ hindex.2⟩
      rw [hdigits]
      exact isDigits_toDigits _
    rw [ofChars_of_isIndex hindex', ofChars_of_isIndex hindex, hvalue]
  · rfl

end Segment

/-! ## Names -/

namespace Path

/-- The texts of the steps with dots between them. -/
def dotted (path : Path) : String :=
  String.ofList (Text.joinWith '.' (path.map fun segment => segment.label.toList))

/-- A name without the zeros in front of its indices. -/
def canonical (field : String) : String :=
  String.ofList
    (Text.joinWith '.' ((Text.splitAt '.' field.toList).map Segment.canonicalPart))

/-- Some index in the name has zeros in front. -/
def IsPadded (field : String) : Prop :=
  ∃ part ∈ Text.splitAt '.' field.toList, Segment.IsPadded part

instance : DecidablePred IsPadded := fun field =>
  inferInstanceAs (Decidable (∃ part ∈ Text.splitAt '.' field.toList, Segment.IsPadded part))

variable {field other : String}

theorem dotted_ofField (field : String) : (ofField field).dotted = canonical field := by
  have hlabel : (fun segment : Segment => segment.label.toList) ∘ Segment.ofChars =
      Segment.canonicalPart := funext Segment.toList_label_ofChars
  rw [dotted, ofField, List.map_map, hlabel, canonical]

/-- The parts of a name without those zeros are the parts of the name without them. -/
theorem splitAt_canonical (field : String) :
    Text.splitAt '.' (canonical field).toList =
      (Text.splitAt '.' field.toList).map Segment.canonicalPart := by
  rw [canonical, String.toList_ofList]
  refine Text.splitAt_joinWith ?_ ?_
  · exact mt List.map_eq_nil_iff.mp (Text.splitAt_ne_nil '.' field.toList)
  · intro part hpart hdot
    obtain ⟨cs, hcs, rfl⟩ := List.mem_map.mp hpart
    exact Text.not_mem_of_mem_splitAt hcs ((Segment.canonicalPart_suffix cs).subset hdot)

theorem ofField_canonical (field : String) : ofField (canonical field) = ofField field := by
  have hpart : Segment.ofChars ∘ Segment.canonicalPart = Segment.ofChars :=
    funext Segment.ofChars_canonicalPart
  rw [ofField, splitAt_canonical, List.map_map, hpart, ofField]

/-- Two names are the same path exactly if they differ in zeros in front of indices only. -/
theorem ofField_eq_iff : ofField field = ofField other ↔ canonical field = canonical other := by
  constructor
  · intro hpath
    rw [← dotted_ofField, hpath, dotted_ofField]
  · intro hname
    rw [← ofField_canonical, hname, ofField_canonical]

theorem canonical_eq_self_iff : canonical field = field ↔ ¬ IsPadded field := by
  have hparts : canonical field = field ↔
      (Text.splitAt '.' field.toList).map Segment.canonicalPart =
        (Text.splitAt '.' field.toList).map id := by
    rw [List.map_id, ← splitAt_canonical]
    constructor
    · intro hname
      rw [hname]
    · intro hsplit
      have hjoin := congrArg (Text.joinWith '.') hsplit
      rw [Text.joinWith_splitAt, Text.joinWith_splitAt] at hjoin
      exact String.toList_inj.mp hjoin
  rw [hparts, List.map_inj_left]
  simp only [id, Segment.canonicalPart_eq_self_iff, IsPadded, not_exists, not_and]

/-- A name is found again from its path, unless an index in it has zeros in front. -/
theorem dotted_ofField_eq_iff : (ofField field).dotted = field ↔ ¬ IsPadded field := by
  rw [dotted_ofField, canonical_eq_self_iff]

-- a single zero is no padding, and neither is one in front of a number too large for an index
example : IsPadded "a.00" ∧ ¬ IsPadded "a.0.b0" ∧ ¬ IsPadded "04294967296" := by decide

end Path

/-! ## What the rules say of a place -/

namespace Endpoint

variable {e : Endpoint}

/-- The endpoint lets a place be filtered with a comparison: the identity in any case, a
path under the name that its steps make. -/
def AllowsAt (e : Endpoint) (comparison : Comparison) : Location → Prop
  | .identity _ => True
  | .document _ path => e.allowsOperator path.dotted comparison = true

/-- What the rules say of a name without zeros in front of indices is said of its place. -/
theorem allows_iff_allowsAt {l : Layout} {field : String} (h : ¬ Path.IsPadded field)
    (comparison : Comparison) :
    e.Allows l.identityField field comparison ↔ e.AllowsAt comparison (l.locate field) := by
  by_cases hidentity : field = l.identityField
  · rw [Layout.locate_of_eq hidentity]
    exact ⟨fun _ => trivial, fun _ => .inl hidentity⟩
  · rw [Layout.locate_of_ne hidentity, AllowsAt, Path.dotted_ofField_eq_iff.mpr h, Allows]
    simp only [hidentity, false_or]

end Endpoint

/-! ## Layouts -/

namespace Layout

variable {l : Layout} {field other : String}

/-- How names address the places of a layout. -/
structure Addressing (l : Layout) : Prop where
  /-- Names are the same path exactly if they differ in zeros in front of indices only. -/
  ofField_eq_iff : ∀ field other,
    Path.ofField field = Path.ofField other ↔ Path.canonical field = Path.canonical other
  /-- Joining the steps of the path restores the name, unless it has such zeros. -/
  dotted_eq_iff : ∀ field, (Path.ofField field).dotted = field ↔ ¬ Path.IsPadded field
  /-- Different names without such zeros are different paths. -/
  ofField_ne : ∀ field other, field ≠ other → ¬ Path.IsPadded field → ¬ Path.IsPadded other →
    Path.ofField field ≠ Path.ofField other
  /-- Apart from the identity, names lead to the same place if they are the same path. -/
  locate_eq_iff : ∀ field other, field ≠ l.identityField → other ≠ l.identityField →
    (l.locate field = l.locate other ↔ Path.ofField field = Path.ofField other)
  /-- No two names lead to one place, with the identity among them. -/
  locate_injOn : Set.InjOn l.locate {field | field = l.identityField ∨ ¬ Path.IsPadded field}
  /-- A filter whose names have no such zeros passes the rules of an endpoint exactly if
  the rules let each condition be held against the place it is compiled for. -/
  checkFilter_iff : ∀ (e : Endpoint) (filter : Filter),
    (∀ p name c, filter.Holds p (name, c) → ¬ Path.IsPadded name) →
    (e.checkFilter l.identityField filter = .ok () ↔
      ∀ p name c, filter.Holds p (name, c) → e.AllowsAt c.operator (l.locate name))

theorem locate_eq_iff_of_ne (hfield : field ≠ l.identityField) (hother : other ≠ l.identityField) :
    l.locate field = l.locate other ↔ Path.ofField field = Path.ofField other := by
  rw [locate_of_ne hfield, locate_of_ne hother]
  simp only [Location.document.injEq, true_and]

theorem addressing (l : Layout) : l.Addressing where
  ofField_eq_iff _ _ := Path.ofField_eq_iff
  dotted_eq_iff _ := Path.dotted_ofField_eq_iff
  ofField_ne field other hne hfield hother hpath := by
    apply hne
    rw [← Path.dotted_ofField_eq_iff.mpr hfield, ← Path.dotted_ofField_eq_iff.mpr hother, hpath]
  locate_eq_iff _ _ := locate_eq_iff_of_ne
  locate_injOn := by
    intro field hfield other hother hplace
    have hsame : l.isIdentity field = l.isIdentity other := by
      rw [← isIdentity_locate, hplace, isIdentity_locate]
    by_cases hidentity : field = l.identityField
    · rw [isIdentity, beq_iff_eq.mpr hidentity] at hsame
      exact hidentity.trans (beq_iff_eq.mp hsame.symm).symm
    · rw [isIdentity, beq_false_of_ne hidentity] at hsame
      have hidentity' : other ≠ l.identityField := beq_eq_false_iff_ne.mp hsame.symm
      have hpath := (locate_eq_iff_of_ne hidentity hidentity').mp hplace
      rw [← Path.dotted_ofField_eq_iff.mpr (hfield.resolve_left hidentity),
        ← Path.dotted_ofField_eq_iff.mpr (hother.resolve_left hidentity'), hpath]
  checkFilter_iff e filter hnames := by
    rw [Endpoint.checkFilter_eq_ok_iff]
    constructor
    · intro hall p name c hc
      exact (Endpoint.allows_iff_allowsAt (hnames p name c hc) c.operator).mp (hall p name c hc)
    · intro hall p name c hc
      exact (Endpoint.allows_iff_allowsAt (hnames p name c hc) c.operator).mpr (hall p name c hc)

/-- Two names of one place: the rules that forbid a comparison under the one name allow it under
the other. -/
theorem locate_padded_index :
    let l := Layout.standard
    let e := ((Endpoint.unrestricted "/d" "d").allowFilter "a" ["*"]).allowFilter "a.7" ["$eq"]
    "a.007" ≠ "a.7" ∧ "a.007" ≠ l.identityField ∧ "a.7" ≠ l.identityField ∧
      Path.ofField "a.007" = Path.ofField "a.7" ∧ (Path.ofField "a.007").dotted ≠ "a.007" ∧
      l.locate "a.007" = l.locate "a.7" ∧
      e.checkCondition l.identityField "a.007" .matching = .ok () ∧
      e.checkCondition l.identityField "a.7" .matching =
        .error (.ofCause (.operatorNotAllowed "a.7" "$regex")) := by
  intro l e
  have hallowed : e.allowsOperator "a.007" .matching = true := by decide
  have hforbidden : ¬ e.allowsOperator "a.7" .matching = true := by decide
  refine ⟨by decide, by decide, by decide, by decide, by decide, by decide, ?_, ?_⟩
  · exact Endpoint.checkCondition_of_allows (.inr hallowed)
  · exact Endpoint.checkCondition_of_not_allows (not_or.mpr ⟨by decide, hforbidden⟩)

end Layout
end DocFilter
