import DocFilter.Proofs.Dict
import DocFilter.Proofs.List
import DocFilter.Query.Parameters

/-!
# Requests that are written and read back

A request is written as an object, and what it does not ask for is left out
(`Request.toJson`).  It can also be written as the list of its parts, where `null` stands for a
limit, a number of rows to skip or a projection that is not there (`Request.toList`).  Read
back, both are the request again, with all entries in their order (`Request.read_written`).

An empty order is left out of the object, for it is what a request has that says nothing about
an order.  An empty projection is not left out: it is another request than one without a
projection.  The filter and the order are always there, so in a list they are objects, if need
be empty ones, and never `null`.
-/

namespace DocFilter

namespace Request

/-! ## Requests as lists -/

/-- A value, or `null` where there is none. -/
def orNull (v : Option Json) : Json := v.getD .null

/-- The options as the list of their parts. -/
def optionsToList (o : RequestOptions) : Json :=
  .array [.object o.sort, orNull (o.limit.map .ofInt), orNull (o.skip.map .ofInt),
    orNull (o.projection.map .object)]

/-- The request as the list of its parts. -/
def toList (r : Request) : Json := .array [.object r.filter, optionsToList r.options]

/-! ## Parts that may be missing -/

section Parts

variable {α : Type} {write : α → Json} {read? : Json → Option (Option α)} {o : Option α}

/-- A part that is left out where it is not there. -/
theorem part?_map (h : ∀ a ∈ o, read? (write a) = some (some a)) :
    part? none read? (o.map write) = some o := by
  cases o with
  | none => rfl
  | some a => exact h a rfl

/-- A part with `null` in its place where it is not there. -/
theorem read?_orNull (hnull : read? .null = some none)
    (h : ∀ a ∈ o, read? (write a) = some (some a)) : read? (orNull (o.map write)) = some o := by
  cases o with
  | none => exact hnull
  | some a => exact h a rfl

end Parts

theorem integer?_ofInt {n : Int} (h : fitsInt64 n = true) :
    integer? (.ofInt n) = some (some n) := by
  rw [Json.ofInt, integer?, Number.toInt64?, if_pos h]
  rfl

theorem optionalEntries?_object (entries : Dict String Json) :
    optionalEntries? (.object entries) = some (some entries) := rfl

/-- An order that is left out is empty. -/
theorem part?_sort (sort : Dict String Json) :
    part? [] entries? (if sort.isEmpty then none else some (.object sort)) = some sort := by
  cases sort with
  | nil => rfl
  | cons e rest => rfl

/-- An entry that is only there where it has a value. -/
def optionalEntry (key : String) (v : Option Json) : Dict String Json :=
  v.toList.map (Prod.mk key)

theorem find?_optionalEntry (key key' : String) (v : Option Json) :
    Dict.find? key (optionalEntry key' v) = if key' = key then v else none := by
  cases v with
  | none => exact (ite_self none).symm
  | some v => exact Dict.find?_cons key key' v []

theorem optionsToJson_eq (o : RequestOptions) :
    optionsToJson o = .object
      (optionalEntry "sort" (if o.sort.isEmpty then none else some (.object o.sort)) ++
        optionalEntry "limit" (o.limit.map .ofInt) ++
        optionalEntry "skip" (o.skip.map .ofInt) ++
        optionalEntry "projection" (o.projection.map .object)) := by
  obtain ⟨sort, limit, skip, projection⟩ := o
  cases sort <;> cases limit <;> cases skip <;> cases projection <;> rfl

/-! ## What requests can be -/

/-- The limit and the number of rows to skip are integers of 64 bits. -/
structure Sized (r : Request) : Prop where
  limit : ∀ n ∈ r.options.limit, fitsInt64 n = true
  skip : ∀ n ∈ r.options.skip, fitsInt64 n = true

/-- The request is made in one of the ways there are: of any parts, from query parameters, or by
a change to another request. -/
inductive Built : Request → Prop
  | parts {r : Request} (h : r.Sized) : Built r
  | parameters {reserved : Reserved} {parameters : List (String × String)} {r : Request}
    (h : ofParameters reserved parameters = .ok r) : Built r
  | sortBy {r : Request} (h : Built r) (field : String) (direction : Direction) :
    Built (r.sortBy field direction)
  | withLimit {r : Request} (h : Built r) {n : Int} (hn : fitsInt64 n = true) :
    Built (r.withLimit n)
  | withSkip {r : Request} (h : Built r) {n : Int} (hn : fitsInt64 n = true) :
    Built (r.withSkip n)

variable {r r' : Request} {n : Int}

theorem sized_empty : empty.Sized :=
  ⟨fun _ h => absurd h (by simp [empty, RequestOptions.none]),
    fun _ h => absurd h (by simp [empty, RequestOptions.none])⟩

theorem Sized.sortBy (h : r.Sized) (field : String) (direction : Direction) :
    (r.sortBy field direction).Sized := ⟨h.limit, h.skip⟩

theorem Sized.withLimit (h : r.Sized) (hn : fitsInt64 n = true) : (r.withLimit n).Sized :=
  ⟨fun _ hm => Option.some.inj hm ▸ hn, h.skip⟩

theorem Sized.withSkip (h : r.Sized) (hn : fitsInt64 n = true) : (r.withSkip n).Sized :=
  ⟨h.limit, fun _ hm => Option.some.inj hm ▸ hn⟩

theorem Sized.foldl_sortBy (h : r.Sized) (keys : List SortKey) :
    (keys.foldl (fun r key => r.sortBy key.field key.direction) r).Sized := by
  induction keys generalizing r with
  | nil => exact h
  | cons key keys ih => exact ih (h.sortBy key.field key.direction)

theorem fitsInt64_of_readInteger {name value : String} (h : readInteger name value = .ok n) :
    fitsInt64 n = true := by
  unfold readInteger at h
  dsimp only at h
  split at h
  · split at h
    · next hfits => exact Except.ok.inj h ▸ hfits
    · exact absurd h (by simp)
  · exact absurd h (by simp)

/-- A parameter brings in no integer that does not fit. -/
theorem Sized.addParameter (h : r.Sized) {reserved : Reserved} {parameter : String × String}
    (hadd : addParameter reserved r parameter = .ok r') : r'.Sized := by
  obtain ⟨name, value⟩ := parameter
  unfold Request.addParameter at hadd
  dsimp only at hadd
  split at hadd
  · exact Except.ok.inj hadd ▸ ⟨h.limit, h.skip⟩
  · split at hadd
    · obtain ⟨m, hm, hr⟩ := bind_eq_ok.mp hadd
      exact Except.ok.inj hr ▸ h.withLimit (fitsInt64_of_readInteger hm)
    · split at hadd
      · obtain ⟨m, hm, hr⟩ := bind_eq_ok.mp hadd
        exact Except.ok.inj hr ▸ h.withSkip (fitsInt64_of_readInteger hm)
      · split at hadd
        · obtain ⟨keys, -, hr⟩ := bind_eq_ok.mp hadd
          exact Except.ok.inj hr ▸ h.foldl_sortBy keys
        · exact Except.ok.inj hadd ▸ h

theorem Sized.foldlM (h : r.Sized) {reserved : Reserved} {parameters : List (String × String)}
    (hfold : parameters.foldlM (Request.addParameter reserved) r = .ok r') : r'.Sized := by
  induction parameters generalizing r with
  | nil => exact Except.ok.inj hfold ▸ h
  | cons p ps ih =>
    rw [List.foldlM_cons] at hfold
    obtain ⟨r₁, hadd, hrest⟩ := bind_eq_ok.mp hfold
    exact ih (h.addParameter hadd) hrest

theorem sized_of_ofParameters {reserved : Reserved} {parameters : List (String × String)}
    (h : ofParameters reserved parameters = .ok r) : r.Sized := sized_empty.foldlM h

/-- However a request is made, its limit and its number of rows to skip fit 64 bits. -/
theorem Built.sized (h : r.Built) : r.Sized := by
  induction h with
  | parts h => exact h
  | parameters h => exact sized_of_ofParameters h
  | sortBy _ field direction ih => exact ih.sortBy field direction
  | withLimit _ hn ih => exact ih.withLimit hn
  | withSkip _ hn ih => exact ih.withSkip hn

/-! ## Reading back -/

theorem optionsOfParts?_eq_some {sort limit skip projection : Option Json} {o : RequestOptions}
    (hsort : part? [] entries? sort = some o.sort)
    (hlimit : part? none integer? limit = some o.limit)
    (hskip : part? none integer? skip = some o.skip)
    (hprojection : part? none optionalEntries? projection = some o.projection) :
    optionsOfParts? sort limit skip projection = some o := by
  rw [optionsOfParts?, hsort, hlimit, hskip, hprojection]
  rfl

theorem optionsOfJson?_optionsToJson (h : r.Sized) :
    optionsOfJson? (optionsToJson r.options) = some r.options := by
  rw [optionsToJson_eq, optionsOfJson?]
  -- under each key only one of the four entries can be found
  simp only [Dict.find?_append, find?_optionalEntry, String.reduceEq, if_true, if_false,
    Option.none_or, Option.or_none]
  exact optionsOfParts?_eq_some (part?_sort r.options.sort)
    (part?_map fun n hn => integer?_ofInt (h.limit n hn))
    (part?_map fun n hn => integer?_ofInt (h.skip n hn))
    (part?_map fun entries _ => optionalEntries?_object entries)

theorem optionsOfJson?_optionsToList (h : r.Sized) :
    optionsOfJson? (optionsToList r.options) = some r.options := by
  have hsort : part? [] entries? (some (.object r.options.sort)) = some r.options.sort := rfl
  exact optionsOfParts?_eq_some hsort
    (read?_orNull rfl fun n hn => integer?_ofInt (h.limit n hn))
    (read?_orNull rfl fun n hn => integer?_ofInt (h.skip n hn))
    (read?_orNull rfl fun entries _ => optionalEntries?_object entries)

theorem read_of_ofParts? {v filter options : Json}
    (hv : ofJson? v = ofParts? (some filter) (some options))
    (hfilter : filter = .object r.filter) (hoptions : optionsOfJson? options = some r.options) :
    read v = .ok r := by
  have hparts : ofJson? v = some r := by
    rw [hv, hfilter, ofParts?, part?, part?, hoptions]
    rfl
  rw [read, hparts]

theorem read_toJson (h : r.Sized) : read r.toJson = .ok r :=
  read_of_ofParts? rfl rfl (optionsOfJson?_optionsToJson h)

theorem read_toList (h : r.Sized) : read r.toList = .ok r :=
  read_of_ofParts? rfl rfl (optionsOfJson?_optionsToList h)

/-! ## No request without a filter or an order -/

theorem read_null_filter (options : Json) : read (.array [.null, options]) = .error malformed := rfl

theorem read_null_sort (filter : Json) (rest : List Json) :
    read (.array [filter, .array (.null :: rest)]) = .error malformed := by
  have hsort (limit skip projection : Option Json) :
      optionsOfParts? (some .null) limit skip projection = none := rfl
  have hoptions : optionsOfJson? (.array (.null :: rest)) = none := by
    unfold optionsOfJson?
    exact ite_eq_right_iff.mpr fun _ => hsort _ _ _
  have hparts : ofJson? (.array [filter, .array (.null :: rest)]) = none := by
    change ofParts? (some filter) (some (.array (.null :: rest))) = none
    rw [ofParts?, part?, part?, hoptions]
    cases entries? filter <;> rfl
  rw [read, hparts]

/-- A request in either of its two written forms is read back as it was, with all of its entries
in their order; a `null` for its filter or its order is refused. -/
theorem read_written (h : r.Built) :
    read r.toJson = .ok r ∧ read r.toList = .ok r ∧
      (∀ options, read (.array [.null, options]) = .error malformed) ∧
      ∀ filter rest, read (.array [filter, .array (.null :: rest)]) = .error malformed :=
  ⟨read_toJson h.sized, read_toList h.sized, read_null_filter, read_null_sort⟩

/-- A key added to an order that was empty, a limit below zero, no rows to skip, and a projection
of no fields. -/
theorem read_written_sorted : ∃ r : Request, r.Built ∧
    r.toJson = .object [("filter", .object [("b", .null), ("a", .string "x")]),
      ("options", .object [("sort", .object [("z", .ofInt (-1))]), ("limit", .ofInt (-3)),
        ("projection", .object [])])] ∧
    r.toList = .array [.object [("b", .null), ("a", .string "x")],
      .array [.object [("z", .ofInt (-1))], .ofInt (-3), .null, .object []]] ∧
    read r.toJson = .ok r ∧ read r.toList = .ok r := by
  let r₀ : Request := ⟨[("b", .null), ("a", .string "x")], ⟨[], some (-3), none, some []⟩⟩
  have hsized : r₀.Sized := ⟨by simp [r₀, fitsInt64, int64Least, int64Greatest], by simp [r₀]⟩
  have hbuilt : (r₀.sortBy "z" .descending).Built := (Built.parts hsized).sortBy "z" .descending
  obtain ⟨hobject, hlist, -, -⟩ := read_written hbuilt
  exact ⟨_, hbuilt, rfl, rfl, hobject, hlist⟩

/-- The empty request with `null` for its empty filter. -/
theorem exists_unread : ∃ r : Request, r.Built ∧ r.filter = [] ∧
    read (.array [.null, optionsToList r.options]) = .error malformed :=
  ⟨empty, .parts sized_empty, rfl, rfl⟩

end Request
end DocFilter
