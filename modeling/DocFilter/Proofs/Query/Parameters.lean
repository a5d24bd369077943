import DocFilter.Proofs.Dict
import DocFilter.Proofs.Filter.Entry
import DocFilter.Proofs.Number.Numeral
import DocFilter.Proofs.Query.Course
import DocFilter.Proofs.Text.Split

/-!
# Requests in query parameters

A request that compares fields with scalars, orders by fields and asks for a page can be spelled
in query parameters (`Parameter.encode`): a field with the text of its value, a number in
decimal, and an order as signed fields with commas between them.  Taking such parameters in
yields the request with the text of each value in the place of the value
(`Parameter.ofParameters_encode`, `Parameter.foldl_addTo`).
-/

namespace DocFilter

/-! ## Keys of an order -/

/-- The sign in front of a field. -/
def Direction.sign : Direction → Char
  | .ascending => '+'
  | .descending => '-'

namespace SortKey

/-- A key as a part of an order: a sign and the field. -/
def chars (key : SortKey) : List Char := key.direction.sign :: key.field.toList

/-- The key as an entry of the order in a request. -/
def entry (key : SortKey) : String × Json := (key.field, key.direction.toJson)

/-- A field that can stand in an order that is written as one text. -/
structure Spellable (field : String) : Prop where
  nonempty : field ≠ ""
  no_comma : ',' ∉ field.toList
  trimmed : Text.Trimmed field.toList

theorem Spellable.toList_ne_nil {field : String} (h : Spellable field) : field.toList ≠ [] :=
  fun hnil => h.nonempty (String.toList_eq_nil_iff.mp hnil)

variable {key : SortKey}

theorem no_comma_chars (h : Spellable key.field) : ',' ∉ key.chars := by
  refine List.not_mem_cons_of_ne_of_not_mem ?_ h.no_comma
  cases key.direction <;> decide

theorem trimmed_chars (h : Spellable key.field) : Text.Trimmed key.chars := by
  refine ⟨fun c hc => ?_, fun c hc => h.trimmed.last c ?_⟩
  · rw [← Option.some.inj hc]
    cases key.direction <;> decide
  · rwa [chars, List.getLast?_cons_of_ne_nil h.toList_ne_nil] at hc

/-- A sign is taken off once, so a field may begin with another. -/
theorem read_signed (d : Direction) (part : List Char) :
    SortKey.read (d.sign :: part) =
      if (Text.trimChars part).isEmpty then
        .error (.ofCause (.sort (String.ofList (d.sign :: part)) .missingField))
      else .ok ⟨String.ofList (Text.trimChars part), d⟩ := by
  cases d <;> rfl

theorem read_chars (h : Spellable key.field) : SortKey.read key.chars = .ok key := by
  rw [chars, read_signed, Text.trimChars_of_trimmed h.trimmed,
    List.isEmpty_eq_false_iff.mpr h.toList_ne_nil, String.ofList_toList]
  rfl

/-- An order written as one text. -/
def textOf (keys : List SortKey) : String := String.ofList (Text.joinWith ',' (keys.map chars))

/-- An order is read back from its text. -/
theorem readAll_textOf {keys : List SortKey} (h : ∀ key ∈ keys, Spellable key.field) :
    SortKey.readAll (textOf keys) = .ok keys := by
  have hread : (keys.map chars).mapM SortKey.read = .ok keys := by
    rw [mapM_eq_ok_iff, List.forall₂_map_left_iff, List.forall₂_same]
    exact fun key hkey => read_chars (h key hkey)
  cases hkeys : keys with
  | nil => rfl
  | cons key rest =>
    rw [← hkeys]
    have hparts : Text.splitAt ',' (textOf keys).toList = keys.map chars := by
      rw [textOf, String.toList_ofList]
      refine Text.splitAt_joinWith (by simp [hkeys]) (List.forall_mem_map.mpr fun key hkey => ?_)
      exact no_comma_chars (h key hkey)
    have htrim : (keys.map chars).map Text.trimChars = keys.map chars := by
      rw [List.map_map]
      exact List.map_congr_left fun key hkey =>
        Text.trimChars_of_trimmed (trimmed_chars (h key hkey))
    have hfilter : (keys.map chars).filter (fun part => !part.isEmpty) = keys.map chars :=
      List.filter_eq_self.mpr (List.forall_mem_map.mpr fun _ _ => rfl)
    rw [SortKey.readAll, hparts, htrim]
    exact (congrArg (List.mapM SortKey.read) hfilter).trans hread

end SortKey

/-! ## Reserved names -/

theorem Reserved.contains_standard (extra : List String) {name : String}
    (h : name ∈ Reserved.standard.names) :
    (Reserved.standard.withExtra extra).contains name = true ∧ Text.lower name = name := by
  have hlower : ∀ name ∈ Reserved.standard.names, Text.lower name = name := by decide +kernel
  refine ⟨?_, hlower name h⟩
  rw [Reserved.contains, hlower name h, Reserved.withExtra, List.contains_iff_mem]
  exact List.mem_append_left _ h

namespace Request

variable {extra : List String} {r : Request} {name value : String}

/-- What a reserved parameter changes in a request. -/
theorem addParameter_standard (h : name ∈ Reserved.standard.names) :
    addParameter (Reserved.standard.withExtra extra) r (name, value) =
      if name = "limit" then (readInteger "limit" value).map r.withLimit
      else if name = "skip" ∨ name = "offset" then (readInteger "skip" value).map r.withSkip
      else if name = "sort" then
        (SortKey.readAll value).map fun keys =>
          keys.foldl (fun r key => r.sortBy key.field key.direction) r
      else .ok r := by
  obtain ⟨hcontains, hlower⟩ := Reserved.contains_standard extra h
  unfold addParameter
  dsimp only
  rw [hcontains, hlower, if_neg (by simp)]
  simp only [bind_pure_comp]
  rfl

theorem readInteger_intText (name : String) {n : Int} (hn : fitsInt64 n = true) :
    readInteger name (intText n) = .ok n := by
  rw [readInteger, intText, String.toList_ofList, Text.trimChars_of_trimmed (trimmed_intChars n),
    int?_intChars]
  exact if_pos hn

end Request

/-! ## Parameters -/

/-- The text a parameter gives a scalar: a string without its quotes, anything else as JSON
spells it. -/
def Json.plainText : Json → String
  | .string s => s
  | v => v.text

/-- A parameter that spells a part of a request. -/
inductive Parameter where
  | field (name : String) (value : Json)
  | limit (n : Int)
  | skip (n : Int)
  | offset (n : Int)
  | sort (keys : List SortKey)

namespace Parameter

/-- The name and the text of a parameter. -/
def encode : Parameter → String × String
  | .field name value => (name, value.plainText)
  | .limit n => ("limit", intText n)
  | .skip n => ("skip", intText n)
  | .offset n => ("offset", intText n)
  | .sort keys => ("sort", SortKey.textOf keys)

/-- The entry of a filter that a parameter spells. -/
def entry? : Parameter → Option (String × Json)
  | .field name value => some (name, value)
  | _ => none

/-- The limit that a parameter spells. -/
def limit? : Parameter → Option Int
  | .limit n => some n
  | _ => none

/-- The number of rows to skip that a parameter spells, under either of its names. -/
def skip? : Parameter → Option Int
  | .skip n | .offset n => some n
  | _ => none

/-- The order that a parameter spells. -/
def sort? : Parameter → Option (List SortKey)
  | .sort keys => some keys
  | _ => none

/-- The request with what a parameter spells taken in. -/
def addTo (r : Request) : Parameter → Request
  | .field name value => { r with filter := Dict.insert name (.string value.plainText) r.filter }
  | .limit n => r.withLimit n
  | .skip n | .offset n => r.withSkip n
  | .sort keys => keys.foldl (fun r key => r.sortBy key.field key.direction) r

/-- A parameter whose text says what it spells. -/
inductive Readable (reserved : Reserved) : Parameter → Prop
  | field {name : String} (value : Json) (h : reserved.contains name = false) :
    Readable reserved (.field name value)
  | limit {n : Int} (h : fitsInt64 n = true) : Readable reserved (.limit n)
  | skip {n : Int} (h : fitsInt64 n = true) : Readable reserved (.skip n)
  | offset {n : Int} (h : fitsInt64 n = true) : Readable reserved (.offset n)
  | sort {keys : List SortKey} (h : ∀ key ∈ keys, SortKey.Spellable key.field) :
    Readable reserved (.sort keys)

variable {extra : List String} {r : Request} {p : Parameter} {ps : List Parameter}

/-- Taking in the name and the text of a parameter takes in what it spells. -/
theorem addParameter_encode (h : p.Readable (Reserved.standard.withExtra extra)) :
    Request.addParameter (Reserved.standard.withExtra extra) r p.encode = .ok (p.addTo r) := by
  cases h with
  | field value h =>
    rw [encode, Request.addParameter]
    dsimp only
    rw [h]
    rfl
  | limit h =>
    rw [encode, Request.addParameter_standard (by decide), Request.readInteger_intText "limit" h]
    rfl
  | skip h =>
    rw [encode, Request.addParameter_standard (by decide), Request.readInteger_intText "skip" h]
    rfl
  | offset h =>
    rw [encode, Request.addParameter_standard (by decide), Request.readInteger_intText "skip" h]
    rfl
  | sort h =>
    rw [encode, Request.addParameter_standard (by decide), SortKey.readAll_textOf h]
    rfl

/-- Taking in the names and the texts of parameters takes in what they spell, one after the
other. -/
theorem ofParameters_encode (h : ∀ p ∈ ps, p.Readable (Reserved.standard.withExtra extra)) :
    Request.ofParameters (Reserved.standard.withExtra extra) (ps.map encode) =
      .ok (ps.foldl addTo .empty) := by
  unfold Request.ofParameters
  generalize Request.empty = r
  induction ps generalizing r with
  | nil => rfl
  | cons p ps ih =>
    obtain ⟨hp, hps⟩ := List.forall_mem_cons.mp h
    rw [List.map_cons, List.foldlM_cons, addParameter_encode hp]
    exact ih hps _

/-! ## What parameters amount to -/

/-- An entry of a filter with the text of its value. -/
def inText (e : String × Json) : String × Json := (e.1, .string e.2.plainText)

theorem foldl_sortBy (keys : List SortKey) (r : Request) :
    keys.foldl (fun r key => r.sortBy key.field key.direction) r =
      { r with options := { r.options with
        sort := r.options.sort.insertAll (keys.map SortKey.entry) } } := by
  induction keys generalizing r with
  | nil => rfl
  | cons key keys ih =>
    rw [List.foldl_cons, ih]
    rfl

/-- The parts of a request that parameters spell stay apart, in whatever order the parameters
come. -/
theorem foldl_addTo (ps : List Parameter) (r : Request) :
    ps.foldl addTo r =
      ⟨r.filter.insertAll ((ps.filterMap entry?).map inText),
        r.options.sort.insertAll ((ps.filterMap sort?).flatten.map SortKey.entry),
        (ps.filterMap limit?).getLast?.or r.options.limit,
        (ps.filterMap skip?).getLast?.or r.options.skip, r.options.projection⟩ := by
  have hlast (n : Int) (ns : List Int) (m : Option Int) :
      (n :: ns).getLast?.or m = ns.getLast?.or (some n) := by
    rw [List.getLast?_cons]
    cases ns.getLast? <;> rfl
  induction ps generalizing r with
  | nil => rfl
  | cons p ps ih =>
    rw [List.foldl_cons, ih]
    cases p with
    | field name value => rfl
    | limit n =>
      exact congrArg (fun limit => Request.mk _ (RequestOptions.mk _ limit _ _))
        (hlast n (ps.filterMap limit?) r.options.limit).symm
    | skip n =>
      exact congrArg (fun skip => Request.mk _ (RequestOptions.mk _ _ skip _))
        (hlast n (ps.filterMap skip?) r.options.skip).symm
    | offset n =>
      exact congrArg (fun skip => Request.mk _ (RequestOptions.mk _ _ skip _))
        (hlast n (ps.filterMap skip?) r.options.skip).symm
    | sort keys =>
      have happend : r.options.sort.insertAll
          ((keys ++ (ps.filterMap sort?).flatten).map SortKey.entry) =
          (r.options.sort.insertAll (keys.map SortKey.entry)).insertAll
            ((ps.filterMap sort?).flatten.map SortKey.entry) := by
        rw [List.map_append]
        exact List.foldl_append
      rw [addTo, foldl_sortBy]
      exact congrArg (fun sort => Request.mk _ (RequestOptions.mk sort _ _ _)) happend.symm

end Parameter
end DocFilter
