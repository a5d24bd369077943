import DocFilter.Proofs.Filter.Admissible
import DocFilter.Proofs.Query.Parameters

/-!
# Flat requests

A flat request compares fields of the document with scalars, orders by fields that can be
written in one text, and asks for a page.  It can come as a body or as query parameters.  The
parameters know nothing but texts, but a field of a document is compared by its text anyway, so
both ways lead to the same translation (`Translator.run_translateParameters`).
-/

namespace DocFilter
namespace Filter

variable {t : Target} {isPattern : String → Bool} {l : Layout} {limit depth : Nat}
  {e : String × Json} {entries : Dict String Json}

/-- A field of the document compared with a scalar. -/
structure Flat (l : Layout) (e : String × Json) : Prop where
  nonempty : e.1 ≠ ""
  no_connective : isConnectiveKey e.1 = false
  no_identity : e.1 ≠ l.identityField
  scalar : e.2.isScalar = true

theorem Flat.inText (h : Flat l e) : Flat l (Parameter.inText e) :=
  ⟨h.nonempty, h.no_connective, h.no_identity, rfl⟩

/-- The filter of a flat entry. -/
def equality (e : String × Json) : Filter := .field e.1 [⟨.equal, e.2, none⟩]

theorem type_of_isScalar {v : Json} (h : v.isScalar = true) :
    v.type ≠ .object ∧ v.type ≠ .null ∧ v.isStructured = false := by
  revert h
  cases v <;> simp [Json.isScalar, Json.type, Json.isStructured]

theorem readEntry_of_flat (h : Flat l e) : readEntry limit depth e = .ok (equality e) := by
  have hfield : readField e.1 e.2 = .ok (equality e) :=
    readField_eq_ok_iff.mpr ⟨h.nonempty, _,
      readConditions_of_operand (type_of_isScalar h.scalar).1 e.1, rfl⟩
  rw [readEntry, h.no_connective, if_neg Bool.false_ne_true, hfield]

/-- Flat entries are read as they stand, unless no map is admitted at all. -/
theorem readMap_of_flat (h : ∀ e ∈ entries, Flat l e) :
    readMap limit entries = withinDepth limit 1 (.ok (ofEntries (entries.map equality))) := by
  have hentries : readEntries limit 1 entries = .ok (entries.map equality) := by
    rw [readEntries_eq_mapM, mapM_eq_ok_iff, List.forall₂_map_right_iff, List.forall₂_same]
    exact fun e he => readEntry_of_flat (h e he)
  rw [readMap, hentries]
  rfl

/-! ## Texts in the place of scalars -/

theorem textOf_of_isScalar {v : Json} (h : v.isScalar = true) :
    Bound.textOf v = .text v.plainText := by
  cases v with
  | bool b => rfl
  | number n => rfl
  | string s => rfl
  | _ => exact absurd h Bool.false_ne_true

/-- A flat entry binds the text of its scalar. -/
theorem compile_equality_of_flat (h : Flat t.layout e) :
    Condition.compile t e.1 ⟨.equal, e.2, none⟩ = (t.bind e.1).andThen fun bound =>
      Minting.result ⟨t.dialect.equals (t.layout.locate e.1) bound.2,
        [(bound.1, .text e.2.plainText)]⟩ := by
  obtain ⟨-, hnull, hstructured⟩ := type_of_isScalar h.scalar
  have haccepts : Comparison.equal.accepts e.2 = true := bne_iff_ne.mpr hnull
  unfold Condition.compile
  dsimp only
  rw [haccepts, if_neg (by simp), Condition.compileEquality, Layout.locate_of_ne h.no_identity]
  dsimp only
  rw [hstructured, textOf_of_isScalar h.scalar]
  rfl

/-- A field of the document is compared with the text of the scalar, whichever of the two is
given. -/
theorem compile_inText (h : Flat t.layout e) :
    (equality (Parameter.inText e)).compile t = (equality e).compile t := by
  have hsame : Condition.compile t e.1 ⟨.equal, .string e.2.plainText, none⟩ =
      Condition.compile t e.1 ⟨.equal, e.2, none⟩ :=
    (compile_equality_of_flat h.inText).trans (compile_equality_of_flat h).symm
  simp only [equality, compile, Condition.compileAll, Parameter.inText, hsame]

/-- The filters of the entries of a map are compiled in order, however many there are. -/
theorem compile_ofEntries (t : Target) (fs : List Filter) :
    (ofEntries fs).compile t = (Filter.all fs).compile t := by
  match fs with
  | [] => rfl
  | [f] =>
    simp only [ofEntries, compile, compileAll, bind_assoc, pure_bind]
    exact (bind_pure _).symm
  | _ :: _ :: _ => rfl

theorem compileAll_inText (h : ∀ e ∈ entries, Flat t.layout e) :
    compileAll t ((entries.map Parameter.inText).map equality) =
      compileAll t (entries.map equality) := by
  induction entries with
  | nil => rfl
  | cons e rest ih =>
    obtain ⟨he, hrest⟩ := List.forall_mem_cons.mp h
    rw [List.map_cons, List.map_cons, compileAll, compile_inText he, ih hrest, List.map_cons,
      compileAll]

/-- Flat entries are compiled to the same with the text of each scalar in its place. -/
theorem compile_ofEntries_inText (h : ∀ e ∈ entries, Flat t.layout e) :
    (ofEntries ((entries.map Parameter.inText).map equality)).compile t =
      (ofEntries (entries.map equality)).compile t := by
  rw [compile_ofEntries, compile_ofEntries, compile, compile, compileAll_inText h]

/-! ## Nothing to refuse -/

theorem fault_courseAll (h : ∀ e ∈ entries, Flat l e) :
    (courseAll isPattern l (entries.map equality)).fault = none := by
  induction entries with
  | nil => rfl
  | cons e rest ih =>
    obtain ⟨he, hrest⟩ := List.forall_mem_cons.mp h
    rw [List.map_cons, courseAll, Course.andThen_fault_eq_none]
    refine ⟨?_, ih hrest⟩
    obtain ⟨-, hnull, hstructured⟩ := type_of_isScalar he.scalar
    have haccepts : Comparison.equal.accepts e.2 = true := bne_iff_ne.mpr hnull
    rw [equality, course, Condition.courseAll, Condition.courseAll, Course.andThen_done,
      Condition.course, if_pos haccepts]
    exact Condition.equalityCourse_fault_eq_none_iff.mpr fun _ => hstructured

theorem course_ofEntries (isPattern : String → Bool) (l : Layout) (fs : List Filter) :
    (ofEntries fs).course isPattern l = courseAll isPattern l fs := by
  match fs with
  | [] => rfl
  | [f] => rw [ofEntries, courseAll, courseAll, Course.andThen_done]
  | _ :: _ :: _ =>
    rw [ofEntries, course]
    simp

end Filter

/-! ## Requests -/

namespace Request

/-- The request compares fields of the document with scalars, orders by fields that one text
can hold, and chooses no fields to return. -/
structure Flat (t : Translator) (r : Request) : Prop where
  entries : ∀ e ∈ r.filter, Filter.Flat t.layout e
  unreserved : ∀ e ∈ r.filter, t.reserved.contains e.1 = false
  distinct : r.filter.keys.Nodup
  sort : ∀ e ∈ r.options.sort, SortKey.Spellable e.1
  sort_distinct : r.options.sort.keys.Nodup
  limit : ∀ n ∈ r.options.limit, fitsInt64 n = true
  skip : ∀ n ∈ r.options.skip, fitsInt64 n = true
  projection : r.options.projection = none

/-- The parameters spell the request: its fields and the keys of its order in their order, each
of the latter in a direction given as `1` or `-1`, and its limit and the number of rows to skip,
where it has them. -/
structure SpelledBy (r : Request) (ps : List Parameter) : Prop where
  filter : ps.filterMap Parameter.entry? = r.filter
  sort : (ps.filterMap Parameter.sort?).flatten.map SortKey.entry = r.options.sort
  limit : ps.filterMap Parameter.limit? = r.options.limit.toList
  skip : ps.filterMap Parameter.skip? = r.options.skip.toList

/-- The request with the text of each value in its place. -/
def inText (r : Request) : Request := { r with filter := r.filter.map Parameter.inText }

variable {t : Translator} {r : Request} {ps : List Parameter} {extra : List String}

theorem SpelledBy.readable (h : r.SpelledBy ps) (hflat : r.Flat t) :
    ∀ p ∈ ps, p.Readable t.reserved := by
  intro p hp
  cases p with
  | field name value =>
    refine .field value (hflat.unreserved (name, value) ?_)
    rw [← h.filter]
    exact List.mem_filterMap.mpr ⟨_, hp, rfl⟩
  | limit n =>
    refine .limit (hflat.limit n (Option.mem_toList.mp ?_))
    rw [← h.limit]
    exact List.mem_filterMap.mpr ⟨_, hp, rfl⟩
  | skip n =>
    refine .skip (hflat.skip n (Option.mem_toList.mp ?_))
    rw [← h.skip]
    exact List.mem_filterMap.mpr ⟨_, hp, rfl⟩
  | offset n =>
    refine .offset (hflat.skip n (Option.mem_toList.mp ?_))
    rw [← h.skip]
    exact List.mem_filterMap.mpr ⟨_, hp, rfl⟩
  | sort keys =>
    refine .sort fun key hkey => hflat.sort key.entry ?_
    rw [← h.sort]
    exact List.mem_map_of_mem (List.mem_flatten.mpr
      ⟨keys, List.mem_filterMap.mpr ⟨_, hp, rfl⟩, hkey⟩)

/-- Parameters that spell a flat request amount to the request with texts for its values. -/
theorem SpelledBy.foldl_addTo (h : r.SpelledBy ps) (hflat : r.Flat t) :
    ps.foldl Parameter.addTo .empty = r.inText := by
  have hkeys : Dict.keys (r.filter.map Parameter.inText) = r.filter.keys := by
    rw [Dict.keys, List.map_map]
    rfl
  have hfilter :
      Dict.insertAll [] (r.filter.map Parameter.inText) = r.filter.map Parameter.inText :=
    Dict.ofEntries_of_nodup (hkeys ▸ hflat.distinct)
  have hsort : Dict.insertAll [] r.options.sort = r.options.sort :=
    Dict.ofEntries_of_nodup hflat.sort_distinct
  have hlast (n : Option Int) : n.toList.getLast?.or none = n := by cases n <;> rfl
  rw [Parameter.foldl_addTo, h.filter, h.sort, h.limit, h.skip]
  change Request.mk (Dict.insertAll [] _)
    ⟨Dict.insertAll [] _, Option.or _ none, Option.or _ none, none⟩ = _
  rw [hfilter, hsort, hlast, hlast, ← hflat.projection]
  rfl

/-- A flat request can be spelled where its order says `1` or `-1` for each field. -/
theorem exists_spelledBy {keys : List SortKey}
    (h : r.options.sort = keys.map SortKey.entry) : ∃ ps, r.SpelledBy ps := by
  refine ⟨r.filter.map (fun e => .field e.1 e.2) ++ r.options.limit.toList.map .limit ++
    r.options.skip.toList.map .skip ++ [.sort keys], ?_, ?_, ?_, ?_⟩
  · simp [Parameter.entry?, List.filterMap_map, Function.comp_def]
  · simp [Parameter.sort?, List.filterMap_map, Function.comp_def, h]
  · simp [Parameter.limit?, List.filterMap_map, Function.comp_def]
  · simp [Parameter.skip?, List.filterMap_map, Function.comp_def]

end Request

namespace Translator

open Request

variable {t : Translator} {r : Request} {ps : List Parameter} {extra : List String}

/-- A flat request is translated to the same with the text of each value in its place. -/
theorem translate_inText (hflat : r.Flat t) : t.translate r.inText = t.translate r := by
  have hinText : ∀ e ∈ r.inText.filter, Filter.Flat t.layout e :=
    List.forall_mem_map.mpr fun e he => (hflat.entries e he).inText
  rw [translate, translate, readFilter, readFilter, Filter.readMap_of_flat hinText,
    Filter.readMap_of_flat hflat.entries]
  unfold Filter.withinDepth
  split
  · rfl
  · exact translateRead_congr (Filter.compile_ofEntries_inText hflat.entries) r.options

theorem sortKeys_of_entries {options : RequestOptions} {keys : List SortKey}
    (h : keys.map SortKey.entry = options.sort) : sortKeys options = .ok keys := by
  rw [sortKeys, ← h, mapM_eq_ok_iff, List.forall₂_map_left_iff, List.forall₂_same]
  intro key _
  obtain ⟨field, direction⟩ := key
  cases direction <;> rfl

/-- A flat request whose order says `1` or `-1` for each field has no fault. -/
theorem exists_translate_of_flat (hflat : r.Flat t) {keys : List SortKey}
    (hkeys : keys.map SortKey.entry = r.options.sort) (hdepth : 0 < t.maxDepth) (c : Nat) :
    ∃ out c', (t.translate r).run c = (.ok out, c') := by
  have hread : t.readFilter r.filter =
      .ok (Filter.ofEntries (r.filter.map Filter.equality)) := by
    rw [readFilter, Filter.readMap_of_flat hflat.entries]
    exact if_neg (Nat.not_lt.mpr hdepth)
  have hfault : (t.course r).fault = none := by
    unfold course
    rw [hread, sortKeys_of_entries hkeys, hflat.projection]
    dsimp only [Course.ofExcept, readProjection]
    rw [Course.done_andThen, Course.andThen_done, Filter.course_ofEntries]
    exact Filter.fault_courseAll hflat.entries
  rw [run_translate]
  exact ⟨_, _, Prod.ext (Course.verdict_eq_ok.mpr ⟨hfault, rfl⟩) rfl⟩

/-- Query parameters that spell a flat request are translated as the request is, from the same
number on, and to a result unless no map is admitted at all.  They may come in any order that
keeps that of the fields and that of the keys. -/
theorem run_translateParameters (hreserved : t.reserved = Reserved.standard.withExtra extra)
    (hflat : r.Flat t) (hspelled : r.SpelledBy ps) (c : Nat) :
    (t.translateParameters (ps.map Parameter.encode)).run c = (t.translate r).run c ∧
      (0 < t.maxDepth → ∃ out c', (t.translate r).run c = (.ok out, c')) := by
  refine ⟨?_, fun hdepth => exists_translate_of_flat hflat hspelled.sort hdepth c⟩
  have hreadable := hspelled.readable hflat
  have hread : Request.ofParameters t.reserved (ps.map Parameter.encode) = .ok r.inText := by
    rw [hreserved] at hreadable ⊢
    rw [Parameter.ofParameters_encode hreadable, hspelled.foldl_addTo hflat]
  rw [translateParameters, hread]
  exact congrArg (Minting.run · c) (translate_inText hflat)

/-- Fields and keys that begin with a sign, a limit below zero, and an order given first. -/
theorem run_translateParameters_signs : ∃ (t : Translator) (r : Request) (ps : List Parameter),
    t = (permissive .sqlServer).withReserved (Reserved.standard.withExtra ["Format"]) ∧
    r = ⟨[("a.0", .bool true), ("-b", Json.ofInt (-12)), ("x", .string "30")],
      ⟨[("name", Json.ofInt 1), ("+x", Json.ofInt (-1)), ("-", Json.ofInt (-1))],
        some (-7), some 3, none⟩⟩ ∧
    ps.map Parameter.encode = [("sort", "+name,-+x,--"), ("a.0", "true"), ("offset", "3"),
      ("-b", "-12"), ("limit", "-7"), ("x", "30")] ∧
    t.reserved = Reserved.standard.withExtra ["Format"] ∧ r.Flat t ∧ r.SpelledBy ps ∧
    (t.translateParameters (ps.map Parameter.encode)).run 5 = (t.translate r).run 5 ∧
    ∃ out c', (t.translate r).run 5 = (.ok out, c') := by
  let t := (permissive .sqlServer).withReserved (Reserved.standard.withExtra ["Format"])
  let r : Request := ⟨[("a.0", .bool true), ("-b", Json.ofInt (-12)), ("x", .string "30")],
      ⟨[("name", Json.ofInt 1), ("+x", Json.ofInt (-1)), ("-", Json.ofInt (-1))],
        some (-7), some 3, none⟩⟩
  let ps : List Parameter :=
    [.sort [⟨"name", .ascending⟩, ⟨"+x", .descending⟩, ⟨"-", .descending⟩],
      .field "a.0" (.bool true), .offset 3, .field "-b" (Json.ofInt (-12)), .limit (-7),
      .field "x" (.string "30")]
  have hentry (name : String) (value : Json) (h : name ≠ "" ∧
      Filter.isConnectiveKey name = false ∧ name ≠ "_id" ∧ value.isScalar = true) :
      Filter.Flat t.layout (name, value) := ⟨h.1, h.2.1, h.2.2.1, h.2.2.2⟩
  have hkey (field : String) (h : field ≠ "" ∧ ',' ∉ field.toList ∧
      (field.toList.all fun c => !Text.isBlank c) = true) : SortKey.Spellable field :=
    ⟨h.1, h.2.1, Text.trimmed_of_forall fun c hc => by simpa using List.all_eq_true.mp h.2.2 c hc⟩
  have hflat : r.Flat t := by
    refine ⟨?_, ?_, by decide, ?_, by decide, ?_, ?_, rfl⟩
    · simp only [r, List.forall_mem_cons]
      exact ⟨hentry _ _ (by decide), hentry _ _ (by decide), hentry _ _ (by decide), by simp⟩
    · simp only [r, List.forall_mem_cons]
      exact ⟨by decide +kernel, by decide +kernel, by decide +kernel, by simp⟩
    · simp only [r, List.forall_mem_cons]
      exact ⟨hkey _ (by decide), hkey _ (by decide), hkey _ (by decide), by simp⟩
    · decide
    · decide
  have hspelled : r.SpelledBy ps := ⟨rfl, rfl, rfl, rfl⟩
  obtain ⟨hsame, hresult⟩ := run_translateParameters rfl hflat hspelled 5
  exact ⟨t, r, ps, rfl, rfl, by decide +kernel, rfl, hflat, hspelled, hsame, hresult (by decide)⟩

end Translator
end DocFilter
