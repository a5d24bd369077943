import DocFilter.Proofs.Filter.Renaming
import DocFilter.Proofs.Query.Course
import DocFilter.Proofs.Sharing

/-!
# Translations that share a counter

Any number of requests may be translated at the same time, by translators of any kind, with
one counter for the numbers of all parameters.  Whatever the order in which the numbers are
given out, no two parameters get the same name, and each request ends as it would have
ended alone, but for the names: with the same refusal, or with a translation whose text
with positions and values are the same (`Translator.shared_of_play`).
-/

namespace DocFilter

open Sql

/-! ## Translations that differ in names -/

/-- The same translation, but for the names of the parameters. -/
structure Translation.SameUpToNames (d : Dialect) (out out' : Translation) : Prop where
  positional_eq : out.positional d = out'.positional d
  hasText_eq : out.conditionText.isSome = out'.conditionText.isSome
  orderText_eq : out.orderText = out'.orderText
  limit_eq : out.limit = out'.limit
  offset_eq : out.offset = out'.offset
  projection_eq : out.projection = out'.projection

/-- The same refusal, or the same translation but for the names of the parameters. -/
inductive SameUpToNames (d : Dialect) :
    Except QueryError Translation → Except QueryError Translation → Prop where
  | refused (e : QueryError) : SameUpToNames d (.error e) (.error e)
  | translated {out out' : Translation} (h : out.SameUpToNames d out') :
      SameUpToNames d (.ok out) (.ok out')

/-- The text with positions has the values of all parameters beside it. -/
theorem Translation.positional_of_laid {d : Dialect} {out : Translation} {φ : Formula}
    (hcondition : out.condition = some φ) (hlaid : d.Laid φ.fragment)
    (hnames : φ.fragment.names = out.bindings.keys) (hnodup : out.bindings.keys.Nodup)
    (hunderscored : Dialect.Underscored out.bindings) :
    out.positional d =
      (String.ofList (Fragment.positioned d 1 φ.fragment).chars, out.bindings.values) := by
  have hfind : φ.fragment.names.map (fun name => Dict.find? name out.bindings) =
      out.bindings.values.map some := by
    rw [hnames]
    exact Translator.find?_keys hnodup
  have hrewrite := Dialect.rewriteFrom_laid hunderscored hlaid hfind 1
  rw [positional, conditionText, hcondition, Option.map_some]
  dsimp only
  rw [Dialect.rewrite, Formula.toList_text, hrewrite]

namespace Translator

variable {t : Translator} {options : RequestOptions} {keys : List SortKey}
  {projection : Option Projection} {filter : Filter} {ns ms : List String}

/-- The text with positions is made of the filter alone. -/
theorem positional_assemble (h : (filter.course t.isPattern t.layout).fault = none)
    (hns : filter.Names ns) :
    (t.assemble options keys projection (filter.predicate t.target ns)).positional t.dialect =
      if filter.isVacuous then ("", [])
      else (String.ofList
        (Fragment.positioned t.dialect 1 (filter.predicate t.target ns).condition.fragment).chars,
        filter.values t.dialect t.layout) := by
  have hcondition := condition_assemble t options keys projection (filter.predicate t.target ns)
  rw [Filter.isAlways_predicate filter hns.length_eq] at hcondition
  cases hvacuous : filter.isVacuous with
  | true =>
    rw [hvacuous, if_pos rfl] at hcondition
    rw [Translation.positional, Translation.conditionText, hcondition]
    rfl
  | false =>
    rw [hvacuous, if_neg Bool.false_ne_true] at hcondition
    obtain ⟨hlaid, hnames⟩ := Filter.laid_predicate (t := t.target) h hns
    change t.dialect.Laid _ at hlaid
    have hkeys := keys_assemble t options keys projection hns.nodup hns.length_eq
    rw [if_neg Bool.false_ne_true,
      Translation.positional_of_laid hcondition hlaid (hnames.trans hkeys.symm)
        (by rw [hkeys]; exact hns.nodup),
      values_assemble t options keys projection hns.nodup hns.length_eq]
    intro name hname
    rw [hkeys] at hname
    obtain ⟨field, n, rfl⟩ := hns.named name hname
    exact underscore_mem_parameterName field n

/-- Translations made of different names are the same but for the names. -/
theorem sameUpToNames_assemble (h : (filter.course t.isPattern t.layout).fault = none)
    (hns : filter.Names ns) (hms : filter.Names ms) :
    (t.assemble options keys projection (filter.predicate t.target ns)).SameUpToNames t.dialect
      (t.assemble options keys projection (filter.predicate t.target ms)) := by
  refine ⟨?_, ?_, ?_, rfl, rfl, rfl⟩
  · obtain ⟨ρ, rfl⟩ := exists_renaming hns.nodup (hns.length_eq.trans hms.length_eq.symm)
    rw [positional_assemble h hns, positional_assemble h hms, Filter.condition_predicate_rename,
      Formula.fragment_rename, Fragment.positioned_rename]
  · rw [Translation.conditionText, Translation.conditionText, condition_assemble,
      condition_assemble, Filter.isAlways_predicate filter hns.length_eq,
      Filter.isAlways_predicate filter hms.length_eq]
    cases filter.isVacuous <;> rfl
  · rw [Translation.orderText, Translation.orderText, order_assemble, order_assemble]

/-! ## Translations under way -/

section Sharing

variable {ι : Type} [DecidableEq ι]

/-- The requests before their first questions, with one counter for all of them. -/
def sharing (c : Nat) (jobs : ι → Translator × Request) : Pool ι Translation :=
  Pool.start c fun i => (jobs i).1.translate (jobs i).2

/-- The names minted so far for one of the requests, one for each number it was given. -/
def minted (jobs : ι → Translator × Request) (p : Pool ι Translation) (i : ι) : List String :=
  List.zipWith parameterName ((jobs i).1.course (jobs i).2).fields (p.given i)

/-- No name is minted twice, and each request that is done has ended as it would have ended
alone; it is done as soon as it has got a number for each of its fields. -/
structure Shared (jobs : ι → Translator × Request) (p : Pool ι Translation) : Prop where
  nodup_minted : ∀ i, (minted jobs p i).Nodup
  disjoint_minted : ∀ i j, i ≠ j → (minted jobs p i).Disjoint (minted jobs p j)
  isDone_iff : ∀ i, (∃ outcome, p.left i = .done outcome) ↔
    (p.given i).length = ((jobs i).1.course (jobs i).2).fields.length
  keys_eq : ∀ i out, p.left i = .done (.ok out) → out.bindings.keys = minted jobs p i
  sameUpToNames : ∀ i outcome, p.left i = .done outcome →
    SameUpToNames (jobs i).1.dialect outcome (((jobs i).1.translate (jobs i).2).run 0).1

theorem mem_zipWith_parameterName {name : String} {fields : List String} {given : List Nat}
    (h : name ∈ List.zipWith parameterName fields given) :
    ∃ field, ∃ n ∈ given, name = parameterName field n := by
  induction fields generalizing given with
  | nil => exact absurd h (by simp)
  | cons f fields ih =>
    cases given with
    | nil => exact absurd h (by simp)
    | cons n given =>
      rcases List.mem_cons.mp h with rfl | h
      · exact ⟨f, n, List.mem_cons_self, rfl⟩
      · obtain ⟨field, m, hm, hname⟩ := ih h
        exact ⟨field, m, List.mem_cons_of_mem _ hm, hname⟩

/-- Different numbers make different names, whatever the fields. -/
theorem nodup_zipWith_parameterName {fields : List String} {given : List Nat}
    (h : given.Nodup) : (List.zipWith parameterName fields given).Nodup := by
  induction fields generalizing given with
  | nil => exact List.nodup_nil
  | cons f fields ih =>
    cases given with
    | nil => exact List.nodup_nil
    | cons n given =>
      obtain ⟨hn, hgiven⟩ := List.nodup_cons.mp h
      refine List.nodup_cons.mpr ⟨fun hmem => ?_, ih hgiven⟩
      obtain ⟨field, m, hm, hname⟩ := mem_zipWith_parameterName hmem
      exact hn (number_eq_of_parameterName_eq hname ▸ hm)

/-- What a translation that was given its numbers one by one ends in. -/
theorem sameUpToNames_verdict (t : Translator) (r : Request) {given : List Nat}
    (hlength : given.length = (t.course r).fields.length) (hnodup : given.Nodup) :
    SameUpToNames t.dialect
      ((t.course r).verdict (t.made r (List.zipWith parameterName (t.course r).fields given)))
      ((t.translate r).run 0).1 := by
  rw [run_translate]
  cases hfault : (t.course r).fault with
  | some e =>
    rw [Course.verdict, Course.verdict, hfault]
    exact .refused e
  | none =>
    obtain ⟨filter, keys, projection, h⟩ := exists_admitted hfault
    rw [Course.verdict_eq_ok.mpr ⟨hfault, rfl⟩, Course.verdict_eq_ok.mpr ⟨hfault, rfl⟩,
      h.made_eq, h.made_eq, h.fields_eq]
    rw [h.fields_eq] at hlength
    refine .translated (sameUpToNames_assemble h.sound ⟨?_, ?_, fun name hname => ?_⟩
      (filter.names_parameterNames 0))
    · rw [List.length_zipWith, hlength, Nat.min_self]
    · exact nodup_zipWith_parameterName hnodup
    · obtain ⟨field, n, -, hn⟩ := mem_zipWith_parameterName hname
      exact ⟨field, n, hn⟩

/-- The names bound by a translation that was given its numbers one by one. -/
theorem keys_of_verdict {r : Request} {given : List Nat} {out : Translation}
    (hlength : given.length = (t.course r).fields.length) (hnodup : given.Nodup)
    (h : (t.course r).verdict (t.made r (List.zipWith parameterName (t.course r).fields given)) =
      .ok out) :
    out.bindings.keys = List.zipWith parameterName (t.course r).fields given := by
  obtain ⟨hfault, rfl⟩ := Course.verdict_eq_ok.mp h
  obtain ⟨filter, keys, projection, hadmitted⟩ := exists_admitted hfault
  rw [hadmitted.made_eq, keys_assemble _ _ _ _ (nodup_zipWith_parameterName hnodup)]
  rw [List.length_zipWith, hlength, Nat.min_self, hadmitted.fields_eq]

/-- Whatever the order in which requests take turns, no name is minted twice, and each
request that is done has ended as it would have ended alone. -/
theorem shared_of_play (c : Nat) (jobs : ι → Translator × Request) (schedule : List ι) :
    Shared jobs ((sharing c jobs).play schedule) := by
  have htracks := (Pool.tracks_start c fun i => (jobs i).1.translate (jobs i).2).play schedule
  change Pool.Tracks _ c ((sharing c jobs).play schedule) at htracks
  generalize (sharing c jobs).play schedule = p at htracks
  have hserved (i : ι) := htracks.served i
  simp only [translate_eq_follow] at hserved
  refine ⟨fun i => nodup_zipWith_parameterName (htracks.served i).nodup, fun i j hij => ?_,
    fun i => ?_, fun i out hout => ?_, fun i outcome houtcome => ?_⟩
  · intro name hi hj
    obtain ⟨f, m, hm, rfl⟩ := mem_zipWith_parameterName hi
    obtain ⟨g, n, hn, hname⟩ := mem_zipWith_parameterName hj
    rw [number_eq_of_parameterName_eq hname] at hm
    exact htracks.disjoint i j hij hm hn
  · constructor
    · rintro ⟨outcome, houtcome⟩
      exact ((hserved i).done_iff outcome |>.mp houtcome).1
    · exact fun hlength => ⟨_, ((hserved i).done_iff _).mpr ⟨hlength, rfl⟩⟩
  · obtain ⟨hlength, hok⟩ := ((hserved i).done_iff _).mp hout
    exact keys_of_verdict hlength (hserved i).nodup hok.symm
  · obtain ⟨hlength, rfl⟩ := ((hserved i).done_iff _).mp houtcome
    exact sameUpToNames_verdict _ _ hlength (hserved i).nodup

end Sharing

end Translator
end DocFilter
