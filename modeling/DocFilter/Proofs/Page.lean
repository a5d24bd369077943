import DocFilter.Proofs.Gateway
import DocFilter.Proofs.Query.Translator

/-!
# How large a page can be

The limit of a page is the one a request asks for, or else the standard one, and it is cut at
the greatest one (`Translator.effectiveLimit_eq`).  A limit that is not positive counts as none,
in a request as in the settings.

So a gateway with a greatest limit never hands out a larger page.  What it does not do is make up
a limit: where no request names one and the settings have no standard one, a page has no limit,
whatever the greatest one is (`Gateway.exists_unlimited`).
-/

namespace DocFilter

/-- The request asks for a page of this size. -/
def RequestOptions.AsksFor (options : RequestOptions) (n : Nat) : Prop :=
  0 < n ∧ options.limit = some (n : Int)

/-- What limit a page has under settings with a greatest limit. -/
structure QuerySettings.Limits (s : QuerySettings) (greatest : Nat) (options : RequestOptions)
    (limit : Option Nat) : Prop where
  /-- The limit asked for, up to the greatest one. -/
  asked : ∀ n, options.AsksFor n → limit = some (min n greatest)
  /-- The standard limit where none is asked for, up to the greatest one. -/
  standard : (∀ n, ¬ options.AsksFor n) → ∀ n, s.defaultLimit = some n → 0 < n →
    limit = some (min n greatest)
  /-- There is no limit exactly where none is asked for and there is no standard one. -/
  eq_none_iff : limit = none ↔
    (∀ n, ¬ options.AsksFor n) ∧ ∀ n, s.defaultLimit = some n → n = 0
  within : ∀ l, limit = some l → 1 ≤ l ∧ l ≤ greatest

namespace Translator

variable {t : Translator} {options : RequestOptions}

theorem asked_eq_some_iff {n : Nat} : asked options.limit = some n ↔ options.AsksFor n := by
  unfold asked RequestOptions.AsksFor
  cases options.limit with
  | none => simp
  | some k =>
    by_cases hk : 0 < k
    · simp only [hk, if_true, Option.some.injEq]
      omega
    · simp only [hk, if_false, Option.some.injEq, reduceCtorEq, false_iff, not_and]
      omega

theorem asked_eq_none_iff : asked options.limit = none ↔ ∀ n, ¬ options.AsksFor n := by
  rw [Option.eq_none_iff_forall_ne_some]
  exact forall_congr' fun n => not_congr asked_eq_some_iff

theorem positive_eq_some_iff {setting : Option Nat} {n : Nat} :
    positive setting = some n ↔ setting = some n ∧ 0 < n := by
  rw [positive, Option.filter_eq_some_iff, decide_eq_true_eq]

theorem positive_eq_none_iff {setting : Option Nat} :
    positive setting = none ↔ ∀ n, setting = some n → n = 0 := by
  rw [Option.eq_none_iff_forall_ne_some]
  refine forall_congr' fun n => ?_
  rw [Ne, positive_eq_some_iff, not_and, Nat.pos_iff_ne_zero, not_not]

/-- Under a greatest limit, the limit is the one asked for or the standard one, cut. -/
theorem effectiveLimit_eq {greatest : Nat} (h : t.maxLimit = some greatest) :
    t.effectiveLimit options.limit =
      (asked options.limit <|> t.defaultLimit).map (min · greatest) := by
  rw [effectiveLimit, h]
  cases asked options.limit <|> t.defaultLimit <;> rfl

/-- The limits of a translator are those of its settings. -/
theorem limits_effectiveLimit {s : QuerySettings} {greatest : Nat}
    (hmax : t.maxLimit = some greatest) (hpos : 1 ≤ greatest)
    (hdefault : t.defaultLimit = positive s.defaultLimit) :
    s.Limits greatest options (t.effectiveLimit options.limit) := by
  rw [effectiveLimit_eq hmax, hdefault]
  refine ⟨fun n hn => ?_, fun hno n hn hpos => ?_, ?_, fun l hl => ?_⟩
  · rw [asked_eq_some_iff.mpr hn]
    rfl
  · rw [asked_eq_none_iff.mpr hno, positive_eq_some_iff.mpr ⟨hn, hpos⟩]
    rfl
  · rw [Option.map_eq_none_iff, ← asked_eq_none_iff, ← positive_eq_none_iff]
    cases asked options.limit <;> simp
  · obtain ⟨n, hn, rfl⟩ := Option.map_eq_some_iff.mp hl
    have hn : 0 < n := by
      cases hasked : asked options.limit with
      | some k =>
        rw [hasked] at hn
        rw [← Option.some.inj hn]
        exact (asked_eq_some_iff.mp hasked).1
      | none =>
        rw [hasked] at hn
        exact (positive_eq_some_iff.mp hn).2
    omega

/-- A translation has the limit that applies to its request. -/
theorem limit_of_translateRead {filter : Filter} {out : Translation} {c c' : Nat}
    (h : (t.translateRead filter options).run c = (.ok out, c')) :
    out.limit = t.effectiveLimit options.limit := by
  obtain ⟨clauses, c₁, -, h⟩ := Minting.run_andThen_eq_ok.mp h
  obtain ⟨keys, c₂, -, h⟩ := Minting.run_andThen_eq_ok.mp h
  obtain ⟨projection, c₃, -, h⟩ := Minting.run_andThen_eq_ok.mp h
  rw [← Except.ok.inj (Prod.mk.inj h).1]

end Translator

namespace Gateway

variable {lib : Libraries} {config : Config} {g : Gateway} {verb : Verb} {path : String}
  {r : Request} {q : PreparedQuery} {c c' : Nat}

theorem translator_of_ofConfig (h : ofConfig lib config = .ok g) :
    g.translator.maxLimit = Translator.positive config.query.maxLimit ∧
      g.translator.defaultLimit = Translator.positive config.query.defaultLimit := by
  obtain ⟨d, -, ht⟩ := bind_eq_ok.mp (parts_of_ofConfig h).2
  rw [← Except.ok.inj ht]
  exact ⟨rfl, rfl⟩

/-- What is prepared is what was translated, once it was authorized. -/
theorem exists_of_run_prepare (h : (g.prepare verb path r).run c = (.ok q, c')) :
    ∃ filter, (g.translator.translateRead filter r.options).run c = (.ok q.translation, c') := by
  obtain ⟨⟨endpoint, filter⟩, c₁, hauthorize, h⟩ := Minting.run_andThen_eq_ok.mp h
  obtain ⟨-, rfl⟩ := Prod.mk.inj hauthorize
  obtain ⟨out, hout, rfl⟩ := Minting.exists_of_run_map h
  exact ⟨filter, hout⟩

theorem limits_of_run_prepare (h : ofConfig lib config = .ok g) {greatest : Nat}
    (hgreatest : config.query.maxLimit = some greatest) (hpos : 1 ≤ greatest)
    (hrun : (g.prepare verb path r).run c = (.ok q, c')) :
    config.query.Limits greatest r.options q.translation.limit := by
  obtain ⟨hmax, hdefault⟩ := translator_of_ofConfig h
  rw [Translator.positive_eq_some_iff.mpr ⟨hgreatest, hpos⟩] at hmax
  obtain ⟨filter, hout⟩ := exists_of_run_prepare hrun
  rw [Translator.limit_of_translateRead hout]
  exact Translator.limits_effectiveLimit hmax hpos hdefault

/-- A gateway with a greatest limit prepares no larger page, however a request is written, and
a page without a limit only where neither the request nor the settings name one. -/
theorem limits_of_ofConfig (h : ofConfig lib config = .ok g) {greatest : Nat}
    (hgreatest : config.query.maxLimit = some greatest) (hpos : 1 ≤ greatest) (verb : Verb)
    (path : String) :
    (∀ r c q c', (g.prepare verb path r).run c = (.ok q, c') →
      config.query.Limits greatest r.options q.translation.limit) ∧
    ∀ parameters c q c', (g.prepareParameters verb path parameters).run c = (.ok q, c') →
      ∃ r, Request.ofParameters g.translator.reserved parameters = .ok r ∧
        config.query.Limits greatest r.options q.translation.limit := by
  refine ⟨fun r c q c' hrun => limits_of_run_prepare h hgreatest hpos hrun,
    fun parameters c q c' hrun => ?_⟩
  obtain ⟨r, c₁, hread, hrun⟩ := Minting.run_andThen_eq_ok.mp hrun
  exact ⟨r, (Prod.mk.inj hread).1, limits_of_run_prepare h hgreatest hpos hrun⟩

/-- Under a standard limit, a negative limit counts as none, and a huge one is cut. -/
theorem limits_of_ofConfig_items : ∃ lib config g q q' c c',
    ofConfig lib config = .ok g ∧ config.query.maxLimit = some 50 ∧ 1 ≤ 50 ∧
    (g.prepare .get "/items" (Request.empty.withLimit (-3))).run 0 = (.ok q, c) ∧
    (g.prepareParameters .get "/items" [("a", "x"), ("LIMIT", " +9000 ")]).run 7 = (.ok q', c') ∧
    config.query.Limits 50 (Request.empty.withLimit (-3)).options q.translation.limit ∧
    (∃ r, Request.ofParameters g.translator.reserved [("a", "x"), ("LIMIT", " +9000 ")] = .ok r ∧
      config.query.Limits 50 r.options q'.translation.limit) ∧
    q.translation.limit = some 25 ∧ q'.translation.limit = some 50 := by
  let lib : Libraries := ⟨fun _ => true, fun _ => none⟩
  let config : Config := { Config.standard with
    query := ⟨some 25, some 50, 32, []⟩, endpoints := [.unrestricted "/items" "items"] }
  obtain ⟨g, h⟩ : ∃ g, ofConfig lib config = .ok g := ⟨_, rfl⟩
  obtain ⟨hprepare, hparameters⟩ := limits_of_ofConfig h rfl (by decide : 1 ≤ 50) .get "/items"
  cases h
  exact ⟨lib, config, _, _, _, _, _, rfl, rfl, by decide, rfl, rfl, hprepare _ 0 _ _ rfl,
    hparameters _ 7 _ _ rfl, rfl, rfl⟩

/-- Under a greatest limit of one, a request that names no limit is prepared without any, and so
are parameters that name a limit of zero. -/
theorem exists_unlimited : ∃ lib config g q q' c c', config.query.maxLimit = some 1 ∧
    config.validate lib = .ok () ∧ ofConfig lib config = .ok g ∧
    (g.prepare .get "/items" .empty).run 0 = (.ok q, c) ∧ q.translation.limit = none ∧
    (g.prepareParameters .get "/items" [("limit", "0")]).run 0 = (.ok q', c') ∧
    q'.translation.limit = none :=
  ⟨⟨fun _ => true, fun _ => none⟩, { Config.standard with
      query := ⟨none, some 1, 32, []⟩, endpoints := [.unrestricted "/items" "items"] },
    _, _, _, _, _, rfl, rfl, rfl, rfl, rfl, rfl, rfl⟩

end Gateway
end DocFilter
