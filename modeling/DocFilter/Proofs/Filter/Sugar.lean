import DocFilter.Filter.Compile
import DocFilter.Proofs.Filter.Grammar

/-!
# Filters without sugar

Three forms of the filter language are short for others: a field with an operand is an
equality, a map of several entries is a conjunction of maps of one, and `$nor` is the negation
of `$or`.  `Filter.desugar` writes them out at every level of a document, and `Filter.plain`
does to the filter that is read what this does to the document (`Filter.readAt_desugar`).
Writing out may take a map to a deeper level, by one for each map of several entries and for
each `$nor` around it, so a limit on the levels has to be met anew.

The filter that is written out compiles as the filter it comes from, number by number and
fault by fault (`Filter.compile_plain`).
-/

namespace DocFilter
namespace Filter

/-! ## Documents -/

/-- The value of a field with its equality written out. -/
def explicit : Json → Json
  | .object operators => .object operators
  | operand => .object [(Comparison.equal.symbol, operand)]

/-- A connective and what it is applied to, without `$nor`. -/
def withoutNor (key : String) (operand : Json) : String × Json :=
  match Operator.ofSymbol? key with
  | some (.connective .nor) =>
    (Connective.not.symbol, .object [(Connective.or.symbol, operand)])
  | _ => (key, operand)

/-- The entries of a map as a map of at most one entry. -/
def ofSiblings : Dict String Json → Dict String Json
  | [] => []
  | [e] => [e]
  | entries => [(Connective.and.symbol, .array (entries.map fun e => .object [e]))]

mutual

/-- The entries of a map, each written out. -/
def desugarEntries : List (String × Json) → List (String × Json)
  | [] => []
  | (key, value) :: rest =>
    (if isConnectiveKey key then withoutNor key (desugarOperand value)
      else (key, explicit value)) :: desugarEntries rest

/-- The maps behind a connective, each written out. -/
def desugarOperand : Json → Json
  | .object entries => .object (ofSiblings (desugarEntries entries))
  | .array items => .array (desugarItems items)
  | found => found

/-- The maps in a list, each written out. -/
def desugarItems : List Json → List Json
  | [] => []
  | item :: rest => desugarOperand item :: desugarItems rest

end

/-- The document with every sugared form in it written out. -/
def desugar (doc : Dict String Json) : Dict String Json := ofSiblings (desugarEntries doc)

/-- An entry of a map written out. -/
def desugarEntry (e : String × Json) : String × Json :=
  if isConnectiveKey e.1 then withoutNor e.1 (desugarOperand e.2) else (e.1, explicit e.2)

theorem desugar_eq (doc : Dict String Json) : desugar doc = ofSiblings (doc.map desugarEntry) := by
  unfold desugar
  congr 1
  induction doc with
  | nil =>
    unfold desugarEntries
    rfl
  | cons e rest ih =>
    unfold desugarEntries
    rw [ih, List.map_cons, desugarEntry]

theorem Operands.desugar {op : Connective} {value : Json} {maps : List (Dict String Json)}
    (h : Operands op value maps) : Operands op (desugarOperand value) (maps.map desugar) := by
  cases h with
  | negated entries =>
    unfold desugarOperand
    exact .negated _
  | listed hop maps =>
    have hitems : desugarItems (maps.map .object) = (maps.map Filter.desugar).map .object := by
      induction maps with
      | nil =>
        unfold desugarItems
        rfl
      | cons entries maps ih =>
        rw [List.map_cons, List.map_cons, List.map_cons]
        unfold desugarItems desugarOperand
        rw [ih, Filter.desugar]
    unfold desugarOperand
    rw [hitems]
    exact .listed hop _

/-! ## Filters -/

/-- Filters joined as the entries of one map, with the conjunction named. -/
def siblings : List Filter → Filter
  | [] => .all []
  | [f] => .all [f]
  | fs => .joined .and fs

/-- The filters of the entries of a map as one filter, with the conjunction named. -/
def ofPlainEntries : List Filter → Filter
  | [f] => f
  | fs => siblings fs

/-- Filters joined by a connective, without `$nor`. -/
def joinedPlain : Connective → List Filter → Filter
  | .nor, fs => .joined .not [.joined .or fs]
  | op, fs => .joined op fs

theorem joinedPlain_of_ne {op : Connective} (h : op ≠ .nor) (fs : List Filter) :
    joinedPlain op fs = .joined op fs := by
  cases op with
  | nor => exact absurd rfl h
  | _ => rfl

mutual

/-- The filter with conjunctions named, and without `$nor`. -/
def plain : Filter → Filter
  | .all children => siblings (plainAll children)
  | .field name conditions => .field name conditions
  | .joined op children => joinedPlain op (plainAll children)

/-- The filters of a list, each made plain. -/
def plainAll : List Filter → List Filter
  | [] => []
  | f :: rest => f.plain :: plainAll rest

end

theorem plainAll_eq_map (fs : List Filter) : plainAll fs = fs.map plain := by
  induction fs with
  | nil =>
    unfold plainAll
    rfl
  | cons f rest ih =>
    unfold plainAll
    rw [ih, List.map_cons]

theorem plain_ofEntries (fs : List Filter) :
    (ofEntries fs).plain = ofPlainEntries (fs.map plain) := by
  match fs with
  | [] => rfl
  | [_] => rfl
  | f :: g :: rest =>
    rw [ofEntries, plain, plainAll_eq_map]
    · rfl
    · simp

/-- Several filters are compiled to the same, with their conjunction named or not. -/
theorem compile_siblings (t : Target) (fs : List Filter) :
    (siblings fs).compile t = (Filter.all fs).compile t := by
  match fs with
  | [] => rfl
  | [_] => rfl
  | f :: g :: rest =>
    simp only [siblings, compile, compileAll, bind_assoc, pure_bind]
    rfl

/-- A connective is compiled to the same without `$nor`. -/
theorem compile_joinedPlain (t : Target) (op : Connective) (fs : List Filter) :
    (joinedPlain op fs).compile t = (Filter.joined op fs).compile t := by
  cases op with
  | nor =>
    simp only [joinedPlain, compile, compileAll, bind_assoc, pure_bind]
    rfl
  | _ => rfl

mutual

/-- A filter made plain compiles to the same predicate, with the same numbers, or is refused
for the same fault after as many. -/
theorem compile_plain (t : Target) : ∀ f : Filter, f.plain.compile t = f.compile t
  | .all children => by
    rw [plain, compile_siblings, compile, compileAll_plainAll, compile]
  | .field name conditions => by rw [plain]
  | .joined op children => by
    rw [plain, compile_joinedPlain, compile, compileAll_plainAll, compile]

theorem compileAll_plainAll (t : Target) :
    ∀ fs : List Filter, compileAll t (plainAll fs) = compileAll t fs
  | [] => by rw [plainAll]
  | f :: rest => by
    rw [plainAll, compileAll, compile_plain t f, compileAll_plainAll t rest, compileAll]

end

/-! ## Levels -/

/-- No map of the document stands below the limit. -/
def Within (limit first : Nat) (doc : Dict String Json) : Prop :=
  ∀ level entries, MapAt first doc level entries → level ≤ limit

theorem within_iff {limit first : Nat} {doc : Dict String Json} :
    Within limit first doc ↔ first ≤ limit ∧
      ∀ e ∈ doc, ∀ inner, Behind e inner → Within limit (first + 1) inner :=
  forall_mapAt_iff

variable {limit depth : Nat}

/-- The maps behind an entry of a map that stands at the given depth are within the limit. -/
def WithinBehind (limit depth : Nat) (e : String × Json) : Prop :=
  ∀ inner, Behind e inner → Within limit (depth + 1) inner

/-- Maps behind a connective by its symbol. -/
theorem behind_symbol {op : Connective} {value : Json} {maps : List (Dict String Json)}
    (h : Operands op value maps) {inner : Dict String Json} (hinner : inner ∈ maps) :
    Behind (op.symbol, value) inner :=
  .intro (isConnectiveKey_symbol op) (named_symbol op) h hinner

/-! ## Reading what is written out -/

/-- An equality that is written out is read as it was. -/
theorem readField_explicit (key : String) (value : Json) :
    readField key (explicit value) = readField key value := by
  have hequal : isOptionsKey Comparison.equal.symbol = false ∧
      Operator.ofSymbol? Comparison.equal.symbol = some (.comparison .equal) := by
    decide +kernel
  have hoperators (operand : Json) :
      readOperators key [(Comparison.equal.symbol, operand)] =
        .ok ([⟨.equal, operand, none⟩], none) := by
    unfold readOperators
    rw [hequal.1, hequal.2]
    rfl
  have hread (operand : Json) :
      readConditions key (.object [(Comparison.equal.symbol, operand)]) =
        .ok [⟨.equal, operand, none⟩] := by
    rw [readConditions, hoperators]
    · rfl
    · simp
  have hsame : readConditions key (explicit value) = readConditions key value := by
    cases value with
    | object operators => rfl
    | _ => exact hread _
  rw [readField, readField, hsame]

theorem readEntry_symbol {op : Connective} {value : Json} {maps : List (Dict String Json)}
    {gs : List Filter} (h : Operands op value maps)
    (hgs : List.Forall₂ (fun entries g => readAt limit (depth + 1) entries = .ok g) maps gs) :
    readEntry limit depth (op.symbol, value) = .ok (.joined op gs) :=
  readEntry_eq_ok_iff.mpr
    (.inl ⟨isConnectiveKey_symbol op, op, maps, gs, named_symbol op, h, hgs, rfl⟩)

/-- A map of one entry is read as that entry. -/
theorem readAt_singleton {e : String × Json} {f : Filter} (hdepth : depth ≤ limit)
    (h : readEntry limit depth e = .ok f) : readAt limit depth [e] = .ok f :=
  readAt_eq_ok_iff.mpr ⟨hdepth, [f], .cons h .nil, rfl⟩

/-- Entries that can be read wherever the limit admits what is behind them are read as
siblings. -/
theorem readAt_ofSiblings {entries : Dict String Json} {fs : List Filter}
    (hwithin : Within limit depth (ofSiblings entries))
    (h : List.Forall₂ (fun e f => ∀ depth, WithinBehind limit depth e →
      readEntry limit depth e = .ok f) entries fs) :
    readAt limit depth (ofSiblings entries) = .ok (ofPlainEntries fs) := by
  obtain ⟨hdepth, hbehind⟩ := within_iff.mp hwithin
  cases h with
  | nil => exact readAt_eq_ok_iff.mpr ⟨hdepth, [], .nil, rfl⟩
  | @cons e f rest fs hf hrest =>
    cases hrest with
    | nil => exact readAt_singleton hdepth (hf depth (hbehind _ List.mem_cons_self))
    | @cons e' f' rest fs hf' hrest =>
      -- here the entries stand in maps of their own, one level deeper
      let entries := e :: e' :: rest
      have hoperands : Operands .and (.array (entries.map fun e => .object [e]))
          (entries.map fun e => [e]) := by
        have hlisted : Operands .and _ _ := .listed (by simp) (entries.map fun e => [e])
        rwa [List.map_map] at hlisted
      have hsingle (e₀ : String × Json) (he₀ : e₀ ∈ entries) : Within limit (depth + 1) [e₀] :=
        hbehind _ List.mem_cons_self _ (behind_symbol hoperands (List.mem_map_of_mem he₀))
      refine readAt_singleton hdepth (readEntry_symbol hoperands ?_)
      rw [List.forall₂_map_left_iff]
      refine forall₂_imp_of_mem (.cons hf (.cons hf' hrest)) fun e₀ he₀ f₀ hread => ?_
      obtain ⟨hdepth', hbehind'⟩ := within_iff.mp (hsingle e₀ he₀)
      exact readAt_singleton hdepth' (hread _ (hbehind' e₀ List.mem_cons_self))

/-- A connective that is not `$nor` stays, and `$nor` becomes the negation of `$or`. -/
theorem withoutNor_of_named {key : String} {op : Connective}
    (h : Operator.Named key (.connective op)) (operand : Json) :
    withoutNor key operand = if op = .nor then
      (Connective.not.symbol, .object [(Connective.or.symbol, operand)]) else (key, operand) := by
  rw [withoutNor, Operator.ofSymbol?_eq_some_iff.mpr h]
  cases op <;> rfl

/-- Whatever a connective is written as, its maps are read the same without `$nor`. -/
theorem readEntry_withoutNor {key : String} {op : Connective} {operand : Json}
    {maps : List (Dict String Json)} {gs : List Filter} (hkey : isConnectiveKey key = true)
    (hop : Operator.Named key (.connective op)) (hvalue : Operands op operand maps)
    (hwithin : WithinBehind limit depth (withoutNor key operand))
    (hgs : ∀ depth, (∀ inner ∈ maps, Within limit depth inner) →
      List.Forall₂ (fun entries g => readAt limit depth entries = .ok g) maps gs) :
    readEntry limit depth (withoutNor key operand) = .ok (joinedPlain op gs) := by
  rw [withoutNor_of_named hop] at hwithin ⊢
  by_cases hnor : op = .nor
  · subst hnor
    rw [if_pos rfl] at hwithin ⊢
    have hany : Operands .or operand maps := by
      cases hvalue with
      | listed hop maps => exact .listed (by simp) maps
    have hnegated := Operands.negated [(Connective.or.symbol, operand)]
    obtain ⟨hdepth, hbehind⟩ :=
      within_iff.mp (hwithin _ (behind_symbol hnegated List.mem_cons_self))
    have hread := readEntry_symbol hany (hgs _ fun inner hinner =>
      hbehind _ List.mem_cons_self inner (behind_symbol hany hinner))
    exact readEntry_symbol hnegated (.cons (readAt_singleton hdepth hread) .nil)
  · rw [if_neg hnor] at hwithin ⊢
    have hread := hgs (depth + 1) fun inner hinner =>
      hwithin inner (.intro hkey hop hvalue hinner)
    rw [joinedPlain_of_ne hnor]
    exact readEntry_eq_ok_iff.mpr (.inl ⟨hkey, op, maps, gs, hop, hvalue, hread, rfl⟩)

/-- The map, once it is written out, is read wherever the limit admits it, and what is read is
the filter made plain. -/
def ReadPlain (limit : Nat) (doc : Dict String Json) : Prop :=
  ∀ depth f, readAt limit depth doc = .ok f → ∀ depth', Within limit depth' (desugar doc) →
    readAt limit depth' (desugar doc) = .ok f.plain

theorem readEntry_desugarEntry {e : String × Json} {f : Filter}
    (h : readEntry limit depth e = .ok f) (ih : ∀ inner, Behind e inner → ReadPlain limit inner)
    {depth' : Nat} (hwithin : WithinBehind limit depth' (desugarEntry e)) :
    readEntry limit depth' (desugarEntry e) = .ok f.plain := by
  obtain ⟨key, value⟩ := e
  obtain ⟨hkey, op, maps, gs, hop, hvalue, hgs, rfl⟩ | ⟨hkey, hfield⟩ :=
    readEntry_eq_ok_iff.mp h
  · have hentry : desugarEntry (key, value) = withoutNor key (desugarOperand value) := if_pos hkey
    rw [hentry] at hwithin ⊢
    rw [plain]
    refine readEntry_withoutNor hkey hop hvalue.desugar hwithin fun depth₁ hinner => ?_
    rw [List.forall_mem_map] at hinner
    have hplain (inner : Dict String Json) (hmem : inner ∈ maps) (g : Filter)
        (hg : readAt limit (depth + 1) inner = .ok g) :
        readAt limit depth₁ (desugar inner) = .ok g.plain :=
      ih inner (.intro hkey hop hvalue hmem) _ g hg depth₁ (hinner inner hmem)
    rw [plainAll_eq_map, List.forall₂_map_left_iff, List.forall₂_map_right_iff]
    exact forall₂_imp_of_mem hgs hplain
  · have hentry : desugarEntry (key, value) = (key, explicit value) :=
      if_neg (Bool.eq_false_iff.mp hkey)
    rw [hentry, readEntry_eq_ok_iff, readField_explicit]
    obtain ⟨hne, conditions, hread, rfl⟩ := readField_eq_ok_iff.mp hfield
    rw [plain]
    exact .inr ⟨hkey, hfield⟩

/-- A document that can be read is read, once it is written out, as the filter made plain. -/
theorem readAt_desugar (doc : Dict String Json) : ReadPlain limit doc := by
  -- the depth is not fixed: what is behind an entry moves down by one or two levels
  induction doc using map_induction with
  | step entries ih =>
    intro depth f h depth' hwithin
    obtain ⟨-, fs, hfs, rfl⟩ := readAt_eq_ok_iff.mp h
    have hentry (e : String × Json) (he : e ∈ entries) (g : Filter)
        (hg : readEntry limit depth e = .ok g) (depth₁ : Nat)
        (hbehind : WithinBehind limit depth₁ (desugarEntry e)) :
        readEntry limit depth₁ (desugarEntry e) = .ok g.plain :=
      readEntry_desugarEntry hg (ih e he) hbehind
    have hplain : List.Forall₂ (fun e g => ∀ depth, WithinBehind limit depth e →
        readEntry limit depth e = .ok g) (entries.map desugarEntry) (fs.map plain) := by
      rw [List.forall₂_map_left_iff, List.forall₂_map_right_iff]
      exact forall₂_imp_of_mem hfs hentry
    rw [desugar_eq] at hwithin ⊢
    rw [readAt_ofSiblings hwithin hplain, plain_ofEntries]

end Filter
end DocFilter
