import DocFilter.Dialect.Page
import DocFilter.Proofs.Dialect.Mention
import DocFilter.Proofs.Document.Path
import DocFilter.Proofs.Filter.Compile
import DocFilter.Proofs.Query.Outline

/-!
# Every expression looks at the place it is for

In MySQL, SQLite and SQL Server a value of a document is taken out by its path.  Whatever is
written for a field, be it the value as text, as a number or as JSON, a condition on it or an
item of an order, the text names the path of the field and no other (`Target.addressed`).  SQL
Server asks for the presence and the type of a value among the entries under the parent of the
path; there the parent and the entry together are the path.

The texts are read as `Dialect.addresses?` reads them, so quotes, backslashes, brackets and
digits in a field are covered by what reading gives back.
-/

namespace DocFilter

/-! ## Entries -/

namespace Segment

/-- The step a part of a name stands for is read off its text again. -/
theorem ofChars_label_ofChars (cs : List Char) :
    ofChars (ofChars cs).label.toList = ofChars cs := by
  rw [toList_label_ofChars, ofChars_canonicalPart]

end Segment

namespace Path

theorem ofField_ne_nil (field : String) : ofField field ≠ [] :=
  mt List.map_eq_nil_iff.mp (Text.splitAt_ne_nil '.' field.toList)

/-- The path of a field is its parent with the last step behind it, and that step is read off
its text. -/
theorem exists_last_ofField (field : String) :
    ∃ step, (ofField field).getLast? = some step ∧
      (ofField field).parent ++ [step] = ofField field ∧
      Segment.ofChars step.label.toList = step := by
  have hne := ofField_ne_nil field
  refine ⟨(ofField field).getLast hne, List.getLast?_eq_getLast_of_ne_nil hne,
    List.dropLast_concat_getLast hne, ?_⟩
  obtain ⟨cs, -, hcs⟩ := List.mem_map.mp (List.getLast_mem hne)
  rw [← hcs, Segment.ofChars_label_ofChars]

end Path

open Sql Sql.Fragment

/-! ## Mentions of one path -/

namespace Sql

/-- There are mentions, and each is the path. -/
def Tells (path : Path) (ms : List Mention) : Prop := ms ≠ [] ∧ ∀ m ∈ ms, m = .path (some path)

/-- The mentions make paths, and each is the path. -/
def Leads (path : Path) (ms : List Mention) : Prop :=
  gather ms ≠ [] ∧ ∀ a ∈ gather ms, a = some path

variable {path : Path} {ms ms' : List Mention}

theorem tells_singleton (path : Path) : Tells path [.path (some path)] :=
  ⟨List.cons_ne_nil _ _, by simp⟩

theorem Tells.append (h : Tells path ms) (h' : Tells path ms') : Tells path (ms ++ ms') :=
  ⟨List.append_ne_nil_of_left_ne_nil h.1 _, fun m hm =>
    (List.mem_append.mp hm).elim (h.2 m) (h'.2 m)⟩

theorem Tells.append_nil (h : Tells path ms) (h' : ms' = []) : Tells path (ms ++ ms') := by
  rwa [h', List.append_nil]

theorem Tells.leads (h : Tells path ms) : Leads path ms := by
  have hgather : ∀ {ms : List Mention}, (∀ m ∈ ms, m = .path (some path)) →
      gather ms = ms.map fun _ => some path := by
    intro ms hms
    induction ms with
    | nil => rfl
    | cons m ms ih =>
      obtain ⟨rfl, hrest⟩ := List.forall_mem_cons.mp hms
      cases ms with
      | nil => rfl
      | cons m' ms =>
        obtain rfl : m' = .path (some path) := hrest m' List.mem_cons_self
        rw [gather, ih hrest]
        · rfl
        · simp
  rw [Leads, hgather h.2]
  refine ⟨mt List.map_eq_nil_iff.mp h.1, fun a ha => ?_⟩
  obtain ⟨m, -, rfl⟩ := List.mem_map.mp ha
  rfl

end Sql

namespace Dialect

variable {d : Dialect} {path : Path} {f g subject column parameter : Fragment}

/-! ## Taking a value out of a document -/

/-- A function of a document and a path. -/
theorem mentions_pathCall (d : Dialect) (function : String) (hc : column.mentions = [])
    (path : Path) (h : leaves false (function ++ "(") = true) :
    (call function [column, d.pathLiteral path]).mentions = [.path (some path)] := by
  rw [mentions_call _ _ h, List.flatMap_cons, hc, List.flatMap_singleton, mentions_pathLiteral,
    List.nil_append]

theorem mentions_jsonAt (hd : d ≠ .postgres) (hc : column.mentions = []) (path : Path) :
    (d.jsonAt column path).mentions = [.path (some path)] := by
  cases d with
  | postgres => exact absurd rfl hd
  | mySql => exact mentions_pathCall .mySql "JSON_EXTRACT" hc path (by decide)
  | sqlite => exact mentions_pathCall .sqlite "json_extract" hc path (by decide)
  | sqlServer => exact mentions_pathCall .sqlServer "JSON_QUERY" hc path (by decide)

theorem tells_textAt (hd : d ≠ .postgres) (hc : column.mentions = []) (path : Path) :
    Tells path (d.textAt column path).mentions := by
  cases d with
  | postgres => exact absurd rfl hd
  | mySql =>
    have hjson := mentions_jsonAt hd hc path
    rw [textAt, mentions_call _ _ (by decide), List.flatMap_singleton, hjson]
    exact tells_singleton path
  | sqlite =>
    have hjson := mentions_jsonAt hd hc path
    have htype := mentions_pathCall .sqlite "json_type" hc path (by decide)
    have hcast : (cast (sqlite.jsonAt column path) "TEXT").mentions = [.path (some path)] :=
      (mentions_castBy _ _ _ (by decide) (by decide)).trans hjson
    have htrue : (sqlite.literal "true").mentions = [] := mentions_literal _ (by decide)
    have hfalse : (sqlite.literal "false").mentions = [] := mentions_literal _ (by decide)
    rw [textAt, mentions_closed _ (by decide), mentions_linked _ _ (by decide),
      mentions_linked _ _ (by decide), mentions_linked _ _ (by decide),
      mentions_linked _ _ (by decide), mentions_linked _ _ (by decide),
      mentions_opened _ (by decide), htype, htrue, hfalse, hcast]
    exact (tells_singleton path).append (tells_singleton path)
  | sqlServer =>
    rw [textAt, mentions_pathCall _ _ hc _ (by decide)]
    exact tells_singleton path

theorem tells_numberAt (hd : d ≠ .postgres) (hc : column.mentions = []) (path : Path) :
    Tells path (d.numberAt column path).mentions := by
  have htext := tells_textAt hd hc path
  have hjson := mentions_jsonAt hd hc path
  cases d with
  | postgres => exact absurd rfl hd
  | mySql =>
    rw [numberAt, Fragment.cast, mentions_castBy _ _ _ (by decide) (by decide)]
    exact htext
  | sqlite =>
    rw [numberAt, Fragment.cast, mentions_castBy _ _ _ (by decide) (by decide), hjson]
    exact tells_singleton path
  | sqlServer =>
    rw [numberAt, mentions_castBy _ _ _ (by decide) (by decide)]
    exact htext

theorem mentions_jsonParameter (hp : parameter.mentions = []) :
    (d.jsonParameter parameter).mentions = [] := by
  cases d with
  | postgres => exact (mentions_castBy _ _ _ (by decide) (by decide)).trans hp
  | mySql => exact (mentions_castBy _ _ _ (by decide) (by decide)).trans hp
  | sqlite =>
    rw [jsonParameter, mentions_call _ _ (by decide), List.flatMap_singleton, hp]
  | sqlServer => exact hp

/-! ## Atoms -/

theorem mentions_compare (f : Fragment) (relation : Relation) (g : Fragment) :
    (Atom.compare f relation g).fragment.mentions = f.mentions ++ g.mentions :=
  mentions_linked f g (by cases relation <;> decide)

theorem mentions_among (f : Fragment) (choices : List Fragment) :
    (Atom.among f choices).fragment.mentions = f.mentions ++ choices.flatMap mentions := by
  rw [Atom.fragment, mentions_closed _ (by decide), mentions_linked _ _ (by decide), mentions_join]

theorem mentions_notAmong (f : Fragment) (choices : List Fragment) :
    (Atom.notAmong f choices).fragment.mentions = f.mentions ++ choices.flatMap mentions := by
  rw [Atom.fragment, mentions_closed _ (by decide), mentions_linked _ _ (by decide), mentions_join]

theorem mentions_like (f g escape : Fragment) :
    (Atom.like f g escape).fragment.mentions = f.mentions ++ g.mentions ++ escape.mentions := by
  rw [Atom.fragment, mentions_linked _ _ (by decide), mentions_linked _ _ (by decide)]

theorem mentions_nonNullIf (wanted : Bool) (f : Fragment) :
    (nonNullIf wanted f).fragment.mentions = f.mentions := by
  cases wanted with
  | true => exact mentions_closed f (by decide)
  | false => exact mentions_closed f (by decide)

theorem mentions_holdsIf (wanted : Bool) (f : Fragment) :
    (holdsIf wanted f).fragment.mentions = f.mentions := by
  cases wanted with
  | true => rfl
  | false => exact mentions_opened f (by decide)

theorem mentions_orAbsent (f : Fragment) (a : Atom) :
    (orAbsent f a).fragment.mentions = f.mentions ++ a.fragment.mentions := by
  have hfragment : (orAbsent f a).fragment =
      sql "(" ++ (f ++ sql " IS NULL" ++ (sql " OR " ++ a.fragment ++ [])) ++ sql ")" := rfl
  rw [hfragment, mentions_closed _ (by decide), mentions_opened _ (by decide), List.append_nil,
    ← List.append_assoc (f ++ sql " IS NULL"), mentions_linked _ _ (by decide),
    mentions_closed _ (by decide)]

/-- Names of types say nothing about places. -/
theorem mentions_named (f : Fragment) {words : List String}
    (h : ∀ w ∈ words, w.toList.head? ≠ some '$') :
    (d.named f words).fragment.mentions = f.mentions := by
  have hwords : (words.map d.literal).flatMap mentions = [] := by
    rw [List.flatMap_map]
    exact List.flatMap_eq_nil_iff.mpr fun w hw => mentions_literal d (h w hw)
  unfold named
  split
  · next word =>
    rw [relate, Formula.fragment, mentions_compare,
      mentions_literal d (h word List.mem_cons_self), List.append_nil]
  · rw [Formula.fragment, mentions_among, hwords, List.append_nil]

/-! ## Entries under the parent -/

/-- What is asked of the entries under the parent of a path mentions the parent and the
entry. -/
theorem mentions_entryExists (hc : column.mentions = []) {step : Segment}
    (hlast : path.getLast? = some step) (hstep : Segment.ofChars step.label.toList = step)
    (type : Option Nat) :
    (entryExists column path type).mentions = [.path (some path.parent), .entry step] := by
  have hcall : (sql "EXISTS (SELECT 1 FROM " ++
      call "OPENJSON" [column, sqlServer.pathLiteral path.parent]).mentions =
        [.path (some path.parent)] := by
    rw [mentions_opened _ (by decide), mentions_pathCall _ _ hc _ (by decide)]
  have hmark : leaves true " WHERE [key] = N" = true := by decide
  have hentry := mentions_marked sqlServer (sql "EXISTS (SELECT 1 FROM " ++
    call "OPENJSON" [column, sqlServer.pathLiteral path.parent]) hmark step.label
  rw [hcall, hstep] at hentry
  unfold entryExists
  rw [hlast, mentions_closed _ (by decide)]
  cases type with
  | none => rwa [List.append_nil]
  | some n =>
    dsimp only
    rw [← List.append_assoc _ (sql " AND [type] = "), mentions_linked _ _ (by decide),
      mentions_number, List.append_nil]
    exact hentry

/-! ## Conditions on a place -/

/-- An expression that tells the path, compared with something that mentions nothing. -/
theorem tells_compare (hf : Tells path f.mentions) (relation : Relation)
    (hg : g.mentions = []) : Tells path (Atom.compare f relation g).fragment.mentions := by
  rw [mentions_compare]
  exact hf.append_nil hg

theorem tells_orAbsent (hf : Tells path f.mentions) {a : Atom}
    (ha : Tells path a.fragment.mentions) : Tells path (orAbsent f a).fragment.mentions := by
  rw [mentions_orAbsent]
  exact hf.append ha

theorem tells_equality (hd : d ≠ .postgres) (hc : column.mentions = []) (path : Path)
    (negated structured : Bool) (hp : parameter.mentions = []) :
    Tells path
      (d.equality (.document column path) negated structured parameter).fragment.mentions := by
  have htext := tells_textAt hd hc path
  have hjson : Tells path (d.jsonAt column path).mentions := by
    rw [mentions_jsonAt hd hc]
    exact tells_singleton path
  cases structured with
  | true =>
    cases negated with
    | true => exact tells_orAbsent hjson (tells_compare hjson _ (mentions_jsonParameter hp))
    | false => exact tells_compare hjson _ (mentions_jsonParameter hp)
  | false =>
    cases negated with
    | true => exact tells_orAbsent htext (tells_compare htext _ hp)
    | false => exact tells_compare htext _ hp

theorem tells_membership (hd : d ≠ .postgres) (hc : column.mentions = []) (path : Path)
    (negated : Bool) {parameters : List Fragment} (hne : parameters ≠ [])
    (hp : ∀ p ∈ parameters, p.mentions = []) :
    Tells path (d.membership (.document column path) negated parameters).fragment.mentions := by
  have htext := tells_textAt hd hc path
  have hnone : parameters.flatMap mentions = [] := List.flatMap_eq_nil_iff.mpr hp
  cases parameters with
  | nil => exact absurd rfl hne
  | cons p ps =>
    cases negated with
    | true =>
      refine tells_orAbsent htext ?_
      rw [mentions_notAmong]
      exact htext.append_nil hnone
    | false =>
      have hamong := mentions_among (d.textAt column path) (p :: ps)
      exact hamong ▸ htext.append_nil hnone

theorem tells_likes {escape : Fragment} (hf : Tells path subject.mentions)
    (hp : parameter.mentions = []) (he : escape.mentions = []) (ignoreCase : Bool) :
    Tells path (likes subject parameter escape ignoreCase).fragment.mentions := by
  cases ignoreCase with
  | true =>
    have hlower (f : Fragment) : (call "LOWER" [f]).mentions = f.mentions := by
      rw [mentions_call _ _ (by decide), List.flatMap_singleton]
    have hlike := mentions_like (call "LOWER" [subject]) (call "LOWER" [parameter]) escape
    rw [hlower, hlower] at hlike
    exact hlike ▸ (hf.append_nil hp).append_nil he
  | false => exact mentions_like subject parameter escape ▸ (hf.append_nil hp).append_nil he

theorem tells_matching (hd : d ≠ .postgres) (hc : column.mentions = []) (path : Path)
    (ignoreCase : Bool) (hp : parameter.mentions = []) :
    Tells path (d.matching (.document column path) ignoreCase parameter).fragment.mentions := by
  have htext := tells_textAt hd hc path
  have hescape : d.escapeLiteral.mentions = [] := mentions_literal d (by decide)
  cases d with
  | postgres => exact absurd rfl hd
  | mySql =>
    have hflag : (mySql.literal (if ignoreCase then "i" else "c")).mentions = [] :=
      mentions_literal _ (by cases ignoreCase <;> decide)
    have hcall := mentions_call "REGEXP_LIKE" [mySql.textAt column path, parameter,
      mySql.literal (if ignoreCase then "i" else "c")] (by decide)
    rw [List.flatMap_cons, List.flatMap_cons, List.flatMap_singleton, hp, hflag] at hcall
    exact hcall ▸ htext.append_nil rfl
  | sqlite =>
    cases ignoreCase with
    | true => exact tells_likes htext hp hescape true
    | false => exact tells_compare htext _ hp
  | sqlServer =>
    cases ignoreCase with
    | true => exact tells_likes htext hp hescape true
    | false =>
      have hcollation : leaves false (" COLLATE " ++ caseSensitiveCollation) = true := by decide
      refine tells_likes ?_ hp hescape false
      rwa [← mentions_closed _ hcollation] at htext

/-! ## Presence and type -/

theorem leads_entryExists (hc : column.mentions = []) (field : String) (type : Option Nat) :
    Leads (Path.ofField field) (entryExists column (Path.ofField field) type).mentions := by
  obtain ⟨step, hlast, hparent, hstep⟩ := Path.exists_last_ofField field
  rw [mentions_entryExists hc hlast hstep]
  have hgather : gather [.path (some (Path.ofField field).parent), .entry step] =
      [some (Path.ofField field)] := by
    rw [gather, Option.map_some, hparent]
    rfl
  rw [Leads, hgather]
  exact ⟨List.cons_ne_nil _ _, by simp⟩

theorem leads_isPresent (hd : d ≠ .postgres) (hc : column.mentions = []) (field : String)
    (wanted : Bool) :
    Leads (Path.ofField field)
      (d.isPresent (.document column (Path.ofField field)) wanted).fragment.mentions := by
  cases d with
  | postgres => exact absurd rfl hd
  | mySql =>
    have hone : (mySql.literal "one").mentions = [] := mentions_literal _ (by decide)
    rw [isPresent, pathExists, mentions_holdsIf, mentions_call _ _ (by decide), List.flatMap_cons,
      List.flatMap_cons, List.flatMap_singleton, hc, hone, mentions_pathLiteral]
    exact (tells_singleton _).leads
  | sqlite =>
    rw [isPresent, pathExists, mentions_nonNullIf, mentions_pathCall _ _ hc _ (by decide)]
    exact (tells_singleton _).leads
  | sqlServer =>
    rw [isPresent, pathExists, mentions_holdsIf]
    exact leads_entryExists hc field none

theorem leads_hasType (hd : d ≠ .postgres) (hc : column.mentions = []) (field : String)
    (type : JsonType) :
    Leads (Path.ofField field)
      (d.hasType (.document column (Path.ofField field)) type).fragment.mentions := by
  cases d with
  | postgres => exact absurd rfl hd
  | mySql =>
    have hwords : ∀ w ∈ mySqlTypeNames type, w.toList.head? ≠ some '$' := by
      cases type <;> decide
    rw [hasType, pathHasType, mentions_named _ hwords, mentions_call _ _ (by decide),
      List.flatMap_singleton, mentions_jsonAt hd hc]
    exact (tells_singleton _).leads
  | sqlite =>
    have hwords : ∀ w ∈ sqliteTypeNames type, w.toList.head? ≠ some '$' := by
      cases type <;> decide
    rw [hasType, pathHasType, mentions_named _ hwords, mentions_pathCall _ _ hc _ (by decide)]
    exact (tells_singleton _).leads
  | sqlServer =>
    rw [hasType, pathHasType, mentions_holdsIf]
    exact leads_entryExists hc field _

end Dialect

/-! ## Conditions -/

namespace Condition

/-- The document is not looked at: a list without elements, or a type that is no type. -/
def isDecided (c : Condition) : Bool :=
  match c.operator, c.operand with
  | .among, .array elements | .notAmong, .array elements => elements.isEmpty
  | .ofType, .string name => (JsonType.ofName? name).isNone
  | _, _ => false

variable {d : Dialect} {column : Fragment} {c : Condition}

/-- A condition leads to the field it is on, unless it does not look at the document. -/
theorem leads_formula (hd : d ≠ .postgres) (hc : column.mentions = []) (field : String)
    (haccepts : c.operator.accepts c.operand = true) (hdecided : c.isDecided = false)
    {ps : List Fragment} (hlength : ps.length = c.arity) (hps : ∀ p ∈ ps, p.mentions = []) :
    Leads (Path.ofField field)
      (c.formula d (.document column (Path.ofField field)) ps).fragment.mentions := by
  obtain ⟨operator, operand, options⟩ := c
  have hp : (ps.headD []).mentions = [] := by
    cases ps with
    | nil => rfl
    | cons p ps => exact hps p List.mem_cons_self
  have hne {elements : List Json} (hl : ps.length = elements.length)
      (hsome : elements.isEmpty = false) : ps ≠ [] := by
    rintro rfl
    rw [List.eq_nil_of_length_eq_zero hl.symm] at hsome
    exact absurd hsome (by simp)
  have hnumber := Dialect.tells_numberAt hd hc (Path.ofField field)
  cases operator with
  | equal => exact (Dialect.tells_equality hd hc _ false _ hp).leads
  | notEqual => exact (Dialect.tells_equality hd hc _ true _ hp).leads
  | greater => exact (Dialect.tells_compare hnumber .greater hp).leads
  | greaterEqual => exact (Dialect.tells_compare hnumber .greaterEqual hp).leads
  | less => exact (Dialect.tells_compare hnumber .less hp).leads
  | lessEqual => exact (Dialect.tells_compare hnumber .lessEqual hp).leads
  | among =>
    cases operand with
    | array elements =>
      exact (Dialect.tells_membership hd hc _ false (hne hlength hdecided) hps).leads
    | _ => exact absurd haccepts Bool.false_ne_true
  | notAmong =>
    cases operand with
    | array elements =>
      exact (Dialect.tells_membership hd hc _ true (hne hlength hdecided) hps).leads
    | _ => exact absurd haccepts Bool.false_ne_true
  | matching => exact (Dialect.tells_matching hd hc _ _ hp).leads
  | present =>
    cases operand with
    | bool wanted => exact Dialect.leads_isPresent hd hc field wanted
    | _ => exact absurd haccepts Bool.false_ne_true
  | ofType =>
    cases operand with
    | string name =>
      unfold formula Dialect.typed
      unfold isDecided at hdecided
      dsimp only at hdecided ⊢
      cases htype : JsonType.ofName? name with
      | some type => exact Dialect.leads_hasType hd hc field type
      | none =>
        rw [htype] at hdecided
        exact absurd hdecided (by simp)
    | _ => exact absurd haccepts Bool.false_ne_true

/-- A condition that does not look at the document is written as one of the constants. -/
theorem formula_of_isDecided (place : Location) (hdecided : c.isDecided = true)
    {ps : List Fragment} (hlength : ps.length = c.arity) :
    c.formula d place ps = .always ∨ c.formula d place ps = .never := by
  obtain ⟨operator, operand, options⟩ := c
  unfold isDecided at hdecided
  split at hdecided
  · next elements hoperator hoperand =>
    dsimp only at hoperator hoperand
    subst hoperator hoperand
    obtain rfl : elements = [] := List.isEmpty_iff.mp hdecided
    rw [List.eq_nil_of_length_eq_zero hlength]
    exact .inr rfl
  · next elements hoperator hoperand =>
    dsimp only at hoperator hoperand
    subst hoperator hoperand
    obtain rfl : elements = [] := List.isEmpty_iff.mp hdecided
    rw [List.eq_nil_of_length_eq_zero hlength]
    exact .inl rfl
  · next name hoperator hoperand =>
    dsimp only at hoperator hoperand
    subst hoperator hoperand
    left
    unfold formula Dialect.typed
    simp only [Option.isNone_iff_eq_none.mp hdecided]
  · exact absurd hdecided Bool.false_ne_true

end Condition

/-! ## Whatever is written for a field -/

namespace Target

/-- What is written for a field of the documents names its path and no other. -/
structure Addressed (t : Target) (field : String) : Prop where
  /-- The expressions that take the value out, as JSON, as text and as a number. -/
  json : t.dialect.Names (t.dialect.jsonAt (Sql.column t.layout.documentColumn)
    (Path.ofField field)).text (Path.ofField field)
  text : t.dialect.Names (t.dialect.textAt (Sql.column t.layout.documentColumn)
    (Path.ofField field)).text (Path.ofField field)
  number : t.dialect.Names (t.dialect.numberAt (Sql.column t.layout.documentColumn)
    (Path.ofField field)).text (Path.ofField field)
  /-- A condition that compiles, of whatever operator, unless it does not look at the document;
  then it is a constant. -/
  condition : ∀ {c : Condition} {n n' : Nat} {p : Predicate},
    (c.compile t field).run n = (.ok p, n') →
      if c.isDecided then p.condition = .always ∨ p.condition = .never
      else t.dialect.Names p.text (Path.ofField field)
  /-- An item of an order. -/
  order : ∀ direction, t.dialect.Names
    (t.dialect.orderItem (t.layout.locate field) direction).text (Path.ofField field)
  /-- Among the entries that SQL Server looks through, the literals are the parent of the path
  and its last step. -/
  entry : t.dialect = .sqlServer → ∀ type, ∃ step,
    (lex t.dialect.literalStyle (Dialect.entryExists (Sql.column t.layout.documentColumn)
        (Path.ofField field) type).text.toList).map (mentionsFrom false) =
      some [.path (some (Path.ofField field).parent), .entry step] ∧
    (Path.ofField field).parent ++ [step] = Path.ofField field

theorem names_of_leads {d : Dialect} {f : Fragment} {path : Path} (hf : d.Laid f)
    (h : Leads path f.mentions) : d.Names f.text path := ⟨_, hf.addresses?_text, h.1, h.2⟩

/-- Outside of PostgreSQL, whatever is written for a field other than the identity names the
path of the field and no other. -/
theorem addressed {t : Target} {field : String} (hd : t.dialect ≠ .postgres)
    (hfield : field ≠ t.layout.identityField) : t.Addressed field := by
  have hcolumn : t.dialect.Operand [] (Sql.column t.layout.documentColumn) :=
    Dialect.column_operand _
  have hc := mentions_column t.layout.documentColumn
  have hplace := Layout.locate_of_ne hfield
  have htext := Dialect.tells_textAt hd hc (Path.ofField field)
  refine ⟨?_, ?_, ?_, ?_, ?_, ?_⟩
  · refine names_of_leads (Dialect.jsonAt_operand hcolumn _).laid (Tells.leads ?_)
    rw [Dialect.mentions_jsonAt hd hc]
    exact tells_singleton _
  · exact names_of_leads (Dialect.textAt_operand hcolumn _).laid htext.leads
  · exact names_of_leads (Dialect.numberAt_operand hcolumn _).laid
      (Dialect.tells_numberAt hd hc _).leads
  · intro c n n' p hcompile
    obtain ⟨hmade, -⟩ := Condition.made_of_compile hcompile
    have hlength : ((c.parameters field n).map t.dialect.placeholder).length = c.arity := by
      rw [List.length_map, Condition.parameters, length_parameterNames, List.length_replicate]
    have hnone : ∀ q ∈ (c.parameters field n).map t.dialect.placeholder, q.mentions = [] := by
      intro q hq
      obtain ⟨name, -, rfl⟩ := List.mem_map.mp hq
      exact Dialect.mentions_placeholder _ name
    have hcondition := hmade.condition_eq
    rw [hplace] at hcondition
    split
    · next hdecided =>
      rw [hcondition]
      exact Condition.formula_of_isDecided _ hdecided hlength
    · next hdecided =>
      have hclause := Condition.formula_clause (Condition.locate_operand t.layout field t.dialect)
        hmade.accepted field n
      rw [hplace] at hclause
      rw [Predicate.text, hcondition]
      exact names_of_leads hclause.operand.laid (Condition.leads_formula hd hc field
        hmade.accepted (Bool.not_eq_true _ ▸ hdecided) hlength hnone)
  · intro direction
    have hclosed : (t.dialect.orderItem (t.layout.locate field) direction).mentions =
        (t.dialect.textAt (Sql.column t.layout.documentColumn) (Path.ofField field)).mentions := by
      rw [Dialect.orderItem, hplace]
      exact mentions_closed _ (by cases direction <;> decide)
    refine names_of_leads
      (Dialect.orderItem_operand (Condition.locate_operand t.layout field _) direction).laid ?_
    rw [hclosed]
    exact htext.leads
  · intro hserver type
    obtain ⟨step, hlast, hparent, hstep⟩ := Path.exists_last_ofField field
    refine ⟨step, ?_, hparent⟩
    rw [hserver] at hcolumn ⊢
    rw [Fragment.text, String.toList_ofList, (Dialect.entryExists_operand hcolumn _ type).laid.lex,
      ← Dialect.mentions_entryExists hc hlast hstep type]
    rfl

/-- A key with quotes of both kinds and a backslash, one in brackets, one that begins like a path,
and an index that is looked for among the entries of the rest. -/
theorem addressed_quoted :
    let t : Target := ⟨.sqlServer, .standard, fun _ => true⟩
    let field := "it's \"a\\b\".[0].$k.7"
    t.dialect ≠ .postgres ∧ field ≠ t.layout.identityField ∧ t.Addressed field ∧
      Path.ofField field = [.key "it's \"a\\b\"", .key "[0]", .key "$k", .index 7] ∧
      (t.dialect.isPresent (t.layout.locate field) true).text =
        "EXISTS (SELECT 1 FROM OPENJSON(data, " ++
          "'$.\"it''s \\\"a\\\\b\\\"\".\"[0]\".\"$k\"') WHERE [key] = N'7')" := by
  intro t field
  have hd : t.dialect ≠ .postgres := by decide
  have hfield : field ≠ t.layout.identityField := by decide
  exact ⟨hd, hfield, addressed hd hfield, by decide, by decide⟩

end Target
end DocFilter
