import DocFilter.Proofs.Dialect.Extraction
import DocFilter.Proofs.Document.Notation

/-!
# The paths that a text of SQL names

Which value of a document an expression looks at is said by its string literals.  A literal that
begins with a dollar sign is a path in the standard notation; a literal behind the mark `N` is
the name of one entry, and goes on from the path in front of it.  Every other literal says
nothing about places.  `Dialect.addresses?` reads the paths off a text: the text is taken apart
into tokens under the rules for literals of the dialect, so that quotes and backslashes are
undone once, and what a literal holds is then read as a path.

The builders put plain SQL between their parts.  Plain SQL names nothing, and as long as it does
not end in the mark, what is built names what its parts do (`Fragment.mentions_linked`).
-/

namespace DocFilter

namespace Sql

/-! ## Tokens -/

/-- What a literal says about the place of a value. -/
inductive Mention where
  /-- A path, if the literal can be read as one. -/
  | path (path : Option Path)
  /-- One more step. -/
  | entry (step : Segment)
  deriving DecidableEq, Repr

/-- What a literal with this content mentions, behind the mark `N` or without it. -/
def mentioned (marked : Bool) (content : List Char) : List Mention :=
  if marked then [.entry (Segment.ofChars content)]
  else if content.head? = some '$' then [.path (Notation.read content)]
  else []

/-- The token is the mark of a literal that names an entry. -/
def Token.isMark (t : Token) : Bool := t == .word ['N']

/-- What the literals among the tokens mention, in order; `marked` says whether the mark stands
in front of them. -/
def mentionsFrom (marked : Bool) : List Token → List Mention
  | [] => []
  | .literal content :: rest => mentioned marked content ++ mentionsFrom false rest
  | t :: rest => mentionsFrom t.isMark rest

/-- The paths mentioned; an entry goes on from the path in front of it. -/
def gather : List Mention → List (Option Path)
  | [] => []
  | .path p :: .entry step :: rest => p.map (· ++ [step]) :: gather rest
  | .path p :: rest => p :: gather rest
  | .entry _ :: rest => none :: gather rest

/-- Whether the mark stands behind the tokens. -/
def marksAfter (marked : Bool) (ts : List Token) : Bool :=
  ts.foldl (fun _ t => t.isMark) marked

/-- The token is a string literal. -/
def Token.isLiteral : Token → Bool
  | .literal _ => true
  | _ => false

variable {marked : Bool} {ts us : List Token}

theorem mentionsFrom_append (marked : Bool) (ts us : List Token) :
    mentionsFrom marked (ts ++ us) =
      mentionsFrom marked ts ++ mentionsFrom (marksAfter marked ts) us := by
  induction ts generalizing marked with
  | nil => rfl
  | cons t ts ih =>
    cases t with
    | literal content =>
      rw [List.cons_append, mentionsFrom, ih, mentionsFrom, List.append_assoc]
      rfl
    | word w => exact ih _
    | symbol c => exact ih _
    | identifier name => exact ih _

theorem mentionsFrom_of_no_literal (h : ts.all (!·.isLiteral) = true) (marked : Bool) :
    mentionsFrom marked ts = [] := by
  induction ts generalizing marked with
  | nil => rfl
  | cons t ts ih =>
    obtain ⟨ht, hts⟩ := Bool.and_eq_true_iff.mp h
    cases t with
    | literal content => exact absurd ht Bool.false_ne_true
    | word w => exact ih hts _
    | symbol c => exact ih hts _
    | identifier name => exact ih hts _

/-- Behind some token, what stood in front of it does not matter. -/
theorem marksAfter_of_ne_nil (hne : ts ≠ []) (marked marked' : Bool) :
    marksAfter marked ts = marksAfter marked' ts := by
  cases ts with
  | nil => exact absurd rfl hne
  | cons t ts => rfl

/-! ## Fragments -/

namespace Fragment

open Dialect (bareTokens)

/-- What the literals of a fragment mention. -/
def mentions (f : Fragment) : List Mention := mentionsFrom false f.tokens

/-- The text has tokens, but no literals among them, and the last is the mark or is not. -/
def leaves (marked : Bool) (text : String) : Bool :=
  !(bareTokens text).isEmpty && (bareTokens text).all (!·.isLiteral) &&
    marksAfter false (bareTokens text) == marked

variable {text : String} (f g : Fragment)

/-- Behind plain SQL, a fragment mentions what it does behind the mark or without it. -/
theorem mentions_append_sql (h : leaves marked text = true) :
    (f ++ sql text ++ g).mentions = f.mentions ++ mentionsFrom marked g.tokens := by
  simp only [leaves, Bool.and_eq_true, Bool.not_eq_true', beq_iff_eq] at h
  obtain ⟨⟨hne, hplain⟩, hmarked⟩ := h
  have hafter (before : Bool) : marksAfter before (bareTokens text) = marked := by
    rw [← hmarked]
    exact marksAfter_of_ne_nil (List.isEmpty_eq_false_iff.mp hne) _ _
  have htokens : (sql text).tokens = bareTokens text := Dialect.tokens_singleton _
  rw [mentions, List.append_assoc, tokens_append, tokens_append, htokens, mentionsFrom_append,
    mentionsFrom_append, mentionsFrom_of_no_literal hplain, List.nil_append, hafter, mentions]

/-- Plain SQL between. -/
theorem mentions_linked (h : leaves false text = true) :
    (f ++ sql text ++ g).mentions = f.mentions ++ g.mentions := mentions_append_sql f g h

/-- Plain SQL behind. -/
theorem mentions_closed (h : leaves false text = true) : (f ++ sql text).mentions = f.mentions := by
  have hlinked := mentions_linked f [] h
  have hnil : mentions [] = [] := rfl
  rwa [List.append_nil, hnil, List.append_nil] at hlinked

/-- Plain SQL in front. -/
theorem mentions_opened (h : leaves false text = true) : (sql text ++ g).mentions = g.mentions :=
  mentions_linked [] g h

/-- Arguments mention what each of them does. -/
theorem mentions_join (fs : List Fragment) : (join ", " fs).mentions = fs.flatMap mentions := by
  induction fs with
  | nil => rfl
  | cons f fs ih =>
    cases fs with
    | nil => exact (List.append_nil _).symm
    | cons g fs =>
      rw [List.flatMap_cons, ← ih]
      exact mentions_linked f _ (by decide)

/-- The name of a function says nothing about places. -/
theorem mentions_call (function : String) (arguments : List Fragment)
    (h : leaves false (function ++ "(") = true) :
    (call function arguments).mentions = arguments.flatMap mentions := by
  rw [call, mentions_closed _ (by decide), mentions_opened _ h, mentions_join]

/-- Neither does the name of a type. -/
theorem mentions_castBy (function type : String) (h : leaves false (function ++ "(") = true)
    (htype : leaves false (" AS " ++ type ++ ")") = true) :
    (castBy function f type).mentions = f.mentions := by
  rw [castBy, mentions_closed _ htype, mentions_opened _ h]

theorem mentions_number (n : Nat) : (number n).mentions = [] := by
  rw [mentions, Dialect.tokens_number]
  rfl

theorem mentions_column (name : String) : (Sql.column name).mentions = [] := by
  rw [mentions, Dialect.tokens_column]
  cases needsQuoting name with
  | true => rfl
  | false => rfl

end Fragment
end Sql

namespace Dialect

open Sql Sql.Fragment

variable (d : Dialect) (f : Fragment)

theorem mentions_placeholder (name : String) : (d.placeholder name).mentions = [] := rfl

/-- A literal that is neither a path nor the name of an entry. -/
theorem mentions_literal {content : String} (h : content.toList.head? ≠ some '$') :
    (d.literal content).mentions = [] := by
  have hcontent : mentioned false content.toList = [] := if_neg h
  rw [mentions, literal, tokens_singleton, Piece.tokens, mentionsFrom, hcontent]
  rfl

/-- The literal of a path is read as that path, whatever its keys are. -/
theorem mentions_pathLiteral (path : Path) :
    (d.pathLiteral path).mentions = [.path (some path)] := by
  have hcontent : mentioned false path.text.toList = [.path (some path)] := by
    rw [Path.text, String.toList_ofList, ← Notation.read_chars path]
    rfl
  rw [mentions, pathLiteral, literal, tokens_singleton, Piece.tokens, mentionsFrom, hcontent]
  rfl

/-- A literal behind the mark is the name of an entry. -/
theorem mentions_marked {text : String} (h : leaves true text = true) (content : String) :
    (f ++ sql text ++ d.literal content).mentions =
      f.mentions ++ [.entry (Segment.ofChars content.toList)] := mentions_append_sql f _ h

/-! ## Texts -/

/-- The paths that a text names, where it is a text of the dialect. -/
def addresses? (text : String) : Option (List (Option Path)) :=
  (lex d.literalStyle text.toList).map fun ts => gather (mentionsFrom false ts)

-- a backslash in a key is doubled in the path, and once more in the literal
example : mySql.addresses? "JSON_EXTRACT(N, '$.a.\"b\\\\\\\\c\"[0]')" =
    some [some [.key "a", .key "b\\c", .index 0]] := by decide

/-- The paths a laid fragment names are read from its text. -/
theorem Laid.addresses?_text {d : Dialect} {f : Fragment} (h : d.Laid f) :
    d.addresses? f.text = some (gather f.mentions) := by
  rw [addresses?, Fragment.text, String.toList_ofList, h.lex]
  rfl

/-- The text names a path, and no other. -/
def Names (text : String) (path : Path) : Prop :=
  ∃ found, d.addresses? text = some found ∧ found ≠ [] ∧ ∀ a ∈ found, a = some path

end Dialect
end DocFilter
