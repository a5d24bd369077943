import DocFilter.Config.Basic
import DocFilter.Proofs.Runtime.Url

/-!
# Which database a connection URL belongs to

A URL that begins with the scheme of a dialect belongs to that dialect, in whatever case the
scheme is written, as long as the library that reads URLs accepts it.  A text that it does not
accept tells nothing, whatever its scheme is, and the database is then the standard one, as if
there were no URL, with a warning (`DatabaseSettings.resolve_of_scheme`).

So settings with such a URL and no name are never refused, and there are only two answers.
The second one can contradict the scheme: drivers that list their options behind the port write
texts that are no URLs (`DatabaseSettings.exists_contradicted`).
-/

namespace DocFilter

open ConnectionUrl

namespace DatabaseSettings

variable {s : DatabaseSettings} {schemeOf? : String → Option String} {d : Dialect} {url : String}
  {scheme rest : List Char}

/-- A URL that has anything in front of a colon says something. -/
theorem nonBlank_of_dropDriver
    (h : Dialect.dropDriver (Text.trimChars url.toList) = scheme ++ ':' :: rest) :
    nonBlank (some url) = some url := by
  have hsaid : Text.isBlankText url = false := by
    rw [Bool.eq_false_iff]
    intro hblank
    rw [Text.isBlankText, ← Text.trimChars_eq_nil_iff] at hblank
    rw [hblank] at h
    exact List.append_ne_nil_of_right_ne_nil scheme (List.cons_ne_nil ':' rest) h.symm
  rw [nonBlank, Option.filter_some, hsaid]
  rfl

/-- Settings that name no dialect go by their URL. -/
theorem resolve_of_url (hdialect : nonBlank s.dialect = none)
    (hurl : nonBlank s.url = some url) : s.resolve schemeOf? = .ok
      (match Dialect.ofUrl? schemeOf? url with
        | some d => ⟨d, false⟩
        | none => ⟨.standard, true⟩) := by
  unfold resolve
  rw [hdialect, hurl]
  dsimp only
  cases Dialect.ofUrl? schemeOf? url with
  | none => rfl
  | some d => rfl

/-- A URL that begins with a scheme of a dialect, in any letter case, belongs to that dialect if
it is accepted, and otherwise to the standard one, with a warning. -/
theorem resolve_of_scheme (hreads : ReadsSchemes schemeOf?) (hdialect : nonBlank s.dialect = none)
    (hurl : s.url = some url)
    (hscheme : Dialect.dropDriver (Text.trimChars url.toList) = scheme ++ ':' :: rest)
    (hmem : String.ofList (scheme.map Char.toLower) ∈ d.schemes) :
    s.resolve schemeOf? = .ok
      (if (schemeOf? (String.ofList (scheme ++ ':' :: rest))).isSome then ⟨d, false⟩
        else ⟨.standard, true⟩) := by
  have hsaid : nonBlank s.url = some url := by
    rw [hurl]
    exact nonBlank_of_dropDriver hscheme
  rw [resolve_of_url hdialect hsaid, Dialect.ofUrl?_of_scheme hreads hscheme hmem]
  cases (schemeOf? (String.ofList (scheme ++ ':' :: rest))).isSome with
  | true => rfl
  | false => rfl

/-- Credentials and options are no obstacle, but a second host puts more than a number behind
the first colon. -/
theorem resolve_of_scheme_mariadb :
    resolve ⟨some " ", some " MariaDB://u:p@h1:3306/x?a=b;c "⟩ Runtime.Url.scheme? =
        .ok ⟨.mySql, false⟩ ∧
      resolve ⟨none, some "jdbc:MariaDB://u:p@h1:3306,h2:3307/x"⟩ Runtime.Url.scheme? =
        .ok ⟨.standard, true⟩ := by
  refine ⟨?_, ?_⟩
  · have h := @resolve_of_scheme ⟨some " ", some " MariaDB://u:p@h1:3306/x?a=b;c "⟩ _ .mySql _
      "MariaDB".toList "//u:p@h1:3306/x?a=b;c".toList Runtime.Url.readsSchemes (by decide) rfl
      (by decide) (by decide)
    rwa [if_pos (by decide)] at h
  · have h := @resolve_of_scheme ⟨none, some "jdbc:MariaDB://u:p@h1:3306,h2:3307/x"⟩ _ .mySql _
      "MariaDB".toList "//u:p@h1:3306,h2:3307/x".toList Runtime.Url.readsSchemes rfl rfl
      (by decide) (by decide)
    rwa [if_neg (by decide)] at h

/-- Drivers of SQL Server list their options behind the port, which is no number then. -/
theorem exists_contradicted :
    ∃ (s : DatabaseSettings) (url : String) (d : Dialect) (r : Resolution)
      (scheme rest : List Char),
      nonBlank s.dialect = none ∧ s.url = some url ∧
        Dialect.dropDriver (Text.trimChars url.toList) = scheme ++ ':' :: rest ∧
        String.ofList (scheme.map Char.toLower) ∈ d.schemes ∧ r.dialect ≠ d ∧
        (∀ schemeOf?, RefusesPorts schemeOf? → s.resolve schemeOf? = .ok r) ∧
        ∃ schemeOf?, ReadsSchemes schemeOf? ∧ RefusesPorts schemeOf? := by
  refine ⟨⟨none, some "jdbc:sqlserver://h:1433;databaseName=x"⟩, _, .sqlServer,
    ⟨.postgres, true⟩, "sqlserver".toList, "//h:1433;databaseName=x".toList, rfl, rfl,
    by decide, by decide, by decide, fun schemeOf? hrefuses => ?_, Runtime.Url.scheme?,
    Runtime.Url.readsSchemes, Runtime.Url.refusesPorts⟩
  have hnone : schemeOf? "sqlserver://h:1433;databaseName=x" = none :=
    hrefuses "sqlserver".toList ['h'] "1433;databaseName=x".toList
      (Dialect.isWord_of_lower_mem_schemes (d := .sqlServer) (by decide)) (by simp) (by simp)
      (by simp) fun hport => absurd (hport.1 ';' (by decide)) (by decide)
  have hurl : Dialect.ofUrl? schemeOf? "jdbc:sqlserver://h:1433;databaseName=x" = none := by
    have htext : String.ofList (Dialect.dropDriver
        (Text.trimChars "jdbc:sqlserver://h:1433;databaseName=x".toList)) =
        "sqlserver://h:1433;databaseName=x" := by decide
    rw [Dialect.ofUrl?, htext, hnone]
    rfl
  rw [resolve_of_url rfl rfl, hurl]
  rfl

end DatabaseSettings
end DocFilter
