import ColumnLint.Exclusion
import ColumnLint.Proofs.Text.Glob

/-!
# Patterns without regard to case

Names and patterns are compared in lower case, each lower-cased as a whole.  This should only add
matches to those that there are with regard to case, and for most names it does, but not for all
(`widens_iff`): the form of a capital sigma depends on its neighbours, which a pattern with a
wildcard does not tell, and one capital letter becomes two characters.

A prefix with a star behind it loses a name exactly if it ends in a sigma that is final in the
pattern and is not in the name (`matchesAny_prefix_iff`).  So a pattern for all tables of a schema
may leave tables of that very schema in (`matchesAny_schema_lost`).
-/

namespace ColumnLint

open ColumnLint.Text

variable {name pattern : String}

/-! ### Single names and patterns -/

theorem accepts_eq (h : '[' ∉ pattern.toList) :
    Glob.accepts pattern name = Glob.matchesChars pattern.toList name.toList := by
  rw [Glob.accepts, Glob.parse_eq h]
  rfl

theorem matchesAny_singleton (h : '[' ∉ pattern.toList) :
    matchesAny [name] [pattern] =
      Glob.matchesChars (lowerFrom false pattern.toList) (lowerFrom false name.toList) := by
  have hbracket : IsDelimiter '[' := isDelimiter_of_mem (by decide)
  have hlower : '[' ∉ (lower pattern).toList := by
    rw [lower, String.toList_ofList, hbracket.mem_lowerFrom_iff]
    exact h
  simp only [matchesAny, List.any_cons, List.any_nil, Bool.or_false]
  rw [accepts_eq hlower, lower, String.toList_ofList, lower, String.toList_ofList]

/-- Whether a name keeps its matches without regard to case: it has no capital with a longer form,
and its capital sigmas do not stand behind letters with case. -/
def KeepsMatches (name : String) : Prop :=
  'İ' ∉ name.toList ∧ sigmasLead false name.toList = true

instance : DecidablePred KeepsMatches := fun _ => inferInstanceAs (Decidable (_ ∧ _))

/-- A name is matched without regard to case by each pattern that matches it as it is spelled, iff
it keeps its matches. -/
theorem widens_iff (name : String) :
    (∀ pattern : String, '[' ∉ pattern.toList → Glob.accepts pattern name = true →
      matchesAny [name] [pattern] = true) ↔ KeepsMatches name := by
  constructor
  · intro h
    have hkeeps : ∀ p : List Char, '[' ∉ p → Glob.matchesChars p name.toList = true →
        Glob.matchesChars (lowerFrom false p) (lowerFrom false name.toList) = true := by
      intro p hp hmatches
      have hpattern := h (String.ofList p)
      rw [matchesAny_singleton (by rwa [String.toList_ofList]),
        accepts_eq (by rwa [String.toList_ofList]), String.toList_ofList] at hpattern
      exact hpattern hp hmatches
    have hshort : 'İ' ∉ name.toList := by
      intro hlonger
      obtain ⟨p, hp, hmatches, hlost⟩ := Glob.exists_pattern_of_longer hlonger
      exact hlost (hkeeps p hp hmatches)
    refine ⟨hshort, ?_⟩
    by_contra hsigmas
    obtain ⟨u, v, hsplit, hu⟩ := exists_sigma_of_not_sigmasLead hsigmas
    rw [hsplit] at hkeeps hshort
    obtain ⟨p, hp, hmatches, hlost⟩ := Glob.exists_pattern_of_sigma (v := v)
      (fun hmem => hshort (List.mem_append_left _ hmem)) hu
    exact hlost (hkeeps p hp hmatches)
  · rintro ⟨hshort, hsigmas⟩ pattern hbracket h
    rw [accepts_eq hbracket] at h
    rw [matchesAny_singleton hbracket]
    exact Glob.matches_lowerFrom id hsigmas (.inl hshort) h

/-! ### Prefixes -/

/-- A text without the signs of patterns. -/
def IsLiteral (s : String) : Prop :=
  ∀ c ∈ s.toList, Glob.IsPlain c ∧ c ≠ '['

instance : DecidablePred IsLiteral := fun s =>
  List.decidableBAll (fun c => Glob.IsPlain c ∧ c ≠ '[') s.toList

/-- Whether a first part of a name ends in a sigma that the rest of the name keeps from being
final. -/
def BreaksSigma (start rest : String) : Prop :=
  EndsInSigma false start.toList ∧ startsCased rest.toList = true

/-- A prefix of a name with a star behind it matches the name unless it breaks a sigma. -/
theorem matchesAny_prefix_iff {start : String} (hliteral : IsLiteral start) (rest : String) :
    matchesAny [start ++ rest] [start ++ "*"] = true ↔ ¬ BreaksSigma start rest := by
  have hstar : IsDelimiter '*' := isDelimiter_of_mem (by decide)
  have hpattern : (start ++ "*").toList = start.toList ++ '*' :: [] := String.toList_append
  have hnil : lowerFrom false [] = [] := rfl
  have hbracket : '[' ∉ (start ++ "*").toList := by
    rw [hpattern, List.mem_append, not_or]
    exact ⟨fun hmem => (hliteral _ hmem).2 rfl, by decide⟩
  rw [matchesAny_singleton hbracket, hpattern, String.toList_append, hstar.lowerFrom_append, hnil,
    Glob.matchesChars_prefix (Glob.isPlain_of_mem_lowerFrom fun c hc => (hliteral c hc).1),
    lowerFrom_prefix_iff]
  rfl

/-- Ignoring case adds matches to those that there are with regard to case, as far as it does.  For
a name and a pattern it does if the sigmas of the name lead and no question mark may stand for the
capital with a longer form.  It does so for all patterns of a name iff the name keeps its matches.
A prefix with a star loses its name iff it breaks a sigma, and a pattern for the tables of a schema
covers them unless the schema with its dot does. -/
theorem ignoring_case_widens (name : String) :
    (∀ pattern : String, '[' ∉ pattern.toList → sigmasLead false name.toList = true →
      'İ' ∉ name.toList ∨ '?' ∉ pattern.toList → Glob.accepts pattern name = true →
      matchesAny [name] [pattern] = true) ∧
    ((∀ pattern : String, '[' ∉ pattern.toList → Glob.accepts pattern name = true →
      matchesAny [name] [pattern] = true) ↔ KeepsMatches name) ∧
    (∀ start rest : String, IsLiteral start → name = start ++ rest →
      (matchesAny [name] [start ++ "*"] = true ↔ ¬ BreaksSigma start rest)) ∧
    ∀ (t : Table) (schema rest : String), IsLiteral schema → t.schema ≠ "" →
      t.schema ++ "." ++ t.name = schema ++ "." ++ rest → ¬ BreaksSigma (schema ++ ".") rest →
      (Exclusion.mk [schema ++ ".*"] []).coversTable t = true := by
  refine ⟨?_, widens_iff name, ?_, ?_⟩
  · intro pattern hbracket hsigmas hlonger h
    rw [accepts_eq hbracket] at h
    rw [matchesAny_singleton hbracket]
    exact Glob.matches_lowerFrom id hsigmas hlonger h
  · rintro start rest hliteral rfl
    exact matchesAny_prefix_iff hliteral rest
  · intro t schema rest hliteral hschema hname hsigma
    have hdot : IsLiteral (schema ++ ".") := by
      intro c hc
      rw [String.toList_append, List.mem_append] at hc
      rcases hc with hc | hc
      · exact hliteral c hc
      · rw [List.mem_singleton.mp hc]
        decide
    have hmatch := (matchesAny_prefix_iff hdot rest).mpr hsigma
    have hmem : t.schema ++ "." ++ t.name ∈ qualifiedNames t.name (some t.schema) t.database := by
      simp [qualifiedNames, hschema, Option.filter_some]
    have hpattern : schema ++ "." ++ "*" = schema ++ ".*" := String.append_assoc
    rw [← hname, hpattern] at hmatch
    unfold Exclusion.coversTable
    unfold matchesAny at hmatch ⊢
    rw [List.any_eq_true]
    exact ⟨_, hmem, by simpa using hmatch⟩

/-- A table of a schema. -/
def loggedTable (schema : String) : Table :=
  ⟨some "db", schema, "Τόμος", []⟩

/-- A name with two capital sigmas that lead, and a schema that ends in a small sigma. -/
theorem ignoring_case_widens_sigmas :
    KeepsMatches "Σ_Στίχος" ∧ matchesAny ["Σ_Στίχος"] ["?_Σ*ς"] = true ∧
      matchesAny ["Σ_Στίχος"] ["Σ_*"] = true ∧
      (Exclusion.mk ["Λόγος.*"] []).coversTable (loggedTable "Λόγος") = true := by
  obtain ⟨hpair, hname, hprefix, htable⟩ := ignoring_case_widens "Σ_Στίχος"
  have hkeeps : KeepsMatches "Σ_Στίχος" := by decide +kernel
  refine ⟨hkeeps, ?_, ?_, ?_⟩
  · exact hpair "?_Σ*ς" (by decide) hkeeps.2 (.inl hkeeps.1) (by decide +kernel)
  · exact hname.mpr hkeeps "Σ_*" (by decide) (by decide +kernel)
  · refine htable (loggedTable "Λόγος") "Λόγος" "Τόμος" (by decide) (by decide) rfl ?_
    -- The last sigma of the schema is a small one, and its only capital letter is another.
    rintro ⟨⟨u, v, hsplit, -⟩, -⟩
    have hmem : 'Σ' ∈ ("Λόγος" ++ ".").toList := by
      rw [hsplit]
      exact List.mem_append_right u (List.mem_cons_self ..)
    exact absurd hmem (by decide)

/-- The pattern for the tables of a schema leaves one of them in, although both are spelled
alike. -/
theorem matchesAny_schema_lost :
    Glob.accepts "ΑΣ.*" "ΑΣ.Τ" = true ∧ matchesAny ["ΑΣ.Τ"] ["ΑΣ.*"] = false ∧
      (Exclusion.mk ["ΑΣ.*"] []).coversTable ⟨none, "ΑΣ", "Τ", []⟩ = false := by
  decide +kernel

end ColumnLint
