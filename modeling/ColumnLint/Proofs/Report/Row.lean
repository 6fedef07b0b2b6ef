import ColumnLint.Proofs.Decision
import ColumnLint.Proofs.Report.Section
import ColumnLint.Proofs.Text.Decimal

/-!
# The rows of a Markdown report

The row of a finding is meant to have four cells: five bars, and no line end.  Names and signatures
are put into it as they are, so it has the bars and the line ends that these bring along
(`toMarkdown_rows`), and it is a row of four cells iff they bring none.  A type that holds a bar, as
an enumeration may, makes a row of five (`row_barredTables`).

A bar behind a backslash is no bar of the table.  What a name ends in does not matter, as a blank, a
point or a backtick stands behind it, so the bars of a row are those of its pieces together
(`openBars_append`, `openBars_append_fixed`).
-/

namespace ColumnLint

open ColumnLint.Text

namespace Markdown

variable {a b : List Char}

/-! ### Bars and line ends -/

/-- How many bars of a text are not escaped.  A backslash escapes the character behind it. -/
def openBars : List Char → Nat
  | '\\' :: _ :: r => openBars r
  | c :: r => (if c = '|' then 1 else 0) + openBars r
  | [] => 0

/-- Whether the character ends a line of Markdown. -/
def isLineEnd (c : Char) : Bool :=
  c = '\n' || c = '\r'

/-- Whether the text is a row of four cells: a line with five bars. -/
structure IsTableRow (row : String) : Prop where
  bars : openBars row.toList = 5
  line : row.toList.countP isLineEnd = 0

/-- Whether the text stays in the cell that it is put into. -/
structure FitsCell (part : String) : Prop where
  bars : openBars part.toList = 0
  line : part.toList.countP isLineEnd = 0

theorem openBars_cons {c : Char} (hc : c ≠ '\\') (r : List Char) :
    openBars (c :: r) = (if c = '|' then 1 else 0) + openBars r := by
  cases r with
  | nil => rw [openBars.eq_def]; split <;> simp_all
  | cons d r => rw [openBars]; simpa using hc

/-- A text without a backslash escapes nothing behind it. -/
theorem openBars_append (h : '\\' ∉ a) : openBars (a ++ b) = openBars a + openBars b := by
  induction a with
  | nil => simp [openBars]
  | cons c a ih =>
    rw [List.mem_cons, not_or] at h
    rw [List.cons_append, openBars_cons (Ne.symm h.1), openBars_cons (Ne.symm h.1), ih h.2,
      Nat.add_assoc]

/-- If a text goes on with neither a bar nor a backslash, it does not matter whether that is
escaped. -/
theorem openBars_append_fixed (h : ∀ c ∈ b.head?, c ≠ '|' ∧ c ≠ '\\') :
    openBars (a ++ b) = openBars a + openBars b := by
  fun_induction openBars a with
  | case1 c r ih => rw [List.cons_append, List.cons_append, openBars, ih]
  | case2 c r hpair ih =>
    by_cases hc : c = '\\'
    · -- The backslash is the last character, and what it escapes would not have counted.
      subst hc
      obtain rfl : r = [] := by
        cases r with
        | nil => rfl
        | cons d r => exact absurd rfl (hpair d r rfl)
      cases b with
      | nil => rfl
      | cons d b =>
        obtain ⟨hbar, hescape⟩ := h d rfl
        rw [List.cons_append, List.nil_append, openBars, openBars_cons hescape, if_neg hbar]
        simp [openBars]
    · rw [List.cons_append, openBars_cons hc, ih, Nat.add_assoc]
  | case3 => simp

/-- A text with five bars and those of its parts, and with their line ends, is a row of four cells
iff no part leaves its cell. -/
theorem isTableRow_iff {row : String} {parts : List String}
    (hbars : openBars row.toList = 5 + (parts.map fun p => openBars p.toList).sum)
    (hends : row.toList.countP isLineEnd = (parts.map fun p => p.toList.countP isLineEnd).sum) :
    IsTableRow row ↔ ∀ p ∈ parts, FitsCell p := by
  have hnone : ∀ weight : String → Nat, (parts.map weight).sum = 0 ↔ ∀ p ∈ parts, weight p = 0 := by
    intro weight
    rw [List.sum_eq_zero_iff_forall_eq_nat, List.forall_mem_map]
  constructor
  · rintro ⟨hfive, hone⟩ p hp
    have hpartBars : (parts.map fun p => openBars p.toList).sum = 0 := by omega
    exact ⟨(hnone _).mp hpartBars p hp, (hnone _).mp (hends ▸ hone) p hp⟩
  · intro hfits
    constructor
    · rw [hbars, (hnone _).mpr fun p hp => (hfits p hp).bars]
    · rw [hends, (hnone _).mpr fun p hp => (hfits p hp).line]

end Markdown

/-! ### What is put into a row -/

/-- The names of a place. -/
def Location.names (l : Location) : List String :=
  [l.database, l.schema, some l.table, l.column].filterMap id

namespace Markdown

/-- Names with points between have the bars and the line ends of the names. -/
theorem openBars_intercalate (names : List String) :
    openBars (".".intercalate names).toList = (names.map fun n => openBars n.toList).sum ∧
      (".".intercalate names).toList.countP isLineEnd =
        (names.map fun n => n.toList.countP isLineEnd).sum := by
  rw [String.toList_intercalate]
  induction names with
  | nil => exact ⟨rfl, rfl⟩
  | cons x names ih =>
    cases names with
    | nil => simp
    | cons y names =>
      obtain ⟨hbars, hends⟩ := ih
      have hpoint :
          ∀ c ∈ (".".toList ++ ".".toList.intercalate ((y :: names).map String.toList)).head?,
            c ≠ '|' ∧ c ≠ '\\' := by simp
      rw [List.map_cons, List.map_cons, List.intercalate_cons_cons, ← List.map_cons,
        List.append_assoc, openBars_append_fixed hpoint, openBars_append (by decide), hbars,
        List.countP_append, List.countP_append, hends]
      constructor
      · simp [openBars]
      · simp [isLineEnd]

/-- The empty names are left out, which have nothing to bring along. -/
theorem openBars_qualifiedName (l : Location) :
    openBars l.qualifiedName.toList = (l.names.map fun n => openBars n.toList).sum ∧
      l.qualifiedName.toList.countP isLineEnd =
        (l.names.map fun n => n.toList.countP isLineEnd).sum := by
  have hfilter : ∀ (weight : String → Nat) (names : List String), weight "" = 0 →
      ((names.filter (· ≠ "")).map weight).sum = (names.map weight).sum := by
    intro weight names hempty
    induction names with
    | nil => rfl
    | cons n names ih =>
      by_cases hn : n = ""
      · simp [hn, hempty, ← ih]
      · simp [hn, ← ih]
  have hjoined := openBars_intercalate (l.names.filter (· ≠ ""))
  rwa [hfilter _ _ rfl, hfilter _ _ rfl] at hjoined

/-- A whole number stays in its cell. -/
theorem fitsCell_toString (i : Int) : FitsCell (toString i) := by
  have hplain : ∀ c ∈ (toString i).toList, c ≠ '|' ∧ c ≠ '\\' ∧ isLineEnd c = false := by
    intro c hc
    rcases isDigit_or_eq_of_mem_toString hc with hdigit | rfl
    · refine ⟨?_, ?_, ?_⟩
      · rintro rfl; exact absurd hdigit (by decide)
      · rintro rfl; exact absurd hdigit (by decide)
      · by_contra hend
        simp only [isLineEnd, Bool.not_eq_false, Bool.or_eq_true, decide_eq_true_eq] at hend
        rcases hend with rfl | rfl <;> exact absurd hdigit (by decide)
    · decide
  constructor
  · generalize (toString i).toList = cs at hplain
    induction cs with
    | nil => rfl
    | cons c cs ih =>
      obtain ⟨hbar, hescape, -⟩ := hplain c (List.mem_cons_self ..)
      rw [openBars_cons hescape, if_neg hbar, ih fun d hd => hplain d (List.mem_cons_of_mem _ hd)]
  · rw [List.countP_eq_zero]
    exact fun c hc => by simp [(hplain c hc).2.2]

end Markdown

open Markdown

/-- The row of a finding has five bars and no line end of its own, and those of the names and of the
signature. -/
theorem Offense.exists_row_finding (x : Offense) (v : Severity) :
    ∃ row, (x.finding v).row = .ok row ∧
      openBars row.toList =
        5 + ((x.location.names ++ [x.signature]).map fun p => openBars p.toList).sum ∧
      row.toList.countP isLineEnd =
        ((x.location.names ++ [x.signature]).map fun p => p.toList.countP isLineEnd).sum := by
  obtain ⟨hnameBars, hnameEnds⟩ := openBars_qualifiedName x.location
  obtain ⟨hcountBars, hcountEnds⟩ := fitsCell_toString x.occurrencesOfSignature
  obtain ⟨hanswerBars, hanswerEnds⟩ : FitsCell (if !x.isMinority then "Yes" else "No") := by
    cases x.isMinority <;> exact ⟨by decide, by decide⟩
  refine ⟨"| " ++ x.location.qualifiedName ++ " | `" ++ x.signature ++ "` | " ++
    toString x.occurrencesOfSignature ++ " | " ++ (if !x.isMinority then "Yes" else "No") ++ " |",
    ?_, ?_, ?_⟩
  · unfold Finding.row
    rw [matchesDominant_finding]
    rfl
  · -- The fixed pieces hold no backslash, and each of them stands between two of the others.
    simp only [String.toList_append, List.append_assoc]
    rw [openBars_append (by decide), openBars_append_fixed (by simp), openBars_append (by decide),
      openBars_append_fixed (by simp), openBars_append (by decide), openBars_append_fixed (by simp),
      openBars_append (by decide), openBars_append_fixed (by simp), hnameBars, hcountBars,
      hanswerBars, List.map_append, List.sum_append]
    simp [openBars]
    omega
  · simp only [String.toList_append, List.countP_append, hnameEnds, hcountEnds, hanswerEnds]
    simp [isLineEnd]

/-- Every finding is about a column of the tables, whose names and signature it shows. -/
theorem exists_column_of_mem {tables : List Table} {s : Settings} {f : Finding}
    (hf : f ∈ mismatchedColumnFindings tables s) :
    ∃ t ∈ tables, ∃ c ∈ t.columns, ∃ x : Offense, x.finding s.severity = f ∧
      x.location = ⟨t.database, some t.schema, t.name, some c.name⟩ ∧
      c.HasSignature x.signature := by
  obtain ⟨x, hx, hfinding⟩ := exists_offense_of_mem hf
  obtain ⟨o, ho, hoffense⟩ := List.mem_filterMap.mp hx
  obtain ⟨t, ht, c, hc, -, rfl⟩ := Settings.mem_occurrences.mp ho
  have hreports : x.Reports (s.occurrences tables) (Occurrence.ofColumn t c) := by
    have hreported := of?_reports ho
    rw [hoffense] at hreported
    split_ifs at hreported
    obtain ⟨y, hy, hreports⟩ := hreported
    exact Option.some.inj hy ▸ hreports
  have hsignature := hreports.signature
  have htyped : (Occurrence.ofColumn t c).isTyped := by
    by_contra hblank
    rw [Occurrence.signature?, if_neg hblank] at hsignature
    exact nomatch hsignature
  refine ⟨t, ht, c, hc, x, hfinding, hreports.location, ?_⟩
  rw [hasSignature_iff t, Occurrence.signature, hsignature]
  exact ⟨htyped, rfl⟩

/-- What the row of a finding on a column shows: the names and the signature. -/
def Column.shownParts (c : Column) (t : Table) (signature : String) : List String :=
  t.database.toList ++ [t.schema, t.name, c.name, signature]

/-- Every finding of a report on tables has its row among the lines of the Markdown form, with five
bars and those that the names and the signature bring along.  It is a row of four cells iff neither
the names nor the signature hold a bar that is not escaped or a line end. -/
theorem toMarkdown_rows (tables : List Table) (s : Settings) (warnings : List String) :
    ∃ lines, (analyze tables s warnings).toMarkdown = .ok ("\n".intercalate lines) ∧
      ∀ f ∈ (analyze tables s warnings).findings, ∃ row ∈ lines, f.row = .ok row ∧
        ∃ t ∈ tables, ∃ c ∈ t.columns, ∃ signature, c.HasSignature signature ∧
          f.location = ⟨t.database, some t.schema, t.name, some c.name⟩ ∧
          openBars row.toList =
            5 + ((c.shownParts t signature).map fun p => openBars p.toList).sum ∧
          (IsTableRow row ↔ ∀ p ∈ c.shownParts t signature, FitsCell p) := by
  have hshowable : ∀ f ∈ (analyze tables s warnings).findings, f.IsShowable := by
    intro f hf
    rw [findings_analyze] at hf
    obtain ⟨x, -, rfl⟩ := exists_offense_of_mem hf
    exact x.isShowable_finding s.severity
  obtain ⟨sections, texts, harranges, hwritten, htext⟩ := Report.exists_sectionTexts hshowable
  refine ⟨_, htext, fun f hf => ?_⟩
  have hnone : (analyze tables s warnings).findings.isEmpty = false :=
    List.isEmpty_eq_false_iff.mpr (List.ne_nil_of_mem hf)
  -- The row stands in the text of the section that the finding is in.
  obtain ⟨u, hu, hfu⟩ := List.mem_flatMap.mp (harranges.perm.mem_iff.mpr hf)
  obtain ⟨text, htexts, hut⟩ := exists_mem_of_forall₂ hwritten hu
  obtain ⟨row, hrow, hfrow⟩ := exists_mem_of_forall₂ hut.rows hfu
  have hline : row ∈ texts.flatMap SectionText.lines :=
    List.mem_flatMap.mpr ⟨text, htexts, by simp [SectionText.lines, hrow]⟩
  rw [hnone, if_neg Bool.false_ne_true]
  refine ⟨row, List.mem_append_right _ hline, hfrow, ?_⟩
  rw [findings_analyze] at hf
  obtain ⟨t, ht, c, hc, x, rfl, hlocation, hsignature⟩ := exists_column_of_mem hf
  obtain ⟨row', hrow', hbars, hends⟩ := x.exists_row_finding s.severity
  obtain rfl : row' = row := Except.ok.inj (hrow'.symm.trans hfrow)
  have hparts : x.location.names ++ [x.signature] = c.shownParts t x.signature := by
    rw [hlocation]
    cases hdatabase : t.database <;> simp [Location.names, Column.shownParts, hdatabase]
  rw [hparts] at hbars hends
  exact ⟨t, ht, c, hc, x.signature, hsignature, hlocation, hbars, isTableRow_iff hbars hends⟩

/-- The four findings on `dividedTables` have rows of four cells. -/
theorem toMarkdown_rows_dividedTables :
    ∃ lines, (analyze dividedTables .standard []).toMarkdown = .ok ("\n".intercalate lines) ∧
      (analyze dividedTables .standard []).findings.length = 4 ∧
      ∀ f ∈ (analyze dividedTables .standard []).findings,
        ∃ row ∈ lines, f.row = .ok row ∧ IsTableRow row := by
  obtain ⟨lines, htext, hrows⟩ := toMarkdown_rows dividedTables .standard []
  have hrow : ∀ f ∈ (analyze dividedTables .standard []).findings,
      (f.row.toOption.map fun row => (openBars row.toList, row.toList.countP isLineEnd)) =
        some (5, 0) := by
    decide +kernel
  refine ⟨lines, htext, by decide +kernel, fun f hf => ?_⟩
  obtain ⟨row, hline, hfrow, -⟩ := hrows f hf
  have hmarks := hrow f hf
  rw [hfrow] at hmarks
  obtain ⟨hbars, hends⟩ := Prod.mk.inj (Option.some.inj hmarks)
  exact ⟨row, hline, hfrow, hbars, hends⟩

/-- Two tables with a column `STATE`, in the first an enumeration with a bar in one of its values. -/
def barredTables : List Table :=
  [⟨none, commonSchema, "ORDERS", [codeColumn "ORDERS" "STATE" "ENUM" ["'on|off'", "'idle'"]]⟩,
    ⟨none, commonSchema, "ITEMS", [codeColumn "ITEMS" "STATE" "INT" []]⟩]

/-- The row of an enumeration with a bar has six bars, so it is no row of four cells. -/
theorem row_barredTables :
    ∃ f ∈ (analyze barredTables .standard []).findings, ∃ row,
      f.row = .ok row ∧ openBars row.toList = 6 ∧ ¬ IsTableRow row := by
  have hbars : (analyze barredTables .standard []).findings.map
      (fun f => f.row.toOption.map fun row => openBars row.toList) = [some 6, some 5] := by
    decide +kernel
  obtain ⟨f, fs, hfindings, hf, -⟩ := List.map_eq_cons_iff.mp hbars
  cases hrow : f.row with
  | error e => exact nomatch hrow ▸ hf
  | ok row =>
    rw [hrow] at hf
    have hsix : openBars row.toList = 6 := Option.some.inj hf
    refine ⟨f, hfindings ▸ List.mem_cons_self .., row, hrow, hsix, fun h => ?_⟩
    exact absurd (hsix.symm.trans h.bars) (by decide)

end ColumnLint
