import ColumnLint.CommandLine
import ColumnLint.Proofs.Settings.Override

/-!
# How loading settings ends

Loading announces errors of one kind (`SettingsError.isAnnounced`): a file is not there, cannot be
read or holds no settings, or the settings are invalid.  Some errors of other kinds get through
(`Stray`): from a file whose octets are no text, from a scalar that does not spell what its tag asks
for, from a list of patterns that meets a value without elements, and from a setting that is not
named by a text.  These are all (`load_outcomes`), and none of them can come up without a file.

In which order a reader takes octets apart, how deep it goes and how long a number it takes is left
to it: all of this holds of every way to read files (`FileReading`), and which octets lead to an
error of another kind is what the reader says of them (`StrayOctets`).

Each step of loading is a case of its own.  For the overrides the induction goes along the list:
one that cannot be put in ends it, and one that can leaves the values under all other names as they
were (`Raw.override_spec`), so what the later ones meet is still what was found.
-/

namespace ColumnLint

open ColumnLint.Text

/-- Whether an error is of the kind that loading announces: something is wrong with a file or with a
setting. -/
def SettingsError.isAnnounced : SettingsError → Bool
  | .notFound _ | .unreadable _ | .malformed _ | .notMapping _ | .invalid _ => true
  | .undecodable _ | .badValue _ | .notIterable _ | .nameNotText => false

namespace Settings

variable {reading : FileReading} {around : Surroundings} {file : Option String} {e : SettingsError}

/-! ### Files -/

/-- The errors of other kinds that the octets of a file lead to. -/
inductive StrayOctets (reading : FileReading) (octets : List UInt8) : SettingsError → Prop
  /-- The octets are no text. -/
  | undecodable {fault : Utf8Error} (h : reading octets = .error (.undecodable fault)) :
      StrayOctets reading octets (.undecodable fault)
  /-- A scalar does not spell what its tag asks for, or the reader gives up for another reason than
  that the text is malformed. -/
  | badValue {fault : Yaml.Fault} (h : reading octets = .error (.noDocument fault))
      (hne : fault ≠ .malformed) : StrayOctets reading octets (.badValue fault)

theorem error_noDocument {fault : Yaml.Fault} (hne : fault ≠ .malformed) (path : String) :
    FileFault.error path (.noDocument fault) = .badValue fault := by
  cases fault with
  | malformed => exact absurd rfl hne
  | _ => rfl

theorem strayOctets_iff (path : String) (octets : List UInt8) :
    (rawOfOctets reading path octets = .error e ∧ e.isAnnounced = false) ↔
      StrayOctets reading octets e := by
  unfold rawOfOctets
  constructor
  · rintro ⟨h, hstray⟩
    split at h
    next fault hfault =>
      obtain rfl := Except.error.inj h
      cases fault with
      | undecodable u => exact .undecodable hfault
      | noDocument fault =>
        have hne : fault ≠ .malformed := by
          rintro rfl
          exact absurd hstray nofun
        rw [error_noDocument hne]
        exact .badValue hfault hne
    next => exact absurd h nofun
    next => exact absurd h nofun
    next => exact absurd (Except.error.inj h ▸ hstray) nofun
  · intro hstray
    cases hstray with
    | undecodable h =>
      rw [h]
      exact ⟨rfl, rfl⟩
    | badValue h hne =>
      rw [h]
      exact ⟨congrArg Except.error (error_noDocument hne path), rfl⟩

/-- The file that settings are taken from: the one that is asked for, else the first of the usual
ones that is there. -/
def chosenFile? (around : Surroundings) (file : Option String) : Option String :=
  (file.filter (· ≠ "")).or ((usualPaths around).find? fun p => (around.entryAt p).isSome)

theorem rawBy_of_chosenFile? {path : String} (h : chosenFile? around file = some path) :
    rawBy reading around file = rawOfFile reading around path := by
  unfold chosenFile? at h
  unfold rawBy
  cases hfile : file.filter (· ≠ "") with
  | some asked =>
    rw [hfile, Option.some_or] at h
    rw [Option.some.inj h]
  | none =>
    rw [hfile, Option.none_or] at h
    simp only [h]

theorem rawBy_of_chosenFile?_eq_none (h : chosenFile? around file = none) :
    rawBy reading around file = .ok (rawOfVariables around) := by
  obtain ⟨hfile, husual⟩ := Option.or_eq_none_iff.mp h
  unfold rawBy
  simp only [hfile, husual]

theorem rawBy_strays_iff :
    (rawBy reading around file = .error e ∧ e.isAnnounced = false) ↔
      ∃ path octets, chosenFile? around file = some path ∧
        around.entryAt path = some (.file octets) ∧ StrayOctets reading octets e := by
  cases hchosen : chosenFile? around file with
  | none =>
    rw [rawBy_of_chosenFile?_eq_none hchosen]
    exact iff_of_false (fun h => absurd h.1 nofun) nofun
  | some path =>
    rw [rawBy_of_chosenFile? hchosen]
    unfold rawOfFile
    constructor
    · rintro ⟨h, hstray⟩
      split at h
      next => exact absurd (Except.error.inj h ▸ hstray) nofun
      next => exact absurd (Except.error.inj h ▸ hstray) nofun
      next octets hentry =>
        exact ⟨path, octets, rfl, hentry, (strayOctets_iff path octets).mp ⟨h, hstray⟩⟩
    · rintro ⟨path', octets, hpath, hentry, hstray⟩
      obtain rfl := Option.some.inj hpath
      rw [hentry]
      exact (strayOctets_iff path octets).mpr hstray

/-! ### Overrides -/

namespace Raw

variable {r : Raw} {key : String} {v : Value} {overrides : Members}

theorem elements?_of_takes {added : List Value} {found : Value} (h : r.Takes key (.list added))
    (hfound : r.get? key = some found) : found.elements? ≠ none := by
  simpa [hfound] using h added rfl

theorem elements?_of_takesAll {before after : Members} {added : List Value} {found : Value}
    (h : r.TakesAll (before ++ (key, .list added) :: after)) (hfound : r.get? key = some found) :
    found.elements? ≠ none :=
  elements?_of_takes (h (key, .list added) (by simp)) hfound

theorem override_eq_error_iff :
    r.override key v = .error e ↔
      ∃ added found, v = .list added ∧ r.get? key = some found ∧ found.elements? = none ∧
        e = .notIterable found.kindName := by
  cases v with
  | list added =>
    unfold override
    cases hfound : r.get? key with
    | none =>
      have hempty : (Value.list []).elements? = some [] := rfl
      simp [hempty]
    | some found =>
      rw [Option.getD_some]
      cases helements : found.elements? with
      | none => simp [helements, eq_comm]
      | some items => simp [helements]
  | _ => simp [override]

/-- Overrides of distinct names end with the first one that cannot be put in. -/
theorem overrideAll_eq_error_iff (hnodup : (overrides.map Prod.fst).Nodup) :
    r.overrideAll overrides = .error e ↔
      ∃ before key added after found, overrides = before ++ (key, .list added) :: after ∧
        r.TakesAll before ∧ r.get? key = some found ∧ found.elements? = none ∧
        e = .notIterable found.kindName := by
  induction overrides generalizing r with
  | nil => exact iff_of_false (fun h => absurd h nofun) (by simp)
  | cons o overrides ih =>
    obtain ⟨hname, hnodup'⟩ := List.nodup_cons.mp hnodup
    rw [overrideAll_cons]
    by_cases htakes : r.Takes o.1 o.2
    · obtain ⟨r', hr', -, hothers, -⟩ := override_spec htakes
      have hsame : ∀ p ∈ overrides, r'.get? p.1 = r.get? p.1 := fun p hp =>
        hothers p.1 fun heq => hname (List.mem_map.mpr ⟨p, hp, heq⟩)
      rw [hr']
      refine (ih hnodup').trans ⟨?_, ?_⟩
      · rintro ⟨before, key, added, after, found, rfl, hbefore, hfound, hnone, he⟩
        refine ⟨o :: before, key, added, after, found, rfl, ?_, ?_, hnone, he⟩
        · refine List.forall_mem_cons.mpr ⟨htakes, ?_⟩
          exact (takesAll_congr fun p hp => hsame p (List.mem_append_left _ hp)).mp hbefore
        · rw [← hsame (key, .list added) (by simp)]
          exact hfound
      · rintro ⟨before, key, added, after, found, hsplit, hbefore, hfound, hnone, he⟩
        cases before with
        | nil =>
          -- The first override can be put in, so it is not the one that ends the list.
          obtain ⟨rfl, -⟩ := List.cons.inj hsplit
          exact absurd hnone (elements?_of_takes htakes hfound)
        | cons b before =>
          obtain ⟨rfl, rfl⟩ := List.cons.inj hsplit
          refine ⟨before, key, added, after, found, rfl, ?_, ?_, hnone, he⟩
          · exact (takesAll_congr fun p hp => hsame p (List.mem_append_left _ hp)).mpr
              (List.forall_mem_cons.mp hbefore).2
          · rw [hsame (key, .list added) (by simp)]
            exact hfound
    · obtain ⟨kind, hkind⟩ := override_of_not_takes htakes
      obtain ⟨added, found, ho, hfound, hnone, hkind'⟩ := override_eq_error_iff.mp hkind
      rw [hkind]
      constructor
      · intro h
        refine ⟨[], o.1, added, overrides, found, ?_, nofun, hfound, hnone, ?_⟩
        · rw [← ho]
          rfl
        · rw [← hkind']
          exact (Except.error.inj h).symm
      · rintro ⟨before, key, added', after, found', hsplit, hbefore, hfound', -, rfl⟩
        cases before with
        | nil =>
          obtain ⟨rfl, -⟩ := List.cons.inj hsplit
          rw [hkind', Option.some.inj (hfound.symm.trans hfound')]
          rfl
        | cons b before =>
          obtain ⟨rfl, -⟩ := List.cons.inj hsplit
          exact absurd (List.forall_mem_cons.mp hbefore).1 htakes

end Raw

/-! ### All of it -/

/-- The errors of other kinds that loading lets through. -/
inductive Stray (reading : FileReading) (around : Surroundings) (file : Option String)
    (overrides : Members) : SettingsError → Prop
  /-- From the octets of the file that settings are taken from. -/
  | octets {path : String} {octets : List UInt8} {e : SettingsError}
      (hpath : chosenFile? around file = some path)
      (hentry : around.entryAt path = some (.file octets)) (h : StrayOctets reading octets e) :
      Stray reading around file overrides e
  /-- From the first list that is to be added to a value without elements. -/
  | notIterable {r : Raw} {before : Members} {key : String} {added : List Value} {after : Members}
      {found : Value} (hraw : rawBy reading around file = .ok r)
      (hsplit : overrides = before ++ (key, .list added) :: after) (hbefore : r.TakesAll before)
      (hfound : r.get? key = some found) (hnone : found.elements? = none) :
      Stray reading around file overrides (.notIterable found.kindName)
  /-- From a setting that is not named by a text, when all overrides can be put in. -/
  | nameNotText {r : Raw} (hraw : rawBy reading around file = .ok r) (htakes : r.TakesAll overrides)
      (hnamed : ¬ r.Named) : Stray reading around file overrides .nameNotText

theorem ofRaw_strays_iff {r : Raw} :
    (ofRaw r = .error e ∧ e.isAnnounced = false) ↔ ¬ r.Named ∧ e = .nameNotText := by
  by_cases hnamed : r.Named
  · obtain ⟨members, hmembers, -⟩ := Raw.members?_of_named hnamed
    refine iff_of_false ?_ fun h => h.1 hnamed
    rintro ⟨h, hstray⟩
    unfold ofRaw at h
    rw [hmembers] at h
    dsimp only at h
    split at h
    · exact absurd h nofun
    · exact absurd (Except.error.inj h ▸ hstray) nofun
  · rw [ofRaw_of_not_named hnamed, Except.error.injEq]
    constructor
    · rintro ⟨rfl, -⟩
      exact ⟨hnamed, rfl⟩
    · rintro ⟨-, rfl⟩
      exact ⟨rfl, rfl⟩

/-- Overrides of distinct names end with an error of another kind for the reasons given. -/
theorem loadBy_strays_iff {overrides : Members} (hnodup : (overrides.map Prod.fst).Nodup) :
    (loadBy reading around file overrides = .error e ∧ e.isAnnounced = false) ↔
      Stray reading around file overrides e := by
  cases hraw : rawBy reading around file with
  | error e' =>
    have hload : loadBy reading around file overrides = .error e' := by
      unfold loadBy
      rw [hraw]
      rfl
    have hsame :
        loadBy reading around file overrides = .error e ↔ rawBy reading around file = .error e := by
      rw [hload, hraw, Except.error.injEq, Except.error.injEq]
    rw [hsame]
    refine rawBy_strays_iff.trans ⟨?_, ?_⟩
    · rintro ⟨path, octets, hpath, hentry, h⟩
      exact .octets hpath hentry h
    · rintro (⟨hpath, hentry, h⟩ | ⟨hraw', -⟩ | ⟨hraw', -⟩)
      · exact ⟨_, _, hpath, hentry, h⟩
      · exact absurd (hraw.symm.trans hraw') nofun
      · exact absurd (hraw.symm.trans hraw') nofun
  | ok r =>
    rw [loadBy_of_rawBy hraw]
    by_cases htakes : r.TakesAll overrides
    · obtain ⟨r', hr', -, hnamed⟩ := Raw.overrideAll_of_takes hnodup htakes
      have hbind : (r.overrideAll overrides >>= ofRaw) = ofRaw r' := by
        rw [hr']
        rfl
      rw [hbind, ofRaw_strays_iff, hnamed]
      constructor
      · rintro ⟨hnot, rfl⟩
        exact .nameNotText hraw htakes hnot
      · rintro (⟨hpath, hentry, h⟩ | ⟨hraw', rfl, -, hfound, hnone⟩ | ⟨hraw', -, hnot⟩)
        · exact absurd (rawBy_strays_iff.mpr ⟨_, _, hpath, hentry, h⟩).1 (by rw [hraw]; exact nofun)
        · obtain rfl := Except.ok.inj (hraw.symm.trans hraw')
          exact absurd hnone (Raw.elements?_of_takesAll htakes hfound)
        · obtain rfl := Except.ok.inj (hraw.symm.trans hraw')
          exact ⟨hnot, rfl⟩
    · obtain ⟨kind, hkind⟩ := Raw.overrideAll_of_not_takes hnodup htakes
      have hbind : (r.overrideAll overrides >>= ofRaw) = .error (.notIterable kind) := by
        rw [hkind]
        rfl
      rw [hbind, Except.error.injEq]
      constructor
      · rintro ⟨rfl, -⟩
        obtain ⟨before, key, added, after, found, hsplit, hbefore, hfound, hnone, he⟩ :=
          (Raw.overrideAll_eq_error_iff hnodup).mp hkind
        rw [he]
        exact .notIterable hraw hsplit hbefore hfound hnone
      · rintro (⟨hpath, hentry, h⟩ | ⟨hraw', hsplit, hbefore, hfound, hnone⟩ | ⟨hraw', htakes', -⟩)
        · exact absurd (rawBy_strays_iff.mpr ⟨_, _, hpath, hentry, h⟩).1 (by rw [hraw]; exact nofun)
        · obtain rfl := Except.ok.inj (hraw.symm.trans hraw')
          have := (Raw.overrideAll_eq_error_iff hnodup).mpr
            ⟨_, _, _, _, _, hsplit, hbefore, hfound, hnone, rfl⟩
          exact ⟨Except.error.inj (hkind.symm.trans this), rfl⟩
        · obtain rfl := Except.ok.inj (hraw.symm.trans hraw')
          exact absurd htakes' htakes

/-! ### What a request tells -/

theorem mem_of_get? {r : Raw} {key : String} {v : Value} (h : r.get? key = some v) :
    (.text key, v) ∈ r := by
  obtain ⟨⟨a, u⟩, hfind, rfl⟩ := Option.map_eq_some_iff.mp h
  have hkey := List.find?_some hfind
  rw [← Yaml.sameKey_text_iff.mp hkey]
  exact List.mem_of_find?_eq_some hfind

/-- What environment variables set is named by texts, and patterns are lists. -/
theorem of_mem_rawOfVariables {entry : Value × Value} (h : entry ∈ rawOfVariables around) :
    ∃ name, entry.1 = .text name ∧ (name ∈ patternFields → ∃ items, entry.2 = .list items) := by
  unfold rawOfVariables at h
  obtain ⟨o, ho, rfl⟩ := List.mem_filterMap.mp h
  simp only [List.mem_cons, List.not_mem_nil, or_false] at ho
  rcases ho with ho | ho | ho | ho | ho | ho <;>
    obtain ⟨v, -, rfl⟩ := Option.map_eq_some_iff.mp ho.symm
  case inr.inr.inr.inr.inl | inr.inr.inr.inr.inr => exact ⟨_, rfl, fun _ => ⟨_, rfl⟩⟩
  all_goals exact ⟨_, rfl, fun hname => absurd hname (by decide)⟩

theorem named_rawOfVariables : (rawOfVariables around).Named := fun _ h =>
  (of_mem_rawOfVariables h).imp fun _ => And.left

/-- The overrides of a request have distinct names, and only patterns are lists. -/
theorem nodup_overrides (q : CommandLine.LintRequest) : (q.overrides.map Prod.fst).Nodup := by
  change ["dialect", "severity", "fail_on", "minority_only", "exclude_tables",
    "exclude_columns"].Nodup
  decide

theorem mem_patternFields_of_mem_overrides {q : CommandLine.LintRequest} {key : String}
    {added : List Value} (h : (key, .list added) ∈ q.overrides) : key ∈ patternFields := by
  have hword : ∀ word, Value.ofText? word ≠ .list added := by
    rintro (_ | _) <;> exact nofun
  have hflag : (if q.minorityOnly then Value.bool true else .null) ≠ .list added := by
    split <;> exact nofun
  unfold CommandLine.LintRequest.overrides at h
  simp only [List.mem_cons, Prod.mk.injEq, List.not_mem_nil, or_false] at h
  rcases h with ⟨-, h⟩ | ⟨-, h⟩ | ⟨-, h⟩ | ⟨-, h⟩ | ⟨rfl, -⟩ | ⟨rfl, -⟩
  · exact absurd h.symm (hword _)
  · exact absurd h.symm (hword _)
  · exact absurd h.symm (hword _)
  · exact absurd h.symm hflag
  · exact .head _
  · exact .tail _ (.head _)

/-- Whatever a request tells can be put into what environment variables set. -/
theorem takesAll_rawOfVariables (q : CommandLine.LintRequest) :
    (rawOfVariables around).TakesAll q.overrides := by
  rintro ⟨key, v⟩ ho added rfl
  cases hfound : (rawOfVariables around).get? key with
  | none => exact nofun
  | some found =>
    obtain ⟨name, hname, hlist⟩ := of_mem_rawOfVariables (mem_of_get? hfound)
    obtain rfl := Value.text.inj hname
    obtain ⟨items, rfl⟩ := hlist (mem_patternFields_of_mem_overrides ho)
    exact nofun

/-- How loading ends, however files are read, whatever they and the environment variables hold and
whatever a request tells: with settings or an announced error iff nothing strays, and otherwise with
the error that does.  Without a file nothing does. -/
theorem load_outcomes (reading : FileReading) (around : Surroundings) (file : Option String)
    (q : CommandLine.LintRequest) :
    (((∃ settings, loadBy reading around file q.overrides = .ok settings) ∨
        ∃ e, loadBy reading around file q.overrides = .error e ∧ e.isAnnounced) ↔
      ∀ e, ¬ Stray reading around file q.overrides e) ∧
    (∀ e, Stray reading around file q.overrides e ↔
      loadBy reading around file q.overrides = .error e ∧ e.isAnnounced = false) ∧
    (chosenFile? around file = none → ∀ e, ¬ Stray reading around file q.overrides e) := by
  have hstrays : ∀ e, Stray reading around file q.overrides e ↔
      loadBy reading around file q.overrides = .error e ∧ e.isAnnounced = false := fun _ =>
    (loadBy_strays_iff (nodup_overrides q)).symm
  refine ⟨⟨?_, fun hnone => ?_⟩, hstrays, ?_⟩
  · rintro (⟨settings, hok⟩ | ⟨e', herror, hannounced⟩) e hstray
    · exact absurd (hok.symm.trans ((hstrays e).mp hstray).1) nofun
    · obtain ⟨herror', hstray'⟩ := (hstrays e).mp hstray
      obtain rfl := Except.error.inj (herror.symm.trans herror')
      exact absurd hannounced (by rw [hstray']; exact nofun)
  · cases hload : loadBy reading around file q.overrides with
    | ok settings => exact .inl ⟨settings, rfl⟩
    | error e =>
      refine .inr ⟨e, rfl, ?_⟩
      by_contra hnot
      exact hnone e ((hstrays e).mpr ⟨hload, Bool.eq_false_iff.mpr hnot⟩)
  · intro hchosen e hstray
    have hraw : rawBy reading around file = .ok (rawOfVariables around) :=
      rawBy_of_chosenFile?_eq_none hchosen
    rcases hstray with ⟨hpath, -, -⟩ | ⟨hraw', hsplit, -, hfound, hnone⟩ | ⟨hraw', -, hnot⟩
    · exact absurd (hchosen.symm.trans hpath) nofun
    · obtain rfl := Except.ok.inj (hraw.symm.trans hraw')
      have htakes : (rawOfVariables around).TakesAll q.overrides := takesAll_rawOfVariables q
      rw [hsplit] at htakes
      exact Raw.elements?_of_takesAll htakes hfound hnone
    · obtain rfl := Except.ok.inj (hraw.symm.trans hraw')
      exact hnot named_rawOfVariables

/-- Surroundings without files, with a variable that sets no severity. -/
def urgentSurroundings : Surroundings where
  entryAt _ := none
  environment name := if name = "COLCHECK_SEVERITY" then some "urgent" else none
  workingDirectory := "/work"
  homeDirectory := "/home"

/-- A working directory with one file of settings. -/
def lintFile (octets : List UInt8) : Surroundings where
  entryAt path := if path = "lint.yaml" then some (.file octets) else none
  environment _ := none
  workingDirectory := "/work"
  homeDirectory := "/home"

/-- What a variable sets is refused with an announced error, and a single table in a file under a
request that adds another ends loading with one that is not. -/
theorem load_outcomes_urgent :
    (chosenFile? urgentSurroundings none = none ∧
      ∃ e, load urgentSurroundings none (CommandLine.LintRequest.overrides {}) = .error e ∧
        e.isAnnounced) ∧
      Stray yamlReading (lintFile (Utf8.encode "exclude_tables: 7\n")) (some "lint.yaml")
        (CommandLine.LintRequest.overrides { excludeTables := ["audit"] })
        (.notIterable "int") := by
  have hchosen : chosenFile? urgentSurroundings none = none := by decide +kernel
  obtain ⟨hends, -, hvariables⟩ := load_outcomes yamlReading urgentSurroundings none {}
  obtain ⟨-, hstrays, -⟩ := load_outcomes yamlReading (lintFile (Utf8.encode "exclude_tables: 7\n"))
    (some "lint.yaml") { excludeTables := ["audit"] }
  refine ⟨⟨hchosen, (hends.mpr (hvariables hchosen)).resolve_left ?_⟩, ?_⟩
  · rintro ⟨settings, hok⟩
    have hfails : (load urgentSurroundings none
        (CommandLine.LintRequest.overrides {})).toOption = none := by
      decide +kernel
    rw [load, hok] at hfails
    exact absurd hfails nofun
  · exact (hstrays _).mpr ⟨by decide +kernel, rfl⟩

/-- Octets that are no text, a scalar that spells no integer, and a setting that is named by a
number end loading with an error that is not announced, and so does a single table under a request
that adds another. -/
theorem load_lintFile :
    load (lintFile [0xff]) (some "lint.yaml") (CommandLine.LintRequest.overrides {}) =
        .error (.undecodable ⟨0, [0xff], .badStart⟩) ∧
      load (lintFile (Utf8.encode "severity: !!int 'x'\n")) (some "lint.yaml")
        (CommandLine.LintRequest.overrides {}) = .error (.badValue (.noInteger 10 "x")) ∧
      load (lintFile (Utf8.encode "1: low\n")) (some "lint.yaml")
        (CommandLine.LintRequest.overrides {}) = .error .nameNotText ∧
      load (lintFile (Utf8.encode "exclude_tables: 7\n")) (some "lint.yaml")
        (CommandLine.LintRequest.overrides { excludeTables := ["audit"] }) =
        .error (.notIterable "int") ∧
      ∀ e ∈ [SettingsError.undecodable ⟨0, [0xff], .badStart⟩, .badValue (.noInteger 10 "x"),
        .nameNotText, .notIterable "int"], e.isAnnounced = false := by
  decide +kernel

end Settings

end ColumnLint
