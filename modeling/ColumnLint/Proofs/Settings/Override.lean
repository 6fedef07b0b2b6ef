import ColumnLint.Proofs.Settings.Entry
import ColumnLint.Proofs.Validation

/-!
# Overrides over settings that were found

Overrides with distinct names act on each setting on its own (`Raw.overrideAll_of_takes`): what is
found in the end under a name is what was found before, with the one override of that name put in
(`overridden`).  They fail only where a list is to be added to a value without elements
(`Raw.overrideAll_of_not_takes`).

From this follows what happens to patterns that are no list of texts (`load_patterns`).  They are
refused if there is no override of their name.  An override with a list, however, takes the value
that was found for the list of its elements, so that a text counts as the list of its characters,
and settings load that do not without the override (`load_auditPattern`).
-/

namespace ColumnLint

open ColumnLint.Text

variable {key other : String} {v w : Value}

namespace Settings

/-! ### Overrides -/

/-- A setting with an override put in: nothing leaves it as it is, a list is added to its elements,
anything else takes its place. -/
def overridden (found : Option Value) : Option Value → Option Value
  | none => found
  | some .null => found
  | some (.list added) => some (.list (((found.getD (.list [])).elements?.getD []) ++ added))
  | some v => some v

/-- Whether an override takes the place of what was found. -/
def Replaces : Value → Prop
  | .null => False
  | .list _ => False
  | _ => True

theorem overridden_of_replaces (h : Replaces w) (found : Option Value) :
    overridden found (some w) = some w := by
  cases w with
  | null => exact h.elim
  | list added => exact h.elim
  | _ => rfl

namespace Raw

variable {r : Raw} {overrides : Members}

/-- Whether an override can be put in: a list can be added to a value with elements only. -/
def Takes (r : Raw) (key : String) (v : Value) : Prop :=
  ∀ added, v = .list added → ((r.get? key).getD (.list [])).elements? ≠ none

/-- Whether all overrides can be put in. -/
def TakesAll (r : Raw) (overrides : Members) : Prop :=
  ∀ o ∈ overrides, r.Takes o.1 o.2

theorem takes_congr {r' : Raw} (h : r'.get? key = r.get? key) : r'.Takes key v ↔ r.Takes key v := by
  unfold Takes
  rw [h]

/-- An override that can be put in either changes nothing or sets the value. -/
theorem override_of_takes (h : r.Takes key v) :
    r.override key v = .ok r ∧ overridden (r.get? key) (some v) = r.get? key ∨
      ∃ u, r.override key v = .ok (Yaml.putEntry (.text key) u r) ∧
        overridden (r.get? key) (some v) = some u := by
  cases v with
  | null => exact .inl ⟨rfl, rfl⟩
  | list added =>
    obtain ⟨items, hitems⟩ := Option.ne_none_iff_exists'.mp (h added rfl)
    refine .inr ⟨.list (items ++ added), ?_, ?_⟩
    · simp only [override, hitems]
    · simp only [overridden, hitems, Option.getD_some]
  | _ => exact .inr ⟨_, rfl, rfl⟩

/-- What an override does to the settings: the one of its name has it put in, all others are as they
were. -/
theorem override_spec (h : r.Takes key v) :
    ∃ r', r.override key v = .ok r' ∧ r'.get? key = overridden (r.get? key) (some v) ∧
      (∀ other, other ≠ key → r'.get? other = r.get? other) ∧ (r'.Named ↔ r.Named) := by
  obtain ⟨hr, hv⟩ | ⟨u, hr, hv⟩ := override_of_takes h
  · exact ⟨r, hr, hv.symm, fun _ _ => rfl, Iff.rfl⟩
  · exact ⟨_, hr, (get?_putEntry u r).trans hv.symm,
      fun other hne => get?_putEntry_of_ne hne u r, named_putEntry⟩

theorem override_of_not_takes (h : ¬ r.Takes key v) :
    ∃ kind, r.override key v = .error (.notIterable kind) := by
  unfold Takes at h
  push Not at h
  obtain ⟨added, rfl, hnone⟩ := h
  unfold override
  simp only [hnone]
  exact ⟨_, rfl⟩

theorem overrideAll_cons (o : String × Value) (overrides : Members) (r : Raw) :
    r.overrideAll (o :: overrides) =
      (r.override o.1 o.2) >>= fun r' => Raw.overrideAll r' overrides := rfl

/-- An override of another name leaves open whether the overrides can be put in. -/
theorem takesAll_congr {r' : Raw} (h : ∀ o ∈ overrides, r'.get? o.1 = r.get? o.1) :
    r'.TakesAll overrides ↔ r.TakesAll overrides :=
  forall₂_congr fun o ho => takes_congr (h o ho)

/-- What the first of several overrides of distinct names does, seen from the others. -/
theorem exists_override_cons {o : String × Value} (hnodup : ((o :: overrides).map Prod.fst).Nodup)
    (h : r.Takes o.1 o.2) :
    ∃ r', r.overrideAll (o :: overrides) = Raw.overrideAll r' overrides ∧
      (∀ key, overridden (r'.get? key) (overrides.lookup key) =
        overridden (r.get? key) (List.lookup key (o :: overrides))) ∧
      (r'.TakesAll overrides ↔ r.TakesAll overrides) ∧ (r'.Named ↔ r.Named) := by
  obtain ⟨name, v⟩ := o
  obtain ⟨hname, -⟩ := List.nodup_cons.mp hnodup
  obtain ⟨r', hr', hself, hothers, hnamed⟩ := override_spec h
  have hne : ∀ p ∈ overrides, p.1 ≠ name := fun p hp heq =>
    hname (List.mem_map.mpr ⟨p, hp, heq⟩)
  refine ⟨r', ?_, fun key => ?_, takesAll_congr fun p hp => hothers p.1 (hne p hp), hnamed⟩
  · rw [overrideAll_cons, hr']
    rfl
  · by_cases hkey : key = name
    · -- No later override has this name, so what the first one left is final.
      have habsent : overrides.lookup name = none := by
        rw [List.lookup_eq_none_iff]
        exact fun p hp => by simpa using (hne p hp).symm
      rw [hkey, habsent, List.lookup_cons_self, ← hself]
      rfl
    · have hne' : (key == name) = false := by simpa using hkey
      rw [hothers key hkey, List.lookup_cons, hne']

/-- Overrides of distinct names act on each setting on its own. -/
theorem overrideAll_of_takes (hnodup : (overrides.map Prod.fst).Nodup)
    (h : r.TakesAll overrides) :
    ∃ r', r.overrideAll overrides = .ok r' ∧
      (∀ key, r'.get? key = overridden (r.get? key) (overrides.lookup key)) ∧
      (r'.Named ↔ r.Named) := by
  induction overrides generalizing r with
  | nil => exact ⟨r, rfl, fun _ => rfl, Iff.rfl⟩
  | cons o overrides ih =>
    obtain ⟨r₁, hr₁, hget, htakes, hnamed⟩ :=
      exists_override_cons hnodup (h o (List.mem_cons_self ..))
    obtain ⟨r', hr', hget', hnamed'⟩ := ih (List.nodup_cons.mp hnodup).2
      (htakes.mpr fun p hp => h p (List.mem_cons_of_mem _ hp))
    exact ⟨r', hr₁.trans hr', fun key => (hget' key).trans (hget key), hnamed'.trans hnamed⟩

/-- Overrides of distinct names fail where a list is to be added to a value without elements. -/
theorem overrideAll_of_not_takes (hnodup : (overrides.map Prod.fst).Nodup)
    (h : ¬ r.TakesAll overrides) :
    ∃ kind, r.overrideAll overrides = .error (.notIterable kind) := by
  induction overrides generalizing r with
  | nil => exact absurd (fun o ho => absurd ho List.not_mem_nil) h
  | cons o overrides ih =>
    by_cases ho : r.Takes o.1 o.2
    · obtain ⟨r₁, hr₁, -, htakes, -⟩ := exists_override_cons hnodup ho
      rw [hr₁]
      refine ih (List.nodup_cons.mp hnodup).2 fun hrest => h ?_
      exact List.forall_mem_cons.mpr ⟨ho, htakes.mp hrest⟩
    · obtain ⟨kind, hkind⟩ := override_of_not_takes ho
      exact ⟨kind, by rw [overrideAll_cons, hkind]; rfl⟩

/-- What an override replaces does not matter. -/
theorem override_putEntry_of_replaces (h : Replaces w) (u : Value) (r : Raw) :
    Raw.override (Yaml.putEntry (.text key) u r) key w = r.override key w := by
  cases w with
  | null => exact h.elim
  | list added => exact h.elim
  | _ => exact congrArg Except.ok (putEntry_putEntry _ _ r)

/-- A list is added to a value as to the list of its elements. -/
theorem override_putEntry_of_list {items added : List Value} (hv : r.get? key = some v)
    (hitems : v.elements? = some items) :
    Raw.override (Yaml.putEntry (.text key) (.list items) r) key (.list added) =
      r.override key (.list added) := by
  have hlist : (Value.list items).elements? = some items := rfl
  simp only [override, get?_putEntry, hv, hitems, hlist, Option.getD_some, putEntry_putEntry]

/-- An override of another name can be put in before or after a value that is there is set. -/
theorem override_putEntry_of_ne (hne : other ≠ key) (hkey : (r.get? key).isSome) (u w : Value) :
    Raw.override (Yaml.putEntry (.text key) u r) other w =
      (r.override other w).map (Yaml.putEntry (.text key) u) := by
  unfold override
  rw [get?_putEntry_of_ne hne]
  cases w with
  | null => rfl
  | list added =>
    dsimp only
    cases ((r.get? other).getD (.list [])).elements? with
    | none => rfl
    | some items => exact congrArg Except.ok (putEntry_comm hne hkey _ _)
  | _ => exact congrArg Except.ok (putEntry_comm hne hkey _ _)

/-- Another value in the place of one that is there makes no difference to the overrides if it makes
none to the override of its name. -/
theorem overrideAll_putEntry {u : Value} (hv : r.get? key = some v)
    (hw : overrides.lookup key = some w)
    (hsame : ∀ r : Raw, r.get? key = some v →
      Raw.override (Yaml.putEntry (.text key) u r) key w = r.override key w) :
    Raw.overrideAll (Yaml.putEntry (.text key) u r) overrides = r.overrideAll overrides := by
  -- The value that is set is carried along until its override is met, and gone after that.
  induction overrides generalizing r with
  | nil => exact absurd hw nofun
  | cons o overrides ih =>
    obtain ⟨name, w'⟩ := o
    rw [overrideAll_cons, overrideAll_cons]
    by_cases hname : name = key
    · subst hname
      rw [List.lookup_cons_self] at hw
      obtain rfl := Option.some.inj hw
      rw [hsame r hv]
    · have hne : (key == name) = false := by simpa using Ne.symm hname
      rw [List.lookup_cons, hne] at hw
      rw [override_putEntry_of_ne hname (hv ▸ rfl)]
      by_cases htakes : r.Takes name w'
      · obtain ⟨r', hr', -, hothers, -⟩ := override_spec htakes
        rw [hr']
        exact ih ((hothers key (Ne.symm hname)).trans hv) hw
      · obtain ⟨kind, hkind⟩ := override_of_not_takes htakes
        rw [hkind]
        rfl

end Raw

/-! ### Patterns -/

/-- The names of the settings that are lists of patterns. -/
def patternFields : List String := ["exclude_tables", "exclude_columns"]

/-- The problems of patterns are among those of the settings. -/
theorem problems_patterns_subset (hkey : key ∈ patternFields) {members : Members}
    (hv : members.lookup key = some v) :
    (Reader.list Reader.text v).problems.map (Problem.under (.key key)) ⊆
      (read members).problems := by
  rw [patternFields, List.mem_cons, List.mem_singleton] at hkey
  intro p hp
  unfold read
  simp only [Validated.problems_seq, Validated.problems_map, List.mem_append]
  obtain rfl | rfl := hkey <;> rw [Members.problems_optional hv] <;> tauto

theorem ofRaw_of_not_named {r : Raw} (h : ¬ r.Named) : ofRaw r = .error .nameNotText := by
  unfold ofRaw
  rw [Raw.members?_of_not_named h]

/-- Patterns that are no list of texts are a problem under their name. -/
theorem ofRaw_of_not_listsTexts {r : Raw} (hnamed : r.Named) (hkey : key ∈ patternFields)
    (hv : r.get? key = some v) (h : ¬ v.ListsTexts) :
    ∃ problems, ofRaw r = .error (.invalid problems) ∧
      ∃ p ∈ problems, p.path.head? = some (.key key) := by
  obtain ⟨members, hmembers, hlookup⟩ := Raw.members?_of_named hnamed
  obtain ⟨p, hp⟩ := List.exists_mem_of_ne_nil _ (mt (Reader.problems_list_text_eq_nil_iff v).mp h)
  have hmem := problems_patterns_subset hkey ((hlookup key).trans hv) (List.mem_map_of_mem hp)
  refine ⟨(read members).problems, ?_, _, hmem, rfl⟩
  unfold ofRaw
  rw [hmembers]
  simp only
  rw [Validated.eq_invalid_of_mem_problems hmem]
  rfl

/-- How settings end whose value of a name is refused: as invalid with a problem under this name,
unless the overrides cannot be put in or some setting is not named by a text. -/
structure Refused (r : Raw) (overrides : Members) (key : String)
    (outcome : Except SettingsError Settings) : Prop where
  invalid : r.TakesAll overrides → r.Named →
    ∃ problems, outcome = .error (.invalid problems) ∧
      ∃ p ∈ problems, p.path.head? = some (.key key)
  nameNotText : r.TakesAll overrides → ¬ r.Named → outcome = .error .nameNotText
  notIterable : ¬ r.TakesAll overrides → ∃ kind, outcome = .error (.notIterable kind)

theorem loadBy_of_rawBy {reading : FileReading} {around : Surroundings} {file : Option String}
    {r : Raw} (hraw : rawBy reading around file = .ok r) (overrides : Members) :
    loadBy reading around file overrides = r.overrideAll overrides >>= ofRaw := by
  unfold loadBy
  rw [hraw]
  rfl

theorem load_of_raw {around : Surroundings} {file : Option String} {r : Raw}
    (hraw : raw around file = .ok r) (overrides : Members) :
    load around file overrides = r.overrideAll overrides >>= ofRaw :=
  loadBy_of_rawBy hraw overrides

/-- Patterns are refused if what the overrides make of them lists no texts. -/
theorem refused_of_overridden {r : Raw} {overrides : Members}
    (hnodup : (overrides.map Prod.fst).Nodup) (hkey : key ∈ patternFields)
    (hv : overridden (r.get? key) (overrides.lookup key) = some v) (h : ¬ v.ListsTexts) :
    Refused r overrides key (r.overrideAll overrides >>= ofRaw) where
  invalid htakes hnamed := by
    obtain ⟨r', hr', hget, hnamed'⟩ := Raw.overrideAll_of_takes hnodup htakes
    rw [hr']
    exact ofRaw_of_not_listsTexts (hnamed'.mpr hnamed) hkey ((hget key).trans hv) h
  nameNotText htakes hnamed := by
    obtain ⟨r', hr', -, hnamed'⟩ := Raw.overrideAll_of_takes hnodup htakes
    rw [hr']
    exact ofRaw_of_not_named (mt hnamed'.mp hnamed)
  notIterable htakes := by
    obtain ⟨kind, hkind⟩ := Raw.overrideAll_of_not_takes hnodup htakes
    exact ⟨kind, by rw [hkind]; rfl⟩

/-- What becomes of patterns that were found, whatever the overrides are.  Without an override of
their name they are refused unless they list texts.  An override that takes their place counts
alone, and is refused unless it lists texts.  Under a list, patterns without elements cannot be
loaded, and all others count as the list of their elements, which is refused where an element of it
or of the override spells no text. -/
theorem load_patterns {around : Surroundings} {file : Option String} {r : Raw}
    {overrides : Members} (hraw : raw around file = .ok r) (hkey : key ∈ patternFields)
    (hv : r.get? key = some v) (hnodup : (overrides.map Prod.fst).Nodup) :
    ((∀ w, overrides.lookup key = some w → w = .null) → ¬ v.ListsTexts →
      Refused r overrides key (load around file overrides)) ∧
    (∀ w, overrides.lookup key = some w → Replaces w →
      load around file overrides =
        Raw.overrideAll (Yaml.putEntry (.text key) w r) overrides >>= ofRaw ∧
      (¬ w.ListsTexts → Refused r overrides key (load around file overrides))) ∧
    ∀ added, overrides.lookup key = some (.list added) →
      (v.elements? = none → ∃ kind, load around file overrides = .error (.notIterable kind)) ∧
      ∀ items, v.elements? = some items →
        load around file overrides =
          Raw.overrideAll (Yaml.putEntry (.text key) (.list items) r) overrides >>= ofRaw ∧
        (¬ (Value.list (items ++ added)).ListsTexts →
          Refused r overrides key (load around file overrides)) := by
  rw [load_of_raw hraw]
  refine ⟨fun hnull => ?_, fun w hw hreplaces => ⟨?_, ?_⟩,
    fun added hadded => ⟨fun hnone => ?_, fun items hitems => ⟨?_, ?_⟩⟩⟩
  · -- No override of the name: what was found is what is read.
    refine refused_of_overridden hnodup hkey ?_
    rw [hv]
    cases hw : overrides.lookup key with
    | none => rfl
    | some w =>
      rw [hnull w hw]
      rfl
  · rw [Raw.overrideAll_putEntry hv hw fun r _ => Raw.override_putEntry_of_replaces hreplaces w r]
  · refine refused_of_overridden hnodup hkey ?_
    rw [hw]
    exact overridden_of_replaces hreplaces _
  · -- A list over a value without elements is an override that cannot be put in.
    have hmem : (key, Value.list added) ∈ overrides := by
      obtain ⟨before, after, rfl, -⟩ := List.lookup_eq_some_iff.mp hadded
      exact List.mem_append_right _ (List.mem_cons_self ..)
    obtain ⟨kind, hkind⟩ := Raw.overrideAll_of_not_takes (r := r) hnodup fun htakes =>
      htakes _ hmem added rfl (by rw [hv]; exact hnone)
    exact ⟨kind, by rw [hkind]; rfl⟩
  · rw [Raw.overrideAll_putEntry hv hadded fun r hr => Raw.override_putEntry_of_list hr hitems]
  · refine refused_of_overridden hnodup hkey ?_
    rw [hadded, hv]
    simp only [overridden, Option.getD_some, hitems]

/-- A working directory with a file of settings whose pattern is no list. -/
def auditSurroundings : Surroundings where
  entryAt path :=
    if path = "lint.yaml" then some (.file (Utf8.encode "exclude_tables: 'audit.*'\n")) else none
  environment _ := none
  workingDirectory := "/work"
  homeDirectory := "/home"

/-- A list of patterns to add to the ones of the file. -/
def stagingOverride : Members := [("exclude_tables", .list [.text "staging.*"])]

/-- The text that is found under a name. -/
def Raw.text? (r : Raw) (key : String) : Option String :=
  match r.get? key with
  | some (.text s) => some s
  | _ => none

theorem Raw.get?_of_text? {r : Raw} {s : String} (h : r.text? key = some s) :
    r.get? key = some (.text s) := by
  unfold text? at h
  split at h
  next hfound => rw [hfound, Option.some.inj h]
  next => exact absurd h nofun

/-- The text is refused on its own, and under a list it counts as the list of its characters. -/
theorem load_patterns_auditPattern :
    ∃ r, raw auditSurroundings (some "lint.yaml") = .ok r ∧
      Refused r [] "exclude_tables" (load auditSurroundings (some "lint.yaml") []) ∧
      load auditSurroundings (some "lint.yaml") stagingOverride =
        Raw.overrideAll (Yaml.putEntry (.text "exclude_tables")
          (.list [.text "a", .text "u", .text "d", .text "i", .text "t", .text ".", .text "*"]) r)
          stagingOverride >>= ofRaw := by
  have hfound : (raw auditSurroundings (some "lint.yaml")).toOption.bind
      (·.text? "exclude_tables") = some "audit.*" := by
    decide +kernel
  obtain ⟨r, hr, htext⟩ := Option.bind_eq_some_iff.mp hfound
  have hv := Raw.get?_of_text? htext
  have hraw : raw auditSurroundings (some "lint.yaml") = .ok r := by
    cases h : raw auditSurroundings (some "lint.yaml") <;> simp_all [Except.toOption]
  have hnone : (([] : Members).map Prod.fst).Nodup := .nil
  have hlist : (stagingOverride.map Prod.fst).Nodup := by decide
  obtain ⟨hrefused, -, -⟩ := load_patterns hraw (.head _) hv hnone
  obtain ⟨-, -, hadded⟩ := load_patterns hraw (.head _) hv hlist
  exact ⟨r, hraw, hrefused nofun id, ((hadded _ rfl).2 _ rfl).1⟩

/-- Settings that do not load on their own load under an override. -/
theorem load_auditPattern :
    load auditSurroundings (some "lint.yaml") [] =
        .error (.invalid [⟨[.key "exclude_tables"], .notList⟩]) ∧
      load auditSurroundings (some "lint.yaml") stagingOverride =
        .ok { standard with
          excludeTables := ["a", "u", "d", "i", "t", ".", "*", "staging.*"] } := by
  decide +kernel

end Settings

end ColumnLint
