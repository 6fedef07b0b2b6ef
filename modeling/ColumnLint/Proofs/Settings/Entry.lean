import ColumnLint.Settings.Load

/-!
# Settings that were found, under their names

What is set under a name is found under it, and under the others what was there before
(`get?_putEntry`, `get?_putEntry_of_ne`).  Settings make the members of an object iff all of them
are named by texts (`members?_of_named`, `members?_of_not_named`); then the members hold what is
found.
-/

namespace ColumnLint

variable {key other : String} {v w : Value}

/-! ### Finding and setting -/

namespace Yaml

/-- Only a text is the same key as a text. -/
theorem sameKey_text_iff {a : Value} : sameKey a (.text key) = true ↔ a = .text key := by
  cases a with
  | float x => cases h : x.toInt? <;> simp [sameKey, keyNumber?, h]
  | _ => simp [sameKey, keyNumber?]

end Yaml

namespace Settings

namespace Raw

open Yaml

variable {r : Raw}

theorem get?_cons_self (v : Value) (r : Raw) : get? ((.text key, v) :: r) key = some v := by
  simp [get?, sameKey_text_iff]

theorem get?_cons_of_ne {a : Value} (h : a ≠ .text key) (v : Value) (r : Raw) :
    get? ((a, v) :: r) key = r.get? key := by
  have hkey : ¬ sameKey a (.text key) = true := fun h' => h (sameKey_text_iff.mp h')
  simp [get?, hkey]

theorem putEntry_cons_self (v w : Value) (r : Raw) :
    putEntry (.text key) w ((.text key, v) :: r) = (.text key, w) :: r := by
  simp [putEntry, sameKey_text_iff]

theorem putEntry_cons_of_ne {a : Value} (h : a ≠ .text key) (v w : Value) (r : Raw) :
    putEntry (.text key) w ((a, v) :: r) = (a, v) :: putEntry (.text key) w r := by
  have hkey : ¬ sameKey a (.text key) = true := fun h' => h (sameKey_text_iff.mp h')
  simp [putEntry, hkey]

/-- A value that was just set is found. -/
theorem get?_putEntry (v : Value) (r : Raw) : get? (putEntry (.text key) v r) key = some v := by
  induction r with
  | nil => exact get?_cons_self v []
  | cons e r ih =>
    obtain ⟨a, u⟩ := e
    by_cases h : a = .text key
    · rw [h, putEntry_cons_self, get?_cons_self]
    · rw [putEntry_cons_of_ne h, get?_cons_of_ne h, ih]

/-- Setting a value leaves the others alone. -/
theorem get?_putEntry_of_ne (h : other ≠ key) (v : Value) (r : Raw) :
    get? (putEntry (.text key) v r) other = r.get? other := by
  have hne : Value.text key ≠ .text other := fun h' => h (Value.text.inj h').symm
  induction r with
  | nil => exact get?_cons_of_ne hne v []
  | cons e r ih =>
    obtain ⟨a, u⟩ := e
    by_cases ha : a = .text key
    · rw [ha, putEntry_cons_self, get?_cons_of_ne hne, get?_cons_of_ne hne]
    · rw [putEntry_cons_of_ne ha]
      by_cases hb : a = .text other
      · rw [hb, get?_cons_self, get?_cons_self]
      · rw [get?_cons_of_ne hb, get?_cons_of_ne hb, ih]

/-- Of two values that are set one after another the last one stands. -/
theorem putEntry_putEntry (v w : Value) (r : Raw) :
    putEntry (.text key) w (putEntry (.text key) v r) = putEntry (.text key) w r := by
  induction r with
  | nil => exact putEntry_cons_self v w []
  | cons e r ih =>
    obtain ⟨a, u⟩ := e
    by_cases h : a = .text key
    · rw [h, putEntry_cons_self, putEntry_cons_self, putEntry_cons_self]
    · rw [putEntry_cons_of_ne h, putEntry_cons_of_ne h, putEntry_cons_of_ne h, ih]

/-- A value that is there can be set before or after another one. -/
theorem putEntry_comm (h : other ≠ key) (hkey : (r.get? key).isSome) (v w : Value) :
    putEntry (.text other) w (putEntry (.text key) v r) =
      putEntry (.text key) v (putEntry (.text other) w r) := by
  have hne : Value.text key ≠ .text other := fun h' => h (Value.text.inj h').symm
  induction r with
  | nil => exact absurd hkey Bool.false_ne_true
  | cons e r ih =>
    obtain ⟨a, u⟩ := e
    by_cases ha : a = .text key
    · rw [ha, putEntry_cons_self, putEntry_cons_of_ne hne, putEntry_cons_of_ne hne,
        putEntry_cons_self]
    · rw [get?_cons_of_ne ha] at hkey
      rw [putEntry_cons_of_ne ha]
      by_cases hb : a = .text other
      · rw [hb, putEntry_cons_self, putEntry_cons_self, putEntry_cons_of_ne hne.symm]
      · rw [putEntry_cons_of_ne hb, putEntry_cons_of_ne hb, putEntry_cons_of_ne ha, ih hkey]

/-! ### Names -/

/-- Whether all settings are named by texts. -/
def Named (r : Raw) : Prop := ∀ e ∈ r, ∃ name, e.1 = .text name

@[simp] theorem named_nil : Named [] := fun _ h => absurd h List.not_mem_nil

@[simp] theorem named_cons {e : Value × Value} :
    Named (e :: r) ↔ (∃ name, e.1 = .text name) ∧ r.Named := by
  simp only [Named, List.forall_mem_cons]

@[simp] theorem named_putEntry : Named (putEntry (.text key) v r) ↔ r.Named := by
  induction r with
  | nil => simp [putEntry]
  | cons e r ih =>
    obtain ⟨a, u⟩ := e
    by_cases h : a = .text key
    · simp [h, putEntry_cons_self]
    · simp [putEntry_cons_of_ne h, ih]

/-- Settings that are all named by texts are members, each found under its name. -/
theorem members?_of_named (h : r.Named) :
    ∃ members, members? r = some members ∧ ∀ key, members.lookup key = r.get? key := by
  induction r with
  | nil => exact ⟨[], rfl, fun _ => rfl⟩
  | cons e r ih =>
    obtain ⟨a, u⟩ := e
    obtain ⟨⟨name, rfl⟩, hr⟩ := named_cons.mp h
    obtain ⟨members, hmembers, hlookup⟩ := ih hr
    refine ⟨(name, u) :: members, ?_, fun key => ?_⟩
    · unfold members? at hmembers ⊢
      rw [List.mapM_cons, hmembers]
      rfl
    · by_cases hkey : name = key
      · rw [hkey, get?_cons_self, List.lookup_cons_self]
      · have hne : (key == name) = false := by simpa using Ne.symm hkey
        rw [get?_cons_of_ne (fun h' => hkey (Value.text.inj h')), List.lookup_cons, hne, hlookup]

theorem members?_of_not_named (h : ¬ r.Named) : members? r = none := by
  induction r with
  | nil => exact absurd named_nil h
  | cons e r ih =>
    obtain ⟨a, u⟩ := e
    unfold members? at ih ⊢
    rw [List.mapM_cons]
    by_cases ha : ∃ name, a = .text name
    · obtain ⟨name, rfl⟩ := ha
      rw [ih fun hr => h (named_cons.mpr ⟨⟨name, rfl⟩, hr⟩)]
      rfl
    · cases a with
      | text name => exact absurd ⟨name, rfl⟩ ha
      | _ => rfl

end Raw

end Settings

end ColumnLint
