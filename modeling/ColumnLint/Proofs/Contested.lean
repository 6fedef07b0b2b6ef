import ColumnLint.Proofs.Offense
import Mathlib.Data.List.TFAE
import Mathlib.Tactic.TFAE

/-!
# When a name is contested

A name is contested when it has several definitions of which none accounts for all occurrences.
Either half of this says the same as both, and the same as that two typed occurrences of the name
have different signatures; so the groups that are reported are those that call themselves contested
(`contested_tfae`).

Each of the conditions amounts to a key besides the dominating one: as no bucket is empty, the
dominating key accounts for all occurrences only if it is alone.
-/

namespace ColumnLint

open ColumnLint.Text

variable {os : List Occurrence} {n : String} {d : DefinitionKey} {g : NameGroup}

namespace NameGroup.Summarizes

variable (h : g.Summarizes os n d)
include h

/-- A group has a definition. -/
theorem one_le_definitionCount : 1 ≤ g.definitionCount := by
  rw [h.definitionCount]
  exact_mod_cast List.length_pos_of_mem h.mem_keys

/-- A group is contested iff its name has a key besides the dominating one. -/
theorem isContested_iff : g.isContested ↔ ∃ p ∈ occurrencesNamed os n, p.key ≠ d := by
  have hsplit : g.isContested ↔ 1 < g.definitionCount ∧ g.dominantCount ≠ g.totalOccurrences := by
    simp [isContested]
  have hone := h.one_le_definitionCount
  rw [hsplit, lt_iff_le_and_ne, ne_comm, h.definitionCount_ne_one_iff, h.dominantCount_ne_iff,
    and_assoc, and_self_iff]
  exact and_iff_right hone

/-- Two occurrences of a name differ in their signatures iff one has another key than the
dominating one. -/
theorem exists_signature_ne_iff :
    (∃ o ∈ os, ∃ p ∈ os, o.isTyped ∧ p.isTyped ∧ o.loweredName = n ∧ p.loweredName = n ∧
      lower o.signature ≠ lower p.signature) ↔ ∃ p ∈ occurrencesNamed os n, p.key ≠ d := by
  constructor
  · rintro ⟨o, ho, p, hp, hoTyped, hpTyped, hoName, hpName, hne⟩
    have hoNamed := mem_occurrencesNamed.mpr ⟨ho, hoTyped, hoName⟩
    have hpNamed := mem_occurrencesNamed.mpr ⟨hp, hpTyped, hpName⟩
    have hkeys : p.key ≠ o.key := fun hkey => hne (congrArg DefinitionKey.signature hkey.symm)
    rw [← h.isKept_iff, h.contested_iff hoNamed]
    exact ⟨p, hpNamed, hkeys⟩
  · -- The other occurrence is any one of the dominating key.
    rintro ⟨p, hpNamed, hne⟩
    obtain ⟨o, hoNamed, rfl⟩ := mem_keysNamed_iff_exists.mp h.mem_keys
    obtain ⟨ho, hoTyped, hoName⟩ := mem_occurrencesNamed.mp hoNamed
    obtain ⟨hp, hpTyped, hpName⟩ := mem_occurrencesNamed.mp hpNamed
    refine ⟨o, ho, p, hp, hoTyped, hpTyped, hoName, hpName, fun hsignature => hne ?_⟩
    exact DefinitionKey.ext (hpName.trans hoName.symm) hsignature.symm

/-- A group is kept among the contested ones iff it calls itself contested. -/
theorem isKept_eq_isContested : g.isKept = g.isContested := by
  rw [Bool.eq_iff_iff, h.isKept_iff, h.isContested_iff]

end NameGroup.Summarizes

/-- All notions of a contested name coincide, so the contested groups are those that call themselves
contested, in the order of all groups. -/
theorem contested_tfae (os : List Occurrence) :
    (∀ n g, (n, g) ∈ nameGroups os →
      [g.definitionCount ≠ 1, g.dominantCount ≠ g.totalOccurrences, g.isContested = true,
        ∃ o ∈ os, ∃ p ∈ os, o.isTyped ∧ p.isTyped ∧ o.loweredName = n ∧ p.loweredName = n ∧
          lower o.signature ≠ lower p.signature].TFAE) ∧
    contestedGroups os = (nameGroups os).filter fun e => e.2.isContested := by
  constructor
  · intro n g hg
    obtain ⟨d, h⟩ := exists_summarizes (mem_nameGroups.mp hg)
    tfae_have 1 ↔ 2 := h.definitionCount_ne_one_iff.trans h.dominantCount_ne_iff.symm
    tfae_have 1 ↔ 3 := h.definitionCount_ne_one_iff.trans h.isContested_iff.symm
    tfae_have 1 ↔ 4 := h.definitionCount_ne_one_iff.trans h.exists_signature_ne_iff.symm
    tfae_finish
  · refine List.filter_congr fun e he => ?_
    obtain ⟨d, h⟩ := exists_summarizes (mem_nameGroups.mp he)
    exact h.isKept_eq_isContested

/-- A scan that is divided on one name and agrees on another, which has no type in one place. -/
def halfDividedScan : List Occurrence :=
  [⟨"Orders", "Code", some "varchar", ["10"], .described .null .null⟩,
    ⟨"Orders", "Id", some "int", [], .described .null .null⟩,
    ⟨"Items", "CODE", some "varchar", ["-1"], .described .null .null⟩,
    ⟨"Items", "ID", some "INT", [], .described .null .null⟩,
    ⟨"Stock", "id", none, [], .described .null .null⟩]

/-- Of the two names, all four conditions hold of the one and none holds of the other. -/
theorem contested_tfae_halfDividedScan :
    ∃ g g', ("code", g) ∈ nameGroups halfDividedScan ∧ ("id", g') ∈ nameGroups halfDividedScan ∧
      g.definitionCount ≠ 1 ∧ g.dominantCount ≠ g.totalOccurrences ∧ g.isContested = true ∧
      g'.definitionCount = 1 ∧ g'.dominantCount = g'.totalOccurrences ∧ ¬ g'.isContested = true ∧
      (contestedGroups halfDividedScan).map Prod.fst = ["code"] := by
  obtain ⟨g, hg⟩ : ∃ g, NameGroup.ofName? halfDividedScan "code" = some g :=
    exists_ofName? (by decide +kernel)
  obtain ⟨g', hg'⟩ : ∃ g', NameGroup.ofName? halfDividedScan "id" = some g' :=
    exists_ofName? (by decide +kernel)
  have hcode := (contested_tfae halfDividedScan).1 "code" g (mem_nameGroups.mpr hg)
  have hid := (contested_tfae halfDividedScan).1 "id" g' (mem_nameGroups.mpr hg')
  have hdivided : ∃ o ∈ halfDividedScan, ∃ p ∈ halfDividedScan, o.isTyped ∧ p.isTyped ∧
      o.loweredName = "code" ∧ p.loweredName = "code" ∧ lower o.signature ≠ lower p.signature := by
    decide +kernel
  have hagreed : ¬ ∃ o ∈ halfDividedScan, ∃ p ∈ halfDividedScan, o.isTyped ∧ p.isTyped ∧
      o.loweredName = "id" ∧ p.loweredName = "id" ∧ lower o.signature ≠ lower p.signature := by
    decide +kernel
  refine ⟨g, g', mem_nameGroups.mpr hg, mem_nameGroups.mpr hg', (hcode.out 0 3).mpr hdivided,
    (hcode.out 1 3).mpr hdivided, (hcode.out 2 3).mpr hdivided, ?_, ?_,
    (hid.out 2 3).not.mpr hagreed, by decide +kernel⟩
  · exact not_not.mp ((hid.out 0 3).not.mpr hagreed)
  · exact not_not.mp ((hid.out 1 3).not.mpr hagreed)

end ColumnLint
