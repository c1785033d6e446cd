import Cartouche.Proofs.Outcome
import Cartouche.Style.Mapping

/-! When mappings are made, and what they are made of. -/
namespace Cartouche
open Text

variable {property field checked : String}

theorem checkField_eq_ok (h : checkField field = .ok checked) : checked = trimmed field := by
  unfold checkField at h
  dsimp only at h
  split at h
  · cases h
  · split at h
    · exact (Except.ok.inj h).symm
    · cases h

/-- Mappings are made of any categories under a proper field. -/
theorem CategoryMapping.make_eq_ok_iff {entries : Table StyleValue} {fallback : Fallback}
    {m : CategoryMapping} : make property field entries fallback = .ok m ↔
      ∃ checked, checkField field = .ok checked ∧ m = ⟨property, checked, entries, fallback⟩ := by
  rw [make, bind_eq_ok_iff]
  exact exists_congr fun checked => and_congr_right fun _ =>
    (Except.ok.injEq _ _).to_iff.trans eq_comm

/-- Mappings are made of a finite domain under a proper field. -/
theorem ScaleMapping.make_eq_ok_iff {low high : Float} {range : ScaleRange Float}
    {m : ScaleMapping Float} : make property field low high range = .ok m ↔
    ∃ checked, checkField field = .ok checked ∧ low.isFinite ∧ high.isFinite ∧ ¬ high < low ∧
      m = ⟨property, checked, low, high, range⟩ := by
  rw [make, bind_eq_ok_iff]
  refine exists_congr fun checked => and_congr_right fun _ => ?_
  dsimp only
  split
  · next hbad =>
    refine iff_of_false nofun ?_
    rintro ⟨hlow, hhigh, hlt, -⟩
    simp [hlow, hhigh, hlt] at hbad
  · next hgood =>
    simp only [Bool.or_eq_true, Bool.not_eq_true', decide_eq_true_eq, not_or] at hgood
    obtain ⟨⟨hlow, hhigh⟩, hlt⟩ := hgood
    rw [Bool.not_eq_false] at hlow hhigh
    constructor
    · intro h
      exact ⟨hlow, hhigh, hlt, (Except.ok.inj h).symm⟩
    · rintro ⟨_, _, _, rfl⟩
      rfl

/-- Mappings are made of one or more finite breakpoints under a proper field, and sort them. -/
theorem ThresholdMapping.make_eq_ok_iff {breakpoints : List Breakpoint} {m : ThresholdMapping} :
    make property field breakpoints = .ok m ↔
      ∃ checked, checkField field = .ok checked ∧ breakpoints ≠ [] ∧
        (∀ b ∈ breakpoints, b.value.isFinite) ∧
        m = ⟨property, checked, breakpoints.mergeSort Breakpoint.before⟩ := by
  rw [make, bind_eq_ok_iff]
  refine exists_congr fun checked => and_congr_right fun _ => ?_
  dsimp only
  split
  · next hnil =>
    refine iff_of_false nofun ?_
    rintro ⟨hne, _⟩
    exact hne (List.isEmpty_iff.mp hnil)
  · next hne =>
    have hne : breakpoints ≠ [] := fun hnil => hne (List.isEmpty_iff.mpr hnil)
    split
    · next bad hfind =>
      refine iff_of_false nofun ?_
      rintro ⟨_, hfinite, _⟩
      have hbad := List.find?_some hfind
      simp [hfinite bad (List.mem_of_find?_eq_some hfind)] at hbad
    · next hfind =>
      have hfinite : ∀ b ∈ breakpoints, b.value.isFinite := by
        intro b hb
        simpa using List.find?_eq_none.mp hfind b hb
      constructor
      · intro h
        exact ⟨hne, hfinite, (Except.ok.inj h).symm⟩
      · rintro ⟨_, _, rfl⟩
        rfl

end Cartouche
