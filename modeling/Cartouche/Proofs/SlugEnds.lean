import Cartouche.Proofs.LinkPass
import Cartouche.Proofs.Slugs

/-!
Ends of edges that are written as slugs. An end reaches the same node by the slug of a text as by
the text itself, save where the text has a dotted I: then the two have derived ids of their own.
-/
namespace Cartouche
open Text

/-- Two ends were taken for one node, or both stayed as they were written. -/
def LinkedAlike (elements : List Element) (v v' w w' : String) : Prop :=
  (w = w' ∧ IsNodeId elements w) ∨ (w = v ∧ w' = v')

variable {template v w w' : String} {elements : List Element}

theorem derivedId_slug_iff (template v : String) :
    derivedId template (slug v) = derivedId template v ↔ dottedI ∉ v.toList := by
  rw [derivedId, derivedId, String.append_right_inj, slug_slug_iff]

/-- An end that names no node is taken for the node with its derived id, if there is one. -/
theorem EndLinked.of_not_named (h : EndLinked template elements v w) (hv : ¬IsNodeId elements v) :
    IsNodeId elements (derivedId template v) ∧ w = derivedId template v ∨
      ¬IsNodeId elements (derivedId template v) ∧ w = v := by
  cases h with
  | named h => exact absurd h hv
  | derived _ hd => exact Or.inl ⟨hd, rfl⟩
  | external _ hd => exact Or.inr ⟨hd, rfl⟩

/-- Of two ends that name no node, a text and its slug, both go the same way where they have one
derived id, or where neither of their derived ids is that of a node. -/
theorem linkedAlike_slug_iff (hv : ¬IsNodeId elements v) (hslug : ¬IsNodeId elements (slug v))
    (h : EndLinked template elements v w) (h' : EndLinked template elements (slug v) w') :
    LinkedAlike elements v (slug v) w w' ↔ dottedI ∉ v.toList ∨
      ¬IsNodeId elements (derivedId template v) ∧
        ¬IsNodeId elements (derivedId template (slug v)) := by
  rw [← derivedId_slug_iff template, LinkedAlike]
  constructor
  · rintro (⟨rfl, hnode⟩ | ⟨rfl, rfl⟩)
    · -- The node is none of the two texts, and so it was found by the derived id of either.
      obtain ⟨_, hw⟩ | ⟨_, rfl⟩ := h.of_not_named hv
      · obtain ⟨_, hw'⟩ | ⟨_, rfl⟩ := h'.of_not_named hslug
        · exact Or.inl (hw'.symm.trans hw)
        · exact absurd hnode hslug
      · exact absurd hnode hv
    · right
      refine ⟨fun hd => hv ?_, fun hd => hslug ?_⟩
      · obtain ⟨_, hw⟩ | ⟨hnone, _⟩ := h.of_not_named hv
        · rwa [hw]
        · exact absurd hd hnone
      · obtain ⟨_, hw'⟩ | ⟨hnone, _⟩ := h'.of_not_named hslug
        · rwa [hw']
        · exact absurd hd hnone
  · rintro (heq | ⟨hd, hd'⟩)
    · have hsame := h'.of_not_named hslug
      rw [heq] at hsame
      obtain ⟨hnode, rfl⟩ | ⟨hnone, rfl⟩ := h.of_not_named hv
      · obtain ⟨_, rfl⟩ | ⟨hnone, _⟩ := hsame
        · exact Or.inl ⟨rfl, hnode⟩
        · exact absurd hnode hnone
      · obtain ⟨hnode, _⟩ | ⟨_, hw'⟩ := hsame
        · exact absurd hnode hnone
        · exact Or.inr ⟨rfl, hw'⟩
    · obtain ⟨hnode, _⟩ | ⟨_, hw⟩ := h.of_not_named hv
      · exact absurd hnode hd
      · obtain ⟨hnode, _⟩ | ⟨_, hw'⟩ := h'.of_not_named hslug
        · exact absurd hnode hd'
        · exact Or.inr ⟨hw, hw'⟩

namespace Template

/-- A slug is the slug of itself, and has the derived id of its text, exactly where the text has no
dotted I. In every expansion, two ends that read a text and its slug, neither of which is the id of
a node, are linked alike exactly there, or where no node has either of their derived ids. -/
theorem ends_of_slugs_iff (t : Template) (sources : Table (List Value)) (records : List Value)
    (out : Expansion) (v : String) (hs : sources.get? t.source = some records)
    (h : t.expand sources = .ok out) :
    (slug (slug v) = slug v ↔ dottedI ∉ v.toList) ∧
    (derivedId t.id (slug v) = derivedId t.id v ↔ dottedI ∉ v.toList) ∧
    out.elements = (t.emissions records).map Emission.element ∧
    ∀ m ∈ t.emissions records, ∀ m' ∈ t.emissions records, ∀ w w',
      t.EndReads v w m → t.EndReads (slug v) w' m' →
      ¬IsNodeId out.elements v → ¬IsNodeId out.elements (slug v) →
      (LinkedAlike out.elements v (slug v) w w' ↔ dottedI ∉ v.toList ∨
        ¬IsNodeId out.elements (derivedId t.id v) ∧
          ¬IsNodeId out.elements (derivedId t.id (slug v))) := by
  obtain ⟨_, records', hs', _, rfl⟩ := expand_eq_ok_iff.mp h
  obtain rfl : records' = records := Option.some.inj (hs'.symm.trans hs)
  refine ⟨slug_slug_iff, derivedId_slug_iff t.id v, (map_element_emissions t _).symm, ?_⟩
  intro m hm m' hm' w w' hend hend' hv hslug
  have hlinked := endLinked_linkEnd t.id (t.expansion (t.allEvents records')).elements v
  have hlinked' := endLinked_linkEnd t.id (t.expansion (t.allEvents records')).elements (slug v)
  rw [← eq_linkEnd_of_endReads hm hend] at hlinked
  rw [← eq_linkEnd_of_endReads hm' hend'] at hlinked'
  exact linkedAlike_slug_iff hv hslug hlinked hlinked'

/-- Two people below one whom they name in two ways. -/
def ranks (name way : String) : List Value :=
  [person name "", person "B" name, person "C" way]

/-- A name and its slug, and what the ends of edges that read them are linked to. -/
def RanksLinked (name way w w' : String) (ids : List String) : Prop :=
  slug name = way ∧
    (∃ m ∈ chart.emissions (ranks name way), chart.EndReads name w m) ∧
    (∃ m ∈ chart.emissions (ranks name way), chart.EndReads way w' m) ∧
    nodeIds (chart.expansion (chart.allEvents (ranks name way))).elements = ids

instance (name way w w' : String) (ids : List String) :
    Decidable (RanksLinked name way w w' ids) :=
  inferInstanceAs (Decidable (_ ∧ _))

theorem ranks_linked : RanksLinked "A" "a" "t-a" "t-a" ["t-a", "t-b", "t-c"] ∧
    RanksLinked "\u0130" "i\u0307" "t-i\u0307" "i\u0307" ["t-i\u0307", "t-b", "t-c"] ∧
    slug "i\u0307" = "i" := by
  decide +kernel

/-- Whoever is below A is linked to her by her name and by its slug, -/
theorem chart_links_slug : ∃ out m m', chart.expand [("people", ranks "A" "a")] = .ok out ∧
    m ∈ chart.emissions (ranks "A" "a") ∧ m' ∈ chart.emissions (ranks "A" "a") ∧
    chart.EndReads "A" "t-a" m ∧ chart.EndReads "a" "t-a" m' ∧ slug (slug "A") = slug "A" ∧
    LinkedAlike out.elements "A" "a" "t-a" "t-a" := by
  obtain ⟨⟨hslug, ⟨m, hm, hend⟩, ⟨m', hm', hend'⟩, hids⟩, _⟩ := ranks_linked
  obtain ⟨hagain, _, _, halike⟩ := ends_of_slugs_iff chart
    [("people", ranks "A" "a")] (ranks "A" "a") _ "A" rfl rfl
  rw [hslug] at halike
  simp only [← mem_nodeIds_iff, hids] at halike
  have hlinked := (halike m hm m' hm' _ _ hend hend' (by decide) (by decide)).mpr
    (Or.inl (by decide))
  exact ⟨_, m, m', rfl, hm, hm', hend, hend', hagain.mpr (by decide), hlinked⟩

/-- and whoever is below a dotted I is linked to it by its name alone. -/
theorem chart_parts_slug : ∃ out m m',
    chart.expand [("people", ranks "\u0130" "i\u0307")] = .ok out ∧
    m ∈ chart.emissions (ranks "\u0130" "i\u0307") ∧
    m' ∈ chart.emissions (ranks "\u0130" "i\u0307") ∧
    chart.EndReads "\u0130" "t-i\u0307" m ∧ chart.EndReads "i\u0307" "i\u0307" m' ∧
    slug "\u0130" = "i\u0307" ∧ slug "i\u0307" = "i" ∧
    ¬IsNodeId out.elements "\u0130" ∧ ¬IsNodeId out.elements "i\u0307" ∧
    IsNodeId out.elements "t-i\u0307" ∧
    ¬LinkedAlike out.elements "\u0130" "i\u0307" "t-i\u0307" "i\u0307" := by
  obtain ⟨_, ⟨hslug, ⟨m, hm, hend⟩, ⟨m', hm', hend'⟩, hids⟩, hagain⟩ := ranks_linked
  refine ⟨_, m, m', rfl, hm, hm', hend, hend', hslug, hagain, ?_⟩
  simp only [LinkedAlike, ← mem_nodeIds_iff, hids]
  decide

end Template

end Cartouche
