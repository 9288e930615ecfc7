/-
RealmAccess.Proofs.Matrix.Listing — a listing of rights shows the matrix.

What an actor is listed under a group is what the matrix holds for that
group in the actor's realm, entry for entry. A listing thus shows an action
only if some row names it, although not every such row grants something.
-/
import RealmAccess.Proofs.Matrix.Load
import RealmAccess.Ruling.Policy

namespace RealmAccess

/-- The groups listed are those asked about that have rights, each with all its rights. -/
theorem Matrix.find?_rightsOf {m : Matrix} {realm group : String} {groups : List String}
    {rights : GroupRights} :
    (m.rightsOf realm groups).find? group = some rights ↔
      group ∈ groups ∧ m.groupRights realm group = some rights := by
  have hmem : ∀ v, (group, v) ∈ groups.filterMap
      (fun g => (m.groupRights realm g).map (g, ·)) ↔
        group ∈ groups ∧ m.groupRights realm group = some v := by
    intro v
    rw [List.mem_filterMap]
    constructor
    · rintro ⟨g, hg, hmap⟩
      obtain ⟨v', hv', heq⟩ := Option.map_eq_some_iff.mp hmap
      cases heq
      exact ⟨hg, hv'⟩
    · rintro ⟨hg, hv⟩
      exact ⟨group, hg, by rw [hv, Option.map_some]⟩
  constructor
  · intro h
    exact (hmem rights).mp (Table.mem_of_find?_ofList h)
  · intro h
    -- A group may be asked about twice: all its entries hold the same rights.
    obtain ⟨v, hv⟩ := Option.isSome_iff_exists.mp
      (Table.contains_ofList.mpr ⟨rights, (hmem rights).mpr h⟩)
    have hsame := ((hmem v).mp (Table.mem_of_find?_ofList hv)).2
    rw [h.2] at hsame
    exact hv.trans hsame.symm

namespace Policy

theorem find?_rights {p : Policy} {ctx : Context} {group : String} {rights : GroupRights}
    (h : (p.rights ctx).find? group = some rights) :
    ∃ realm, p.matrix.groupRights realm group = some rights := by
  unfold Policy.rights at h
  split at h
  · exact ⟨_, (Matrix.find?_rightsOf.mp h).2⟩
  · cases h

/-- What an action is listed with are the grants of the matrix. -/
theorem grants_of_find?_rights {p : Policy} {ctx : Context} {group action : String}
    {rights : GroupRights} {grants : Grants} (h : (p.rights ctx).find? group = some rights)
    (hgrants : rights.find? action = some grants) :
    ∃ realm, p.matrix.grants realm group action = some grants := by
  obtain ⟨realm, hrights⟩ := find?_rights h
  refine ⟨realm, ?_⟩
  rw [Matrix.grants, hrights]
  exact hgrants

end Policy

end RealmAccess
