/-
RealmAccess.Proofs.Matrix.Load — the loaded matrix holds what its rows say.

`Matrix.load` folds the rows into four nested tables. Looked up at one
realm, group and action, that fold is a fold of `addTargets` over the rows
that name these three and over no others (`grants_load`), so a row that
names something else cannot leak in. What a fold of `addTargets` holds is
then read off row by row: `contains_load` for the target realms, and
`holds_load` for the target groups under one target realm. A target group
counts only under the target realm of its own row, which is what keeps two
rows from being combined.
-/
import RealmAccess.Matrix.Reach

namespace RealmAccess

namespace Rule

/-- The row is about an action of the members of a group of a realm. -/
def Names (rule : Rule) (realm group action : String) : Prop :=
  rule.userRealm = realm ∧ rule.userGroup = group ∧ rule.action = action

instance (rule : Rule) (realm group action : String) : Decidable (rule.Names realm group action) :=
  inferInstanceAs (Decidable (_ ∧ _ ∧ _))

end Rule

namespace Grants

/-- Whether a target group is listed under a target realm. -/
def holds (grants : Grants) (realm group : Key) : Bool :=
  (grants.find? realm).any (·.contains group)

end Grants

namespace Matrix

/-! ## One row -/

/-- A row adds its target realm, and no other. -/
theorem contains_addTargets (grants : Grants) (rule : Rule) (k : Key) :
    (addTargets grants rule).contains k = true ↔
      grants.contains k = true ∨ rule.targetRealm.map Key.parse = some k := by
  unfold addTargets
  cases rule.targetRealm with
  | none => simp
  | some t =>
    simp only [Table.contains, Table.find?_upsert, Option.map_some, Option.some.injEq]
    by_cases h : k = Key.parse t
    · simp [h]
    · simp [h, Ne.symm h]

/-- A row adds its target group under its target realm, and no other. -/
theorem holds_addTargets (grants : Grants) (rule : Rule) (k g : Key) :
    (addTargets grants rule).holds k g = true ↔
      grants.holds k g = true ∨
        rule.targetRealm.map Key.parse = some k ∧ rule.targetGroup.map Key.parse = some g := by
  unfold addTargets
  cases rule.targetRealm with
  | none => simp
  | some t =>
    simp only [Grants.holds, Table.find?_upsert, Option.map_some, Option.some.injEq]
    by_cases h : k = Key.parse t
    · subst h
      cases rule.targetGroup with
      | none => simp [Table.contains_getD]
      | some g' =>
        simp only [if_true, Option.any_some, Table.contains_insert, Table.contains_getD,
          Option.map_some, Option.some.injEq, true_and]
        rw [or_comm, eq_comm (a := g)]
    · simp [h, Ne.symm h]

/-! ## Looking a row up

The lookups below take the four-level table bare: the number of rows plays no part in them. -/

/-- The rights of a group of a realm. -/
def rightsIn (realms : Table String (Table String GroupRights)) (realm group : String) :
    Option GroupRights :=
  (realms.find? realm).bind (·.find? group)

/-- The grants of an action of a group of a realm. -/
def grantsIn (realms : Table String (Table String GroupRights)) (realm group action : String) :
    Option Grants :=
  (rightsIn realms realm group).bind (·.find? action)

/-- A row changes the rights of its own group of its own realm only. -/
theorem rightsIn_addRule (realms : Table String (Table String GroupRights)) (rule : Rule)
    (realm group : String) :
    rightsIn (addRule realms rule) realm group =
      if rule.userRealm = realm ∧ rule.userGroup = group then
        some (((rightsIn realms realm group).getD ∅).upsert rule.action fun grants =>
          addTargets (grants.getD ∅) rule)
      else rightsIn realms realm group := by
  unfold rightsIn addRule
  rw [Table.find?_upsert]
  by_cases hr : realm = rule.userRealm
  · subst hr
    rw [if_pos rfl, Option.bind_some, Table.find?_upsert]
    by_cases hg : group = rule.userGroup
    · subst hg
      simp [Table.find?_getD]
    · simp [hg, Ne.symm hg, Table.find?_getD]
  · simp [hr, Ne.symm hr]

/-- What a row makes of the grants of an action: nothing else, if it names others. -/
def addNamed (realm group action : String) (grants : Option Grants) (rule : Rule) : Option Grants :=
  if rule.Names realm group action then some (addTargets (grants.getD ∅) rule) else grants

/-- A row changes the grants it names only. -/
theorem grantsIn_addRule (realms : Table String (Table String GroupRights)) (rule : Rule)
    (realm group action : String) :
    grantsIn (addRule realms rule) realm group action =
      addNamed realm group action (grantsIn realms realm group action) rule := by
  unfold grantsIn addNamed
  rw [rightsIn_addRule]
  by_cases h : rule.Names realm group action
  · obtain ⟨rfl, rfl, rfl⟩ := h
    rw [if_pos ⟨rfl, rfl⟩, if_pos ⟨rfl, rfl, rfl⟩, Option.bind_some, Table.find?_upsert_self,
      Table.find?_getD]
  · rw [if_neg h]
    split
    · rename_i hrg
      have ha : action ≠ rule.action := fun e => h ⟨hrg.1, hrg.2, e.symm⟩
      rw [Option.bind_some, Table.find?_upsert_ne _ ha, Table.find?_getD]
    · rfl

/-! ## All rows -/

theorem grantsIn_foldl (realm group action : String) : ∀ (rules : List Rule)
    (realms : Table String (Table String GroupRights)),
    grantsIn (rules.foldl addRule realms) realm group action =
      rules.foldl (addNamed realm group action) (grantsIn realms realm group action)
  | [], _ => rfl
  | rule :: rest, realms => by
      rw [List.foldl_cons, List.foldl_cons, grantsIn_foldl realm group action rest,
        grantsIn_addRule]

/-- The loaded grants are what the rows that name them add up to. -/
theorem grants_load (rules : List Rule) (realm group action : String) :
    (load rules).grants realm group action = rules.foldl (addNamed realm group action) none :=
  grantsIn_foldl realm group action rules ∅

/-- A property of grants that rows bring about one by one is brought about by some row that names
the grants. -/
theorem any_foldl_addNamed {p : Grants → Bool} {q : Rule → Prop}
    (hadd : ∀ grants rule, p (addTargets grants rule) = true ↔ p grants = true ∨ q rule)
    (hempty : p ∅ = false) (realm group action : String) :
    ∀ (rules : List Rule) (grants : Option Grants),
      (rules.foldl (addNamed realm group action) grants).any p = true ↔
        grants.any p = true ∨ ∃ rule ∈ rules, rule.Names realm group action ∧ q rule
  | [], grants => by simp
  | rule :: rest, grants => by
      rw [List.foldl_cons, any_foldl_addNamed hadd hempty realm group action rest]
      have hrule : (addNamed realm group action grants rule).any p = true ↔
          grants.any p = true ∨ rule.Names realm group action ∧ q rule := by
        unfold addNamed
        split
        · rename_i h
          cases grants <;> simp [hadd, hempty, h]
        · rename_i h
          simp [h]
      rw [hrule]
      simp only [List.mem_cons, exists_eq_or_imp, or_assoc]

theorem isSome_foldl_addNamed (realm group action : String) :
    ∀ (rules : List Rule) (grants : Option Grants),
      (rules.foldl (addNamed realm group action) grants).isSome = true ↔
        grants.isSome = true ∨ ∃ rule ∈ rules, rule.Names realm group action
  | [], grants => by simp
  | rule :: rest, grants => by
      rw [List.foldl_cons, isSome_foldl_addNamed realm group action rest]
      have hrule : (addNamed realm group action grants rule).isSome = true ↔
          grants.isSome = true ∨ rule.Names realm group action := by
        unfold addNamed
        split <;> simp [*]
      rw [hrule]
      simp only [List.mem_cons, exists_eq_or_imp, or_assoc]

/-- Loaded grants are there if some row names them, with targets or without. -/
theorem isSome_grants_load (rules : List Rule) (realm group action : String) :
    ((load rules).grants realm group action).isSome = true ↔
      ∃ rule ∈ rules, rule.Names realm group action := by
  rw [grants_load, isSome_foldl_addNamed]
  simp

theorem isSome_rightsIn_foldl (realm group : String) : ∀ (rules : List Rule)
    (realms : Table String (Table String GroupRights)),
    (rightsIn (rules.foldl addRule realms) realm group).isSome = true ↔
      (rightsIn realms realm group).isSome = true ∨
        ∃ rule ∈ rules, rule.userRealm = realm ∧ rule.userGroup = group
  | [], realms => by simp
  | rule :: rest, realms => by
      rw [List.foldl_cons, isSome_rightsIn_foldl realm group rest, rightsIn_addRule]
      simp only [List.mem_cons, exists_eq_or_imp, ← or_assoc]
      split <;> simp [*]

/-- A group has rights once loaded if some row is about it, with an action that it grants or not. -/
theorem isSome_groupRights_load (rules : List Rule) (realm group : String) :
    ((load rules).groupRights realm group).isSome = true ↔
      ∃ rule ∈ rules, rule.userRealm = realm ∧ rule.userGroup = group := by
  refine (isSome_rightsIn_foldl realm group rules ∅).trans ?_
  have hempty : rightsIn ∅ realm group = none := rfl
  simp [hempty]

/-- The target realms of loaded grants are those of the rows that name the grants. -/
theorem contains_load (rules : List Rule) (realm group action : String) (k : Key) :
    ((load rules).grants realm group action).any (·.contains k) = true ↔
      ∃ rule ∈ rules, rule.Names realm group action ∧ rule.targetRealm.map Key.parse = some k := by
  rw [grants_load, any_foldl_addNamed (fun grants rule => contains_addTargets grants rule k) rfl]
  simp

/-- The target groups of loaded grants are those of the rows that name the grants, each under the
target realm of its own row. -/
theorem holds_load (rules : List Rule) (realm group action : String) (k g : Key) :
    ((load rules).grants realm group action).any (·.holds k g) = true ↔
      ∃ rule ∈ rules, rule.Names realm group action ∧
        rule.targetRealm.map Key.parse = some k ∧ rule.targetGroup.map Key.parse = some g := by
  rw [grants_load, any_foldl_addNamed (fun grants rule => holds_addTargets grants rule k g) rfl]
  simp

/-! ## Keys as they are written

A loaded key was read from a name, so it is the key that its token reads as. -/

theorem parse_token_of_contains {rules : List Rule} {realm group action : String} {grants : Grants}
    {k : Key} (hgrants : (load rules).grants realm group action = some grants)
    (h : grants.contains k = true) : Key.parse k.token = k := by
  have hload := contains_load rules realm group action k
  rw [hgrants, Option.any_some] at hload
  obtain ⟨rule, -, -, hk⟩ := hload.mp h
  obtain ⟨t, -, rfl⟩ := Option.map_eq_some_iff.mp hk
  rw [Key.token_parse]

theorem parse_token_of_holds {rules : List Rule} {realm group action : String} {grants : Grants}
    {k g : Key} (hgrants : (load rules).grants realm group action = some grants)
    (h : grants.holds k g = true) : Key.parse k.token = k ∧ Key.parse g.token = g := by
  have hload := holds_load rules realm group action k g
  rw [hgrants, Option.any_some] at hload
  obtain ⟨rule, -, -, hk, hg⟩ := hload.mp h
  obtain ⟨t, -, rfl⟩ := Option.map_eq_some_iff.mp hk
  obtain ⟨s, -, rfl⟩ := Option.map_eq_some_iff.mp hg
  rw [Key.token_parse, Key.token_parse]
  exact ⟨rfl, rfl⟩

end Matrix

end RealmAccess
