/-
RealmAccess.Proofs.Matrix.Rows — a loaded matrix is the set of its rows.

Every level of the matrix shows which rows there are and shows nothing else:
a realm, a group or an action is there if a row names it, a target realm if
such a row has it, and a target group if such a row has both. A level that is
made on the way stays although nothing may come to stand below it, and a later
row adds to what earlier ones left (`load_represents_rows`).

Tables with equal lookups are equal, so rows that show alike at every level
make one matrix. `realms_load_congr` goes up the levels from the target groups
to the realms, and what it asks of two lists of rows is that they have the same
members. Only the count of the rows tells how often a row was given.
-/
import Mathlib.Data.List.Dedup
import RealmAccess.Proofs.Matrix.Load

namespace RealmAccess

namespace Matrix

/-! ## Realms -/

theorem contains_foldl_addRule (realm : String) : ∀ (rules : List Rule)
    (realms : Table String (Table String GroupRights)),
    (rules.foldl addRule realms).contains realm = true ↔
      realms.contains realm = true ∨ ∃ rule ∈ rules, rule.userRealm = realm
  | [], realms => by simp
  | rule :: rest, realms => by
      have hrule : (addRule realms rule).contains realm = true ↔
          realms.contains realm = true ∨ rule.userRealm = realm := by
        rw [addRule, Table.upsert, Table.contains_insert, or_comm, eq_comm (a := realm)]
      rw [List.foldl_cons, contains_foldl_addRule realm rest, hrule, or_assoc]
      simp only [List.mem_cons, exists_eq_or_imp]

/-- The realms with rights are those of the rows. -/
theorem contains_realms_load (rules : List Rule) (realm : String) :
    (load rules).realms.contains realm = true ↔ ∃ rule ∈ rules, rule.userRealm = realm := by
  have hempty : (∅ : Table String (Table String GroupRights)).contains realm = false := rfl
  simp [load, contains_foldl_addRule, hempty]

/-- There are as many realms with rights as different realms among the rows. -/
theorem realmCount_load (rules : List Rule) :
    (load rules).realmCount = (rules.map Rule.userRealm).dedup.length := by
  have hperm : (load rules).realms.keys.Perm (rules.map Rule.userRealm).dedup := by
    rw [List.perm_ext_iff_of_nodup (Table.nodup_keys _) (List.nodup_dedup _)]
    intro realm
    rw [Table.mem_keys, contains_realms_load, List.mem_dedup, List.mem_map]
  rw [← hperm.length_eq, realmCount, Table.size, Table.keys, List.length_map]

theorem isEmpty_load (rules : List Rule) : (load rules).isEmpty = true ↔ rules = [] := by
  constructor
  · intro h
    cases rules with
    | nil => rfl
    | cons rule rest =>
      have hrealm := (contains_realms_load (rule :: rest) rule.userRealm).mpr
        ⟨rule, List.mem_cons_self, rfl⟩
      have hentries := List.isEmpty_iff.mp h
      rw [Table.contains, Table.find?, hentries] at hrealm
      cases hrealm
  · rintro rfl
    rfl

/-! ## Rows with the same members -/

theorem eq_of_isSome_eq {a b : Option Unit} (h : a.isSome = b.isSome) : a = b := by
  cases a <;> cases b
  · rfl
  · cases h
  · cases h
  · rfl

section

variable {rules rules' : List Rule}

theorem exists_mem_congr (h : ∀ rule, rule ∈ rules ↔ rule ∈ rules') (p : Rule → Prop) :
    (∃ rule ∈ rules, p rule) ↔ ∃ rule ∈ rules', p rule :=
  exists_congr fun rule => and_congr_left' (h rule)

/-- The target groups under one target realm. Each is there with nothing more to it. -/
theorem targetGroups_load_congr (h : ∀ rule, rule ∈ rules ↔ rule ∈ rules')
    (realm group action : String) (k : Key) :
    ((load rules).grants realm group action).bind (·.find? k) =
      ((load rules').grants realm group action).bind (·.find? k) := by
  have hcontains : ∀ l : List Rule,
      (((load l).grants realm group action).bind (·.find? k)).isSome =
        ((load l).grants realm group action).any (·.contains k) := by
    intro l
    cases (load l).grants realm group action <;> rfl
  have hholds : ∀ (l : List Rule) (g : Key),
      ((((load l).grants realm group action).bind (·.find? k)).bind (·.find? g)).isSome =
        ((load l).grants realm group action).any (·.holds k g) := by
    intro l g
    cases (load l).grants realm group action with
    | none => rfl
    | some grants =>
      rw [Option.bind_some, Option.any_some, Grants.holds]
      cases grants.find? k <;> rfl
  refine Table.ext_bind_find? ?_ fun g => eq_of_isSome_eq ?_
  · rw [hcontains, hcontains, Bool.eq_iff_iff, contains_load, contains_load]
    exact exists_mem_congr h _
  · rw [hholds, hholds, Bool.eq_iff_iff, holds_load, holds_load]
    exact exists_mem_congr h _

/-- The grants of one action. -/
theorem grants_load_congr (h : ∀ rule, rule ∈ rules ↔ rule ∈ rules')
    (realm group action : String) :
    (load rules).grants realm group action = (load rules').grants realm group action := by
  refine Table.ext_bind_find? ?_ (targetGroups_load_congr h realm group action)
  rw [Bool.eq_iff_iff, isSome_grants_load, isSome_grants_load]
  exact exists_mem_congr h _

/-- The rights of one group. -/
theorem groupRights_load_congr (h : ∀ rule, rule ∈ rules ↔ rule ∈ rules') (realm group : String) :
    (load rules).groupRights realm group = (load rules').groupRights realm group := by
  refine Table.ext_bind_find? ?_ (grants_load_congr h realm group)
  rw [Bool.eq_iff_iff, isSome_groupRights_load, isSome_groupRights_load]
  exact exists_mem_congr h _

/-- Rows with the same members make the same levels, in whatever order and however often they are
given. -/
theorem realms_load_congr (h : ∀ rule, rule ∈ rules ↔ rule ∈ rules') :
    (load rules).realms = (load rules').realms := by
  refine Table.ext_find? fun realm => Table.ext_bind_find? ?_ (groupRights_load_congr h realm)
  have hrealm := exists_mem_congr h (·.userRealm = realm)
  rw [← contains_realms_load, ← contains_realms_load, ← Bool.eq_iff_iff] at hrealm
  exact hrealm

end

/-! ## Main statement -/

/-- **A loaded matrix represents the set of its rows.** Rights of a group, grants of an action, a
target realm among the grants and a target group under a target realm are there just if a row brings
them, the targets read as keys; a target group without a target realm brings nothing. The realms are
counted once each and the rows as often as given, and only the matrix of no rows is empty. So rows
that are reordered or repeated change the count of rows and nothing else. -/
theorem load_represents_rows (rules : List Rule) :
    let m := load rules
    (∀ realm group, (∃ rights, m.groupRights realm group = some rights) ↔
      ∃ rule ∈ rules, rule.userRealm = realm ∧ rule.userGroup = group) ∧
    (∀ realm group action, (∃ grants, m.grants realm group action = some grants) ↔
      ∃ rule ∈ rules, rule.userRealm = realm ∧ rule.userGroup = group ∧ rule.action = action) ∧
    (∀ realm group action k,
      (∃ grants, m.grants realm group action = some grants ∧ grants.contains k = true) ↔
        ∃ rule ∈ rules, (rule.userRealm = realm ∧ rule.userGroup = group ∧ rule.action = action) ∧
          ∃ t, rule.targetRealm = some t ∧ Key.parse t = k) ∧
    (∀ realm group action k g,
      (∃ grants groups, m.grants realm group action = some grants ∧ grants.find? k = some groups ∧
          groups.contains g = true) ↔
        ∃ rule ∈ rules, (rule.userRealm = realm ∧ rule.userGroup = group ∧ rule.action = action) ∧
          (∃ t, rule.targetRealm = some t ∧ Key.parse t = k) ∧
          ∃ s, rule.targetGroup = some s ∧ Key.parse s = g) ∧
    m.realmCount = (rules.map Rule.userRealm).dedup.length ∧
    m.ruleCount = rules.length ∧
    (m.isEmpty = true ↔ rules = []) ∧
    ∀ rules' : List Rule, (∀ rule, rule ∈ rules' ↔ rule ∈ rules) →
      load rules' = { m with ruleCount := rules'.length } := by
  intro m
  refine ⟨?_, ?_, ?_, ?_, realmCount_load rules, rfl, isEmpty_load rules, ?_⟩
  · intro realm group
    rw [← Option.isSome_iff_exists]
    exact isSome_groupRights_load rules realm group
  · intro realm group action
    rw [← Option.isSome_iff_exists]
    exact isSome_grants_load rules realm group action
  · intro realm group action k
    have hload := contains_load rules realm group action k
    simp only [Option.any_eq_true, Option.map_eq_some_iff] at hload
    exact hload
  · intro realm group action k g
    have hload := holds_load rules realm group action k g
    simp only [Grants.holds, Option.any_eq_true, Option.map_eq_some_iff] at hload
    simp only [exists_and_left]
    exact hload
  · intro rules' h
    have hrealms : (load rules').realms = m.realms := realms_load_congr h
    rw [← hrealms]
    rfl

/-- A row given twice and rows given backwards make the same realms, of which there are two. -/
theorem load_of_rows_backwards :
    let rows : List Rule := [⟨"r", "g", "a", some "*", some "/"⟩, ⟨"r", "g", "a", none, some "x"⟩,
      ⟨"s", "g", "a", some "dep", none⟩]
    let m := load rows
    m.realmCount = 2 ∧ load (rows.reverse ++ rows) = { m with ruleCount := 6 } ∧
      ¬ ∃ grants groups, m.grants "r" "g" "a" = some grants ∧ grants.find? .wildcard = some groups ∧
        groups.contains (.exact "x") = true := by
  intro rows m
  obtain ⟨-, -, -, hgroups, hcount, -, -, hsame⟩ := load_represents_rows rows
  refine ⟨hcount.trans (by decide), hsame _ (by simp), ?_⟩
  rw [hgroups]
  decide

end Matrix

end RealmAccess
