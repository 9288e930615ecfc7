/-
RealmAccess.Proofs.Action.Conformity — what a rule without a violation is.

A registry made of a list of declarations holds those declarations and
nothing else, each under its own name (`get?_registerAll`), and there is one
if the names differ (`exists_registerAll`). A rule without a violation names
its actor and a registered action, and has exactly the targets that the
action's scope asks for (`violation_eq_none`). Of some rules, the violations
are listed with the rules' positions, in ascending order (`mem_violations`,
`pairwise_violations`).
-/
import RealmAccess.Action.Violation

namespace RealmAccess

/-- The targets of a rule are those of a scope. -/
def Rule.Fits (rule : Rule) : Scope → Prop
  | .global => rule.targetRealm = some anyToken ∧ rule.targetGroup = none
  | .realm => rule.targetRealm.isSome = true ∧ rule.targetGroup = none
  | .group => rule.targetRealm.isSome = true ∧ rule.targetGroup.isSome = true

/-- Whatever the scope, a fitting rule has a target realm. -/
theorem Rule.Fits.targetRealm {rule : Rule} {scope : Scope} (h : rule.Fits scope) :
    ∃ t, rule.targetRealm = some t := by
  cases scope with
  | global => exact ⟨anyToken, h.1⟩
  | realm => exact Option.isSome_iff_exists.mp h.1
  | group => exact Option.isSome_iff_exists.mp h.1

namespace Registry

/-! ## Declarations -/

theorem get?_eq_some {r : Registry} {name : String} {a : Action} :
    r.get? name = some a ↔ r.scopes.find? name = some a.scope ∧ a.name = name := by
  obtain ⟨n, scope⟩ := a
  simp only [get?, Option.map_eq_some_iff, Action.mk.injEq]
  constructor
  · rintro ⟨s, hs, rfl, rfl⟩
    exact ⟨hs, rfl⟩
  · rintro ⟨hs, rfl⟩
    exact ⟨scope, hs, rfl, rfl⟩

theorem register_eq_ok {r r' : Registry} {a : Action} :
    r.register a = .ok r' ↔
      r.scopes.find? a.name = none ∧ r' = ⟨r.scopes.insert a.name a.scope⟩ := by
  unfold register register?
  cases r.scopes.find? a.name <;> simp [eq_comm]

/-- A registration adds one action under a new name. -/
theorem get?_register {r r' : Registry} {a b : Action} {name : String}
    (h : r.register a = .ok r') :
    r'.get? name = some b ↔ r.get? name = some b ∨ b = a ∧ b.name = name := by
  obtain ⟨hfree, rfl⟩ := register_eq_ok.mp h
  rw [get?_eq_some, get?_eq_some, Table.find?_insert]
  by_cases hname : name = a.name
  · subst hname
    obtain ⟨bname, bscope⟩ := b
    obtain ⟨aname, ascope⟩ := a
    simp only [if_true, hfree, Option.some.injEq, reduceCtorEq, false_and, false_or,
      Action.mk.injEq]
    constructor
    · rintro ⟨rfl, rfl⟩
      exact ⟨⟨rfl, rfl⟩, rfl⟩
    · rintro ⟨⟨rfl, rfl⟩, -⟩
      exact ⟨rfl, rfl⟩
  · rw [if_neg hname]
    refine ⟨.inl, ?_⟩
    rintro (hold | ⟨rfl, hb⟩)
    · exact hold
    · exact absurd hb.symm hname

/-- Declarations are registered one after the other. -/
theorem registerAll_cons_eq_ok {r r' : Registry} {a : Action} {rest : List Action} :
    r.registerAll (a :: rest) = .ok r' ↔
      ∃ r₁, r.register a = .ok r₁ ∧ r₁.registerAll rest = .ok r' := by
  rw [registerAll]
  cases r.register a <;> simp

/-- **The registry of some declarations holds them and nothing else.** -/
theorem get?_registerAll {b : Action} {name : String} :
    ∀ (actions : List Action) {r r' : Registry}, r.registerAll actions = .ok r' →
      (r'.get? name = some b ↔ r.get? name = some b ∨ b ∈ actions ∧ b.name = name)
  | [], r, r', h => by
      rw [registerAll, Except.ok.injEq] at h
      simp [h]
  | a :: rest, r, r', h => by
      obtain ⟨r₁, ha, hrest⟩ := registerAll_cons_eq_ok.mp h
      rw [get?_registerAll rest hrest, get?_register ha, List.mem_cons, or_assoc, or_and_right]

/-! ## Refused declarations -/

theorem get?_eq_none {r : Registry} {name : String} :
    r.get? name = none ↔ r.scopes.find? name = none := Option.map_eq_none_iff

theorem exists_register {r : Registry} {a : Action} :
    (∃ r', r.register a = .ok r') ↔ r.get? a.name = none := by
  simp only [register_eq_ok, get?_eq_none, exists_and_left, exists_eq, and_true]

theorem register_eq_error {r : Registry} {a : Action} {v : Violation} :
    r.register a = .error v ↔ r.get? a.name ≠ none ∧ v = .duplicateAction a.name := by
  rw [Ne, get?_eq_none]
  unfold register register?
  cases r.scopes.find? a.name <;> simp [eq_comm]

/-- A registration takes a name, and nothing else. -/
theorem get?_register_eq_none {r r' : Registry} {a : Action} {name : String}
    (h : r.register a = .ok r') : r'.get? name = none ↔ name ≠ a.name ∧ r.get? name = none := by
  obtain ⟨-, rfl⟩ := register_eq_ok.mp h
  rw [get?_eq_none, get?_eq_none, Table.find?_insert]
  by_cases hname : name = a.name <;> simp [hname]

theorem size_register {r r' : Registry} {a : Action} (h : r.register a = .ok r') :
    r'.size = r.size + 1 := by
  obtain ⟨hfree, rfl⟩ := register_eq_ok.mp h
  exact Table.size_insert hfree a.scope

/-- Every declaration counts. -/
theorem size_registerAll : ∀ (actions : List Action) {r r' : Registry},
    r.registerAll actions = .ok r' → r'.size = r.size + actions.length
  | [], r, r', h => by
      rw [registerAll, Except.ok.injEq] at h
      simp [h]
  | a :: rest, r, r', h => by
      obtain ⟨r₁, ha, hrest⟩ := registerAll_cons_eq_ok.mp h
      rw [size_registerAll rest hrest, size_register ha, List.length_cons]
      omega

/-- **Declarations are accepted if their names differ**, and none of them is taken. -/
theorem exists_registerAll : ∀ (actions : List Action) {r : Registry},
    (∃ r', r.registerAll actions = .ok r') ↔
      (actions.map Action.name).Nodup ∧ ∀ a ∈ actions, r.get? a.name = none
  | [], r => by simp [registerAll]
  | a :: rest, r => by
      rw [registerAll]
      split
      · rename_i v hregister
        simp [(register_eq_error.mp hregister).1]
      · rename_i r₁ hregister
        have hfree : r.get? a.name = none := exists_register.mp ⟨r₁, hregister⟩
        simp only [exists_registerAll rest, get?_register_eq_none hregister, List.map_cons,
          List.nodup_cons, List.mem_map, not_exists, not_and, List.forall_mem_cons, hfree,
          true_and]
        constructor
        · rintro ⟨hnodup, hall⟩
          exact ⟨⟨fun b hb => (hall b hb).1, hnodup⟩, fun b hb => (hall b hb).2⟩
        · rintro ⟨⟨hne, hnodup⟩, hall⟩
          exact ⟨hnodup, fun b hb => ⟨hne b hb, hall b hb⟩⟩

/-- Refused declarations are refused at one of them, after those before it. -/
theorem exists_of_registerAll_error {v : Violation} : ∀ (actions : List Action) {r : Registry},
    r.registerAll actions = .error v → ∃ before a after r', actions = before ++ a :: after ∧
      r.registerAll before = .ok r' ∧ r'.register a = .error v
  | [], r, h => by
      rw [registerAll] at h
      cases h
  | a :: rest, r, h => by
      rw [registerAll] at h
      split at h
      · rename_i hregister
        rw [Except.error.injEq] at h
        exact ⟨[], a, rest, r, rfl, rfl, h ▸ hregister⟩
      · rename_i r₁ hregister
        obtain ⟨before, b, after, r', rfl, hbefore, hb⟩ := exists_of_registerAll_error rest h
        exact ⟨a :: before, b, after, r', rfl,
          registerAll_cons_eq_ok.mpr ⟨r₁, hregister, hbefore⟩, hb⟩

/-! ## Rules -/

theorem targetViolation_eq_none {action : Action} {rule : Rule} :
    targetViolation action rule = none ↔ rule.Fits action.scope := by
  unfold targetViolation Rule.Fits
  cases action.scope with
  | global => simp
  | realm => cases rule.targetRealm <;> simp
  | group => cases rule.targetRealm <;> cases rule.targetGroup <;> simp

/-- **A rule without a violation** names an actor and a registered action, and its targets fit the
action's scope. -/
theorem violation_eq_none {r : Registry} {rule : Rule} :
    r.violation rule = none ↔ rule.userRealm ≠ "" ∧ rule.userGroup ≠ "" ∧
      ∃ action, r.get? rule.action = some action ∧ rule.Fits action.scope := by
  unfold violation
  by_cases hrealm : rule.userRealm = ""
  · simp [hrealm]
  by_cases hgroup : rule.userGroup = ""
  · simp [hrealm, hgroup]
  rw [if_neg hrealm, if_neg hgroup]
  cases r.get? rule.action with
  | none => simp
  | some action => simp [hrealm, hgroup, targetViolation_eq_none]

/-- The violations are those of the rules in their order, each beside its position. -/
theorem violationsFrom_eq_filterMap {r : Registry} : ∀ (rules : List Rule) (index : Nat),
    r.violationsFrom index rules =
      (rules.zipIdx index).filterMap fun e => (r.violation e.1).map (e.2, ·)
  | [], _ => rfl
  | rule :: rest, index => by
      rw [violationsFrom, violationsFrom_eq_filterMap rest, List.zipIdx_cons, List.filterMap_cons]
      cases r.violation rule <;> rfl

theorem mem_violations {r : Registry} {rules : List Rule} {index : Nat} {v : Violation} :
    (index, v) ∈ r.violations rules ↔
      ∃ rule, rules[index]? = some rule ∧ r.violation rule = some v := by
  simp only [violations, violationsFrom_eq_filterMap, List.mem_filterMap, Option.map_eq_some_iff,
    Prod.mk.injEq, Prod.exists, List.mk_mem_zipIdx_iff_getElem?]
  constructor
  · rintro ⟨rule, i, hrule, w, hw, rfl, rfl⟩
    exact ⟨rule, hrule, hw⟩
  · rintro ⟨rule, hrule, hv⟩
    exact ⟨rule, index, hrule, v, hv, rfl, rfl⟩

/-- Violations are listed by ascending position, at most one for each. -/
theorem pairwise_violations (r : Registry) (rules : List Rule) :
    (r.violations rules).Pairwise fun e f => e.1 < f.1 := by
  have hpositions : rules.zipIdx.Pairwise fun e f => e.2 < f.2 := by
    rw [← List.pairwise_map (f := Prod.snd) (R := (· < ·)), List.zipIdx_map_snd]
    exact List.pairwise_lt_range'
  rw [violations, violationsFrom_eq_filterMap]
  refine hpositions.filterMap _ ?_
  intro e f hlt a ha b hb
  obtain ⟨v, -, rfl⟩ := Option.map_eq_some_iff.mp ha
  obtain ⟨w, -, rfl⟩ := Option.map_eq_some_iff.mp hb
  exact hlt

/-- No violations are listed if no rule has one. -/
theorem violations_eq_nil {r : Registry} {rules : List Rule} :
    r.violations rules = [] ↔ ∀ rule ∈ rules, r.violation rule = none := by
  constructor
  · intro hnil rule hrule
    cases hv : r.violation rule with
    | none => rfl
    | some v =>
      obtain ⟨index, hindex⟩ := List.mem_iff_getElem?.mp hrule
      have hmem : (index, v) ∈ r.violations rules := mem_violations.mpr ⟨rule, hindex, hv⟩
      rw [hnil] at hmem
      cases hmem
  · intro hnone
    rw [List.eq_nil_iff_forall_not_mem]
    rintro ⟨index, v⟩ hmem
    obtain ⟨rule, hindex, hv⟩ := mem_violations.mp hmem
    rw [hnone rule (List.mem_of_getElem? hindex)] at hv
    cases hv

end Registry

end RealmAccess
