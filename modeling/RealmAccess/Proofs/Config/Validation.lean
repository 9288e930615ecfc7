/-
RealmAccess.Proofs.Config.Validation — which settings are accepted, and what is
reported of the others.

Settings are checked in three steps, and the last only if rules are to be
strict: the primary realm has a name, a periodic reload has an interval, and
the rules conform to the declared actions. The last step reads the
declarations into a registry and asks it about every rule; here it is said
without the registry, of the declarations themselves.

The declarations are looked at in that step alone. So settings whose rules are
not strict may declare a name twice, and then the registry of accepted settings
cannot be made.
-/
import RealmAccess.Config.Source
import RealmAccess.Proofs.Action.Conformity

namespace RealmAccess

/-- A rule conforms to some declarations: it names its actor and a declared action, and its targets
are those of that action's scope. -/
structure Rule.ConformsTo (rule : Rule) (actions : List Action) : Prop where
  userRealm : rule.userRealm ≠ ""
  userGroup : rule.userGroup ≠ ""
  fits : ∃ a ∈ actions, a.name = rule.action ∧ rule.Fits a.scope

instance (rule : Rule) : (scope : Scope) → Decidable (rule.Fits scope)
  | .global => inferInstanceAs (Decidable (_ ∧ _))
  | .realm => inferInstanceAs (Decidable (_ ∧ _))
  | .group => inferInstanceAs (Decidable (_ ∧ _))

instance (rule : Rule) (actions : List Action) : Decidable (rule.ConformsTo actions) :=
  decidable_of_iff (rule.userRealm ≠ "" ∧ rule.userGroup ≠ "" ∧
      ∃ a ∈ actions, a.name = rule.action ∧ rule.Fits a.scope)
    ⟨fun ⟨hrealm, hgroup, hfits⟩ => ⟨hrealm, hgroup, hfits⟩,
      fun ⟨hrealm, hgroup, hfits⟩ => ⟨hrealm, hgroup, hfits⟩⟩

theorem Text.allBlank_eq_false {s : String} :
    allBlank s = false ↔ ∃ c ∈ s.toList, isBlank c = false := by
  simp [allBlank]

namespace AuthorizationSettings

/-! ## The registry of the declarations -/

theorem registry_eq_ok {s : AuthorizationSettings} {r : Registry} :
    s.registry = .ok r ↔ Registry.registerAll ∅ s.actions = .ok r := by
  unfold registry
  cases Registry.registerAll ∅ s.actions <;> simp

theorem registry_eq_error {s : AuthorizationSettings} {e : Invalid} :
    s.registry = .error e ↔ ∃ v, Registry.registerAll ∅ s.actions = .error v ∧ e = .action v := by
  unfold registry
  cases Registry.registerAll ∅ s.actions <;> simp [eq_comm]

theorem get?_registry {s : AuthorizationSettings} {r : Registry} (h : s.registry = .ok r)
    {a : Action} {name : String} : r.get? name = some a ↔ a ∈ s.actions ∧ a.name = name := by
  rw [Registry.get?_registerAll s.actions (registry_eq_ok.mp h)]
  simp [Registry.get?, show (∅ : Registry).scopes = ∅ from rfl]

theorem size_registry {s : AuthorizationSettings} {r : Registry} (h : s.registry = .ok r) :
    r.size = s.actions.length := by
  rw [Registry.size_registerAll s.actions (registry_eq_ok.mp h)]
  exact Nat.zero_add _

/-- Declarations make a registry if their names differ. -/
theorem exists_registry {s : AuthorizationSettings} :
    (∃ r, s.registry = .ok r) ↔ (s.actions.map Action.name).Nodup := by
  simp only [registry_eq_ok, Registry.exists_registerAll]
  exact and_iff_left fun a _ => rfl

/-- The first declaration whose name is taken is the one that is refused. -/
theorem registry_of_repeated {s : AuthorizationSettings}
    (h : ¬ (s.actions.map Action.name).Nodup) :
    ∃ before a after, s.actions = before ++ a :: after ∧ (before.map Action.name).Nodup ∧
      a.name ∈ before.map Action.name ∧
      s.registry = .error (.action (.duplicateAction a.name)) := by
  cases hregistry : s.registry with
  | ok r => exact absurd (exists_registry.mp ⟨r, hregistry⟩) h
  | error e =>
    obtain ⟨v, hv, rfl⟩ := registry_eq_error.mp hregistry
    obtain ⟨before, a, after, r, hactions, hbefore, ha⟩ :=
      Registry.exists_of_registerAll_error s.actions hv
    obtain ⟨htaken, rfl⟩ := Registry.register_eq_error.mp ha
    have hnodup := ((Registry.exists_registerAll before).mp ⟨r, hbefore⟩).1
    obtain ⟨b, hb⟩ := Option.ne_none_iff_exists'.mp htaken
    obtain ⟨hmem, hname⟩ :=
      ((Registry.get?_registerAll before hbefore).mp hb).resolve_left (nomatch ·)
    exact ⟨before, a, after, hactions, hnodup, hname ▸ List.mem_map_of_mem hmem, rfl⟩

/-- What a registry finds wrong with rules is that they do not conform to its declarations. -/
theorem violation_registry {s : AuthorizationSettings} {r : Registry} (h : s.registry = .ok r)
    {rule : Rule} : r.violation rule = none ↔ rule.ConformsTo s.actions := by
  rw [Registry.violation_eq_none]
  simp only [get?_registry h]
  constructor
  · rintro ⟨hrealm, hgroup, a, ⟨ha, hname⟩, hfits⟩
    exact ⟨hrealm, hgroup, a, ha, hname, hfits⟩
  · rintro ⟨hrealm, hgroup, a, ha, hname, hfits⟩
    exact ⟨hrealm, hgroup, a, ⟨ha, hname⟩, hfits⟩

/-! ## Validation -/

theorem validateRules_eq_ok {s : AuthorizationSettings} :
    s.validateRules = .ok () ↔
      ∃ r, s.registry = .ok r ∧ ∀ rule ∈ s.rules, r.violation rule = none := by
  unfold validateRules
  cases s.registry with
  | error e => simp
  | ok r =>
    simp only [Except.ok.injEq, exists_eq_left', ← Registry.violations_eq_nil]
    split <;> simp_all

/-- Settings are accepted if none of the three checks has a complaint. -/
theorem validate_eq_ok {s : AuthorizationSettings} :
    s.validate = .ok () ↔ ¬ Text.allBlank s.primaryRealm = true ∧
      ¬ (s.reload.enabled = true ∧ s.reload.intervalSecs = 0) ∧
      (s.strictRules = true → s.validateRules = .ok ()) := by
  unfold validate
  by_cases hrealm : Text.allBlank s.primaryRealm = true
  · simp [hrealm]
  by_cases hinterval : s.reload.enabled = true ∧ s.reload.intervalSecs = 0
  · simp [hrealm, hinterval]
  rw [if_neg hrealm, if_neg hinterval]
  by_cases hstrict : s.strictRules = true
  · rw [if_pos hstrict]
    exact ⟨fun h => ⟨hrealm, hinterval, fun _ => h⟩, fun h => h.2.2 hstrict⟩
  · rw [if_neg hstrict]
    exact ⟨fun _ => ⟨hrealm, hinterval, fun h => absurd h hstrict⟩, fun _ => rfl⟩

/-- Rules with violations are reported if there is nothing else to report. -/
theorem validate_eq_violations {s : AuthorizationSettings} {r : Registry}
    (hrealm : ¬ Text.allBlank s.primaryRealm = true)
    (hinterval : ¬ (s.reload.enabled = true ∧ s.reload.intervalSecs = 0))
    (hstrict : s.strictRules = true) (hr : s.registry = .ok r)
    (hviolations : r.violations s.rules ≠ []) :
    s.validate = .error (.rules (r.violations s.rules)) := by
  rw [validate, if_neg hrealm, if_neg hinterval, if_pos hstrict]
  simp only [validateRules, hr]

/-- The positions of violations are those of the rules that do not conform. -/
theorem mem_positions {s : AuthorizationSettings} {r : Registry} (hr : s.registry = .ok r)
    {index : Nat} : index ∈ (r.violations s.rules).map Prod.fst ↔
      ∃ rule, s.rules[index]? = some rule ∧ ¬ rule.ConformsTo s.actions := by
  rw [List.mem_map]
  constructor
  · rintro ⟨⟨_, v⟩, hmem, rfl⟩
    obtain ⟨rule, hrule, hv⟩ := Registry.mem_violations.mp hmem
    refine ⟨rule, hrule, fun hconforms => ?_⟩
    rw [(violation_registry hr).mpr hconforms] at hv
    cases hv
  · rintro ⟨rule, hrule, hnot⟩
    cases hv : r.violation rule with
    | none => exact absurd ((violation_registry hr).mp hv) hnot
    | some v => exact ⟨(index, v), Registry.mem_violations.mpr ⟨rule, hrule, hv⟩, rfl⟩

/-- Settings that are read from a text have been accepted. -/
theorem validate_of_ofText {env : Environment} {text : String} {t : ServiceSettings}
    (h : ServiceSettings.ofText env text = .ok t) : t.authorization.validate = .ok () := by
  unfold ServiceSettings.ofText at h
  split at h
  · cases h
  · split at h
    · cases h
    · unfold ServiceSettings.checked at h
      split at h
      · rename_i hvalid
        cases h
        exact hvalid
      · cases h

/-! ## Main statements -/

/-- **Settings are accepted if they fit together**: the primary realm has a name that is more than
white space, a periodic reload has an interval, and if rules are strict, the declared names differ
and every rule conforms to the declarations. If nothing but rules is at fault, the report lists the
positions of the rules that do not conform, in ascending order. -/
theorem accepted_iff_fitting (s : AuthorizationSettings) :
    (s.validate = .ok () ↔
      (∃ c ∈ s.primaryRealm.toList, Text.isBlank c = false) ∧
      (s.reload.enabled = false ∨ 0 < s.reload.intervalSecs) ∧
      (s.strictRules = true →
        (s.actions.map Action.name).Nodup ∧ ∀ rule ∈ s.rules, rule.ConformsTo s.actions)) ∧
    ((∃ c ∈ s.primaryRealm.toList, Text.isBlank c = false) →
      (s.reload.enabled = false ∨ 0 < s.reload.intervalSecs) →
      s.strictRules = true → (s.actions.map Action.name).Nodup →
      (∃ rule ∈ s.rules, ¬ rule.ConformsTo s.actions) →
      ∃ violations : List (Nat × Violation),
        s.validate = .error (.rules violations) ∧
        (violations.map Prod.fst).Pairwise (· < ·) ∧
        (∀ index, index ∈ violations.map Prod.fst ↔
          ∃ rule, s.rules[index]? = some rule ∧ ¬ rule.ConformsTo s.actions) ∧
        (Invalid.rules violations).message =
          "Configuration validation error: Invalid authorization rules:\n  - " ++
            "\n  - ".intercalate (violations.map fun e =>
              "rule #" ++ toString e.1 ++ ": " ++ e.2.message)) := by
  have hnamed : ¬ Text.allBlank s.primaryRealm = true ↔
      ∃ c ∈ s.primaryRealm.toList, Text.isBlank c = false := by
    rw [Bool.not_eq_true, Text.allBlank_eq_false]
  have hpaced : ¬ (s.reload.enabled = true ∧ s.reload.intervalSecs = 0) ↔
      s.reload.enabled = false ∨ 0 < s.reload.intervalSecs := by
    rw [Decidable.not_and_iff_not_or_not, Bool.not_eq_true, UInt64.pos_iff_ne_zero]
  constructor
  · rw [validate_eq_ok, hnamed, hpaced, validateRules_eq_ok, ← exists_registry]
    refine and_congr_right fun _ => and_congr_right fun _ => imp_congr_right fun _ => ?_
    constructor
    · rintro ⟨r, hr, hrules⟩
      exact ⟨⟨r, hr⟩, fun rule hrule => (violation_registry hr).mp (hrules rule hrule)⟩
    · rintro ⟨⟨r, hr⟩, hrules⟩
      exact ⟨r, hr, fun rule hrule => (violation_registry hr).mpr (hrules rule hrule)⟩
  · rintro hrealm hinterval hstrict hnames ⟨rule, hrule, hnot⟩
    obtain ⟨r, hr⟩ := exists_registry.mpr hnames
    have hviolations : r.violations s.rules ≠ [] := by
      rw [Ne, Registry.violations_eq_nil]
      exact fun hnone => hnot ((violation_registry hr).mp (hnone rule hrule))
    refine ⟨r.violations s.rules, ?_, ?_, fun index => mem_positions hr, ?_⟩
    · exact validate_eq_violations (hnamed.mpr hrealm) (hpaced.mpr hinterval) hstrict hr hviolations
    · exact List.pairwise_map.mpr (r.pairwise_violations s.rules)
    · rfl

/-- Strict settings with an action that is not declared and one without its target group. -/
def faultyRows : AuthorizationSettings where
  strictRules := true
  actions := [⟨"GetRealm", .realm⟩, ⟨"DeleteUser", .group⟩]
  rules := [⟨"master", "toe", "GetRealm", some "dep", none⟩,
    ⟨"master", "toe", "Audit", some "dep", none⟩,
    ⟨"master", "toe", "DeleteUser", some "dep", some "grp"⟩,
    ⟨"master", "toe", "DeleteUser", some "dep", none⟩]

/-- Of four rows the second and the last are reported. -/
theorem faultyRows_positions :
    ∃ violations, faultyRows.validate = .error (.rules violations) ∧
      (∀ index, index ∈ violations.map Prod.fst ↔
        ∃ rule, faultyRows.rules[index]? = some rule ∧ ¬ rule.ConformsTo faultyRows.actions) ∧
      (∃ rule, faultyRows.rules[1]? = some rule ∧ ¬ rule.ConformsTo faultyRows.actions) ∧
      (∃ rule, faultyRows.rules[3]? = some rule ∧ ¬ rule.ConformsTo faultyRows.actions) := by
  have hnamed : ∃ c ∈ faultyRows.primaryRealm.toList, Text.isBlank c = false :=
    ⟨'m', by decide, by decide⟩
  have hsecond : ¬ (⟨"master", "toe", "Audit", some "dep", none⟩ : Rule).ConformsTo
      faultyRows.actions := by decide
  obtain ⟨violations, hvalidate, -, hpositions, -⟩ := (accepted_iff_fitting faultyRows).2
    hnamed (by decide) rfl (by decide) ⟨_, by decide, hsecond⟩
  exact ⟨violations, hvalidate, hpositions, ⟨_, rfl, hsecond⟩, ⟨_, rfl, by decide⟩⟩

/-- **Accepted settings have a registry of their declarations if the declared names differ**, and
under strict rules they do; the registry holds each declaration and is as large as their list.
Without strict rules a name may be declared twice, and then the registry is refused at the first
repetition. All this holds of settings that are read from a text as well, since they are accepted
first. -/
theorem accepted_declarations_registered (s : AuthorizationSettings)
    (haccepted : s.validate = .ok () ∨
      ∃ env text t, ServiceSettings.ofText env text = .ok t ∧ t.authorization = s) :
    (s.strictRules = true → (s.actions.map Action.name).Nodup) ∧
    ((s.actions.map Action.name).Nodup → ∃ r, s.registry = .ok r ∧
      (∀ a ∈ s.actions, r.get? a.name = some a) ∧ r.size = s.actions.length) ∧
    (¬ (s.actions.map Action.name).Nodup → ∃ before a after, s.actions = before ++ a :: after ∧
      (before.map Action.name).Nodup ∧ a.name ∈ before.map Action.name ∧
        s.registry = .error (.action (.duplicateAction a.name))) := by
  have hvalid : s.validate = .ok () := by
    rcases haccepted with hvalid | ⟨env, text, t, hread, rfl⟩
    · exact hvalid
    · exact validate_of_ofText hread
  refine ⟨?_, ?_, registry_of_repeated⟩
  · intro hstrict
    obtain ⟨r, hr, -⟩ := validateRules_eq_ok.mp ((validate_eq_ok.mp hvalid).2.2 hstrict)
    exact exists_registry.mp ⟨r, hr⟩
  · intro hnames
    obtain ⟨r, hr⟩ := exists_registry.mpr hnames
    exact ⟨r, hr, fun a ha => (get?_registry hr).mpr ⟨ha, rfl⟩, size_registry hr⟩

/-- Strict settings with two declarations and no rules. -/
def declaredApart : AuthorizationSettings where
  strictRules := true
  actions := [⟨"GetRealm", .realm⟩, ⟨"DeleteUser", .group⟩]

theorem declaredApart_registered :
    declaredApart.validate = .ok () ∧ declaredApart.strictRules = true ∧
      ∃ r, declaredApart.registry = .ok r ∧
        r.get? "DeleteUser" = some ⟨"DeleteUser", .group⟩ ∧ r.size = 2 := by
  have hvalid : declaredApart.validate = .ok () := by rfl
  obtain ⟨hstrict, hregistered, -⟩ := accepted_declarations_registered declaredApart (.inl hvalid)
  obtain ⟨r, hr, hget, hsize⟩ := hregistered (hstrict rfl)
  exact ⟨hvalid, rfl, r, hr, hget ⟨"DeleteUser", .group⟩ (by decide), hsize⟩

/-- Settings that declare a name twice, with different scopes. -/
def declaredTwice : AuthorizationSettings where
  actions := [⟨"GetRealm", .realm⟩, ⟨"GetRealm", .group⟩]

/-- They are accepted and have no registry; only under strict rules they are refused for it. -/
theorem declaredTwice_has_no_registry :
    declaredTwice.validate = .ok () ∧
      declaredTwice.registry = .error (.action (.duplicateAction "GetRealm")) ∧
      { declaredTwice with strictRules := true }.validate =
        .error (.action (.duplicateAction "GetRealm")) :=
  ⟨rfl, rfl, rfl⟩

end AuthorizationSettings

end RealmAccess
