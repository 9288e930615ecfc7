/-
RealmAccess.Proofs.Service.LastConfigured — roles are checked against the
configuration that was set last.

A service holds one admin configuration a realm, and setting one replaces
the whole of what the realm had. Nothing else that a service is told to do
touches them: reloads, workers and the clock leave the store alone, and
checks only read it (`admin_run`). So after any commands a realm has what
was set for it last, or else what it had at first (`configurationAfter`).

A check by role reads its own list from there, and no list, an empty one and
no configuration at all mean the same: every role will do. This is where the
intersection flips, since otherwise an actor without roles shares none.
-/
import RealmAccess.Proofs.Ruling.Check
import RealmAccess.Proofs.Service.Background
import RealmAccess.Proofs.Service.Calm

namespace RealmAccess

/-! ## Commands that change the configurations -/

namespace AdminStore

/-- What a command leaves of the admin configurations. -/
def handle (a : AdminStore) : Command → AdminStore
  | .setAdminConfiguration realm c => a.set realm c
  | .setAdminOutage outage => { a with outage }
  | _ => a

end AdminStore

namespace Command

/-- The configuration that a command sets for a realm, if it does. -/
def configurationOf (realm : String) : Command → Option AdminConfiguration
  | .setAdminConfiguration other c => if other = realm then some c else none
  | _ => none

/-- The configuration that commands, in their order, set for a realm last, if any does. -/
def lastConfiguration (realm : String) (cs : List Command) : Option AdminConfiguration :=
  cs.reverse.findSome? (configurationOf realm)

theorem lastConfiguration_cons (realm : String) (c : Command) (cs : List Command) :
    lastConfiguration realm (c :: cs) =
      (lastConfiguration realm cs).or (c.configurationOf realm) := by
  simp [lastConfiguration, List.findSome?_append]

end Command

namespace AdminStore

theorem find?_handle (a : AdminStore) (c : Command) (realm : String) :
    (a.handle c).configurations.find? realm =
      (c.configurationOf realm).or (a.configurations.find? realm) := by
  cases c with
  | setAdminConfiguration other configuration =>
    simp only [handle, set, Table.find?_insert, Command.configurationOf, eq_comm (a := realm)]
    split <;> rfl
  | _ => rfl

/-- A realm has the configuration set last, or else the one it had. -/
theorem find?_foldl_handle (realm : String) : ∀ (cs : List Command) (a : AdminStore),
    (cs.foldl handle a).configurations.find? realm =
      (Command.lastConfiguration realm cs).or (a.configurations.find? realm)
  | [], _ => rfl
  | c :: cs, a => by
      rw [List.foldl_cons, find?_foldl_handle realm cs, find?_handle, ← Option.or_assoc,
        ← Command.lastConfiguration_cons]

theorem outage_foldl_handle : ∀ (cs : List Command) (a : AdminStore),
    (∀ c ∈ cs, ∀ outage, c ≠ .setAdminOutage outage) → (cs.foldl handle a).outage = a.outage
  | [], _, _ => rfl
  | c :: cs, a, h => by
      obtain ⟨hc, hcs⟩ := List.forall_mem_cons.mp h
      rw [List.foldl_cons, outage_foldl_handle cs _ hcs]
      cases c with
      | setAdminOutage outage => exact absurd rfl (hc outage)
      | _ => rfl

end AdminStore

/-! ## What leaves the configurations alone -/

namespace Service

theorem admin_of_drifts {s t : Service} (h : s.Drifts t) : t.admin = s.admin := by
  induction h with
  | refl => rfl
  | tail _ hstirs ih =>
    refine Eq.trans ?_ ih
    cases hstirs <;> rfl

/-- **No command but its own changes the admin store.** -/
theorem admin_run (s : Service) (c : Command) : (s.run c).2.admin = s.admin.handle c := by
  cases c with
  | release | reload | join | advance | startWorker | cancelWorker =>
    exact admin_of_drifts (s.drifts_run _ rfl)
  | _ => rfl

theorem admin_after : ∀ (cs : List Command) (s : Service),
    (s.after cs).admin = cs.foldl AdminStore.handle s.admin
  | [], _ => rfl
  | c :: cs, s => by rw [after_cons, admin_after cs, admin_run, List.foldl_cons]

/-! ## Runs in which configurations can be read -/

/-- Admin configurations can be read, and none of some commands changes that. -/
structure KeepsAnswering (s : Service) (cs : List Command) : Prop where
  outage : s.admin.outage = none
  commands : ∀ c ∈ cs, ∀ outage, c ≠ .setAdminOutage outage

/-- The configuration that a realm has after some commands, if it has one. -/
def configurationAfter (s : Service) (cs : List Command) (realm : String) :
    Option AdminConfiguration :=
  (Command.lastConfiguration realm cs).or (s.admin.configurations.find? realm)

/-- A store that can be read answers with the configuration set last, or one that restricts
nothing. -/
theorem KeepsAnswering.answer {s : Service} {cs : List Command} (h : s.KeepsAnswering cs)
    (realm : String) :
    (s.after cs).admin.answer realm =
      .ok ((s.configurationAfter cs realm).getD .unrestricted) := by
  have houtage := (AdminStore.outage_foldl_handle cs s.admin h.commands).trans h.outage
  rw [admin_after, AdminStore.answer, houtage, AdminStore.configuration,
    AdminStore.find?_foldl_handle, configurationAfter]

end Service

/-! ## Checks by role -/

namespace RoleAction

open Ruling

variable (role : RoleAction) {b : Backend} {ctx : Context} {realm : String}
  {c : AdminConfiguration} {roles : List String}

/-- An action is open to everybody, or to those who have a role that is listed. -/
theorem permits_iff :
    role.permits roles c = true ↔
      role.allowedRoles c = [] ∨ ∃ r ∈ role.allowedRoles c, r ∈ roles := by
  simp only [permits, Bool.or_eq_true, List.isEmpty_iff, List.any_eq_true, List.contains_iff_mem]
  refine or_congr_right ⟨?_, ?_⟩
  · rintro ⟨r, hr, hlisted⟩
    exact ⟨r, hlisted, hr⟩
  · rintro ⟨r, hlisted, hr⟩
    exact ⟨r, hr, hlisted⟩

theorem verdict_onUser {token user : String} (htoken : ctx.accessToken = some token)
    (hstore : b.adminConfiguration realm = .ok c)
    (hroles : b.roleNamesOfUser token realm user = .ok roles) :
    (role.onUser b ctx realm user).verdict =
      if role.permits roles c then .allow else .deny .forbidden := by
  rw [onUser, withToken_eq, htoken, Option.elim_some, hstore, withAnswer_ok, hroles, withAnswer_ok,
    verdict_after, verdict_after, decide, verdict_allowIf]

theorem verdict_onSelf (hrealm : ctx.realm = some realm)
    (hstore : b.adminConfiguration realm = .ok c) :
    (role.onSelf b ctx).verdict =
      if role.permits ctx.roleNames c then .allow else .deny .forbidden := by
  rw [onSelf, withRealm_eq, hrealm, Option.elim_some, hstore, withAnswer_ok, verdict_after, decide,
    verdict_allowIf]

/-- No configuration lists no role. -/
theorem allowedRoles_getD (o : Option AdminConfiguration) :
    role.allowedRoles (o.getD .unrestricted) = (o.bind role.configured).getD [] := by
  cases o with
  | some c => rfl
  | none => cases role <;> rfl

end RoleAction

namespace Service

/-- A service comes to a verdict on an actor or user with some roles in a realm: the identity
provider gives the user's roles to the actor's token, or the actor's context has them, and none if
it has no list. -/
inductive RoleCheck (s : Service) (role : RoleAction) (realm : String) (roles : List String) :
    Verdict → Prop
  | onUser (client : String → String → String → Except IdentityFailure (List String))
      (ctx : Context) (token user : String) (htoken : ctx.accessToken = some token)
      (hroles : client token realm user = .ok roles) :
      RoleCheck s role realm roles
        (role.onUser { s.backend with roleNamesOfUser := client } ctx realm user).verdict
  | onSelf (client : String → String → String → Except IdentityFailure (List String))
      (ctx : Context) (hrealm : ctx.realm = some realm) (hroles : ctx.roles.getD [] = roles) :
      RoleCheck s role realm roles
        (role.onSelf { s.backend with roleNamesOfUser := client } ctx).verdict

/-- A role check is decided by the list of the configuration set last. -/
theorem RoleCheck.verdict_eq {s : Service} {cs : List Command} (h : s.KeepsAnswering cs)
    {role : RoleAction} {realm : String} {roles : List String} {verdict : Verdict}
    (hcheck : (s.after cs).RoleCheck role realm roles verdict) :
    verdict =
      if role.permits roles ((s.configurationAfter cs realm).getD .unrestricted) then .allow
      else .deny .forbidden := by
  cases hcheck with
  | onUser client ctx token user htoken hroles =>
    exact role.verdict_onUser htoken (h.answer realm) hroles
  | onSelf client ctx hrealm hroles =>
    subst hroles
    exact role.verdict_onSelf hrealm (h.answer realm)

/-! ## Main statement -/

/-- **Roles are checked against the configuration set last.** After any commands a role check in a
realm is allowed if the action's own list is empty or shares an element with the roles, and
forbidden otherwise. The list is that of the configuration set last for that very realm, or held at
first; a realm without a configuration and a configuration without the list count as an empty one.
Nothing else matters: two checks of the action agree, whatever was set and asked before, if that
list and the roles, in any order and number, are the same. -/
theorem roles_checked_against_last_set (role : RoleAction) (s : Service) (cs : List Command)
    (h : s.KeepsAnswering cs) :
    let own (c : AdminConfiguration) : Option (List String) :=
      match role with
      | .videoIdentification => c.videoRoles
      | .auxiliaryVideoIdentification => c.auxiliaryVideoRoles
      | .autoIdentification => c.autoRoles
      | .physicalIdentification => c.physicalRoles
      | .auxiliaryPhysicalIdentification => c.auxiliaryPhysicalRoles
    let listed (s : Service) (cs : List Command) (realm : String) : List String :=
      ((s.configurationAfter cs realm).bind own).getD []
    ∀ realm roles verdict, (s.after cs).RoleCheck role realm roles verdict →
      let admitted := listed s cs realm = [] ∨ ∃ r ∈ listed s cs realm, r ∈ roles
      (verdict = .allow ↔ admitted) ∧ (verdict = .deny .forbidden ↔ ¬ admitted) ∧
      ∀ s' cs', KeepsAnswering s' cs' → ∀ realm' roles' verdict',
        (s'.after cs').RoleCheck role realm' roles' verdict' →
          listed s' cs' realm' = listed s cs realm → (∀ r, r ∈ roles' ↔ r ∈ roles) →
            verdict' = verdict := by
  intro own listed
  -- What a check reads of a configuration is the action's own list.
  have hlisted : ∀ s cs realm,
      role.allowedRoles ((configurationAfter s cs realm).getD .unrestricted) =
        listed s cs realm := by
    intro s cs realm
    rw [role.allowedRoles_getD]
    cases role <;> rfl
  intro realm roles verdict hcheck admitted
  have hverdict := hcheck.verdict_eq h
  have hpermits : role.permits roles ((s.configurationAfter cs realm).getD .unrestricted) = true ↔
      admitted := by
    rw [role.permits_iff, hlisted]
  refine ⟨?_, ?_, ?_⟩
  · rw [hverdict, Verdict.ite_eq_allow, hpermits]
  · rw [hverdict, Verdict.ite_eq_deny, hpermits]
  · intro s' cs' h' realm' roles' verdict' hcheck' hlist hroles
    have hsame : role.permits roles' ((s'.configurationAfter cs' realm').getD .unrestricted) =
        role.permits roles ((s.configurationAfter cs realm).getD .unrestricted) := by
      rw [Bool.eq_iff_iff, role.permits_iff, role.permits_iff, hlisted, hlisted, hlist]
      simp only [hroles]
    rw [hverdict, hcheck'.verdict_eq h', hsame]

/-- A list that was replaced, or that another realm has, no longer lets its roles in; one that is
empty lets in an actor without roles. -/
theorem replaced_list_lets_nobody_in :
    let s : Service := { admin := ({} : AdminStore).set "dep" { videoRoles := some ["officer"] } }
    let cs : List Command :=
      [.setAdminConfiguration "dep" { videoRoles := some ["admin"], autoRoles := some [] },
        .setAdminConfiguration "far" { videoRoles := some ["officer"] }, .reload]
    let client := fun (_ _ _ : String) =>
      (.ok ["officer", "officer"] : Except IdentityFailure (List String))
    let b : Backend := { (s.after cs).backend with roleNamesOfUser := client }
    let video := RoleAction.videoIdentification
    s.KeepsAnswering cs ∧
      (video.onUser b { accessToken := some "TOKEN" } "dep" "u-1").verdict = .deny .forbidden ∧
      (video.onSelf b { realm := some "dep", roles := some ["clerk", "admin"] }).verdict =
        .allow ∧
      (RoleAction.autoIdentification.onSelf b { realm := some "dep" }).verdict = .allow := by
  intro s cs client b video
  have h : s.KeepsAnswering cs := by
    refine ⟨rfl, ?_⟩
    intro c hc outage heq
    subst heq
    revert hc
    simp [cs]
  have hvideo := roles_checked_against_last_set .videoIdentification s cs h "dep"
  have hauto := roles_checked_against_last_set .autoIdentification s cs h "dep"
  obtain ⟨-, hdeny, -⟩ := hvideo ["officer", "officer"] _
    (.onUser client { accessToken := some "TOKEN" } "TOKEN" "u-1" rfl rfl)
  obtain ⟨hallow, -, -⟩ := hvideo ["clerk", "admin"] _
    (.onSelf client { realm := some "dep", roles := some ["clerk", "admin"] } rfl rfl)
  obtain ⟨hopen, -, -⟩ := hauto [] _ (.onSelf client { realm := some "dep" } rfl rfl)
  exact ⟨h, hdeny.mpr (by decide), hallow.mpr (by decide), hopen.mpr (by decide)⟩

end Service

end RealmAccess
