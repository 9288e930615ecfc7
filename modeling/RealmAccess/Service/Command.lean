/-
RealmAccess.Service.Command — everything that can be asked of a service.

Checks and listings only read the service and add to its journal; the other
commands change a store, the queue of reloads, a worker or the clock. A
report tells what a command did: the requests it made, the events it
logged, and whether the matrix was replaced.
-/
import RealmAccess.Service

namespace RealmAccess

/-- A command to a service. -/
inductive Command where
  | checkRealm (ctx : Context) (action targetRealm : String)
  | checkGroup (ctx : Context) (action targetRealm targetGroup : String)
  | checkGroupId (ctx : Context) (action targetRealm groupId : String)
  | checkUser (ctx : Context) (action targetRealm user : String)
  | checkSelf (ctx : Context) (action : String)
  | checkRoleOnUser (ctx : Context) (role : RoleAction) (targetRealm user : String)
  | checkRoleOnSelf (ctx : Context) (role : RoleAction)
  | groupsOnRealm (realm : String) (groups : List String) (action targetRealm : String)
  | groupsOnGroup (realm : String) (groups : List String) (action targetRealm targetGroup : String)
  | listRights (ctx : Context)
  | listRules
  | showAdminConfiguration (realm : String)
  | showPrimaryRealm
  | setRules (rules : List Rule)
  | setRuleOutage (outage : Option StoreFailure)
  /-- Hold the next answer of the rule store back. -/
  | stallNext
  /-- Let the answer that is held back come. -/
  | release
  | setAdminConfiguration (realm : String) (c : AdminConfiguration)
  | setAdminOutage (outage : Option StoreFailure)
  | setUserGroups (realm user : String) (groups : List String)
  | setUserRoles (realm user : String) (roles : List String)
  | setGroupName (realm group name : String)
  | setDirectoryOutage (outage : Option IdentityFailure)
  | reload
  /-- Fetch the outcomes of the waiting reload requests. -/
  | join
  | startWorker (settings : ReloadSettings) (cancelled : Bool)
  | cancelWorker (index : Nat)
  /-- Let some milliseconds pass. -/
  | advance (millis : Nat)
  deriving DecidableEq

/-- The answer to a command. -/
inductive Answer where
  | done
  | verdict (v : Verdict)
  | rights (r : Table String GroupRights)
  | rules (l : List Rule)
  | adminConfiguration (c : AdminConfiguration)
  | realm (name : String)
  /-- Whether an answer was held back. -/
  | released (b : Bool)
  /-- The outcome of a reload, unless it has to wait. -/
  | reload (outcome : Option Outcome)
  /-- The outcomes of the waiting reload requests, oldest first. -/
  | joined (outcomes : List (Option Outcome))
  /-- For each worker whether it has stopped for good. -/
  | workers (finished : List Bool)
  deriving DecidableEq

/-- What a command did to a service. -/
structure Report where
  /-- The number of rows of the current matrix. -/
  ruleCount : Nat
  /-- The number of fetches so far. -/
  fetches : Nat
  /-- Whether the matrix was replaced. -/
  reloaded : Bool
  journal : Journal
  deriving DecidableEq

namespace Service

/-- Add what a check did to the journal. -/
def note (s : Service) (r : Ruling) : Answer × Service :=
  (.verdict r.verdict,
    { s with journal := ⟨s.journal.calls ++ r.calls, s.journal.events ++ r.events⟩ })

/-- For each worker whether it has stopped for good. -/
def finishedWorkers (s : Service) : Answer × Service := (.workers (s.workers.map Worker.finished), s)

/-- The service with another rule store. -/
def withRuleStore (s : Service) (store : RuleStore) : Service := { s with reloader := { s.reloader with store } }

/-- Carry a command out. -/
def run (s : Service) : Command → Answer × Service
  | .checkRealm ctx action targetRealm => s.note (s.policy.onRealm ctx action targetRealm)
  | .checkGroup ctx action targetRealm targetGroup =>
    s.note (s.policy.onGroup ctx action targetRealm targetGroup)
  | .checkGroupId ctx action targetRealm groupId =>
    s.note (s.policy.onGroupId s.backend ctx action targetRealm groupId)
  | .checkUser ctx action targetRealm user => s.note (s.policy.onUser s.backend ctx action targetRealm user)
  | .checkSelf ctx action => s.note (s.policy.onSelf ctx action)
  | .checkRoleOnUser ctx role targetRealm user => s.note (role.onUser s.backend ctx targetRealm user)
  | .checkRoleOnSelf ctx role => s.note (role.onSelf s.backend ctx)
  | .groupsOnRealm realm groups action targetRealm =>
    (.verdict (s.policy.groupsOnRealm realm groups action targetRealm), s)
  | .groupsOnGroup realm groups action targetRealm targetGroup =>
    (.verdict (s.policy.groupsOnGroup realm groups action targetRealm targetGroup), s)
  | .listRights ctx => (.rights (s.policy.rights ctx), s)
  | .listRules => (.rules s.reloader.store.rules, s)
  | .showAdminConfiguration realm => (.adminConfiguration (s.admin.configuration realm), s)
  | .showPrimaryRealm => (.realm s.primaryRealm, s)
  | .setRules rules => (.done, s.withRuleStore { s.reloader.store with rules })
  | .setRuleOutage outage => (.done, s.withRuleStore { s.reloader.store with outage })
  | .stallNext => (.done, s.withRuleStore { s.reloader.store with stallNext := true })
  | .release => s.release.map .released id
  | .setAdminConfiguration realm c => (.done, { s with admin := s.admin.set realm c })
  | .setAdminOutage outage => (.done, { s with admin := { s.admin with outage } })
  | .setUserGroups realm user groups =>
    (.done, { s with directory := s.directory.setUserGroups realm user groups })
  | .setUserRoles realm user roles =>
    (.done, { s with directory := s.directory.setUserRoles realm user roles })
  | .setGroupName realm group name =>
    (.done, { s with directory := s.directory.setGroupName realm group name })
  | .setDirectoryOutage outage => (.done, { s with directory := { s.directory with outage } })
  | .reload => s.reload.map .reload id
  | .join => s.join.map .joined id
  | .startWorker settings cancelled => (s.startWorker settings cancelled).finishedWorkers
  | .cancelWorker index => (s.cancelWorker index).finishedWorkers
  | .advance millis => (s.advance millis).finishedWorkers

/-- What a service reports since it had the given number of loads. -/
def report (s : Service) (loads : Nat) : Report :=
  ⟨s.reloader.matrix.ruleCount, s.reloader.fetches, s.reloader.loads != loads, s.journal⟩

/-- Carry a command out with a journal of its own, and report. -/
def perform (s : Service) (c : Command) : Answer × Report × Service :=
  let (answer, t) := run { s with journal := {} } c
  (answer, t.report s.reloader.loads, t)

/-- Start a service: its first matrix is loaded before anything else, and the outcome decides
whether there is a service at all. -/
def start (s : Service) : Outcome × Report × Service :=
  let (outcome, t) := s.reload
  (outcome.getD .loaded, t.report s.reloader.loads, t)

end Service

end RealmAccess
