/-
RealmAccess.Proofs.Ruling.Agreement — policies that answer alike.

Everything that can be asked of a policy is listed once: the number of rows,
the rights of an actor, the checks of named groups and the checks of an
actor on realms, groups, users and itself. The identity provider behind a
check is any function, so agreement covers whatever it answers.
-/
import RealmAccess.Ruling.Policy

namespace RealmAccess

/-- Two policies that no question about rights tells apart, whatever the services behind the
checks answer. -/
structure Policy.Agrees (p q : Policy) : Prop where
  ruleCount : p.matrix.ruleCount = q.matrix.ruleCount
  rights : ∀ ctx, p.rights ctx = q.rights ctx
  groupsOnRealm : ∀ realm groups action targetRealm,
    p.groupsOnRealm realm groups action targetRealm =
      q.groupsOnRealm realm groups action targetRealm
  groupsOnGroup : ∀ realm groups action targetRealm targetGroup,
    p.groupsOnGroup realm groups action targetRealm targetGroup =
      q.groupsOnGroup realm groups action targetRealm targetGroup
  onRealm : ∀ ctx action targetRealm,
    p.onRealm ctx action targetRealm = q.onRealm ctx action targetRealm
  onGroup : ∀ ctx action targetRealm targetGroup,
    p.onGroup ctx action targetRealm targetGroup = q.onGroup ctx action targetRealm targetGroup
  onGroupId : ∀ b ctx action targetRealm groupId,
    p.onGroupId b ctx action targetRealm groupId = q.onGroupId b ctx action targetRealm groupId
  onUser : ∀ b ctx action targetRealm user,
    p.onUser b ctx action targetRealm user = q.onUser b ctx action targetRealm user
  onSelf : ∀ ctx action, p.onSelf ctx action = q.onSelf ctx action

theorem Policy.Agrees.of_eq {p q : Policy} (h : p = q) : p.Agrees q := by
  subst h
  constructor <;> intros <;> rfl

end RealmAccess
