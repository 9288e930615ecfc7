/-
RealmAccess.Proofs.Action.Registration — a name belongs to the first action
that is offered under it.

A registry is offered actions one after the other, and goes on after a refusal.
One offer keeps what is held under a name, and only a name that is free is
taken (`get?_offer`). So what is held in the end is told by the list of the
offers alone: under each name the first of them that has it (`get?_offerAll`).

An answer depends on the registry that the earlier offers left, refused ones
among them. That only accepted ones count is no loss: of the offers under one
name the first is accepted, hence a refused offer always comes after an accepted
one of the same name (`exists_accepted`).
-/
import Mathlib.Data.List.Dedup
import RealmAccess.Proofs.Action.Conformity

namespace RealmAccess

namespace Registry

/-! ## One offer -/

theorem offer_of_taken {r : Registry} {a : Action} (h : r.get? a.name ≠ none) :
    r.offer a = (r, some (.duplicateAction a.name)) := by
  have hregister : r.register a = .error (.duplicateAction a.name) := register_eq_error.mpr ⟨h, rfl⟩
  simp [offer, hregister]

theorem offer_of_free {r : Registry} {a : Action} (h : r.get? a.name = none) :
    ∃ r', r.register a = .ok r' ∧ r.offer a = (r', none) := by
  obtain ⟨r', hregister⟩ := exists_register.mpr h
  exact ⟨r', hregister, by simp [offer, hregister]⟩

/-- An offer is answered by what is held under the name. -/
theorem offer_accepted {r : Registry} {a : Action} :
    (r.offer a).2 = none ↔ r.get? a.name = none := by
  constructor
  · intro haccepted
    by_contra htaken
    simp [offer_of_taken htaken] at haccepted
  · intro hfree
    obtain ⟨r', -, hoffer⟩ := offer_of_free hfree
    simp [hoffer]

/-- After an offer a name is held as before, or else by the action that was offered. -/
theorem get?_offer (r : Registry) (a : Action) (name : String) :
    (r.offer a).1.get? name = (r.get? name).or (if a.name = name then some a else none) := by
  cases hfree : r.get? a.name with
  | some b =>
    have htaken : r.get? a.name ≠ none := by simp [hfree]
    rw [offer_of_taken htaken]
    by_cases hname : a.name = name
    · subst hname
      simp [hfree]
    · simp [hname]
  | none =>
    obtain ⟨r', hregister, hoffer⟩ := offer_of_free hfree
    rw [hoffer]
    ext b
    rw [get?_register hregister]
    by_cases hname : a.name = name
    · subst hname
      simp only [hfree, Option.none_or, if_true, Option.some.injEq, reduceCtorEq, false_or]
      constructor
      · rintro ⟨rfl, -⟩
        rfl
      · rintro rfl
        exact ⟨rfl, rfl⟩
    · simp only [if_neg hname, Option.or_none, or_iff_left_iff_imp]
      rintro ⟨rfl, hb⟩
      exact absurd hb hname

/-! ## Offers in turn -/

theorem offerAll_cons (r : Registry) (a : Action) (rest : List Action) :
    r.offerAll (a :: rest) =
      (((r.offer a).1.offerAll rest).1, (r.offer a).2 :: ((r.offer a).1.offerAll rest).2) := rfl

theorem offerAll_append (r : Registry) (before after : List Action) :
    (r.offerAll (before ++ after)).1 = ((r.offerAll before).1.offerAll after).1 := by
  induction before generalizing r with
  | nil => rfl
  | cons a rest ih => simp [offerAll_cons, ih]

/-- **A name is held by the first action that was offered under it**, unless it was held before. -/
theorem get?_offerAll (r : Registry) (calls : List Action) (name : String) :
    (r.offerAll calls).1.get? name = (r.get? name).or (calls.find? (·.name = name)) := by
  induction calls generalizing r with
  | nil => simp [offerAll]
  | cons a rest ih =>
    rw [offerAll_cons, ih, get?_offer, Option.or_assoc, List.find?_cons]
    by_cases hname : a.name = name <;> simp [hname]

/-- The answer to an offer is given by the registry that the offers before it left. -/
theorem answer_offerAll (r : Registry) {calls : List Action} {i : Nat} {a : Action}
    (h : calls[i]? = some a) :
    (r.offerAll calls).2[i]? = some ((r.offerAll (calls.take i)).1.offer a).2 := by
  induction calls generalizing r i with
  | nil => simp at h
  | cons b rest ih =>
    cases i with
    | zero =>
      obtain rfl : b = a := by simpa using h
      simp [offerAll]
    | succ i =>
      have hrest : rest[i]? = some a := by simpa using h
      simp [offerAll_cons, ih _ hrest]

/-! ## A fresh registry -/

/-- The registry after some offers to an empty one. -/
def offered (calls : List Action) : Registry := ((∅ : Registry).offerAll calls).1

/-- What was answered to them. -/
def answers (calls : List Action) : List (Option Violation) := ((∅ : Registry).offerAll calls).2

theorem get?_offered (calls : List Action) (name : String) :
    (offered calls).get? name = calls.find? (·.name = name) := by
  rw [offered, get?_offerAll]
  exact Option.none_or

theorem offered_append (before after : List Action) :
    offered (before ++ after) = ((offered before).offerAll after).1 := offerAll_append ∅ before after

section

variable {calls : List Action} {i : Nat} {a : Action}

theorem answer_eq (h : calls[i]? = some a) :
    (answers calls)[i]? = some ((offered (calls.take i)).offer a).2 := answer_offerAll ∅ h

theorem offered_take_succ (h : calls[i]? = some a) :
    offered (calls.take (i + 1)) = ((offered (calls.take i)).offer a).1 := by
  rw [List.take_add_one, h, offered_append]
  rfl

/-- An offer is accepted if no offer before it had the name, accepted or not. -/
theorem accepted_iff (h : calls[i]? = some a) :
    (answers calls)[i]? = some none ↔ ∀ b ∈ calls.take i, b.name ≠ a.name := by
  rw [answer_eq h, Option.some_inj, offer_accepted, get?_offered, List.find?_eq_none]
  simp

/-- The first offer under a name is accepted. -/
theorem exists_accepted {name : String} (h : ∃ b ∈ calls.take i, b.name = name) :
    ∃ j < i, ∃ b, calls[j]? = some b ∧ (answers calls)[j]? = some none ∧ b.name = name := by
  obtain ⟨b, hfirst⟩ : ∃ b, (calls.take i).find? (·.name = name) = some b := by
    rw [← Option.isSome_iff_exists, List.find?_isSome]
    simpa using h
  obtain ⟨hname, before, after, hcut, hbefore⟩ := List.find?_eq_some_iff_append.mp hfirst
  have hlt : before.length < i := by
    have hlength := congrArg List.length hcut
    simp at hlength
    omega
  have hcall : calls[before.length]? = some b := by
    rw [← List.getElem?_take_of_lt hlt, hcut]
    simp
  have htake : calls.take before.length = before := by
    rw [← Nat.min_eq_left (Nat.le_of_lt hlt), ← List.take_take, hcut]
    simp
  refine ⟨before.length, hlt, b, hcall, ?_, by simpa using hname⟩
  rw [accepted_iff hcall, htake]
  intro c hc hsame
  have hother := hbefore c hc
  simp_all

end

/-! ## Names -/

theorem mem_names {r : Registry} {name : String} : name ∈ r.names ↔ ∃ a, r.get? name = some a := by
  rw [names, Table.mem_keys, Table.contains, ← Option.isSome_iff_exists, get?, Option.isSome_map]

/-- Names are listed in ascending order, each once. -/
theorem pairwise_names (r : Registry) : r.names.Pairwise (· < ·) := by
  refine List.pairwise_map.mpr (r.scopes.ascending.imp ?_)
  intro a b hlt
  exact compareOfLessAndEq_eq_lt.mp hlt

theorem length_names (r : Registry) : r.names.length = r.size := List.length_map _

theorem mem_names_offered {calls : List Action} {name : String} :
    name ∈ (offered calls).names ↔ ∃ a ∈ calls, a.name = name := by
  rw [mem_names, ← Option.isSome_iff_exists, get?_offered, List.find?_isSome]
  simp

theorem size_offered (calls : List Action) :
    (offered calls).size = (calls.map Action.name).dedup.length := by
  have hnodup : (offered calls).names.Nodup := Table.nodup_keys _
  have hperm : (offered calls).names.Perm (calls.map Action.name).dedup := by
    rw [List.perm_ext_iff_of_nodup hnodup (List.nodup_dedup _)]
    intro name
    rw [mem_names_offered, List.mem_dedup, List.mem_map]
  rw [← length_names, hperm.length_eq]

/-! ## Rules -/

/-- A rule is judged by what is held under its action's name. -/
theorem violation_congr {r s : Registry} {rule : Rule} (h : r.get? rule.action = s.get? rule.action) :
    r.violation rule = s.violation rule := by
  rw [violation, violation, h]

theorem violation_offerAll {r : Registry} {rule : Rule} (h : ∃ a, r.get? rule.action = some a)
    (later : List Action) : (r.offerAll later).1.violation rule = r.violation rule := by
  obtain ⟨a, ha⟩ := h
  refine violation_congr ?_
  rw [get?_offerAll, ha, Option.some_or]

/-! ## Main statement -/

/-- **The first action that is offered under a name stays.** An offer is accepted just if no accepted
one before it had the name; a refused one is told that the name is taken, whatever its scope, and
leaves the registry as it was. After any offers a name is looked up as the first of them that has it;
the names are those that were offered, in ascending order, and counted once each. A rule whose action
was offered is judged alike whatever is offered later. -/
theorem first_offer_stays (calls : List Action) :
    (∀ i a, calls[i]? = some a →
      ((answers calls)[i]? = some none ↔
        ∀ j < i, ∀ b, calls[j]? = some b → (answers calls)[j]? = some none → b.name ≠ a.name) ∧
      ((answers calls)[i]? ≠ some none →
        (answers calls)[i]? = some (some (.duplicateAction a.name)) ∧
        offered (calls.take (i + 1)) = offered (calls.take i))) ∧
    (∀ name, (offered calls).get? name = calls.find? (·.name = name)) ∧
    (offered calls).names.Pairwise (· < ·) ∧
    (∀ name, name ∈ (offered calls).names ↔ ∃ a ∈ calls, a.name = name) ∧
    (offered calls).size = (calls.map Action.name).dedup.length ∧
    ∀ rule : Rule, (∃ a ∈ calls, a.name = rule.action) → ∀ later,
      (offered (calls ++ later)).violation rule = (offered calls).violation rule := by
  refine ⟨?_, get?_offered calls, pairwise_names _, fun _ => mem_names_offered, size_offered calls, ?_⟩
  · intro i a hcall
    refine ⟨⟨?_, ?_⟩, ?_⟩
    · intro haccepted j hlt b hb _
      refine (accepted_iff hcall).mp haccepted b ?_
      exact List.mem_of_getElem? ((List.getElem?_take_of_lt hlt).trans hb)
    · intro hnone
      rw [accepted_iff hcall]
      intro b hb hname
      obtain ⟨j, hlt, c, hc, haccepted, hsame⟩ := exists_accepted ⟨b, hb, hname⟩
      exact hnone j hlt c hc haccepted hsame
    · intro hrefused
      rw [answer_eq hcall, Ne, Option.some_inj, offer_accepted] at hrefused
      rw [answer_eq hcall, offered_take_succ hcall, offer_of_taken hrefused]
      exact ⟨rfl, rfl⟩
  · intro rule hdeclared later
    obtain ⟨a, ha⟩ := mem_names.mp (mem_names_offered.mpr hdeclared)
    rw [offered_append]
    exact violation_offerAll ⟨a, ha⟩ later

/-- A second scope for an action is refused, and what is offered after it changes no verdict on rules
for that action. -/
theorem second_scope_refused :
    let calls : List Action := [⟨"GetRealm", .realm⟩, ⟨"DeleteUser", .group⟩, ⟨"GetRealm", .group⟩]
    let rule : Rule := ⟨"dep", "toe", "GetRealm", some "*", none⟩
    (answers calls)[2]? = some (some (.duplicateAction "GetRealm")) ∧
      offered (calls.take 3) = offered (calls.take 2) ∧
      (offered calls).get? "GetRealm" = some ⟨"GetRealm", .realm⟩ ∧ (offered calls).size = 2 ∧
      (offered (calls ++ [⟨"GetUser", .group⟩, ⟨"GetRealm", .global⟩])).violation rule = none := by
  intro calls rule
  obtain ⟨hcalls, hget, -, -, hsize, hrules⟩ := first_offer_stays calls
  obtain ⟨hrefused, hunchanged⟩ := (hcalls 2 ⟨"GetRealm", .group⟩ rfl).2 (by decide)
  refine ⟨hrefused, hunchanged, (hget _).trans (by decide), hsize.trans (by decide), ?_⟩
  rw [hrules rule ⟨⟨"GetRealm", .realm⟩, by decide, rfl⟩]
  decide

end Registry

end RealmAccess
