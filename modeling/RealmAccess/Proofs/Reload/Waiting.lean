/-
RealmAccess.Proofs.Reload.Waiting — who waits for a reload, and until when.

A caller waits from the moment it asks until its own fetch lands, whether it
stands in the queue or has its fetch in flight (`waits_until_return`).

That its wait comes to an end is a matter of the lock and of the store. Where
the lock starves nobody and the store leaves no fetch unanswered (`Fair`),
every call returns.
-/
import RealmAccess.Proofs.Reload.Order
import Mathlib.Data.Nat.Find

namespace RealmAccess

namespace Execution

open Reloader

variable {e : Execution}

/-! ## Until the return -/

theorem nodup_pending (e : Execution) : ∀ t : Nat, (e.state t).pending.Nodup
  | 0 => by
      rw [e.unasked]
      exact List.nodup_nil
  | t + 1 => nodup_of_move (e.follows t) (nodup_pending e t)

theorem ends_iff {t : Nat} {caller : Caller} :
    (e.state t).Ends (e.moves t) caller ↔ ∃ outcome, e.Returns caller t outcome := Iff.rfl

/-- **A caller waits until its reload returns.** -/
theorem waits_until_return {caller : Caller} {s t : Nat} (hask : e.moves s = .ask caller)
    (hst : s < t) (hnone : ∀ k outcome, s < k → k < t → ¬ e.Returns caller k outcome) :
    caller ∈ (e.state t).pending := by
  induction hst with
  | refl =>
    rw [mem_pending_of_move (e.follows s) (e.nodup_pending s), hask]
    exact ⟨.inl rfl, not_ends_of_ne_land (by simp) caller⟩
  | @step t hst ih =>
    have hst' : s < t := hst
    have hwaits := ih fun k outcome hsk hkt => hnone k outcome hsk (by omega)
    rw [mem_pending_of_move (e.follows t) (e.nodup_pending t), ends_iff]
    refine ⟨.inr hwaits, ?_⟩
    intro hreturns
    obtain ⟨outcome, hreturns⟩ := hreturns
    exact hnone t outcome hst' (Nat.lt_succ_self t) hreturns

/-! ## The end of a wait -/

/-- The lock starves nobody, and no fetch is left unanswered. -/
structure Fair (e : Execution) : Prop where
  launches : ∀ t caller, caller ∈ (e.state t).queue → ∃ k, t ≤ k ∧ e.moves k = .launch caller
  lands : ∀ t fetch, (e.state t).flight = some fetch →
    ∃ k outcome, t ≤ k ∧ e.moves k = .land outcome

/-- A fetch in flight is ended by the next landing. -/
theorem Fair.ends_flight (h : e.Fair) {t : Nat} {fetch : Fetch}
    (hflight : (e.state t).flight = some fetch) :
    ∃ k outcome, t ≤ k ∧ e.Returns fetch.caller k outcome := by
  classical
  have hlands : ∃ k, t ≤ k ∧ ∃ outcome, e.moves k = .land outcome := by
    obtain ⟨k, outcome, htk, hland⟩ := h.lands t fetch hflight
    exact ⟨k, htk, outcome, hland⟩
  obtain ⟨hle, outcome, hland⟩ := Nat.find_spec hlands
  refine ⟨Nat.find hlands, outcome, hle, hland, fetch, ?_, rfl⟩
  apply flight_stays hflight hle
  intro k other htk hk hother
  exact Nat.find_min hlands hk ⟨htk, other, hother⟩

/-- **Every call returns**, where the lock and the store are fair. -/
theorem Fair.returns (h : e.Fair) {caller : Caller} {s : Nat} (hask : e.moves s = .ask caller) :
    ∃ t outcome, s < t ∧ e.Returns caller t outcome := by
  have hqueue : caller ∈ (e.state (s + 1)).queue := by
    have hstep := e.follows s
    rw [hask, move_ask_iff] at hstep
    rw [hstep.2]
    exact List.mem_append_right _ (List.mem_singleton_self caller)
  obtain ⟨k, hsk, hlaunch⟩ := h.launches (s + 1) caller hqueue
  obtain ⟨t, outcome, hkt, hreturns⟩ := h.ends_flight (of_launch hlaunch).2.1
  exact ⟨t, outcome, by omega, hreturns⟩

end Execution

end RealmAccess
