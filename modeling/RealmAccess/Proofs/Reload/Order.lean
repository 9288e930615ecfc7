/-
RealmAccess.Proofs.Reload.Order — overlapping reloads take effect in the
order in which they read the rows.

`Tracked` is the invariant of an execution. The matrix in place is the one
that the rows of its `source` give, the fetch in flight holds the rows of the
moment when it was launched, and that moment is later than the source. It
holds because a launch needs the lock: nothing can be launched while a fetch
is in flight, so the fetch that lands is always the last one launched.

What callers see follows. Sources never go back; a caller who was told that
its reload went well finds rows that are no older than its call, for good;
and each check is decided by one matrix, while a fetch is in flight by the
one from before.
-/
import RealmAccess.Proofs.Reload.Execution
import RealmAccess.Proofs.Ruling.Agreement

namespace RealmAccess

namespace Execution

open Reloader

variable {e : Execution}

/-! ## One step -/

theorem flight_zero : (e.state 0).flight = none := by
  have h := e.unasked
  rw [pending, List.append_eq_nil_iff, List.map_eq_nil_iff, Option.toList_eq_nil_iff] at h
  exact h.1

theorem source_of_loaded {t : Nat} (h : e.moves t = .land .loaded) :
    e.source (t + 1) = e.launched t := by
  simp [source, h]

theorem source_of_ne_loaded {t : Nat} (h : e.moves t ≠ .land .loaded) :
    e.source (t + 1) = e.source t := by
  rw [source]
  split
  · rename_i hloaded
    exact absurd hloaded h
  · rfl

theorem of_launch {t : Nat} {caller : Caller} (h : e.moves t = .launch caller) :
    (e.state t).flight = none ∧
      (e.state (t + 1)).flight = some ((e.state t).fetchFor caller) ∧
      (e.state (t + 1)).matrix = (e.state t).matrix ∧
      e.launched (t + 1) = some t ∧ e.source (t + 1) = e.source t := by
  have hstep := e.follows t
  rw [h, move_launch_iff] at hstep
  obtain ⟨hidle, -, hstate⟩ := hstep
  rw [hstate]
  exact ⟨hidle, rfl, rfl, by simp [launched, h], source_of_ne_loaded (by simp [h])⟩

theorem of_land {t : Nat} {outcome : Outcome} (h : e.moves t = .land outcome) :
    ∃ fetch, (e.state t).flight = some fetch ∧
      e.state (t + 1) = (e.state t).conclude fetch outcome ∧
      e.launched (t + 1) = e.launched t := by
  have hstep := e.follows t
  rw [h, move_land_iff] at hstep
  obtain ⟨fetch, hflight, hstate⟩ := hstep
  exact ⟨fetch, hflight, hstate, by simp [launched, h]⟩

theorem flight_of_land {t : Nat} {outcome : Outcome} (h : e.moves t = .land outcome) :
    (e.state (t + 1)).flight = none := by
  obtain ⟨fetch, -, hstate, -⟩ := of_land h
  rw [hstate, flight_conclude]

theorem of_quiet {t : Nat} (h : (e.moves t).quiet = true) :
    (e.state (t + 1)).flight = (e.state t).flight ∧
      (e.state (t + 1)).matrix = (e.state t).matrix ∧
      e.launched (t + 1) = e.launched t ∧ e.source (t + 1) = e.source t := by
  obtain ⟨hflight, hmatrix⟩ := move_of_quiet h (e.follows t)
  refine ⟨hflight, hmatrix, ?_, source_of_ne_loaded ?_⟩
  · rw [launched]
    cases hm : e.moves t <;> simp_all [Move.quiet]
  · intro hm
    simp [hm, Move.quiet] at h

/-! ## The invariant -/

/-- What the moments of launch say about the fetch in flight and the matrix in place. -/
structure Tracked (e : Execution) (t : Nat) : Prop where
  matrix : (e.state t).matrix = e.matrixFrom (e.source t)
  flight : ∀ fetch, (e.state t).flight = some fetch →
    ∃ u, e.launched t = some u ∧ e.moves u = .launch fetch.caller ∧ fetch.rows = e.rowsAt u ∧
      (e.state t).matrix = (e.state u).matrix
  past : ∀ u, e.launched t = some u → u < t
  source : ∀ w, e.source t = some w →
    ∃ u, e.launched t = some u ∧ w ≤ u ∧ ((e.state t).flight ≠ none → w < u)

theorem tracked_zero : e.Tracked 0 where
  matrix := rfl
  flight fetch h := by simp [flight_zero] at h
  past u h := by simp [launched] at h
  source w h := by simp [Execution.source] at h

/-- A launch happens with nothing in flight, so its moment is later than every source. -/
theorem Tracked.launch {t : Nat} (ht : e.Tracked t) {caller : Caller}
    (h : e.moves t = .launch caller) : e.Tracked (t + 1) := by
  obtain ⟨hidle, hflight, hmatrix, hlaunched, hsource⟩ := of_launch h
  constructor
  · rw [hmatrix, hsource, ht.matrix]
  · intro fetch hfetch
    rw [hflight, Option.some_inj] at hfetch
    subst hfetch
    exact ⟨t, hlaunched, h, rfl, hmatrix⟩
  · intro u hu
    rw [hlaunched, Option.some_inj] at hu
    omega
  · intro w hw
    rw [hsource] at hw
    obtain ⟨u, hu, hle, -⟩ := ht.source w hw
    have hut : u < t := ht.past u hu
    exact ⟨t, hlaunched, by omega, fun _ => by omega⟩

/-- A fetch that lands was the last one launched, so its rows are those of its launch. -/
theorem Tracked.land {t : Nat} (ht : e.Tracked t) {outcome : Outcome}
    (h : e.moves t = .land outcome) : e.Tracked (t + 1) := by
  obtain ⟨fetch, hflight, hstate, hlaunched⟩ := of_land h
  have hlanded : (e.state (t + 1)).flight = none := flight_of_land h
  obtain ⟨u, hu, -, hrows, -⟩ := ht.flight fetch hflight
  constructor
  · cases outcome with
    | loaded =>
      rw [hstate, matrix_conclude_loaded, source_of_loaded h, hu, hrows]
      rfl
    | failed failure =>
      rw [hstate, matrix_conclude_failed, source_of_ne_loaded (by simp [h]), ht.matrix]
  · intro fetch' hfetch'
    simp [hlanded] at hfetch'
  · intro v hv
    rw [hlaunched] at hv
    have := ht.past v hv
    omega
  · intro w hw
    rw [hlaunched]
    cases outcome with
    | loaded =>
      rw [source_of_loaded h] at hw
      exact ⟨w, hw, Nat.le_refl w, fun hne => absurd hlanded hne⟩
    | failed failure =>
      rw [source_of_ne_loaded (by simp [h])] at hw
      obtain ⟨v, hv, hle, -⟩ := ht.source w hw
      exact ⟨v, hv, hle, fun hne => absurd hlanded hne⟩

theorem Tracked.quiet {t : Nat} (ht : e.Tracked t) (h : (e.moves t).quiet = true) :
    e.Tracked (t + 1) := by
  obtain ⟨hflight, hmatrix, hlaunched, hsource⟩ := of_quiet h
  constructor
  · rw [hmatrix, hsource, ht.matrix]
  · rw [hflight, hlaunched, hmatrix]
    exact ht.flight
  · intro u hu
    rw [hlaunched] at hu
    have := ht.past u hu
    omega
  · rw [hsource, hlaunched, hflight]
    exact ht.source

/-- **The invariant holds at every moment of every execution.** -/
theorem tracked (e : Execution) : ∀ t : Nat, e.Tracked t
  | 0 => tracked_zero
  | t + 1 => by
      have ht : e.Tracked t := tracked e t
      obtain ⟨caller, h⟩ | ⟨outcome, h⟩ | h := (e.moves t).kinds
      · exact ht.launch h
      · exact ht.land h
      · exact ht.quiet h

/-! ## A fetch and the moments it spans -/

/-- A fetch launched before a moment, and in flight later on, was in flight at that moment. -/
theorem flight_of_launched_lt {s t u : Nat} {fetch : Fetch} (hst : s ≤ t)
    (hflight : (e.state t).flight = some fetch) (hlaunched : e.launched t = some u)
    (hus : u < s) : (e.state s).flight = some fetch := by
  -- Back from the later moment: a launch in between would have been the last one.
  induction hst with
  | refl => exact hflight
  | @step t hst ih =>
    have hst' : s ≤ t := hst
    obtain ⟨caller, h⟩ | ⟨outcome, h⟩ | h := (e.moves t).kinds
    · obtain ⟨-, -, -, hnow, -⟩ := of_launch h
      rw [hnow, Option.some_inj] at hlaunched
      omega
    · simp [flight_of_land h] at hflight
    · obtain ⟨hflight', -, hlaunched', -⟩ := of_quiet h
      rw [hflight'] at hflight
      rw [hlaunched'] at hlaunched
      exact ih hflight hlaunched

/-- As long as nothing lands, the fetch in flight stays there. -/
theorem flight_stays {s t : Nat} {fetch : Fetch} (hflight : (e.state s).flight = some fetch)
    (hst : s ≤ t) (hnone : ∀ k outcome, s ≤ k → k < t → e.moves k ≠ .land outcome) :
    (e.state t).flight = some fetch := by
  induction hst with
  | refl => exact hflight
  | @step t hst ih =>
    have hst' : s ≤ t := hst
    have hsame := ih fun k outcome hsk hkt => hnone k outcome hsk (by omega)
    obtain ⟨caller, h⟩ | ⟨outcome, h⟩ | h := (e.moves t).kinds
    · have hidle := (of_launch h).1
      rw [hsame] at hidle
      cases hidle
    · exact absurd h (hnone t outcome hst' (by omega))
    · rw [(of_quiet h).1]
      exact hsame

/-- Between two launches a fetch lands: no two fetches are in flight at once. -/
theorem lands_between_launches {u v : Nat} {c d : Caller} (huv : u < v)
    (hu : e.moves u = .launch c) (hv : e.moves v = .launch d) :
    ∃ t outcome, u < t ∧ t < v ∧ e.moves t = .land outcome := by
  apply Classical.byContradiction
  intro hnone
  have hstill := flight_stays (of_launch hu).2.1 huv fun k outcome huk hkv hk =>
    hnone ⟨k, outcome, huk, hkv, hk⟩
  have hidle := (of_launch hv).1
  rw [hstill] at hidle
  cases hidle

/-! ## Sources -/

/-- The last fetch before a moment that ended well was launched at the source and landed later. -/
structure LastLoaded (e : Execution) (t w v : Nat) : Prop where
  launch : ∃ caller, e.moves w = .launch caller
  land : e.moves v = .land .loaded
  launch_lt : w < v
  land_lt : v < t
  last : ∀ k, v < k → k < t → e.moves k ≠ .land .loaded

/-- A move that is not a good landing leaves the last one what it was. -/
theorem LastLoaded.succ {t w v : Nat} (h : e.LastLoaded t w v) (ht : e.moves t ≠ .land .loaded) :
    e.LastLoaded (t + 1) w v := by
  have hlt := h.land_lt
  refine ⟨h.launch, h.land, h.launch_lt, by omega, ?_⟩
  intro k hvk hkt
  by_cases hk : k = t
  · rw [hk]
    exact ht
  · exact h.last k hvk (by omega)

/-- A source is that of the last fetch that ended well; without one there has been no such fetch. -/
theorem source_spec (e : Execution) : ∀ t : Nat,
    (∀ w, e.source t = some w → ∃ v, e.LastLoaded t w v) ∧
      (e.source t = none → ∀ k, k < t → e.moves k ≠ .land .loaded)
  | 0 => ⟨fun w hw => by simp [source] at hw, fun _ k hk => absurd hk (Nat.not_lt_zero k)⟩
  | t + 1 => by
      obtain ⟨hsome, hnone⟩ := source_spec e t
      by_cases hloaded : e.moves t = .land .loaded
      · obtain ⟨fetch, hflight, -, -⟩ := of_land hloaded
        obtain ⟨u, hu, hlaunch, -, -⟩ := (e.tracked t).flight fetch hflight
        rw [source_of_loaded hloaded, hu]
        refine ⟨?_, by simp⟩
        intro w hw
        rw [Option.some_inj] at hw
        subst hw
        exact ⟨t, ⟨_, hlaunch⟩, hloaded, (e.tracked t).past u hu, by omega, fun k _ _ => by omega⟩
      · rw [source_of_ne_loaded hloaded]
        refine ⟨?_, ?_⟩
        · intro w hw
          obtain ⟨v, hv⟩ := hsome w hw
          exact ⟨v, hv.succ hloaded⟩
        · intro hw k hk
          by_cases hkt : k = t
          · rw [hkt]
            exact hloaded
          · exact hnone hw k (by omega)

theorem source_le_succ {t w : Nat} (hw : e.source t = some w) :
    ∃ w', e.source (t + 1) = some w' ∧ w ≤ w' := by
  by_cases hloaded : e.moves t = .land .loaded
  · obtain ⟨u, hu, hle, -⟩ := (e.tracked t).source w hw
    rw [source_of_loaded hloaded]
    exact ⟨u, hu, hle⟩
  · rw [source_of_ne_loaded hloaded]
    exact ⟨w, hw, Nat.le_refl w⟩

/-- The rows that the matrix is built from never become older. -/
theorem source_mono {s t w : Nat} (hst : s ≤ t) (hw : e.source s = some w) :
    ∃ w', e.source t = some w' ∧ w ≤ w' := by
  induction hst with
  | refl => exact ⟨w, hw, Nat.le_refl w⟩
  | step _ ih =>
    obtain ⟨v, hv, hwv⟩ := ih
    obtain ⟨w', hw', hvw⟩ := source_le_succ hv
    exact ⟨w', hw', Nat.le_trans hwv hvw⟩

/-- Of two successful fetches, the later one read its rows once the earlier one had ended. -/
theorem source_lt_of_loaded {v v' : Nat} (hvv : v < v') (hv : e.moves v = .land .loaded)
    (hv' : e.moves v' = .land .loaded) :
    ∃ w w', e.source (v + 1) = some w ∧ e.source (v' + 1) = some w' ∧
      w < v ∧ v < w' ∧ w' < v' := by
  obtain ⟨fetch, hflight, -, -⟩ := of_land hv
  obtain ⟨fetch', hflight', -, -⟩ := of_land hv'
  obtain ⟨w, hw, -, -, -⟩ := (e.tracked v).flight fetch hflight
  obtain ⟨w', hw', -, -, -⟩ := (e.tracked v').flight fetch' hflight'
  have hlate : v < w' := by
    apply Classical.byContradiction
    intro hle
    have hstill := flight_of_launched_lt hvv hflight' hw' (by omega)
    simp [flight_of_land hv] at hstill
  exact ⟨w, w', (source_of_loaded hv).trans hw, (source_of_loaded hv').trans hw',
    (e.tracked v).past w hw, hlate, (e.tracked v').past w' hw'⟩

/-- A caller's fetch is launched after its call, for the caller has no other one under way. -/
theorem launched_of_returns {caller : Caller} {u v : Nat} {outcome : Outcome} (huv : u ≤ v)
    (hask : e.moves u = .ask caller) (hreturns : e.Returns caller v outcome) :
    ∃ w, e.launched v = some w ∧ u < w := by
  obtain ⟨-, fetch, hflight, hcaller⟩ := hreturns
  obtain ⟨w, hw, hlaunch, -, -⟩ := (e.tracked v).flight fetch hflight
  refine ⟨w, hw, ?_⟩
  apply Classical.byContradiction
  intro hle
  obtain rfl | hwu := Nat.eq_or_lt_of_le (Nat.le_of_not_lt hle)
  · rw [hask] at hlaunch
    cases hlaunch
  · -- The fetch would have been in flight at the call, so its caller could not have asked.
    have hstill := flight_of_launched_lt huv hflight hw hwu
    have hfree := e.follows u
    rw [hask, move_ask_iff] at hfree
    exact hfree.1 (by simp [pending, hstill, hcaller])

/-- Once a reload has returned well, the matrix is built from rows that were in the store after
the call, and stays so. -/
theorem fresh_after_return {caller : Caller} {u v t : Nat} (huv : u ≤ v) (hvt : v < t)
    (hask : e.moves u = .ask caller) (hreturns : e.Returns caller v .loaded) :
    ∃ w, e.source t = some w ∧ u < w := by
  obtain ⟨w, hw, huw⟩ := launched_of_returns huv hask hreturns
  obtain ⟨w', hw', hle⟩ := source_mono hvt ((source_of_loaded hreturns.1).trans hw)
  exact ⟨w', hw', by omega⟩

/-! ## Main statement -/

/-- **Overlapping reloads take effect in order.** At any moment of any execution:

* between two launches a fetch lands;
* sources never go back, and of two successful fetches the later one read its rows after the
  earlier one had ended;
* from the moment a caller's reload returns well, the matrix is built from rows that were in the
  store later than its call;
* every check agrees with the one matrix that the rows of the source give, which are those of the
  last fetch that ended well, and while a fetch is in flight with the matrix from before its
  launch. -/
theorem reloads_take_effect_in_order (e : Execution) (primaryRealm : String) :
    (∀ u v c d, u < v → e.moves u = .launch c → e.moves v = .launch d →
      ∃ t outcome, u < t ∧ t < v ∧ e.moves t = .land outcome) ∧
    (∀ s t w, s ≤ t → e.source s = some w → ∃ w', e.source t = some w' ∧ w ≤ w') ∧
    (∀ v v', v < v' → e.moves v = .land .loaded → e.moves v' = .land .loaded →
      ∃ w w', e.source (v + 1) = some w ∧ e.source (v' + 1) = some w' ∧
        w < v ∧ v < w' ∧ w' < v') ∧
    (∀ caller u v t, e.moves u = .ask caller → u ≤ v → e.Returns caller v .loaded → v < t →
      ∃ w, e.source t = some w ∧ u < w ∧
        (e.state t).matrix = Matrix.load (e.rowsAt w)) ∧
    (∀ t, (e.policy primaryRealm t).Agrees ⟨e.matrixFrom (e.source t), primaryRealm⟩ ∧
      (∀ w, e.source t = some w → ∃ v, e.LastLoaded t w v) ∧
      (e.source t = none → ∀ k, k < t → e.moves k ≠ .land .loaded)) ∧
    (∀ t fetch, (e.state t).flight = some fetch →
      ∃ u, u < t ∧ e.moves u = .launch fetch.caller ∧ fetch.rows = e.rowsAt u ∧
        (e.policy primaryRealm t).Agrees (e.policy primaryRealm u)) := by
  refine ⟨?_, ?_, ?_, ?_, ?_, ?_⟩
  · intro u v c d huv hu hv
    exact lands_between_launches huv hu hv
  · intro s t w hst hw
    exact source_mono hst hw
  · intro v v' hvv hv hv'
    exact source_lt_of_loaded hvv hv hv'
  · intro caller u v t hask huv hreturns hvt
    obtain ⟨w, hw, huw⟩ := fresh_after_return huv hvt hask hreturns
    refine ⟨w, hw, huw, ?_⟩
    rw [(e.tracked t).matrix, hw, matrixFrom]
  · intro t
    refine ⟨.of_eq ?_, e.source_spec t⟩
    rw [policy, (e.tracked t).matrix]
  · intro t fetch hflight
    obtain ⟨u, hu, hlaunch, hrows, hmatrix⟩ := (e.tracked t).flight fetch hflight
    refine ⟨u, (e.tracked t).past u hu, hlaunch, hrows, .of_eq ?_⟩
    rw [policy, policy, hmatrix]

/-- Two overlapping reloads: the first one reads a right, the right is revoked while the answer is
still to come, and the second one has to wait. -/
def revocation : Execution :=
  let rules : List Rule := [⟨"master", "toe", "DeleteUser", some "*", some "*"⟩]
  ofMoves { store := { rules }, matrix := Matrix.load rules }
    [.ask (.request 0), .launch (.request 0), .setRules [], .ask (.request 1), .check,
      .land .loaded, .launch (.request 1), .land .loaded]
    rfl (by decide)

/-- The revocation is not lost: the second reload returns well, and the matrix from then on is
built from rows that were read after its call. -/
theorem revocation_takes_effect :
    revocation.moves 3 = .ask (.request 1) ∧ revocation.Returns (.request 1) 7 .loaded ∧
      ∃ w, revocation.source 8 = some w ∧ 3 < w ∧
        (revocation.state 8).matrix = Matrix.load (revocation.rowsAt w) :=
  have hreturns : revocation.Returns (.request 1) 7 .loaded := ⟨rfl, _, rfl, rfl⟩
  ⟨rfl, hreturns, (reloads_take_effect_in_order revocation "master").2.2.2.1 (.request 1) 3 7 8 rfl
    (by decide) hreturns (by decide)⟩

end Execution

end RealmAccess
