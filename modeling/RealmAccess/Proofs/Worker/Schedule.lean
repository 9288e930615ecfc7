/-
RealmAccess.Proofs.Worker.Schedule — when a worker calls for a reload.

`Kept` is the invariant of one worker: what it is doing at a moment, told by
what it did before. If it sleeps, it has been resting since its start or since
its last call returned, it sleeps until one pause after that, and its token
had not fired by then; if the token has fired since, no time has passed. If it
waits, it waits for its last call. If it has stopped, it was disabled or its
token has fired.

`KeepsTime` says what follows for the calls: when the first one is made and
when the next, that none is left out, and what becomes of one under way when
the token fires. Nothing is supposed about the other workers, about requests,
about how long an answer takes or about how a reload ends.
-/
import RealmAccess.Proofs.Reload.Waiting
import RealmAccess.Proofs.Worker.Clockwork

namespace RealmAccess

/-- Milliseconds between the end of a reload and the next. -/
def ReloadSettings.pause (settings : ReloadSettings) : Nat := settings.intervalSecs.toNat * 1000

namespace Clockwork

namespace Run

/-! ## What a worker does -/

section

variable (e : Run) (i : Nat)

/-- The time at a moment. -/
def now (t : Nat) : Nat := (e.state t).now

/-- The worker is started. -/
def Starts (settings : ReloadSettings) (cancelled : Bool) (t : Nat) : Prop :=
  e.moves t = .start settings cancelled ∧ (e.state t).workers.length = i

/-- The worker calls for a reload. -/
def Calls (t : Nat) : Prop := e.moves t = .wake i

/-- The call of the worker returns with an outcome. -/
def Returns (t : Nat) (outcome : Outcome) : Prop := e.execution.Returns (.worker i) t outcome

/-- The token of the worker fires. -/
def Fires (t : Nat) : Prop := e.moves t = .fire i

/-- The worker has stopped for good. -/
def Finished (t : Nat) : Prop := ∃ w, (e.state t).workers[i]? = some w ∧ w.finished = true

/-- Strictly between two moments the worker neither calls nor has a call return. -/
def Still (s t : Nat) : Prop :=
  ∀ k, s < k → k < t → ¬ e.Calls i k ∧ ∀ outcome, ¬ e.Returns i k outcome

/-- The worker begins to rest: it is started, or its call returns. -/
def Rests (u t : Nat) : Prop := t = u ∨ ∃ outcome, e.Returns i t outcome

/-- The token had fired before a moment, perhaps before the start. -/
def Cancelled (cancelled : Bool) (t : Nat) : Prop := cancelled = true ∨ ∃ f, f < t ∧ e.Fires i f

end

variable {e : Run} {i u : Nat} {settings : ReloadSettings} {cancelled : Bool}

theorem now_mono {s t : Nat} (hst : s ≤ t) : e.now s ≤ e.now t := by
  induction hst with
  | refl => exact Nat.le_refl _
  | @step t _ ih => exact Nat.le_trans ih (e.follows t).clock.1

theorem length_mono {s t : Nat} (hst : s ≤ t) :
    (e.state s).workers.length ≤ (e.state t).workers.length := by
  induction hst with
  | refl => exact Nat.le_refl _
  | @step t _ ih => exact Nat.le_trans ih (e.follows t).length_le

/-! ## One thing at a time -/

theorem not_returns_of_calls {t : Nat} (hcalls : e.Calls i t) (outcome : Outcome) :
    ¬ e.Returns i t outcome := by
  intro hreturns
  have hland : (e.moves t).shared = .land outcome := hreturns.1
  rw [hcalls] at hland
  cases hland

theorem not_returns_of_fires {t : Nat} (hfires : e.Fires i t) (outcome : Outcome) :
    ¬ e.Returns i t outcome := by
  intro hreturns
  have hland : (e.moves t).shared = .land outcome := hreturns.1
  rw [hfires] at hland
  cases hland

theorem sleeps_of_calls {t : Nat} (hcalls : e.Calls i t) :
    ∃ w wake, (e.state t).workers[i]? = some w ∧ w.SleepsUntil wake ∧ wake ≤ e.now t := by
  have hstep := e.follows t
  rw [hcalls] at hstep
  exact hstep.of_wake

theorem reloading_of_returns {t : Nat} {outcome : Outcome} (hreturns : e.Returns i t outcome) :
    (e.state t).Reloading i := by
  rw [← (e.coherent t).workers]
  exact Reloader.mem_pending_of_ends (m := (e.moves t).shared) ⟨outcome, hreturns⟩

/-- A worker is there only after its start. -/
theorem lt_of_worker (hstart : e.Starts i settings cancelled u) {t : Nat} {w : Worker}
    (hw : (e.state t).workers[i]? = some w) : u < t := by
  have hlt : i < (e.state t).workers.length := (List.getElem?_eq_some_iff.mp hw).1
  have hlength := hstart.2
  apply Nat.lt_of_not_le
  intro htu
  have := length_mono (e := e) htu
  omega

theorem lt_of_calls (hstart : e.Starts i settings cancelled u) {t : Nat} (hcalls : e.Calls i t) :
    u < t := by
  obtain ⟨w, wake, hw, -, -⟩ := sleeps_of_calls hcalls
  exact lt_of_worker hstart hw

theorem lt_of_returns (hstart : e.Starts i settings cancelled u) {t : Nat} {outcome : Outcome}
    (hreturns : e.Returns i t outcome) : u < t := by
  obtain ⟨w, hw, -⟩ := reloading_of_returns hreturns
  exact lt_of_worker hstart hw

theorem lt_of_fires (hstart : e.Starts i settings cancelled u) {t : Nat} (hfires : e.Fires i t) :
    u < t := by
  have hstep := e.follows t
  rw [hfires] at hstep
  obtain ⟨w, hw⟩ := hstep.of_fire
  exact lt_of_worker hstart hw

/-! ## The invariant -/

/-- What the past says about what the worker is doing. -/
inductive Doing (e : Run) (i : Nat) (settings : ReloadSettings) (cancelled : Bool) (u t : Nat) :
    Worker.Phase → Prop
  | sleeping {r wake turn : Nat} (hrests : e.Rests i u r) (hrt : r < t) (hstill : e.Still i r t)
      (hfree : ¬ e.Cancelled i cancelled r) (hwake : wake = e.now r + settings.pause)
      (htime : e.now t ≤ wake) (hinstant : ∀ f, f < t → e.Fires i f → e.now t = e.now f) :
      Doing e i settings cancelled u t (.sleeping wake turn)
  | reloading {s : Nat} (hcalls : e.Calls i s) (hst : s < t) (hstill : e.Still i s t) :
      Doing e i settings cancelled u t .reloading
  | stopped (hidle : settings.enabled = false ∨ e.Cancelled i cancelled t) :
      Doing e i settings cancelled u t .stopped

/-- What holds of the worker at a moment after its start. -/
structure Kept (e : Run) (i : Nat) (settings : ReloadSettings) (cancelled : Bool) (u t : Nat)
    (w : Worker) : Prop where
  interval : w.intervalSecs = settings.intervalSecs
  token : w.cancelled = true ↔ e.Cancelled i cancelled t
  disabled : settings.enabled = false → w.phase = .stopped
  doing : e.Doing i settings cancelled u t w.phase

theorem cancelled_succ {t : Nat} :
    e.Cancelled i cancelled (t + 1) ↔ e.Cancelled i cancelled t ∨ e.Fires i t := by
  unfold Cancelled
  constructor
  · intro h
    obtain hbefore | ⟨f, hf, hfires⟩ := h
    · exact .inl (.inl hbefore)
    · obtain hft | rfl := Nat.lt_succ_iff_lt_or_eq.mp hf
      · exact .inl (.inr ⟨f, hft, hfires⟩)
      · exact .inr hfires
  · intro h
    obtain (hbefore | ⟨f, hf, hfires⟩) | hfires := h
    · exact .inl hbefore
    · exact .inr ⟨f, Nat.lt_succ_of_lt hf, hfires⟩
    · exact .inr ⟨t, Nat.lt_succ_self t, hfires⟩

theorem still_self (t : Nat) : e.Still i t (t + 1) := by
  intro k htk hkt
  omega

theorem Still.succ {s t : Nat} (h : e.Still i s t) (hcalls : ¬ e.Calls i t)
    (hreturns : ∀ outcome, ¬ e.Returns i t outcome) : e.Still i s (t + 1) := by
  intro k hsk hkt
  obtain hkt' | rfl := Nat.lt_succ_iff_lt_or_eq.mp hkt
  · exact h k hsk hkt'
  · exact ⟨hcalls, hreturns⟩

/-- A worker that is left in its phase goes on doing what it does. While it sleeps, no time passes
or its token has not fired and the time stays within the sleep. -/
theorem Doing.succ {t : Nat} {phase : Worker.Phase} (h : e.Doing i settings cancelled u t phase)
    (hcalls : ¬ e.Calls i t) (hreturns : ∀ outcome, ¬ e.Returns i t outcome)
    (hclock : e.now (t + 1) = e.now t ∨ ∀ wake turn, phase = .sleeping wake turn →
      e.now (t + 1) ≤ wake ∧ ¬ e.Cancelled i cancelled (t + 1)) :
    e.Doing i settings cancelled u (t + 1) phase := by
  cases h with
  | sleeping hrests hrt hstill hfree hwake htime hinstant =>
    have hwithin := hstill.succ hcalls hreturns
    obtain hsame | hpass := hclock
    · refine .sleeping hrests (Nat.lt_succ_of_lt hrt) hwithin hfree hwake (hsame ▸ htime) ?_
      intro f hf hfires
      obtain hft | rfl := Nat.lt_succ_iff_lt_or_eq.mp hf
      · exact hsame.trans (hinstant f hft hfires)
      · exact hsame
    · obtain ⟨htime', huncancelled⟩ := hpass _ _ rfl
      refine .sleeping hrests (Nat.lt_succ_of_lt hrt) hwithin hfree hwake htime' ?_
      intro f hf hfires
      exact absurd (.inr ⟨f, hf, hfires⟩) huncancelled
  | reloading hcall hst hstill =>
    exact .reloading hcall (Nat.lt_succ_of_lt hst) (hstill.succ hcalls hreturns)
  | stopped hidle => exact .stopped (hidle.imp id fun h => cancelled_succ.mpr (.inl h))

/-- The invariant holds from the start on. -/
theorem kept_start (hstart : e.Starts i settings cancelled u) :
    ∃ w, (e.state (u + 1)).workers[i]? = some w ∧ e.Kept i settings cancelled u (u + 1) w := by
  have hcancelled : e.Cancelled i cancelled (u + 1) ↔ cancelled = true := by
    refine ⟨fun h => h.elim id ?_, .inl⟩
    intro hfired
    obtain ⟨f, hf, hfires⟩ := hfired
    have := lt_of_fires hstart hfires
    omega
  have hfree : ¬ e.Cancelled i cancelled u ↔ cancelled = false := by
    rw [← Bool.not_eq_true, ← hcancelled, not_iff_not, cancelled_succ]
    refine ⟨.inl, fun h => h.elim id ?_⟩
    intro hfires
    exact absurd (lt_of_fires hstart hfires) (Nat.lt_irrefl u)
  have hstep := e.follows u
  rw [hstart.1] at hstep
  refine ⟨(e.state u).beginner settings cancelled, ?_, ?_⟩
  · rw [hstep.of_start, workers_started, ← hstart.2, List.getElem?_concat_length]
  · have hnow : e.now (u + 1) = e.now u := by
      refine (e.follows u).now_eq ?_
      rw [hstart.1]
      simp
    unfold beginner
    cases henabled : settings.enabled with
    | false => exact ⟨rfl, hcancelled.symm, fun _ => rfl, .stopped (.inl henabled)⟩
    | true =>
      refine ⟨rfl, hcancelled.symm, fun h => by simp [henabled] at h, ?_⟩
      cases cancelled with
      | true => exact .stopped (.inr (hcancelled.mpr rfl))
      | false =>
        refine .sleeping (.inl rfl) (Nat.lt_succ_self u) (still_self u) (hfree.mpr rfl) rfl ?_ ?_
        · rw [hnow]
          exact Nat.le_add_right _ _
        · intro f hf hfires
          have := lt_of_fires hstart hfires
          omega

/-- **Every move keeps the invariant.** -/
theorem Kept.step {t : Nat} {w w' : Worker} (h : e.Kept i settings cancelled u t w)
    (hw : (e.state t).workers[i]? = some w) (hturn : (e.state t).Turn i w (e.moves t) w') :
    e.Kept i settings cancelled u (t + 1) w' := by
  have hnow : (∀ millis, e.moves t ≠ .pass millis) → e.now (t + 1) = e.now t := (e.follows t).now_eq
  have hends : (e.state t).reloader.Ends (e.moves t).shared (.worker i) ↔
      ∃ outcome, e.Returns i t outcome := Iff.rfl
  generalize hm : e.moves t = m at hturn hnow hends
  cases hturn with
  | woken hsleeps hdue =>
    have hfires : ¬ e.Fires i t := by simp [Fires, hm]
    refine ⟨h.interval, ?_, ?_, .reloading hm (Nat.lt_succ_self t) (still_self t)⟩
    · rw [cancelled_succ, or_iff_left hfires]
      exact h.token
    · intro hdisabled
      obtain ⟨turn, hphase⟩ := hsleeps
      simp [h.disabled hdisabled] at hphase
  | fired =>
    have hcalls : ¬ e.Calls i t := by simp [Calls, hm]
    refine ⟨h.interval, ?_, h.disabled, ?_⟩
    · rw [cancelled_succ]
      simp [show e.Fires i t from hm]
    · exact h.doing.succ hcalls (not_returns_of_fires hm) (.inl (hnow (by simp)))
  | stopped hsleeps hcancelled =>
    have hfires : ¬ e.Fires i t := by simp [Fires, hm]
    have hbefore : e.Cancelled i cancelled t := h.token.mp hcancelled
    refine ⟨h.interval, ?_, fun _ => rfl, .stopped (.inr (cancelled_succ.mpr (.inl hbefore)))⟩
    rw [cancelled_succ, or_iff_left hfires]
    exact h.token
  | @settled outcome hends' =>
    have hfires : ¬ e.Fires i t := by simp [Fires, hm]
    have hreturns := hends.mp hends'
    have hcancelled : w.cancelled = true ↔ e.Cancelled i cancelled (t + 1) := by
      rw [cancelled_succ, or_iff_left hfires]
      exact h.token
    refine ⟨h.interval, hcancelled, ?_, ?_⟩
    · intro hdisabled
      obtain ⟨_, hreturns⟩ := hreturns
      have hphase := (reloading_iff hw).mp (reloading_of_returns hreturns)
      simp [h.disabled hdisabled] at hphase
    · unfold Worker.settle
      cases hc : w.cancelled with
      | true => exact .stopped (.inr (hcancelled.mp hc))
      | false =>
        have hfree : ¬ e.Cancelled i cancelled t := by simp [← h.token, hc]
        refine .sleeping (.inr hreturns) (Nat.lt_succ_self t) (still_self t) hfree ?_ ?_ ?_
        · rw [Worker.intervalMillis, h.interval]
          rfl
        · rw [hnow (by simp)]
          exact Nat.le_add_right _ _
        · intro f hf hfired
          have hlate : e.Cancelled i cancelled (t + 1) := .inr ⟨f, hf, hfired⟩
          simp [hcancelled.mpr hlate] at hc
  | left hwake hfire hends' =>
    have hfires : ¬ e.Fires i t := by simpa [Fires, hm] using hfire
    have hcalls : ¬ e.Calls i t := by simpa [Calls, hm] using hwake
    have hcancelled : w.cancelled = true ↔ e.Cancelled i cancelled (t + 1) := by
      rw [cancelled_succ, or_iff_left hfires]
      exact h.token
    refine ⟨h.interval, hcancelled, h.disabled, ?_⟩
    refine h.doing.succ hcalls (fun outcome hreturns => hends' (hends.mpr ⟨outcome, hreturns⟩)) ?_
    by_cases hsame : e.now (t + 1) = e.now t
    · exact .inl hsame
    · refine .inr ?_
      intro wake turn hphase
      obtain ⟨huncancelled, hle⟩ := (e.follows t).clock.2 hsame w (List.mem_of_getElem? hw) wake
        ⟨turn, hphase⟩
      refine ⟨hle, ?_⟩
      rw [← hcancelled, huncancelled]
      simp

/-- **The invariant holds of every worker at every moment after its start.** -/
theorem exists_kept (hstart : e.Starts i settings cancelled u) {t : Nat} (hut : u < t) :
    ∃ w, (e.state t).workers[i]? = some w ∧ e.Kept i settings cancelled u t w := by
  induction hut with
  | refl => exact kept_start hstart
  | @step t hut ih =>
    obtain ⟨w, hw, hkept⟩ := ih
    obtain ⟨w', hw', hturn⟩ := (e.follows t).turn hw
    exact ⟨w', hw', hkept.step hw hturn⟩

/-! ## Calls -/

/-- What is known of a worker that calls: it was enabled, it has been resting for one pause, its
token had not fired before that, and if it has fired since, it did so at this very time. -/
structure Due (e : Run) (i : Nat) (settings : ReloadSettings) (cancelled : Bool) (u r t : Nat) :
    Prop where
  enabled : settings.enabled = true
  rests : e.Rests i u r
  lt : r < t
  still : e.Still i r t
  free : ¬ e.Cancelled i cancelled r
  now : e.now t = e.now r + settings.pause
  instant : ∀ f, f < t → e.Fires i f → e.now t = e.now f

theorem due_of_calls (hstart : e.Starts i settings cancelled u) {t : Nat}
    (hcalls : e.Calls i t) : ∃ r, e.Due i settings cancelled u r t := by
  obtain ⟨w, wake, hw, ⟨turn, hphase⟩, hdue⟩ := sleeps_of_calls hcalls
  obtain ⟨w', hw', hkept⟩ := exists_kept hstart (lt_of_calls hstart hcalls)
  obtain rfl : w = w' := Option.some.inj (hw.symm.trans hw')
  have henabled : settings.enabled = true := by
    rw [← Bool.not_eq_false]
    intro hdisabled
    have hstopped := hkept.disabled hdisabled
    simp [hphase] at hstopped
  have hdoing := hkept.doing
  rw [hphase] at hdoing
  cases hdoing with
  | @sleeping r _ _ hrests hrt hstill hfree hwake htime hinstant =>
    exact ⟨r, henabled, hrests, hrt, hstill, hfree, by omega, hinstant⟩

/-- What returns was called for, and the worker did nothing in between. -/
theorem calls_of_returns (hstart : e.Starts i settings cancelled u) {r : Nat} {outcome : Outcome}
    (hreturns : e.Returns i r outcome) : ∃ s, s < r ∧ e.Calls i s ∧ e.Still i s r := by
  obtain ⟨w, hw, hkept⟩ := exists_kept hstart (lt_of_returns hstart hreturns)
  have hdoing := hkept.doing
  rw [(reloading_iff hw).mp (reloading_of_returns hreturns)] at hdoing
  cases hdoing with
  | reloading hcalls hst hstill => exact ⟨_, hst, hcalls, hstill⟩

theorem ne_of_rests_of_calls (hstart : e.Starts i settings cancelled u) {r s : Nat}
    (hrests : e.Rests i u r) (hcalls : e.Calls i s) : r ≠ s := by
  rintro rfl
  obtain rfl | ⟨outcome, hreturns⟩ := hrests
  · exact absurd (lt_of_calls hstart hcalls) (Nat.lt_irrefl r)
  · exact not_returns_of_calls hcalls outcome hreturns

theorem le_of_rests (hstart : e.Starts i settings cancelled u) {r : Nat}
    (hrests : e.Rests i u r) : u ≤ r := by
  obtain rfl | ⟨outcome, hreturns⟩ := hrests
  · exact Nat.le_refl r
  · exact Nat.le_of_lt (lt_of_returns hstart hreturns)

/-- A worker that has done nothing since one moment begins to rest at no later one. -/
theorem le_of_rests_of_still (hstart : e.Starts i settings cancelled u) {k r t : Nat}
    (huk : u ≤ k) (hstill : e.Still i k t) (hrests : e.Rests i u r) (hrt : r < t) : r ≤ k := by
  apply Nat.le_of_not_lt
  intro hkr
  obtain rfl | ⟨outcome, hreturns⟩ := hrests
  · omega
  · exact (hstill r hkr hrt).2 outcome hreturns

/-- Between two calls of a worker the earlier one returns. -/
theorem returns_between (hstart : e.Starts i settings cancelled u) {s r t : Nat} (hst : s < t)
    (hs : e.Calls i s) (hdue : e.Due i settings cancelled u r t) :
    s < r ∧ ∃ outcome, e.Returns i r outcome := by
  have hsr : s < r := by
    have hne := ne_of_rests_of_calls hstart hdue.rests hs
    apply Nat.lt_of_not_le
    intro hrs
    exact (hdue.still s (by omega) hst).1 hs
  obtain rfl | hreturns := hdue.rests
  · have := lt_of_calls hstart hs
    omega
  · exact ⟨hsr, hreturns⟩

/-! ## No call is left out -/

/-- The worker sleeps until some time, and it has done nothing since it began to rest. -/
def Asleep (e : Run) (i : Nat) (wake r t : Nat) : Prop :=
  e.Still i r t ∧ e.now t ≤ wake ∧ ∃ w, (e.state t).workers[i]? = some w ∧ w.SleepsUntil wake

/-- A worker that begins to rest falls asleep, unless it is disabled or cancelled. -/
theorem asleep_of_rests (hstart : e.Starts i settings cancelled u) {r : Nat}
    (hrests : e.Rests i u r) (henabled : settings.enabled = true)
    (hfree : ¬ e.Cancelled i cancelled (r + 1)) :
    e.Asleep i (e.now r + settings.pause) r (r + 1) := by
  have hur := le_of_rests hstart hrests
  obtain ⟨w, hw, hkept⟩ := exists_kept hstart (Nat.lt_succ_of_le hur)
  have hdoing := hkept.doing
  generalize hphase : w.phase = phase at hdoing
  cases hdoing with
  | @sleeping r' _ turn hrests' hrt hstill _ hwake htime _ =>
    have hle := le_of_rests_of_still hstart (le_of_rests hstart hrests') hstill hrests
      (Nat.lt_succ_self r)
    obtain rfl : r = r' := by omega
    subst hwake
    exact ⟨still_self r, htime, w, hw, turn, hphase⟩
  | reloading hcalls hst hstill =>
    have hle := le_of_rests_of_still hstart (Nat.le_of_lt (lt_of_calls hstart hcalls)) hstill
      hrests (Nat.lt_succ_self r)
    have hne := ne_of_rests_of_calls hstart hrests hcalls
    omega
  | stopped hidle =>
    obtain hdisabled | hcancelled := hidle
    · simp [henabled] at hdisabled
    · exact absurd hcancelled hfree

/-- A worker that sleeps, its token not fired, sleeps on or calls when its sleep is over. -/
theorem Asleep.succ (hstart : e.Starts i settings cancelled u) {wake r t : Nat}
    (h : e.Asleep i wake r t) (hfree : ¬ e.Cancelled i cancelled (t + 1)) :
    (e.Calls i t ∧ e.now t = wake) ∨ e.Asleep i wake r (t + 1) := by
  obtain ⟨hstill, htime, w, hw, hsleeps⟩ := h
  obtain ⟨w₀, hw₀, hkept⟩ := exists_kept hstart (lt_of_worker hstart hw)
  obtain rfl : w = w₀ := Option.some.inj (hw.symm.trans hw₀)
  obtain ⟨w', hw', hturn⟩ := (e.follows t).turn hw
  have hends : (e.state t).reloader.Ends (e.moves t).shared (.worker i) ↔
      ∃ outcome, e.Returns i t outcome := Iff.rfl
  have hasleep : ∀ outcome, ¬ e.Returns i t outcome := fun outcome hreturns =>
    not_reloading_of_sleeps hw hsleeps (reloading_of_returns hreturns)
  generalize hm : e.moves t = m at hturn hends
  cases hturn with
  | woken hsleeps' hdue =>
    obtain ⟨turn, hphase⟩ := hsleeps
    obtain ⟨turn', hphase'⟩ := hsleeps'
    rw [hphase] at hphase'
    cases hphase'
    exact .inl ⟨hm, Nat.le_antisymm htime hdue⟩
  | fired => exact absurd (cancelled_succ.mpr (.inr hm)) hfree
  | stopped _ hcancelled =>
    exact absurd (cancelled_succ.mpr (.inl (hkept.token.mp hcancelled))) hfree
  | settled hends' =>
    obtain ⟨outcome, hreturns⟩ := hends.mp hends'
    exact absurd hreturns (hasleep outcome)
  | left hwake hfire hends' =>
    have hcalls : ¬ e.Calls i t := by simpa [Calls, hm] using hwake
    refine .inr ⟨hstill.succ hcalls hasleep, ?_, w, hw', hsleeps⟩
    by_cases hsame : e.now (t + 1) = e.now t
    · exact hsame ▸ htime
    · exact ((e.follows t).clock.2 hsame w (List.mem_of_getElem? hw) wake hsleeps).2

/-- A worker whose token does not fire while it rests has called when its sleep was over, or it
still sleeps. -/
theorem calls_or_asleep (hstart : e.Starts i settings cancelled u) {r t : Nat}
    (hrests : e.Rests i u r) (henabled : settings.enabled = true) (hbefore : cancelled = false)
    (hfires : ∀ f, f < t → e.Fires i f → e.now r + settings.pause < e.now f) {k : Nat}
    (hrk : r < k) (hkt : k ≤ t) :
    (∃ s, r < s ∧ s < k ∧ e.Calls i s ∧ e.Still i r s ∧ e.now s = e.now r + settings.pause) ∨
      e.Asleep i (e.now r + settings.pause) r k := by
  -- Until the sleep is over the token has not fired: it fires later than that.
  have hfree : ∀ j, j < t → e.now j ≤ e.now r + settings.pause →
      ¬ e.Cancelled i cancelled (j + 1) := by
    intro j hjt htime hcancelled
    obtain hcancelled | ⟨f, hf, hfired⟩ := hcancelled
    · simp [hbefore] at hcancelled
    · have hlate := hfires f (by omega) hfired
      have := now_mono (e := e) (Nat.le_of_lt_succ hf)
      omega
  induction hrk with
  | refl =>
    exact .inr (asleep_of_rests hstart hrests henabled
      (hfree r hkt (Nat.le_add_right _ _)))
  | @step k hrk ih =>
    obtain ⟨s, hrs, hsk, hcalled⟩ | hasleep := ih (by omega)
    · exact .inl ⟨s, hrs, Nat.lt_succ_of_lt hsk, hcalled⟩
    · obtain ⟨hcalls, hnow⟩ | hasleep' := hasleep.succ hstart (hfree k hkt hasleep.2.1)
      · exact .inl ⟨k, hrk, Nat.lt_succ_self k, hcalls, hasleep.1, hnow⟩
      · exact .inr hasleep'

/-! ## After the token has fired -/

theorem lt_of_now_lt {s t : Nat} (h : e.now s < e.now t) : s < t := by
  apply Nat.lt_of_not_le
  intro hts
  have := now_mono (e := e) hts
  omega

/-- Once time has gone on, a worker whose token has fired has stopped, or waits for a call made no
later. -/
theorem stops_of_fires (hstart : e.Starts i settings cancelled u) {f t : Nat}
    (hfires : e.Fires i f) (htime : e.now f < e.now t) :
    e.Finished i t ∨ ∃ s, s < t ∧ e.Calls i s ∧ e.now s ≤ e.now f ∧
      ∀ k outcome, s < k → k < t → ¬ e.Returns i k outcome := by
  have hft := lt_of_now_lt htime
  have huf := lt_of_fires hstart hfires
  obtain ⟨w, hw, hkept⟩ := exists_kept hstart (Nat.lt_trans huf hft)
  have hdoing := hkept.doing
  generalize hphase : w.phase = phase at hdoing
  cases hdoing with
  | sleeping _ _ _ _ _ _ hinstant =>
    have := hinstant f hft hfires
    omega
  | @reloading s hcalls hst hstill =>
    refine .inr ⟨s, hst, hcalls, ?_, fun k outcome hsk hkt => (hstill k hsk hkt).2 outcome⟩
    obtain hsf | hfs := Nat.lt_or_ge f s
    · obtain ⟨r, hdue⟩ := due_of_calls hstart hcalls
      exact Nat.le_of_eq (hdue.instant f hsf hfires)
    · exact now_mono hfs
  | stopped => exact .inl ⟨w, hw, by simp [Worker.finished, hphase]⟩

/-- No worker begins to rest with its token fired before, so none calls after the return of a call
that was under way when its token fired. -/
theorem not_calls_after_end (hstart : e.Starts i settings cancelled u) {f r t : Nat}
    {outcome : Outcome} (hfires : e.Fires i f) (hfr : f < r) (hreturns : e.Returns i r outcome)
    (hrt : r < t) : ¬ e.Calls i t := by
  intro hcalls
  obtain ⟨q, hdue⟩ := due_of_calls hstart hcalls
  have hle := le_of_rests_of_still hstart (le_of_rests hstart hdue.rests) hdue.still
    (.inr ⟨outcome, hreturns⟩) hrt
  exact hdue.free (.inr ⟨f, by omega, hfires⟩)

/-- A worker whose call returns after its token has fired has stopped for good. -/
theorem finished_of_returns (hstart : e.Starts i settings cancelled u) {f r t : Nat}
    {outcome : Outcome} (hfires : e.Fires i f) (hfr : f < r) (hreturns : e.Returns i r outcome)
    (hrt : r < t) : e.Finished i t := by
  have hur := lt_of_returns hstart hreturns
  have hrests : e.Rests i u r := .inr ⟨outcome, hreturns⟩
  obtain ⟨w, hw, hkept⟩ := exists_kept hstart (Nat.lt_trans hur hrt)
  have hdoing := hkept.doing
  generalize hphase : w.phase = phase at hdoing
  cases hdoing with
  | sleeping hrests' _ hstill hfree =>
    have hle := le_of_rests_of_still hstart (le_of_rests hstart hrests') hstill hrests hrt
    exact absurd (.inr ⟨f, by omega, hfires⟩) hfree
  | reloading hcalls hst hstill =>
    have hle := le_of_rests_of_still hstart (Nat.le_of_lt (lt_of_calls hstart hcalls)) hstill
      hrests hrt
    have hne := ne_of_rests_of_calls hstart hrests hcalls
    exact absurd hcalls (not_calls_after_end hstart hfires hfr hreturns (by omega))
  | stopped => exact ⟨w, hw, by simp [Worker.finished, hphase]⟩

/-! ## Main statement -/

/-- What is promised of a worker that is started with some settings at a moment, its token perhaps
fired beforehand. -/
structure KeepsTime (e : Run) (i : Nat) (settings : ReloadSettings) (cancelled : Bool) (u : Nat) :
    Prop where
  /-- A worker that is disabled never calls, nor does one that is cancelled beforehand. -/
  never : settings.enabled = false ∨ cancelled = true → ∀ t, ¬ e.Calls i t
  /-- The first call is made one pause after the start. -/
  first : ∀ t, e.Calls i t → (∀ k, k < t → ¬ e.Calls i k) → e.now t = e.now u + settings.pause
  /-- Between two calls the earlier one returns, with whatever outcome, and the later one is made
  one pause after the last return before it. -/
  next : ∀ s t, s < t → e.Calls i s → e.Calls i t →
    ∃ r outcome, s < r ∧ r < t ∧ e.Returns i r outcome ∧ e.Still i r t ∧
      e.now t = e.now r + settings.pause
  /-- No call is left out: once more than a pause has gone by after the start or a return, a call
  was made when the pause was over, unless the token had fired by then. -/
  due : settings.enabled = true → cancelled = false → ∀ r t, e.Rests i u r → r < t →
    e.now r + settings.pause < e.now t →
    (∀ f, f < t → e.Fires i f → e.now r + settings.pause < e.now f) →
    ∃ s, r < s ∧ s < t ∧ e.Calls i s ∧ e.Still i r s ∧ e.now s = e.now r + settings.pause
  /-- A call goes on until it returns, whatever happens to the token. -/
  waits : ∀ s t, e.Calls i s → s < t → (∀ k outcome, s < k → k < t → ¬ e.Returns i k outcome) →
    .worker i ∈ (e.state t).reloader.pending
  /-- Where the lock and the store are fair, it does return. -/
  returns : e.execution.Fair → ∀ s, e.Calls i s → ∃ r outcome, s < r ∧ e.Returns i r outcome
  /-- Once the token has fired no call is made, but for one that is due at the very same time. -/
  cancelled : ∀ f t, e.Fires i f → f < t → e.Calls i t → e.now t = e.now f
  /-- Once the token has fired and time has gone on, the worker has stopped, or a call that it made
  before is still under way. -/
  stops : ∀ f t, e.Fires i f → e.now f < e.now t →
    e.Finished i t ∨ ∃ s, s < t ∧ e.Calls i s ∧ e.now s ≤ e.now f ∧
      ∀ k outcome, s < k → k < t → ¬ e.Returns i k outcome
  /-- When such a call returns the worker stops for good, and it never calls again. -/
  ends : ∀ f r outcome t, e.Fires i f → f < r → e.Returns i r outcome → r < t →
    e.Finished i t ∧ ¬ e.Calls i t

/-- **Every worker keeps time**, in every run. -/
theorem keepsTime (hstart : e.Starts i settings cancelled u) :
    e.KeepsTime i settings cancelled u where
  never := by
    intro hidle t hcalls
    obtain ⟨r, hdue⟩ := due_of_calls hstart hcalls
    obtain hdisabled | hcancelled := hidle
    · simp [hdue.enabled] at hdisabled
    · exact hdue.free (.inl hcancelled)
  first := by
    intro t hcalls hnone
    obtain ⟨r, hdue⟩ := due_of_calls hstart hcalls
    obtain rfl | ⟨outcome, hreturns⟩ := hdue.rests
    · exact hdue.now
    · obtain ⟨s, hsr, hs, -⟩ := calls_of_returns hstart hreturns
      exact absurd hs (hnone s (Nat.lt_trans hsr hdue.lt))
  next := by
    intro s t hst hs ht
    obtain ⟨r, hdue⟩ := due_of_calls hstart ht
    obtain ⟨hsr, outcome, hreturns⟩ := returns_between hstart hst hs hdue
    exact ⟨r, outcome, hsr, hdue.lt, hreturns, hdue.still, hdue.now⟩
  due := by
    intro henabled hbefore r t hrests hrt htime hfires
    obtain hcalled | hasleep :=
      calls_or_asleep hstart hrests henabled hbefore hfires hrt (Nat.le_refl t)
    · exact hcalled
    · have := hasleep.2.1
      omega
  waits := by
    intro s t hcalls hst hnone
    have hask : e.execution.moves s = .ask (.worker i) := congrArg Move.shared hcalls
    exact Execution.waits_until_return hask hst hnone
  returns := by
    intro hfair s hcalls
    have hask : e.execution.moves s = .ask (.worker i) := congrArg Move.shared hcalls
    exact hfair.returns hask
  cancelled := by
    intro f t hfires hft hcalls
    obtain ⟨r, hdue⟩ := due_of_calls hstart hcalls
    exact hdue.instant f hft hfires
  stops := fun f t hfires htime => stops_of_fires hstart hfires htime
  ends := fun f r outcome t hfires hfr hreturns hrt =>
    ⟨finished_of_returns hstart hfires hfr hreturns hrt,
      not_calls_after_end hstart hfires hfr hreturns hrt⟩

end Run

end Clockwork

end RealmAccess
