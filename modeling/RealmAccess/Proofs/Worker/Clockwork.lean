/-
RealmAccess.Proofs.Worker.Clockwork — workers, a clock and the reloader that
they share, move by move.

A worker sleeps, calls for a reload, waits for it to end and sleeps again.
Around it everything may happen at any moment: others call for reloads, the
lock goes to anybody, an answer is delayed or fails, the worker's token
fires. `Clockwork.Step` says which moves can be made, with the functions that
a service runs, and a `Clockwork.Run` is any endless sequence of them.

Two rules are about time. Time may not pass a sleep that is over, nor a
sleeping worker whose token has fired: the worker moves first. And a worker
whose sleep is over may call for a reload whether its token has fired or
not, while one whose token has fired may stop whether its sleep is over or
not. So where both happen at one instant the choice is open, and nowhere
else.
-/
import RealmAccess.Proofs.Reload.Execution
import RealmAccess.Worker

namespace RealmAccess

/-- A worker sleeps until some time. -/
def Worker.SleepsUntil (w : Worker) (wake : Nat) : Prop := ∃ turn, w.phase = .sleeping wake turn

/-- Whether a move of the reloader is no part of a worker's call, neither its start nor its end. -/
def Reloader.Move.apart : Move → Bool
  | .ask (.worker _) => false
  | .land _ => false
  | _ => true

/-- A clock, the workers that go by it and the reloader that they share. -/
structure Clockwork where
  /-- Milliseconds since the start. -/
  now : Nat := 0
  /-- The number of times a worker went to sleep. -/
  sleeps : Nat := 0
  reloader : Reloader := {}
  workers : List Worker := []

namespace Clockwork

/-- Let the worker at a position sleep, or stop if it was cancelled. -/
def settle (c : Clockwork) (index : Nat) : Clockwork :=
  match c.workers[index]? with
  | none => c
  | some w =>
    { c with workers := c.workers.set index (w.settle c.now c.sleeps), sleeps := c.sleeps + 1 }

/-- Start a worker, perhaps one that is cancelled beforehand. -/
def started (c : Clockwork) (settings : ReloadSettings) (cancelled : Bool) : Clockwork :=
  let begun := { c with workers := c.workers ++ [⟨settings.intervalSecs, cancelled, .stopped⟩] }
  if settings.enabled then begun.settle c.workers.length else begun

/-- End a fetch with an outcome; a worker that made it is done with its call. -/
def landed (c : Clockwork) (fetch : Fetch) (outcome : Outcome) : Clockwork :=
  let ended := { c with reloader := c.reloader.conclude fetch outcome }
  match fetch.caller with
  | .request _ => ended
  | .worker index => ended.settle index

/-! ## Moves -/

/-- What can happen to workers, clock and reloader. -/
inductive Move where
  | pass (millis : Nat)
  | start (settings : ReloadSettings) (cancelled : Bool)
  /-- A worker whose sleep is over calls for a reload. -/
  | wake (index : Nat)
  /-- The token of a worker fires. -/
  | fire (index : Nat)
  /-- A sleeping worker whose token has fired stops. -/
  | stop (index : Nat)
  | land (outcome : Outcome)
  /-- The reloader makes a move that is no part of a worker's call. -/
  | apart (m : Reloader.Move)

/-- What a move leads to, where it can be made. -/
inductive Step (c : Clockwork) : Move → Clockwork → Prop
  | pass (millis : Nat)
      (h : ∀ w ∈ c.workers, ∀ wake, w.SleepsUntil wake →
        w.cancelled = false ∧ c.now + millis ≤ wake) :
      Step c (.pass millis) { c with now := c.now + millis }
  | start (settings : ReloadSettings) (cancelled : Bool) :
      Step c (.start settings cancelled) (c.started settings cancelled)
  | wake {index : Nat} {w : Worker} {wake : Nat} (hw : c.workers[index]? = some w)
      (hsleeps : w.SleepsUntil wake) (hdue : wake ≤ c.now) :
      Step c (.wake index)
        { c with
          reloader := c.reloader.ask (.worker index)
          workers := c.workers.set index w.wake }
  | fire {index : Nat} {w : Worker} (hw : c.workers[index]? = some w) :
      Step c (.fire index) { c with workers := c.workers.set index { w with cancelled := true } }
  | stop {index : Nat} {w : Worker} {wake : Nat} (hw : c.workers[index]? = some w)
      (hsleeps : w.SleepsUntil wake) (hcancelled : w.cancelled = true) :
      Step c (.stop index) { c with workers := c.workers.set index { w with phase := .stopped } }
  | land {fetch : Fetch} (outcome : Outcome) (hflight : c.reloader.flight = some fetch) :
      Step c (.land outcome) (c.landed fetch outcome)
  | apart {m : Reloader.Move} {r : Reloader} (hm : m.apart = true)
      (hr : c.reloader.move m = some r) : Step c (.apart m) { c with reloader := r }

variable {c c' : Clockwork} {m : Move}

theorem Step.of_start {settings : ReloadSettings} {cancelled : Bool}
    (h : c.Step (.start settings cancelled) c') : c' = c.started settings cancelled := by
  cases h
  rfl

theorem Step.of_wake {i : Nat} (h : c.Step (.wake i) c') :
    ∃ w wake, c.workers[i]? = some w ∧ w.SleepsUntil wake ∧ wake ≤ c.now := by
  cases h with
  | wake hw hsleeps hdue => exact ⟨_, _, hw, hsleeps, hdue⟩

theorem Step.of_fire {i : Nat} (h : c.Step (.fire i) c') : ∃ w, c.workers[i]? = some w := by
  cases h with
  | fire hw => exact ⟨_, hw⟩

/-- The move that the reloader makes in a move. -/
def Move.shared : Move → Reloader.Move
  | .wake index => .ask (.worker index)
  | .land outcome => .land outcome
  | .apart m => m
  | _ => .check

/-! ## One worker -/

/-- What a move does to the worker at a position. -/
inductive Turn (c : Clockwork) (i : Nat) (w : Worker) : Move → Worker → Prop
  | woken {wake : Nat} (hsleeps : w.SleepsUntil wake) (hdue : wake ≤ c.now) :
      Turn c i w (.wake i) w.wake
  | fired : Turn c i w (.fire i) { w with cancelled := true }
  | stopped {wake : Nat} (hsleeps : w.SleepsUntil wake) (hcancelled : w.cancelled = true) :
      Turn c i w (.stop i) { w with phase := .stopped }
  | settled {outcome : Outcome} (hends : c.reloader.Ends (.land outcome) (.worker i)) :
      Turn c i w (.land outcome) (w.settle c.now c.sleeps)
  | left {m : Move} (hwake : m ≠ .wake i) (hfire : m ≠ .fire i)
      (hends : ¬ c.reloader.Ends m.shared (.worker i)) : Turn c i w m w

theorem getElem?_set_of_some {l : List Worker} {j : Nat} {w : Worker} (hw : l[j]? = some w)
    (i : Nat) (v : Worker) : (l.set i v)[j]? = some (if i = j then v else w) := by
  have hlt : j < l.length := (List.getElem?_eq_some_iff.mp hw).1
  rw [List.getElem?_set]
  by_cases hij : i = j
  · rw [if_pos hij, if_pos (hij ▸ hlt), if_pos hij]
  · rw [if_neg hij, hw, if_neg hij]

/-- Where one worker is settled, it alone changes. -/
theorem getElem?_settle {j : Nat} {w : Worker} (hw : c.workers[j]? = some w)
    (i : Nat) :
    (c.settle i).workers[j]? = some (if i = j then w.settle c.now c.sleeps else w) := by
  unfold settle
  cases hv : c.workers[i]? with
  | none =>
    have hij : i ≠ j := by
      rintro rfl
      rw [hw] at hv
      cases hv
    rw [if_neg hij]
    exact hw
  | some v =>
    refine (getElem?_set_of_some hw i _).trans ?_
    by_cases hij : i = j
    · obtain rfl : w = v := Option.some.inj (hw.symm.trans (hij ▸ hv))
      rfl
    · rw [if_neg hij, if_neg hij]

/-- A worker as it is started: it sleeps, unless it is disabled or cancelled. -/
def beginner (c : Clockwork) (settings : ReloadSettings) (cancelled : Bool) : Worker :=
  let w : Worker := ⟨settings.intervalSecs, cancelled, .stopped⟩
  if settings.enabled then w.settle c.now c.sleeps else w

/-- A start adds one worker and leaves the others alone. -/
theorem workers_started (c : Clockwork) (settings : ReloadSettings) (cancelled : Bool) :
    (c.started settings cancelled).workers = c.workers ++ [c.beginner settings cancelled] := by
  unfold started beginner
  cases settings.enabled with
  | false => rfl
  | true => simp [settle]

theorem apart_iff {m : Reloader.Move} :
    m.apart = true ↔ (∀ outcome, m ≠ .land outcome) ∧ ∀ i, m ≠ .ask (.worker i) := by
  cases m with
  | ask caller => cases caller <;> simp [Reloader.Move.apart]
  | _ => simp [Reloader.Move.apart]

/-- Where a move exchanges one worker, that one and the others have to have taken their turns. -/
theorem turn_of_set {i j : Nat} {w v : Worker} (hw : c.workers[i]? = some w)
    (hown : j = i → c.Turn i w m v) (hother : j ≠ i → c.Turn i w m w) :
    ∃ w', (c.workers.set j v)[i]? = some w' ∧ c.Turn i w m w' := by
  refine ⟨_, getElem?_set_of_some hw j v, ?_⟩
  by_cases hji : j = i
  · rw [if_pos hji]
    exact hown hji
  · rw [if_neg hji]
    exact hother hji

/-- **Every worker that there is takes its turn at every move**, even if it is to be left alone. -/
theorem Step.turn (h : c.Step m c') {i : Nat} {w : Worker}
    (hw : c.workers[i]? = some w) : ∃ w', c'.workers[i]? = some w' ∧ c.Turn i w m w' := by
  have hends : ∀ {m : Reloader.Move}, (∀ outcome, m ≠ .land outcome) →
      ¬ c.reloader.Ends m (.worker i) := fun hm => Reloader.not_ends_of_ne_land hm _
  have hsame : ∀ {j v}, c.workers[j]? = some v → j = i → v = w := by
    rintro j v hv rfl
    exact Option.some.inj (hv.symm.trans hw)
  cases h with
  | pass millis h => exact ⟨w, hw, .left (by simp) (by simp) (hends (by simp [Move.shared]))⟩
  | start settings cancelled =>
    have hlt : i < c.workers.length := (List.getElem?_eq_some_iff.mp hw).1
    refine ⟨w, ?_, .left (by simp) (by simp) (hends (by simp [Move.shared]))⟩
    rw [workers_started, List.getElem?_append_left hlt, hw]
  | @wake j v wake hv hsleeps hdue =>
    refine turn_of_set hw ?_ ?_
    · intro hji
      obtain rfl := hsame hv hji
      exact hji ▸ .woken hsleeps hdue
    · intro hji
      exact .left (by simp [hji]) (by simp) (hends (by simp [Move.shared]))
  | @fire j v hv =>
    refine turn_of_set hw ?_ ?_
    · intro hji
      obtain rfl := hsame hv hji
      exact hji ▸ .fired
    · intro hji
      exact .left (by simp) (by simp [hji]) (hends (by simp [Move.shared]))
  | @stop j v wake hv hsleeps hcancelled =>
    refine turn_of_set hw ?_ ?_
    · intro hji
      obtain rfl := hsame hv hji
      exact hji ▸ .stopped hsleeps hcancelled
    · intro hji
      exact .left (by simp) (by simp) (hends (by simp [Move.shared]))
  | @land fetch outcome hflight =>
    have hcallers : c.reloader.Ends (.land outcome) (.worker i) ↔ fetch.caller = .worker i := by
      simp [Reloader.Ends, hflight]
    unfold landed
    simp only
    cases hcaller : fetch.caller with
    | request number =>
      refine ⟨w, hw, .left (by simp) (by simp) ?_⟩
      rw [Move.shared, hcallers, hcaller]
      simp
    | worker j =>
      refine ⟨_, getElem?_settle (c := { c with reloader := c.reloader.conclude fetch outcome }) hw j,
        ?_⟩
      by_cases hji : j = i
      · rw [if_pos hji]
        exact .settled (hcallers.mpr (hji ▸ hcaller))
      · rw [if_neg hji]
        refine .left (by simp) (by simp) ?_
        rw [Move.shared, hcallers, hcaller]
        simpa using hji
  | @apart m r hm hr => exact ⟨w, hw, .left (by simp) (by simp) (hends (apart_iff.mp hm).1)⟩

@[simp] theorem length_settle (c : Clockwork) (i : Nat) :
    (c.settle i).workers.length = c.workers.length := by
  unfold settle
  split
  · rfl
  · exact List.length_set

theorem Step.length_eq (h : c.Step m c')
    (hm : ∀ settings cancelled, m ≠ .start settings cancelled) :
    c'.workers.length = c.workers.length := by
  cases h with
  | start settings cancelled => exact absurd rfl (hm settings cancelled)
  | @land fetch outcome hflight =>
    unfold landed
    simp only
    split <;> simp
  | _ => simp

/-- A worker that was not there before has just been started. -/
theorem Step.born (h : c.Step m c') {i : Nat} {w : Worker}
    (hnone : c.workers[i]? = none) (hw : c'.workers[i]? = some w) :
    ∃ settings cancelled, m = .start settings cancelled ∧ i = c.workers.length ∧
      w = c.beginner settings cancelled := by
  rw [List.getElem?_eq_none_iff] at hnone
  have hlt : i < c'.workers.length := (List.getElem?_eq_some_iff.mp hw).1
  by_cases hm : ∃ settings cancelled, m = .start settings cancelled
  · obtain ⟨settings, cancelled, rfl⟩ := hm
    cases h
    rw [workers_started] at hw hlt
    rw [List.length_append, List.length_singleton] at hlt
    have hi : i = c.workers.length := by omega
    rw [hi, List.getElem?_concat_length, Option.some_inj] at hw
    exact ⟨settings, cancelled, rfl, hi, hw.symm⟩
  · have hlength := h.length_eq fun settings cancelled heq => hm ⟨settings, cancelled, heq⟩
    omega

theorem Step.length_le (h : c.Step m c') :
    c.workers.length ≤ c'.workers.length := by
  by_cases hm : ∃ settings cancelled, m = .start settings cancelled
  · obtain ⟨settings, cancelled, rfl⟩ := hm
    cases h
    rw [workers_started, List.length_append]
    omega
  · have hlength := h.length_eq fun settings cancelled heq => hm ⟨settings, cancelled, heq⟩
    omega

/-! ## Time -/

@[simp] theorem now_settle (c : Clockwork) (i : Nat) : (c.settle i).now = c.now := by
  unfold settle
  split <;> rfl

@[simp] theorem reloader_settle (c : Clockwork) (i : Nat) : (c.settle i).reloader = c.reloader := by
  unfold settle
  split <;> rfl

/-- Only where time passes does the clock go on. -/
theorem Step.now_eq (h : c.Step m c') (hm : ∀ millis, m ≠ .pass millis) :
    c'.now = c.now := by
  cases h with
  | pass millis h => exact absurd rfl (hm millis)
  | start settings cancelled =>
    unfold started
    simp only
    split
    · exact now_settle _ _
    · rfl
  | land outcome hflight =>
    unfold landed
    simp only
    split
    · rfl
    · exact now_settle _ _
  | _ => rfl

/-- **Time goes on only as far as every sleeping worker lets it**, and not at all where the token of
one has fired. -/
theorem Step.clock (h : c.Step m c') :
    c.now ≤ c'.now ∧ (c'.now ≠ c.now → ∀ w ∈ c.workers, ∀ wake, w.SleepsUntil wake →
      w.cancelled = false ∧ c'.now ≤ wake) := by
  by_cases hm : ∃ millis, m = .pass millis
  · obtain ⟨millis, rfl⟩ := hm
    cases h with
    | pass _ h => exact ⟨Nat.le_add_right _ _, fun _ => h⟩
  · have hsame := h.now_eq fun millis heq => hm ⟨millis, heq⟩
    exact ⟨Nat.le_of_eq hsame.symm, fun hne => absurd hsame hne⟩

/-! ## Who waits -/

/-- The worker at a position waits for its reload to end. -/
def Reloading (c : Clockwork) (i : Nat) : Prop :=
  ∃ w, c.workers[i]? = some w ∧ w.phase = .reloading

theorem reloading_iff {i : Nat} {w : Worker} (hw : c.workers[i]? = some w) :
    c.Reloading i ↔ w.phase = .reloading := by
  simp [Reloading, hw]

/-- A worker waits after a move if it called by it, or waited before, unless its reload was ended. -/
theorem Step.reloading (h : c.Step m c') (i : Nat) :
    c'.Reloading i ↔
      (m = .wake i ∨ c.Reloading i) ∧ ¬ c.reloader.Ends m.shared (.worker i) := by
  cases hw : c.workers[i]? with
  | none =>
    have hbefore : ¬ c.Reloading i := by simp [Reloading, hw]
    have hwake : m ≠ .wake i := by
      rintro rfl
      obtain ⟨_, _, hv, -⟩ := h.of_wake
      simp [hw] at hv
    simp only [hwake, hbefore, or_self, false_and, iff_false]
    intro hreloading
    obtain ⟨w, hw', hphase⟩ := hreloading
    obtain ⟨settings, cancelled, -, -, rfl⟩ := h.born hw hw'
    unfold beginner at hphase
    simp only at hphase
    split at hphase
    · exact Worker.settle_ne_reloading _ _ _ hphase
    · cases hphase
  | some w =>
    obtain ⟨w', hw', hturn⟩ := h.turn hw
    rw [reloading_iff hw, reloading_iff hw']
    cases hturn with
    | woken hsleeps hdue =>
      have hends := Reloader.not_ends_of_ne_land (r := c.reloader) (m := .ask (.worker i)) (by simp)
        (.worker i)
      simp [Worker.wake, Move.shared, hends]
    | fired =>
      have hends := Reloader.not_ends_of_ne_land (r := c.reloader) (m := .check) (by simp)
        (.worker i)
      simp [Move.shared, hends]
    | stopped hsleeps hcancelled =>
      obtain ⟨turn, hphase⟩ := hsleeps
      simp [hphase]
    | settled hends => simp [Move.shared, hends, Worker.settle_ne_reloading]
    | left hwake hfire hends => simp [hwake, hends]

/-- Nobody waits twice, and the workers that wait are those that are reloading. -/
structure Coherent (c : Clockwork) : Prop where
  nodup : c.reloader.pending.Nodup
  workers : ∀ i, .worker i ∈ c.reloader.pending ↔ c.Reloading i

theorem not_reloading_of_sleeps {i wake : Nat} {w : Worker}
    (hw : c.workers[i]? = some w) (hsleeps : w.SleepsUntil wake) : ¬ c.Reloading i := by
  obtain ⟨turn, hphase⟩ := hsleeps
  simp [reloading_iff hw, hphase]

/-- A worker that sleeps does not wait, so it may call; with that every move is one of the reloader,
too. -/
theorem Step.shared (h : c.Step m c') (hc : c.Coherent) :
    c.reloader.move m.shared = some c'.reloader := by
  cases h with
  | start settings cancelled =>
    have hsame : (c.started settings cancelled).reloader = c.reloader := by
      unfold started
      simp only
      split
      · exact reloader_settle _ _
      · rfl
    rw [hsame]
    rfl
  | @wake i w wake hw hsleeps hdue =>
    refine Reloader.move_ask_iff.mpr ⟨?_, rfl⟩
    rw [hc.workers]
    exact not_reloading_of_sleeps hw hsleeps
  | @land fetch outcome hflight =>
    refine Reloader.move_land_iff.mpr ⟨fetch, hflight, ?_⟩
    unfold landed
    simp only
    split
    · rfl
    · exact reloader_settle _ _
  | apart hm hr => exact hr
  | _ => rfl

theorem Step.shared_eq_ask (h : c.Step m c') (i : Nat) :
    m.shared = .ask (.worker i) ↔ m = .wake i := by
  cases h with
  | apart hm hr => simp [Move.shared, (apart_iff.mp hm).2 i]
  | _ => simp [Move.shared]

/-- **Every move keeps the workers coherent with those who wait.** -/
theorem Coherent.step (hc : c.Coherent) (h : c.Step m c') :
    c'.Coherent := by
  constructor
  · exact Reloader.nodup_of_move (h.shared hc) hc.nodup
  · intro i
    rw [Reloader.mem_pending_of_move (h.shared hc) hc.nodup, h.shared_eq_ask, hc.workers,
      h.reloading]

/-! ## Moves in a row -/

/-- Some moves lead from one state to another. -/
inductive Path : Clockwork → List Move → Clockwork → Prop
  | nil (c : Clockwork) : Path c [] c
  | cons {c d e : Clockwork} {m : Move} {ms : List Move} (h : c.Step m d) (rest : Path d ms e) :
      Path c (m :: ms) e

theorem Path.of_step (h : c.Step m c') : c.Path [m] c' := .cons h (.nil c')

theorem Path.append {d : Clockwork} {ms ns : List Move} (h : c.Path ms c') (h' : c'.Path ns d) :
    c.Path (ms ++ ns) d := by
  induction h with
  | nil => exact h'
  | cons hstep _ ih => exact .cons hstep (ih h')

theorem Coherent.path {ms : List Move} (hc : c.Coherent) (h : c.Path ms c') : c'.Coherent := by
  induction h with
  | nil => exact hc
  | cons hstep _ ih => exact ih (hc.step hstep)

/-! ## Runs -/

/-- An endless sequence of moves. -/
structure Course where
  state : Nat → Clockwork
  moves : Nat → Move
  follows : ∀ t, (state t).Step (moves t) (state (t + 1))

namespace Course

/-- Nothing happens for ever. -/
def idle (c : Clockwork) : Course where
  state _ := c
  moves _ := .apart .check
  follows _ := .apart rfl rfl

/-- A course with one move put in front. -/
def cons {c : Clockwork} {m : Move} (tail : Course) (h : c.Step m (tail.state 0)) : Course where
  state
    | 0 => c
    | t + 1 => tail.state t
  moves
    | 0 => m
    | t + 1 => tail.moves t
  follows
    | 0 => h
    | t + 1 => tail.follows t

end Course

/-- Some moves can be put in front of a course that begins where they lead. -/
theorem Path.exists_course {ms : List Move} (h : c.Path ms c') (tail : Course)
    (htail : tail.state 0 = c') :
    ∃ e : Course, e.state 0 = c ∧ (∀ k, k < ms.length → ms[k]? = some (e.moves k)) ∧
      (∀ k, e.state (ms.length + k) = tail.state k) ∧
      ∀ k, e.moves (ms.length + k) = tail.moves k := by
  induction h with
  | nil c => exact ⟨tail, htail, by simp, by simp, by simp⟩
  | @cons c d _ m ms hstep _ ih =>
    obtain ⟨e, hzero, hmoves, hstate, hafter⟩ := ih htail
    refine ⟨e.cons (c := c) (m := m) (by rw [hzero]; exact hstep), rfl, ?_, ?_, ?_⟩
    · intro k hk
      cases k with
      | zero => rfl
      | succ k => exact hmoves k (Nat.lt_of_succ_lt_succ hk)
    · intro k
      rw [List.length_cons, Nat.succ_add_eq_add_succ]
      exact hstate k
    · intro k
      rw [List.length_cons, Nat.succ_add_eq_add_succ]
      exact hafter k

/-- An endless sequence of moves, at first with no worker and nobody waiting. -/
structure Run extends Course where
  unstarted : (state 0).workers = []
  unasked : (state 0).reloader.pending = []

namespace Run

theorem coherent (e : Run) : ∀ t : Nat, (e.state t).Coherent
  | 0 => by
      constructor
      · rw [e.unasked]
        exact List.nodup_nil
      · simp [e.unasked, Reloading, e.unstarted]
  | t + 1 => (coherent e t).step (e.follows t)

/-- The execution that the reloader goes through in a run. -/
def execution (e : Run) : Execution where
  state t := (e.state t).reloader
  moves t := (e.moves t).shared
  unasked := e.unasked
  follows t := (e.follows t).shared (e.coherent t)

end Run

end Clockwork

end RealmAccess
