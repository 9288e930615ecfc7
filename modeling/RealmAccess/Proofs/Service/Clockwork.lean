/-
RealmAccess.Proofs.Service.Clockwork — every run of a service is a run of its
clockwork.

A service decides what a clockwork leaves open: it serves the queue in order
and at once, it wakes every worker as soon as its sleep is over, and who is
cancelled in its sleep stops at once. All of this is made of moves of its
clockwork. That time never passes a sleep that is over takes an invariant,
`Timed`: between two commands every worker that sleeps does so for a time to
come. It needs that no worker is started with an empty pause.

So what holds of every run of a clockwork holds of every service, its workers
included (`exists_run`).
-/
import RealmAccess.Proofs.Service.Moves
import RealmAccess.Proofs.Worker.Schedule

namespace RealmAccess

namespace Clockwork

variable {c c' : Clockwork} {m : Move} {waking : List Nat}

/-! ## On time -/

/-- Every worker that sleeps does so for a time to come, except for some that are about to wake. -/
structure Timed (c : Clockwork) (waking : List Nat) : Prop extends Coherent c where
  asleep : ∀ (i : Nat) (w : Worker) (wake : Nat), c.workers[i]? = some w → w.SleepsUntil wake →
    w.cancelled = false ∧ (c.now < wake ∨ wake = c.now ∧ i ∈ waking)
  waking : ∀ i, i ∈ waking → ∃ w, c.workers[i]? = some w ∧ w.SleepsUntil c.now
  paused : ∀ (i : Nat) (w : Worker), c.workers[i]? = some w → w.phase ≠ .stopped → 0 < w.intervalMillis

/-- Whether a move takes no time and is neither the start of a worker nor its end. -/
def Move.prompt : Move → Bool
  | .wake _ => true
  | .land _ => true
  | .apart _ => true
  | _ => false

/-- Every worker that is there after a move but a start has taken its turn. -/
theorem Step.turn_of (h : c.Step m c') (hm : ∀ settings cancelled, m ≠ .start settings cancelled)
    {i : Nat} {w' : Worker} (hw' : c'.workers[i]? = some w') :
    ∃ w, c.workers[i]? = some w ∧ c.Turn i w m w' := by
  cases hw : c.workers[i]? with
  | none =>
    obtain ⟨settings, cancelled, heq, -, -⟩ := h.born hw hw'
    exact absurd heq (hm settings cancelled)
  | some w =>
    obtain ⟨v, hv, hturn⟩ := h.turn hw
    obtain rfl : w' = v := Option.some.inj (hw'.symm.trans hv)
    exact ⟨w, rfl, hturn⟩

/-- A prompt move keeps a clockwork on time; a worker that wakes is no longer about to. -/
theorem Timed.step {waking' : List Nat} (ht : c.Timed waking) (h : c.Step m c')
    (hm : m.prompt = true) (hwaking : ∀ i, i ∈ waking' ↔ i ∈ waking ∧ m ≠ .wake i) :
    c'.Timed waking' := by
  have hstart : ∀ settings cancelled, m ≠ .start settings cancelled := by
    rintro settings cancelled rfl
    cases hm
  have hnow : c'.now = c.now := by
    refine h.now_eq ?_
    rintro millis rfl
    cases hm
  have hends : ∀ {i w}, c.workers[i]? = some w → c.reloader.Ends m.shared (.worker i) →
      w.phase = .reloading := by
    intro i w hw hends
    rw [← reloading_iff hw, ← ht.workers]
    exact Reloader.mem_pending_of_ends hends
  refine ⟨ht.toCoherent.step h, ?_, ?_, ?_⟩
  · intro i w' wake hw' hsleeps
    obtain ⟨w, hw, hturn⟩ := h.turn_of hstart hw'
    rw [hnow, hwaking]
    cases hturn with
    | woken _ _ =>
      obtain ⟨turn, hphase⟩ := hsleeps
      cases hphase
    | fired => cases hm
    | stopped _ _ => cases hm
    | settled hended =>
      have hpause := ht.paused i w hw (by simp [hends hw hended])
      obtain ⟨turn, hphase⟩ := hsleeps
      unfold Worker.settle at hphase
      cases hc : w.cancelled with
      | true => simp [hc] at hphase
      | false =>
        simp only [hc, Bool.false_eq_true, if_false, Worker.Phase.sleeping.injEq] at hphase
        refine ⟨hc, .inl ?_⟩
        omega
    | left hwake _ _ =>
      obtain ⟨hfree, htime⟩ := ht.asleep i w' wake hw hsleeps
      exact ⟨hfree, htime.imp id fun hnow => ⟨hnow.1, hnow.2, hwake⟩⟩
  · intro i hi
    obtain ⟨hi, hwake⟩ := (hwaking i).mp hi
    obtain ⟨w, hw, hsleeps⟩ := ht.waking i hi
    obtain ⟨w', hw', hturn⟩ := h.turn hw
    rw [hnow]
    refine ⟨w', hw', ?_⟩
    cases hturn with
    | woken _ _ => exact absurd rfl hwake
    | fired => cases hm
    | stopped _ _ => cases hm
    | settled hended =>
      obtain ⟨turn, hphase⟩ := hsleeps
      have hwaits := hends hw hended
      rw [hphase] at hwaits
      cases hwaits
    | left _ _ _ => exact hsleeps
  · intro i w' hw' hphase
    obtain ⟨w, hw, hturn⟩ := h.turn_of hstart hw'
    cases hturn with
    | woken hsleeps _ =>
      obtain ⟨turn, hsleeps⟩ := hsleeps
      exact ht.paused i w hw (by simp [hsleeps])
    | fired => cases hm
    | stopped _ _ => cases hm
    | settled hended => exact ht.paused i w hw (by simp [hends hw hended])
    | left _ _ _ => exact ht.paused i w' hw hphase

/-- A start keeps a clockwork on time, if the worker is started with a pause. -/
theorem Timed.started (ht : c.Timed []) {settings : ReloadSettings} (cancelled : Bool)
    (hpause : settings.enabled = true → 0 < settings.intervalSecs) :
    (c.started settings cancelled).Timed [] := by
  have hstep : c.Step (.start settings cancelled) (c.started settings cancelled) := .start _ _
  have hnow : (c.started settings cancelled).now = c.now := hstep.now_eq (by simp)
  have hpositive : settings.enabled = true → 0 < settings.pause := by
    intro henabled
    have hsecs : 0 < settings.intervalSecs.toNat := UInt64.lt_iff_toNat_lt.mp (hpause henabled)
    exact Nat.mul_pos hsecs (by decide)
  -- A worker is either an old one or the new one.
  have hcases : ∀ (i : Nat) (w : Worker), (c.started settings cancelled).workers[i]? = some w →
      c.workers[i]? = some w ∨ w = c.beginner settings cancelled := by
    intro i w hw
    cases hold : c.workers[i]? with
    | none =>
      obtain ⟨settings', cancelled', heq, -, rfl⟩ := hstep.born hold hw
      cases heq
      exact .inr rfl
    | some v =>
      rw [workers_started, List.getElem?_append_left (List.getElem?_eq_some_iff.mp hold).1, hold] at hw
      exact .inl hw
  refine ⟨ht.toCoherent.step hstep, ?_, by simp, ?_⟩
  · intro i w wake hw hsleeps
    rw [hnow]
    obtain hold | rfl := hcases i w hw
    · exact ht.asleep i w wake hold hsleeps
    · obtain ⟨turn, hphase⟩ := hsleeps
      unfold beginner Worker.settle at hphase ⊢
      cases henabled : settings.enabled with
      | false => simp [henabled] at hphase
      | true =>
        cases cancelled with
        | true => simp [henabled] at hphase
        | false =>
          have hpos := hpositive henabled
          simp only [henabled, Bool.false_eq_true, if_false, if_true,
            Worker.Phase.sleeping.injEq] at hphase
          have hmillis : Worker.intervalMillis ⟨settings.intervalSecs, false, .stopped⟩ =
              settings.pause := rfl
          refine ⟨by simp, .inl ?_⟩
          omega
  · intro i w hw hphase
    obtain hold | rfl := hcases i w hw
    · exact ht.paused i w hold hphase
    · unfold beginner at hphase ⊢
      cases henabled : settings.enabled with
      | false => simp [henabled] at hphase
      | true => exact hpositive henabled

/-- Time passes until some moment which no sleep ends before; who sleeps until then is about to
wake. -/
theorem Timed.passed (ht : c.Timed []) {time : Nat} (hle : c.now ≤ time)
    (hasleep : ∀ (i : Nat) (w : Worker) (wake : Nat), c.workers[i]? = some w →
      w.SleepsUntil wake → time ≤ wake)
    (hwaking : ∀ i, i ∈ waking ↔ ∃ w, c.workers[i]? = some w ∧ w.SleepsUntil time) :
    (∃ millis, c.Step (.pass millis) { c with now := time }) ∧
      Timed { c with now := time } waking := by
  have hstep : c.Step (.pass (time - c.now)) { c with now := time } := by
    have hsum : c.now + (time - c.now) = time := by omega
    have hpass : c.Step (.pass (time - c.now)) { c with now := c.now + (time - c.now) } := by
      refine .pass _ ?_
      intro w hw wake hsleeps
      obtain ⟨i, hi⟩ := List.mem_iff_getElem?.mp hw
      rw [hsum]
      exact ⟨(ht.asleep i w wake hi hsleeps).1, hasleep i w wake hi hsleeps⟩
    rw [hsum] at hpass
    exact hpass
  refine ⟨⟨_, hstep⟩, ht.toCoherent.step hstep, ?_, ?_, ht.paused⟩
  · intro i w wake hw hsleeps
    refine ⟨(ht.asleep i w wake hw hsleeps).1, ?_⟩
    obtain hlt | heq := Nat.lt_or_eq_of_le (hasleep i w wake hw hsleeps)
    · exact .inl hlt
    · exact .inr ⟨heq.symm, (hwaking i).mpr ⟨w, hw, heq ▸ hsleeps⟩⟩
  · intro i hi
    exact (hwaking i).mp hi

/-- Time passes, and every sleep goes on. -/
theorem Timed.passed_within (ht : c.Timed []) {time : Nat} (hle : c.now ≤ time)
    (hlater : ∀ (i : Nat) (w : Worker) (wake : Nat), c.workers[i]? = some w →
      w.SleepsUntil wake → time < wake) :
    (∃ millis, c.Step (.pass millis) { c with now := time }) ∧
      Timed { c with now := time } [] := by
  refine ht.passed hle (fun i w wake hw hsleeps => Nat.le_of_lt (hlater i w wake hw hsleeps)) ?_
  intro i
  simp only [List.not_mem_nil, false_iff, not_exists, not_and]
  intro w hw hsleeps
  exact Nat.lt_irrefl time (hlater i w time hw hsleeps)

/-- A token fires, and if its worker sleeps then that stops. -/
theorem path_cancel {i : Nat} {w : Worker} (hw : c.workers[i]? = some w) :
    ∃ ms, c.Path (.fire i :: ms) { c with workers := c.workers.set i w.cancel } := by
  have hfire := Step.fire hw
  cases hphase : w.phase with
  | reloading =>
    have hsame : w.cancel = { w with cancelled := true } := by simp [Worker.cancel, hphase]
    exact ⟨[], hsame ▸ .of_step hfire⟩
  | stopped =>
    have hsame : w.cancel = { w with cancelled := true } := by simp [Worker.cancel, hphase]
    exact ⟨[], hsame ▸ .of_step hfire⟩
  | sleeping wake turn =>
    have hfired := getElem?_set_of_some hw i { w with cancelled := true }
    rw [if_pos rfl] at hfired
    have hstop := Step.stop (c := { c with workers := c.workers.set i { w with cancelled := true } })
      hfired ⟨turn, hphase⟩ rfl
    have hcancel : w.cancel = { w with cancelled := true, phase := .stopped } := by
      simp [Worker.cancel, hphase]
    rw [List.set_set] at hstop
    exact ⟨[.stop i], .cons hfire (hcancel ▸ .of_step hstop)⟩

theorem Timed.cancelled (ht : c.Timed []) {i : Nat} {w : Worker} (hw : c.workers[i]? = some w) :
    Timed { c with workers := c.workers.set i w.cancel } [] := by
  obtain ⟨ms, hpath⟩ := path_cancel hw
  have hcases : ∀ (j : Nat) (v : Worker), (c.workers.set i w.cancel)[j]? = some v →
      c.workers[j]? = some v ∨ i = j ∧ v = w.cancel := by
    intro j v hv
    rw [List.getElem?_set] at hv
    split at hv
    · rename_i hij
      split at hv
      · exact .inr ⟨hij, (Option.some.inj hv).symm⟩
      · cases hv
    · exact .inl hv
  refine ⟨ht.toCoherent.path hpath, ?_, by simp, ?_⟩
  · intro j v wake hv hsleeps
    obtain hold | ⟨-, rfl⟩ := hcases j v hv
    · exact ht.asleep j v wake hold hsleeps
    · obtain ⟨turn, hphase⟩ := hsleeps
      unfold Worker.cancel at hphase
      simp only at hphase
      split at hphase <;> cases hphase
  · intro j v hv hphase
    obtain hold | ⟨rfl, rfl⟩ := hcases j v hv
    · exact ht.paused j v hold hphase
    · refine ht.paused i w hw ?_
      intro hstopped
      simp [Worker.cancel, hstopped] at hphase

/-! ## Prompt moves in a row -/

/-- Some moves lead from one state to another that is on time, and no time passes. -/
structure Promptly (c c' : Clockwork) (waking : List Nat) : Prop where
  path : ∃ ms, c.Path ms c'
  timed : c'.Timed waking
  now : c'.now = c.now

theorem Promptly.refl (ht : c.Timed waking) : c.Promptly c waking := ⟨⟨[], .nil c⟩, ht, rfl⟩

theorem Promptly.trans {d : Clockwork} {waking' : List Nat} (h : c.Promptly c' waking)
    (h' : c'.Promptly d waking') : c.Promptly d waking' := by
  obtain ⟨ms, hms⟩ := h.path
  obtain ⟨ns, hns⟩ := h'.path
  exact ⟨⟨ms ++ ns, hms.append hns⟩, h'.timed, h'.now.trans h.now⟩

theorem Promptly.of_step {waking' : List Nat} (ht : c.Timed waking) (h : c.Step m c')
    (hm : m.prompt = true) (hwaking : ∀ i, i ∈ waking' ↔ i ∈ waking ∧ m ≠ .wake i) :
    c.Promptly c' waking' := by
  refine ⟨⟨[m], .of_step h⟩, ht.step h hm hwaking, h.now_eq ?_⟩
  rintro millis rfl
  cases hm

end Clockwork

namespace Service

open Clockwork

/-- The clock, the workers and the reloader of a service. -/
def clockwork (s : Service) : Clockwork := ⟨s.now, s.sleeps, s.reloader, s.workers⟩

/-! ## Serving the queue -/

theorem clockwork_settleWorker (s : Service) (i : Nat) :
    (s.settleWorker i).clockwork = s.clockwork.settle i := by
  unfold settleWorker Clockwork.settle
  cases hw : s.workers[i]? with
  | none => simp [clockwork, hw]
  | some w =>
    have hw' : s.clockwork.workers[i]? = some w := hw
    simp only [hw']
    split <;> rfl

theorem clockwork_land (s : Service) (fetch : Fetch) :
    (s.land fetch).clockwork = s.clockwork.landed fetch s.reloader.outcome := by
  unfold land resume landed
  cases hcaller : fetch.caller with
  | request number => rfl
  | worker i => exact clockwork_settleWorker _ i

variable {waking : List Nat}

theorem promptly_land {s : Service} (ht : s.clockwork.Timed waking) {fetch : Fetch}
    (hflight : s.reloader.flight = some fetch) :
    s.clockwork.Promptly (s.land fetch).clockwork waking := by
  rw [clockwork_land]
  exact .of_step ht (.land s.reloader.outcome hflight) rfl (by simp)

theorem promptly_serve : ∀ (n : Nat) {s : Service}, s.clockwork.Timed waking →
    s.clockwork.Promptly (serve n s).clockwork waking
  | 0, s, ht => .refl ht
  | n + 1, s, ht => by
      unfold serve
      split
      · rename_i caller others hflight hqueue
        have hmove : s.reloader.move (.launch caller) = some (s.reloader.launch caller others) := by
          rw [Reloader.move_launch_iff, hqueue, List.erase_cons_head]
          exact ⟨hflight, List.mem_cons_self, rfl⟩
        have hlaunch : s.clockwork.Promptly (s.launch caller others).clockwork waking :=
          .of_step ht (.apart rfl hmove) rfl (by simp)
        simp only
        split
        · exact hlaunch
        · have hnow : (s.launch caller others).reloader.flight =
              some (s.reloader.fetchFor caller) := rfl
          have hland := promptly_land hlaunch.timed hnow
          exact (hlaunch.trans hland).trans (promptly_serve n hland.timed)
      · exact .refl ht

theorem promptly_release {s : Service} (ht : s.clockwork.Timed waking) :
    s.clockwork.Promptly s.release.2.clockwork waking := by
  unfold release
  split
  · exact .refl ht
  · rename_i fetch hflight
    have hland := promptly_land ht hflight
    exact hland.trans (promptly_serve _ hland.timed)

theorem promptly_ask {c : Clockwork} {s : Service} {caller : Caller}
    (h : c.Promptly (clockwork { s with reloader := s.reloader.ask caller }) waking) :
    c.Promptly (s.ask caller).clockwork waking := h.trans (promptly_serve _ h.timed)

/-- A new request has a number that nobody waits under, so it may ask. -/
theorem promptly_reload {s : Service} (h : s.Orderly) (ht : s.clockwork.Timed waking) :
    s.clockwork.Promptly s.reload.2.clockwork waking := by
  have hfree : .request s.asked ∉ s.reloader.pending := by
    intro hpending
    have := h.requests s.asked hpending
    omega
  have hmove : s.reloader.move (.ask (.request s.asked)) =
      some (s.reloader.ask (.request s.asked)) := Reloader.move_ask_iff.mpr ⟨hfree, rfl⟩
  have hask : s.clockwork.Promptly
      { s.clockwork with reloader := s.reloader.ask (.request s.asked) } waking :=
    .of_step ht (.apart rfl hmove) rfl (by simp)
  have hserved : s.clockwork.Promptly
      (ask { s with requests := s.requests ++ [⟨s.asked, none⟩], asked := s.asked + 1 }
        (.request s.asked)).clockwork waking := promptly_ask hask
  unfold reload
  simp only
  split <;> exact hserved

/-! ## Workers and time -/

/-- A worker that is about to wake does so. -/
theorem promptly_wakeWorker {s : Service} {i : Nat} (ht : s.clockwork.Timed (i :: waking))
    (hi : i ∉ waking) : s.clockwork.Promptly (s.wakeWorker i).clockwork waking := by
  obtain ⟨w, hw, hsleeps⟩ := ht.waking i List.mem_cons_self
  have hw' : s.workers[i]? = some w := hw
  have hwake : s.clockwork.Promptly
      { s.clockwork with
        reloader := s.reloader.ask (.worker i)
        workers := s.workers.set i w.wake } waking := by
    refine .of_step ht (.wake hw hsleeps (Nat.le_refl _)) rfl ?_
    intro j
    rw [List.mem_cons, ne_eq, Move.wake.injEq]
    constructor
    · intro hj
      exact ⟨.inr hj, fun hij => hi (hij ▸ hj)⟩
    · intro hj
      exact hj.1.resolve_left fun hji => hj.2 hji.symm
  unfold wakeWorker
  rw [hw']
  exact promptly_ask (s := { s with workers := s.workers.set i w.wake }) hwake

theorem promptly_foldl_wakeWorker : ∀ (indices : List Nat) {s : Service}, indices.Nodup →
    s.clockwork.Timed indices →
    s.clockwork.Promptly (indices.foldl wakeWorker s).clockwork []
  | [], s, _, ht => .refl ht
  | i :: rest, s, hnodup, ht => by
      rw [List.nodup_cons] at hnodup
      have hwake := promptly_wakeWorker ht hnodup.1
      exact hwake.trans (promptly_foldl_wakeWorker rest hnodup.2 hwake.timed)

/-- The next alarm comes before the end of every sleep. -/
theorem nextAlarm?_spec {s : Service} (ht : s.clockwork.Timed []) :
    match s.nextAlarm? s.now with
    | none => ∀ (i : Nat) (w : Worker) (wake : Nat), s.workers[i]? = some w → ¬ w.SleepsUntil wake
    | some time => s.now < time ∧ ∀ (i : Nat) (w : Worker) (wake : Nat), s.workers[i]? = some w →
        w.SleepsUntil wake → time ≤ wake := by
  have hmem : ∀ (i : Nat) (w : Worker) (wake : Nat), s.workers[i]? = some w →
      w.SleepsUntil wake → wake ∈ (s.alarms.map (·.1)).filter (s.now < ·) := by
    intro i w wake hw hsleeps
    have hlater := (ht.asleep i w wake hw hsleeps).2.resolve_right (by simp)
    obtain ⟨turn, hphase⟩ := hsleeps
    rw [List.mem_filter, decide_eq_true_eq]
    exact ⟨List.mem_map.mpr ⟨(wake, turn, i), mem_alarms.mpr ⟨w, hw, hphase⟩, rfl⟩, hlater⟩
  cases halarm : s.nextAlarm? s.now with
  | none =>
    intro i w wake hw hsleeps
    have hnone := hmem i w wake hw hsleeps
    rw [List.min?_eq_none_iff.mp halarm] at hnone
    cases hnone
  | some time =>
    obtain ⟨htime, hmin⟩ := List.min?_eq_some_iff.mp halarm
    rw [List.mem_filter, decide_eq_true_eq] at htime
    exact ⟨htime.2, fun i w wake hw hsleeps => hmin wake (hmem i w wake hw hsleeps)⟩

/-- **Time passes from alarm to alarm**, and all who sleep until one wake then. -/
theorem runUntil_timed (target now : Nat) (s : Service) (ht : s.clockwork.Timed [])
    (hnow : s.now = now) (hle : now ≤ target) :
    (∃ ms, s.clockwork.Path ms (runUntil target now s).clockwork) ∧
      (runUntil target now s).clockwork.Timed [] := by
  fun_induction runUntil target now s with
  | case1 now s hnone =>
    have hnext := nextAlarm?_spec ht
    rw [hnow, hnone] at hnext
    obtain ⟨⟨millis, hstep⟩, htimed⟩ := ht.passed_within (Nat.le_trans (Nat.le_of_eq hnow) hle)
      fun i w wake hw hsleeps => absurd hsleeps (hnext i w wake hw)
    exact ⟨⟨_, .of_step hstep⟩, htimed⟩
  | case2 now s time halarm hlt ih =>
    have hnext := nextAlarm?_spec ht
    rw [hnow, halarm] at hnext
    have hwaking : ∀ i, i ∈ s.wakingAt time ↔
        ∃ w, s.clockwork.workers[i]? = some w ∧ w.SleepsUntil time := by
      intro i
      rw [mem_wakingAt]
      exact exists_congr fun w => exists_and_left
    obtain ⟨⟨millis, hstep⟩, htimed⟩ := ht.passed
      (Nat.le_trans (Nat.le_of_eq hnow) (Nat.le_of_lt hlt.1)) hnext.2 hwaking
    have hwoken := promptly_foldl_wakeWorker (s := { s with now := time }) (s.wakingAt time)
      (nodup_wakingAt s time) htimed
    obtain ⟨ms, hms⟩ := hwoken.path
    obtain ⟨⟨ns, hns⟩, hlast⟩ := ih hwoken.timed hwoken.now hlt.2
    exact ⟨⟨_, .cons hstep (hms.append hns)⟩, hlast⟩
  | case3 now s time halarm hlt =>
    have hnext := nextAlarm?_spec ht
    rw [hnow, halarm] at hnext
    have hlate : target < time := Nat.lt_of_not_le fun hle' => hlt ⟨hnext.1, hle'⟩
    obtain ⟨⟨millis, hstep⟩, htimed⟩ := ht.passed_within (Nat.le_trans (Nat.le_of_eq hnow) hle)
      fun i w wake hw hsleeps => Nat.lt_of_lt_of_le hlate (hnext.2 i w wake hw hsleeps)
    exact ⟨⟨_, .of_step hstep⟩, htimed⟩

/-! ## Every command -/

/-- The move that a command begins with, if it starts a worker or cancels one of those there are. -/
def opening? (workers : Nat) : Command → Option Move
  | .startWorker settings cancelled => some (.start settings cancelled)
  | .cancelWorker index => if index < workers then some (.fire index) else none
  | _ => none

theorem clockwork_startWorker (s : Service) (settings : ReloadSettings) (cancelled : Bool) :
    (s.startWorker settings cancelled).clockwork = s.clockwork.started settings cancelled := by
  unfold startWorker started
  simp only
  split
  · rw [clockwork_settleWorker]
    rfl
  · rfl

theorem clockwork_cancelWorker {s : Service} {i : Nat} {w : Worker}
    (hw : s.workers[i]? = some w) : (s.cancelWorker i).clockwork =
      { s.clockwork with workers := s.workers.set i w.cancel } := by
  unfold cancelWorker
  rw [hw]
  simp only
  split <;> rfl

/-- A command is some moves of the clockwork, which is on time after it. -/
structure Plays (s : Service) (c : Command) : Prop where
  path : ∃ ms, s.clockwork.Path ms (s.run c).2.clockwork ∧
    ∀ m, opening? s.workers.length c = some m → ms[0]? = some m
  timed : (s.run c).2.clockwork.Timed []

theorem plays_of_promptly {s : Service} {c : Command}
    (h : s.clockwork.Promptly (s.run c).2.clockwork []) (hc : opening? s.workers.length c = none) :
    s.Plays c := by
  obtain ⟨ms, hms⟩ := h.path
  exact ⟨⟨ms, hms, by simp [hc]⟩, h.timed⟩

/-- **Every command is some moves of the clockwork.** -/
theorem plays_run {s : Service} (h : s.Orderly) (ht : s.clockwork.Timed []) {c : Command}
    (hpause : ∀ settings cancelled, c = .startWorker settings cancelled →
      settings.enabled = true → 0 < settings.intervalSecs) : s.Plays c := by
  have happart : ∀ {m : Reloader.Move} {r : Reloader}, m.apart = true →
      s.reloader.move m = some r → s.clockwork.Promptly { s.clockwork with reloader := r } [] :=
    fun hm hr => .of_step ht (.apart hm hr) rfl (by simp)
  cases c with
  | setRules rules => exact plays_of_promptly (happart (m := .setRules rules) rfl rfl) rfl
  | setRuleOutage outage => exact plays_of_promptly (happart (m := .setOutage outage) rfl rfl) rfl
  | stallNext => exact plays_of_promptly (happart (m := .stallNext) rfl rfl) rfl
  | release => exact plays_of_promptly (promptly_release ht) rfl
  | reload => exact plays_of_promptly (promptly_reload h ht) rfl
  | advance millis =>
    obtain ⟨⟨ms, hms⟩, htimed⟩ := runUntil_timed (s.now + millis) s.now s ht rfl
      (Nat.le_add_right _ _)
    exact ⟨⟨ms, hms, by simp [opening?]⟩, htimed⟩
  | startWorker settings cancelled =>
    have hstarted := clockwork_startWorker s settings cancelled
    constructor
    · refine ⟨[.start settings cancelled], ?_, fun m hm => hm⟩
      show s.clockwork.Path _ (s.startWorker settings cancelled).clockwork
      rw [hstarted]
      exact .of_step (.start settings cancelled)
    · show (s.startWorker settings cancelled).clockwork.Timed []
      rw [hstarted]
      exact ht.started cancelled (hpause settings cancelled rfl)
  | cancelWorker i =>
    cases hw : s.workers[i]? with
    | none =>
      have hsame : (s.run (.cancelWorker i)).2 = s := by
        show s.cancelWorker i = s
        unfold cancelWorker
        rw [hw]
      have hlength : ¬ i < s.workers.length := by
        have := List.getElem?_eq_none_iff.mp hw
        omega
      refine plays_of_promptly ?_ (if_neg hlength)
      rw [hsame]
      exact .refl ht
    | some w =>
      have hcancelled := clockwork_cancelWorker hw
      have hlength : i < s.workers.length := (List.getElem?_eq_some_iff.mp hw).1
      obtain ⟨ms, hms⟩ := path_cancel (c := s.clockwork) hw
      constructor
      · refine ⟨.fire i :: ms, ?_, ?_⟩
        · show s.clockwork.Path _ (s.cancelWorker i).clockwork
          rw [hcancelled]
          exact hms
        · intro m hm
          rw [opening?, if_pos hlength] at hm
          exact hm
      · show (s.cancelWorker i).clockwork.Timed []
        rw [hcancelled]
        exact ht.cancelled hw
  | _ => exact plays_of_promptly (.refl ht) rfl

/-- The moves of some commands, one after the other, as an endless sequence. -/
theorem exists_course : ∀ (cs : List Command) {s : Service}, s.Orderly → s.clockwork.Timed [] →
    (∀ settings cancelled, .startWorker settings cancelled ∈ cs → settings.enabled = true →
      0 < settings.intervalSecs) →
    ∃ (e : Course) (moment : Nat → Nat), e.state 0 = s.clockwork ∧
      (∀ m n, m ≤ n → moment m ≤ moment n) ∧
      ∀ n, e.state (moment n) = (s.after (cs.take n)).clockwork ∧
        ∀ c m, cs[n]? = some c → opening? (s.after (cs.take n)).workers.length c = some m →
          e.moves (moment n) = m
  | [], s, _, _, _ => ⟨.idle s.clockwork, fun _ => 0, rfl, fun _ _ _ => Nat.le_refl 0,
      fun n => ⟨by rw [List.take_nil]; rfl, by simp⟩⟩
  | c :: cs, s, h, ht, hpause => by
      have hplays := plays_run h ht fun settings cancelled heq =>
        hpause settings cancelled (heq ▸ List.mem_cons_self)
      obtain ⟨ms, hms, hopening⟩ := hplays.path
      obtain ⟨tail, moment, hzero, hmono, hafter⟩ := exists_course cs (leads_run h c).1
        hplays.timed fun settings cancelled hmem =>
          hpause settings cancelled (List.mem_cons_of_mem _ hmem)
      obtain ⟨e, hfirst, hmoves, hstate, hlater⟩ := hms.exists_course tail hzero
      refine ⟨e, fun n => n.casesOn 0 fun n => ms.length + moment n, hfirst, ?_, ?_⟩
      · intro m n hmn
        cases m with
        | zero => exact Nat.zero_le _
        | succ m =>
          cases n with
          | zero => exact absurd hmn (Nat.not_succ_le_zero m)
          | succ n => exact Nat.add_le_add_left (hmono m n (Nat.le_of_succ_le_succ hmn)) _
      · intro n
        cases n with
        | zero =>
          refine ⟨hfirst, ?_⟩
          intro d m hd hm
          cases hd
          have hhead := hopening m hm
          have hlt : 0 < ms.length := (List.getElem?_eq_some_iff.mp hhead).1
          rw [hmoves 0 hlt, Option.some_inj] at hhead
          exact hhead
        | succ n =>
          refine ⟨(hstate (moment n)).trans (hafter n).1, ?_⟩
          intro d m hd hm
          exact (hlater (moment n)).trans ((hafter n).2 d m hd hm)

theorem timed_of_calm {s : Service} (h : s.Calm) : s.clockwork.Timed [] := by
  have hworkers : s.clockwork.workers = [] := h.workers
  have hpending : s.clockwork.reloader.pending = [] := h.idle.pending
  refine ⟨⟨?_, ?_⟩, ?_, ?_, ?_⟩ <;> simp [hworkers, hpending, Clockwork.Reloading]

/-- **Every run of a service is a run of its clockwork.** Whatever a calm service is told to do, if
its workers are started with a pause, there is a run that its clockwork goes through, each command
taking it from one moment to a later one; and those commands that start or cancel a worker begin
with just that. -/
theorem exists_run {s : Service} (h : s.Calm) {cs : List Command}
    (hpause : ∀ settings cancelled, .startWorker settings cancelled ∈ cs →
      settings.enabled = true → 0 < settings.intervalSecs) :
    ∃ (e : Clockwork.Run) (moment : Nat → Nat), (∀ m n, m ≤ n → moment m ≤ moment n) ∧
      ∀ n, e.state (moment n) = (s.after (cs.take n)).clockwork ∧
        (∀ settings cancelled, cs[n]? = some (.startWorker settings cancelled) →
          e.Starts (s.after (cs.take n)).workers.length settings cancelled (moment n)) ∧
        ∀ i, cs[n]? = some (.cancelWorker i) → i < (s.after (cs.take n)).workers.length →
          e.Fires i (moment n) := by
  obtain ⟨e, moment, hzero, hmono, hafter⟩ := exists_course cs h.orderly (timed_of_calm h) hpause
  have hunstarted : (e.state 0).workers = [] := by
    rw [hzero]
    exact h.workers
  have hunasked : (e.state 0).reloader.pending = [] := by
    rw [hzero]
    exact h.idle.pending
  refine ⟨⟨e, hunstarted, hunasked⟩, moment, hmono, ?_⟩
  intro n
  obtain ⟨hstate, hmoves⟩ := hafter n
  refine ⟨hstate, ?_, ?_⟩
  · intro settings cancelled hc
    refine ⟨hmoves _ _ hc rfl, ?_⟩
    show (e.state (moment n)).workers.length = _
    rw [hstate]
    rfl
  · intro i hc hi
    exact hmoves _ _ hc (if_pos hi)

/-! ## Main statement -/

/-- **Workers keep time.** In every run of a clockwork every worker keeps time from its start on:
it calls for a reload one pause after its start and then one pause after each return, and once its
token has fired it makes no call, but for one that is due at that very time; `KeepsTime` has the
details. And every run of a service whose workers are started with a pause is such a run. -/
theorem workers_keep_time :
    (∀ (e : Clockwork.Run) (i u : Nat) (settings : ReloadSettings) (cancelled : Bool),
      e.Starts i settings cancelled u → e.KeepsTime i settings cancelled u) ∧
    ∀ (s : Service) (cs : List Command), s.Calm →
      (∀ settings cancelled, .startWorker settings cancelled ∈ cs → settings.enabled = true →
        0 < settings.intervalSecs) →
      ∃ (e : Clockwork.Run) (moment : Nat → Nat), (∀ m n, m ≤ n → moment m ≤ moment n) ∧
        ∀ n, e.state (moment n) = (s.after (cs.take n)).clockwork ∧
          (∀ settings cancelled, cs[n]? = some (.startWorker settings cancelled) →
            e.Starts (s.after (cs.take n)).workers.length settings cancelled (moment n)) ∧
          ∀ i, cs[n]? = some (.cancelWorker i) → i < (s.after (cs.take n)).workers.length →
            e.Fires i (moment n) := by
  constructor
  · intro e i u settings cancelled hstart
    exact Run.keepsTime hstart
  · intro s cs hcalm hpause
    exact exists_run hcalm hpause

/-- A worker with a pause of two seconds calls, the store keeps it waiting for three more, its token
fires meanwhile, and then the reload fails. -/
def cancelledInCall : Clockwork.Run where
  toCourse :=
    let asleep : Clockwork := { sleeps := 1, workers := [⟨2, false, .sleeping 2000 0⟩] }
    let due : Clockwork := { asleep with now := 2000 }
    let called : Clockwork :=
      { due with reloader := due.reloader.ask (.worker 0), workers := [⟨2, false, .reloading⟩] }
    let fetching : Clockwork := { called with reloader := called.reloader.launch (.worker 0) [] }
    let late : Clockwork := { fetching with now := 5000 }
    let fired : Clockwork := { late with workers := [⟨2, true, .reloading⟩] }
    let fetch : Fetch := ⟨.worker 0, [], false⟩
    let stopped : Clockwork := fired.landed fetch (.failed ⟨"down"⟩)
    have hland : fired.Step (.land (.failed ⟨"down"⟩)) stopped := .land _ rfl
    have hfire : late.Step (.fire 0) fired := .fire (w := ⟨2, false, .reloading⟩) rfl
    have hwait : fetching.Step (.pass 3000) late :=
      .pass _ (by simp [fetching, called, Worker.SleepsUntil])
    have hlaunch : called.Step (.apart (.launch (.worker 0))) fetching := .apart rfl rfl
    have hwake : due.Step (.wake 0) called :=
      .wake (w := ⟨2, false, .sleeping 2000 0⟩) rfl ⟨0, rfl⟩ (Nat.le_refl 2000)
    have hsleep : asleep.Step (.pass 2000) due := .pass _ (by simp [asleep, Worker.SleepsUntil])
    have hstart : Step {} (.start ⟨true, 2⟩ false) asleep := .start _ _
    let course := (Course.idle stopped).cons hland
    let course := course.cons hfire
    let course := course.cons hwait
    let course := course.cons hlaunch
    let course := course.cons hwake
    let course := course.cons hsleep
    course.cons hstart
  unstarted := rfl
  unasked := rfl

/-- The call is made in time, it goes on although the token fires, and when it has failed the worker
has stopped for good. -/
theorem cancelledInCall_keeps_time :
    cancelledInCall.Calls 0 2 ∧ cancelledInCall.now 2 = 2000 ∧
      cancelledInCall.Fires 0 5 ∧ .worker 0 ∈ (cancelledInCall.state 6).reloader.pending ∧
      ∀ t, 6 < t → cancelledInCall.Finished 0 t ∧ ¬ cancelledInCall.Calls 0 t := by
  have hkeeps := workers_keep_time.1 cancelledInCall 0 0 ⟨true, 2⟩ false ⟨rfl, rfl⟩
  have hcalls : cancelledInCall.Calls 0 2 := rfl
  have hfires : cancelledInCall.Fires 0 5 := rfl
  have hreturns : cancelledInCall.Returns 0 6 (.failed ⟨"down"⟩) := ⟨rfl, _, rfl, rfl⟩
  have hfirst : cancelledInCall.now 2 = 2000 := hkeeps.first 2 hcalls fun k hk => by
    match k, hk with
    | 0, _ => exact fun h => by cases h
    | 1, _ => exact fun h => by cases h
  refine ⟨hcalls, hfirst, hfires, ?_, fun t ht => hkeeps.ends 5 6 _ t hfires (by decide) hreturns ht⟩
  refine hkeeps.waits 2 6 hcalls (by decide) fun k outcome h2k hk6 => ?_
  match k, h2k, hk6 with
  | 3, _, _ => exact fun h => by cases h.1
  | 4, _, _ => exact fun h => by cases h.1
  | 5, _, _ => exact Run.not_returns_of_fires hfires outcome

end Service

end RealmAccess
