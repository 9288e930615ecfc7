/-
RealmAccess.Proofs.Service.Moves — every run of a service is an execution.

Whatever a service is told to do, its reloader makes moves and nothing else.
For requests and answers that is in `Service.Orderly`; here are the workers.
Time wakes workers that sleep, each at most once at a time, and one that
sleeps does not wait, so it may ask.

So what holds of every execution holds of every service, and
`exists_execution` names the moments at which its commands end.
-/
import RealmAccess.Proofs.Service.Orderly

namespace RealmAccess

namespace Service

/-! ## Workers and time -/

/-- A worker that does not wait may be woken: it waits then, and nobody else has begun to. -/
theorem wakeWorker_spec {s : Service} (h : s.Orderly) {i : Nat} (hi : ¬ s.Reloading i) :
    (s.wakeWorker i).Orderly ∧ s.reloader.Leads (s.wakeWorker i).reloader ∧
      ∀ index, (s.wakeWorker i).Reloading index → index = i ∨ s.Reloading index := by
  unfold wakeWorker
  cases hw : s.workers[i]? with
  | none => exact ⟨h, .refl _, fun _ => .inr⟩
  | some w =>
    have hwoken : ∀ index, Reloading { s with workers := s.workers.set i w.wake } index ↔
        index = i ∨ s.Reloading index := by
      intro index
      rw [reloading_set hw]
      split
      · rename_i heq
        simp [heq, Worker.wake]
      · rename_i hne
        simp [hne]
    have horderly : Orderly { s with workers := s.workers.set i w.wake } :=
      h.of_pending rfl (Nat.le_refl _) fun index hindex => (hwoken index).mpr (.inr hindex)
    have hfree : .worker i ∉ s.reloader.pending := fun hpending => hi (h.workers i hpending)
    have hask := proceeds_ask horderly hfree (fun number heq => by cases heq)
      (fun index heq => by cases heq; exact (hwoken i).mpr (.inl rfl))
    exact ⟨hask.orderly, hask.leads, fun index hindex =>
      (hwoken index).mp (hask.reloading index hindex)⟩

/-- Different workers that do not wait may be woken one after the other. -/
theorem foldl_wakeWorker : ∀ (indices : List Nat) {s : Service}, s.Orderly → indices.Nodup →
    (∀ i ∈ indices, ¬ s.Reloading i) →
    (indices.foldl wakeWorker s).Orderly ∧
      s.reloader.Leads (indices.foldl wakeWorker s).reloader
  | [], s, h, _, _ => ⟨h, .refl _⟩
  | i :: rest, s, h, hnodup, hasleep => by
      rw [List.nodup_cons] at hnodup
      obtain ⟨horderly, hleads, hreloading⟩ := wakeWorker_spec h (hasleep i List.mem_cons_self)
      have hrest : ∀ j ∈ rest, ¬ (s.wakeWorker i).Reloading j := by
        intro j hj hwaits
        obtain rfl | hbefore := hreloading j hwaits
        · exact hnodup.1 hj
        · exact hasleep j (List.mem_cons_of_mem _ hj) hbefore
      obtain ⟨horderly', hleads'⟩ := foldl_wakeWorker rest horderly hnodup.2 hrest
      exact ⟨horderly', hleads.trans hleads'⟩

theorem alarm?_eq_some {w : Worker} {wake turn : Nat} :
    w.alarm? = some (wake, turn) ↔ w.phase = .sleeping wake turn := by
  unfold Worker.alarm?
  cases w.phase <;> simp

/-- The alarms are those of the workers that sleep. -/
theorem mem_alarms {s : Service} {wake turn i : Nat} :
    (wake, turn, i) ∈ s.alarms ↔ ∃ w, s.workers[i]? = some w ∧ w.phase = .sleeping wake turn := by
  unfold alarms
  rw [List.mem_filterMap]
  constructor
  · intro h
    obtain ⟨⟨w, index⟩, hmem, halarm⟩ := h
    rw [Option.map_eq_some_iff] at halarm
    obtain ⟨⟨wake', turn'⟩, halarm, heq⟩ := halarm
    cases heq
    exact ⟨w, List.mk_mem_zipIdx_iff_getElem?.mp hmem, alarm?_eq_some.mp halarm⟩
  · intro h
    obtain ⟨w, hw, hphase⟩ := h
    refine ⟨(w, i), List.mk_mem_zipIdx_iff_getElem?.mpr hw, ?_⟩
    show w.alarm?.map _ = _
    rw [alarm?_eq_some.mpr hphase]
    rfl

/-- No worker has two alarms. -/
theorem pairwise_alarms (s : Service) : s.alarms.Pairwise (fun a b => a.2.2 ≠ b.2.2) := by
  have hindices : s.workers.zipIdx.Pairwise (fun a b => a.2 ≠ b.2) := by
    rw [← List.pairwise_map, List.zipIdx_map_snd]
    exact List.nodup_range'
  unfold alarms
  rw [List.pairwise_filterMap]
  refine hindices.imp ?_
  intro a b hne x hx y hy
  rw [Option.map_eq_some_iff] at hx hy
  obtain ⟨_, -, rfl⟩ := hx
  obtain ⟨_, -, rfl⟩ := hy
  exact hne

theorem nodup_wakingAt (s : Service) (time : Nat) : (s.wakingAt time).Nodup := by
  unfold wakingAt
  refine ((List.mergeSort_perm _ _).map _).nodup_iff.mpr ?_
  rw [List.nodup_iff_pairwise_ne, List.pairwise_map]
  exact (pairwise_alarms s).filter _

/-- The workers that wake at a time are those that sleep until then. -/
theorem mem_wakingAt {s : Service} {time i : Nat} :
    i ∈ s.wakingAt time ↔ ∃ w turn, s.workers[i]? = some w ∧ w.phase = .sleeping time turn := by
  unfold wakingAt
  rw [List.mem_map]
  constructor
  · intro h
    obtain ⟨⟨wake, turn, index⟩, hmem, rfl⟩ := h
    rw [List.mem_mergeSort, List.mem_filter, decide_eq_true_eq] at hmem
    obtain ⟨halarm, rfl⟩ := hmem
    obtain ⟨w, hw, hphase⟩ := mem_alarms.mp halarm
    exact ⟨w, turn, hw, hphase⟩
  · intro h
    obtain ⟨w, turn, hw, hphase⟩ := h
    refine ⟨(time, turn, i), ?_, rfl⟩
    rw [List.mem_mergeSort, List.mem_filter, decide_eq_true_eq]
    exact ⟨mem_alarms.mpr ⟨w, hw, hphase⟩, rfl⟩

theorem not_reloading_of_mem_wakingAt {s : Service} {time i : Nat} (h : i ∈ s.wakingAt time) :
    ¬ s.Reloading i := by
  intro hreloading
  obtain ⟨w, turn, hw, hphase⟩ := mem_wakingAt.mp h
  obtain ⟨v, hv, hwaits⟩ := hreloading
  obtain rfl : w = v := Option.some.inj (hw.symm.trans hv)
  rw [hphase] at hwaits
  cases hwaits

/-- The time of day is no matter of order. -/
theorem orderly_at {s : Service} (now : Nat) : Orderly { s with now } ↔ s.Orderly :=
  ⟨fun h => ⟨h.nodup, h.requests, h.workers⟩, fun h => ⟨h.nodup, h.requests, h.workers⟩⟩

theorem runUntil_spec (target now : Nat) (s : Service) (h : s.Orderly) :
    (runUntil target now s).Orderly ∧ s.reloader.Leads (runUntil target now s).reloader := by
  fun_induction runUntil target now s with
  | case1 now s hnone => exact ⟨(orderly_at target).mpr h, .refl _⟩
  | case2 now s time halarm hlt ih =>
    obtain ⟨horderly, hleads⟩ := foldl_wakeWorker (s.wakingAt time) ((orderly_at time).mpr h)
      (nodup_wakingAt s time) fun i hi => not_reloading_of_mem_wakingAt hi
    obtain ⟨horderly', hleads'⟩ := ih horderly
    exact ⟨horderly', hleads.trans hleads'⟩
  | case3 now s time halarm hlt => exact ⟨(orderly_at target).mpr h, .refl _⟩

/-- A new worker does not wait, whether it sleeps or has stopped. -/
theorem startWorker_spec {s : Service} (h : s.Orderly) (settings : ReloadSettings)
    (cancelled : Bool) : (s.startWorker settings cancelled).Orderly ∧
      (s.startWorker settings cancelled).reloader = s.reloader := by
  have hknown : ∀ index, s.Reloading index →
      Reloading { s with workers := s.workers ++ [⟨settings.intervalSecs, cancelled, .stopped⟩] }
        index := by
    rintro index ⟨w, hw, hphase⟩
    have hlt : index < s.workers.length := (List.getElem?_eq_some_iff.mp hw).1
    exact ⟨w, by rw [List.getElem?_append_left hlt]; exact hw, hphase⟩
  unfold startWorker
  simp only
  split
  · refine ⟨?_, by rw [reloader_settleWorker]; rfl⟩
    refine h.of_pending (by rw [reloader_settleWorker]; rfl)
      (by rw [asked_settleWorker]; exact Nat.le_refl _) ?_
    intro index hindex
    refine reloading_settleWorker.mpr ⟨?_, hknown index hindex⟩
    obtain ⟨w, hw, -⟩ := hindex
    have hlt : index < s.workers.length := (List.getElem?_eq_some_iff.mp hw).1
    omega
  · exact ⟨h.of_pending rfl (Nat.le_refl _) hknown, rfl⟩

/-- A cancelled worker that waits goes on waiting. -/
theorem cancelWorker_spec {s : Service} (h : s.Orderly) (i : Nat) :
    (s.cancelWorker i).Orderly ∧ (s.cancelWorker i).reloader = s.reloader := by
  unfold cancelWorker
  cases hw : s.workers[i]? with
  | none => exact ⟨h, rfl⟩
  | some w =>
    have hknown : ∀ index, s.Reloading index →
        Reloading { s with workers := s.workers.set i w.cancel } index := by
      intro index hindex
      rw [reloading_set hw]
      split
      · rename_i heq
        obtain ⟨v, hv, hphase⟩ := hindex
        rw [heq, hw, Option.some_inj] at hv
        rw [← hv] at hphase
        simp [Worker.cancel, hphase]
      · exact hindex
    simp only
    split
    · exact ⟨h.of_pending rfl (Nat.le_refl _) hknown, rfl⟩
    · exact ⟨h.of_pending rfl (Nat.le_refl _) hknown, rfl⟩

/-! ## Every command -/

/-- **Every command is some moves of the reloader.** -/
theorem leads_run {s : Service} (h : s.Orderly) (c : Command) :
    (s.run c).2.Orderly ∧ s.reloader.Leads (s.run c).2.reloader := by
  have hstore : ∀ store, Orderly (s.withRuleStore store) := fun store =>
    h.of_pending rfl (Nat.le_refl _) fun _ => id
  cases c with
  | setRules rules => exact ⟨hstore _, .of_move (m := .setRules rules) rfl⟩
  | setRuleOutage outage => exact ⟨hstore _, .of_move (m := .setOutage outage) rfl⟩
  | stallNext => exact ⟨hstore _, .of_move (m := .stallNext) rfl⟩
  | release => exact ⟨(proceeds_release h).orderly, (proceeds_release h).leads⟩
  | reload => exact ⟨(proceeds_reload h).orderly, (proceeds_reload h).leads⟩
  | advance millis => exact runUntil_spec _ _ s h
  | startWorker settings cancelled =>
    obtain ⟨horderly, hsame⟩ := startWorker_spec h settings cancelled
    exact ⟨horderly, .of_eq hsame⟩
  | cancelWorker index =>
    obtain ⟨horderly, hsame⟩ := cancelWorker_spec h index
    exact ⟨horderly, .of_eq hsame⟩
  | _ => exact ⟨h.of_pending rfl (Nat.le_refl _) fun _ => id, .refl _⟩

/-- The moves of some commands, command by command. -/
theorem exists_moves : ∀ (cs : List Command) {s : Service}, s.Orderly →
    ∃ mss : List (List Reloader.Move), ∀ n,
      s.reloader.play (mss.take n).flatten = some (s.after (cs.take n)).reloader
  | [], s, _ => ⟨[], fun n => by simp⟩
  | c :: cs, s, h => by
      obtain ⟨horderly, ms, hms⟩ := leads_run h c
      obtain ⟨mss, hmss⟩ := exists_moves cs horderly
      refine ⟨ms :: mss, ?_⟩
      intro n
      cases n with
      | zero => rfl
      | succ n =>
        rw [List.take_succ_cons, List.take_succ_cons, List.flatten_cons, Reloader.play_append,
          hms, Option.bind_some, hmss n, after_cons]

/-- **Every run of a service is an execution.** Whatever a calm service is told to do, there is
an execution that its reloader goes through, each command taking it from one moment to a later
one. -/
theorem exists_execution {s : Service} (h : s.Calm) (cs : List Command) :
    ∃ (e : Execution) (moment : Nat → Nat), (∀ m n, m ≤ n → moment m ≤ moment n) ∧
      ∀ n, e.state (moment n) = (s.after (cs.take n)).reloader := by
  obtain ⟨mss, hmss⟩ := exists_moves cs h.orderly
  have hall : (s.reloader.play mss.flatten).isSome := by
    have hlast := hmss mss.length
    rw [List.take_length] at hlast
    rw [hlast]
    rfl
  have hsplit : ∀ n, mss.flatten = (mss.take n).flatten ++ (mss.drop n).flatten := by
    intro n
    rw [← List.flatten_append, List.take_append_drop]
  refine ⟨.ofMoves s.reloader mss.flatten h.idle.pending hall,
    fun n => (mss.take n).flatten.length, ?_, ?_⟩
  · intro m n hmn
    have htake : mss.take m = (mss.take n).take m := by rw [List.take_take, Nat.min_eq_left hmn]
    have hprefix := congrArg (fun l => (List.flatten l).length)
      (List.take_append_drop m (mss.take n))
    simp only [List.flatten_append, List.length_append] at hprefix
    show (mss.take m).flatten.length ≤ (mss.take n).flatten.length
    rw [htake]
    omega
  · intro n
    show Execution.stateAfter s.reloader mss.flatten (mss.take n).flatten.length = _
    rw [Execution.stateAfter, hsplit n, List.take_left, hmss n, Option.getD_some]

end Service

end RealmAccess
