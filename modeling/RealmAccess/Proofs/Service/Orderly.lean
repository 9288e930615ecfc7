/-
RealmAccess.Proofs.Service.Orderly — nobody waits twice for a reload.

A service asks, launches and lands on its own account: a request or a worker
asks, and the queue is served until an answer is held back. All of these are
moves of its reloader, provided that no caller asks while it waits. That is
what `Orderly` says: those who wait are distinct, requests that wait have
been numbered, and workers that wait know it.

`Proceeds` says what serving and asking do to an orderly service. The
callers that wait stand in line: a launch keeps the line as it is, a landing
takes its first away, and who asks is put at its end.
-/
import RealmAccess.Proofs.Reload.Execution
import RealmAccess.Proofs.Service.Calm

namespace RealmAccess

namespace Reloader

/-! ## Moves in a row -/

/-- Some moves lead from one reloader to another. -/
def Leads (r r' : Reloader) : Prop := ∃ ms, r.play ms = some r'

theorem Leads.refl (r : Reloader) : r.Leads r := ⟨[], rfl⟩

theorem Leads.of_eq {r q : Reloader} (h : q = r) : r.Leads q := h ▸ .refl q

theorem Leads.trans {r q p : Reloader} (h : r.Leads q) (h' : q.Leads p) : r.Leads p := by
  obtain ⟨ms, hms⟩ := h
  obtain ⟨ns, hns⟩ := h'
  exact ⟨ms ++ ns, by rw [play_append, hms, Option.bind_some, hns]⟩

theorem Leads.of_move {r q : Reloader} {m : Move} (h : r.move m = some q) : r.Leads q :=
  ⟨[m], by rw [play_cons, h]; rfl⟩

/-! ## Who waits -/

theorem Idle.pending {r : Reloader} (h : r.Idle) : r.pending = [] := by
  rw [pending_of_idle h.flight, h.queue]

/-- The first in the queue may be launched. -/
theorem leads_launch {r : Reloader} {caller : Caller} {others : List Caller}
    (hflight : r.flight = none) (hqueue : r.queue = caller :: others) :
    r.Leads (r.launch caller others) := by
  apply Leads.of_move (m := .launch caller)
  rw [move_launch_iff, hqueue, List.erase_cons_head]
  exact ⟨hflight, List.mem_cons_self, rfl⟩

end Reloader

namespace Service

/-! ## Order among those who wait -/

/-- The worker at a position waits for its reload to end. -/
def Reloading (s : Service) (index : Nat) : Prop :=
  ∃ w, s.workers[index]? = some w ∧ w.phase = .reloading

theorem not_reloading_of_none {s : Service} {i : Nat} (h : s.workers[i]? = none) :
    ¬ s.Reloading i := by
  rintro ⟨w, hw, -⟩
  rw [h] at hw
  cases hw

/-- Where one worker is exchanged, the others wait as before. -/
theorem reloading_set {s : Service} {i : Nat} {w : Worker} (hw : s.workers[i]? = some w)
    (v : Worker) (j : Nat) :
    Reloading { s with workers := s.workers.set i v } j ↔
      if j = i then v.phase = .reloading else s.Reloading j := by
  have hlt : i < s.workers.length := (List.getElem?_eq_some_iff.mp hw).1
  unfold Reloading
  rw [List.getElem?_set]
  by_cases hij : i = j
  · simp [hij, hij ▸ hlt]
  · simp [hij, Ne.symm hij]

/-- Nobody waits twice, and everybody who waits is known to. -/
structure Orderly (s : Service) : Prop where
  nodup : s.reloader.pending.Nodup
  requests : ∀ number, .request number ∈ s.reloader.pending → number < s.asked
  workers : ∀ index, .worker index ∈ s.reloader.pending → s.Reloading index

/-- Order is kept where the same callers wait and nothing known is forgotten. -/
theorem Orderly.of_pending {s t : Service} (h : s.Orderly)
    (hpending : t.reloader.pending = s.reloader.pending) (hasked : s.asked ≤ t.asked)
    (hreloading : ∀ index, s.Reloading index → t.Reloading index) : t.Orderly := by
  constructor
  · rw [hpending]
    exact h.nodup
  · intro number hnumber
    rw [hpending] at hnumber
    have := h.requests number hnumber
    omega
  · intro index hindex
    rw [hpending] at hindex
    exact hreloading index (h.workers index hindex)

theorem Calm.orderly {s : Service} (h : s.Calm) : s.Orderly := by
  constructor <;> simp [h.idle.pending]

/-- An operation keeps the order, makes moves, and sets no worker waiting. -/
structure Proceeds (s t : Service) : Prop where
  orderly : t.Orderly
  leads : s.reloader.Leads t.reloader
  reloading : ∀ index, t.Reloading index → s.Reloading index

theorem Proceeds.refl {s : Service} (h : s.Orderly) : s.Proceeds s :=
  ⟨h, .refl _, fun _ => id⟩

theorem Proceeds.trans {s t u : Service} (h : s.Proceeds t) (h' : t.Proceeds u) : s.Proceeds u :=
  ⟨h'.orderly, h.leads.trans h'.leads, fun index hi => h.reloading index (h'.reloading index hi)⟩

/-! ## Serving the queue -/

/-- The worker that is settled no longer waits; the others are left alone. -/
theorem reloading_settleWorker {s : Service} {i j : Nat} :
    (s.settleWorker i).Reloading j ↔ j ≠ i ∧ s.Reloading j := by
  unfold settleWorker
  cases hw : s.workers[i]? with
  | none =>
    refine ⟨fun h => ⟨?_, h⟩, And.right⟩
    rintro rfl
    exact not_reloading_of_none hw h
  | some w =>
    have hset : Reloading { s with workers := s.workers.set i (w.settle s.now s.sleeps) } j ↔
        j ≠ i ∧ s.Reloading j := by
      rw [reloading_set hw]
      split
      · rename_i heq
        simp [heq, Worker.settle_ne_reloading]
      · rename_i hne
        simp [hne]
    simp only
    split <;> exact hset

@[simp] theorem reloader_settleWorker (s : Service) (index : Nat) :
    (s.settleWorker index).reloader = s.reloader := by
  unfold settleWorker
  split
  · rfl
  · simp only
    split <;> rfl

@[simp] theorem asked_settleWorker (s : Service) (index : Nat) :
    (s.settleWorker index).asked = s.asked := by
  unfold settleWorker
  split
  · rfl
  · simp only
    split <;> rfl

theorem proceeds_launch {s : Service} (h : s.Orderly) {caller : Caller} {others : List Caller}
    (hflight : s.reloader.flight = none) (hqueue : s.reloader.queue = caller :: others) :
    s.Proceeds (s.launch caller others) := by
  have hpending : (s.reloader.launch caller others).pending = s.reloader.pending := by
    rw [Reloader.pending_launch, Reloader.pending_of_idle hflight, hqueue]
  exact ⟨h.of_pending hpending (Nat.le_refl _) fun _ => id,
    Reloader.leads_launch hflight hqueue, fun _ => id⟩

/-- A landing lets its caller go: no one else who waits is that caller. -/
theorem proceeds_land {s : Service} (h : s.Orderly) {fetch : Fetch}
    (hflight : s.reloader.flight = some fetch) : s.Proceeds (s.land fetch) := by
  have hmove : s.reloader.move (.land s.reloader.outcome) = some (s.reloader.land fetch) :=
    Reloader.move_land_iff.mpr ⟨fetch, hflight, rfl⟩
  have hnodup : (s.reloader.land fetch).pending.Nodup := Reloader.nodup_of_move hmove h.nodup
  have hpending : ∀ caller, caller ∈ (s.reloader.land fetch).pending →
      caller ∈ s.reloader.pending ∧ caller ≠ fetch.caller := by
    intro caller hcaller
    rw [Reloader.mem_pending_of_move hmove h.nodup] at hcaller
    obtain ⟨hask | hbefore, hends⟩ := hcaller
    · cases hask
    · exact ⟨hbefore, fun heq => hends ⟨_, rfl, fetch, hflight, heq.symm⟩⟩
  unfold land resume
  cases hcaller : fetch.caller with
  | request number =>
    refine ⟨⟨hnodup, ?_, ?_⟩, .of_move hmove, fun _ => id⟩
    · intro n hn
      exact h.requests n (hpending _ hn).1
    · intro index hindex
      exact h.workers index (hpending _ hindex).1
  | worker i =>
    refine ⟨⟨?_, ?_, ?_⟩, ?_, ?_⟩
    · rw [reloader_settleWorker]
      exact hnodup
    · intro n hn
      rw [reloader_settleWorker] at hn
      rw [asked_settleWorker]
      exact h.requests n (hpending _ hn).1
    · intro index hindex
      rw [reloader_settleWorker] at hindex
      obtain ⟨hbefore, hother⟩ := hpending _ hindex
      refine reloading_settleWorker.mpr ⟨?_, h.workers index hbefore⟩
      rintro rfl
      exact hother hcaller.symm
    · rw [reloader_settleWorker]
      exact .of_move hmove
    · intro index hindex
      exact (reloading_settleWorker.mp hindex).2

theorem proceeds_serve : ∀ (n : Nat) {s : Service}, s.Orderly → s.Proceeds (serve n s)
  | 0, s, h => .refl h
  | n + 1, s, h => by
      unfold serve
      split
      · rename_i caller others hflight hqueue
        have hlaunch := proceeds_launch h hflight hqueue
        simp only
        split
        · exact hlaunch
        · have hnow : (s.launch caller others).reloader.flight =
              some (s.reloader.fetchFor caller) := rfl
          have hland := proceeds_land hlaunch.orderly hnow
          exact (hlaunch.trans hland).trans (proceeds_serve n hland.orderly)
      · exact .refl h

theorem proceeds_release {s : Service} (h : s.Orderly) : s.Proceeds s.release.2 := by
  unfold release
  split
  · exact .refl h
  · rename_i fetch hflight
    have hland := proceeds_land h hflight
    exact hland.trans (proceeds_serve _ hland.orderly)

/-! ## Asking -/

/-- A caller that does not wait yet, and is known to wait from now on, may ask. -/
theorem proceeds_ask {s : Service} (h : s.Orderly) {caller : Caller}
    (hfree : caller ∉ s.reloader.pending)
    (hrequest : ∀ number, caller = .request number → number < s.asked)
    (hworker : ∀ index, caller = .worker index → s.Reloading index) :
    s.Proceeds (s.ask caller) := by
  have hmove : s.reloader.move (.ask caller) = some (s.reloader.ask caller) :=
    Reloader.move_ask_iff.mpr ⟨hfree, rfl⟩
  have horderly : Orderly { s with reloader := s.reloader.ask caller } := by
    constructor
    · exact Reloader.nodup_of_move hmove h.nodup
    · intro number hnumber
      rw [Reloader.pending_ask, List.mem_append, List.mem_singleton] at hnumber
      exact hnumber.elim (h.requests number) fun heq => hrequest number heq.symm
    · intro index hindex
      rw [Reloader.pending_ask, List.mem_append, List.mem_singleton] at hindex
      exact hindex.elim (h.workers index) fun heq => hworker index heq.symm
  have hask : s.Proceeds { s with reloader := s.reloader.ask caller } :=
    ⟨horderly, .of_move hmove, fun _ => id⟩
  exact hask.trans (proceeds_serve _ horderly)

/-- A new request has a number that nobody waits under. -/
theorem proceeds_reload {s : Service} (h : s.Orderly) : s.Proceeds s.reload.2 := by
  have hnumbered : Orderly
      { s with requests := s.requests ++ [⟨s.asked, none⟩], asked := s.asked + 1 } :=
    h.of_pending rfl (Nat.le_succ _) fun _ => id
  have hfree : .request s.asked ∉ s.reloader.pending := by
    intro hpending
    have := h.requests s.asked hpending
    omega
  have hask := proceeds_ask hnumbered hfree
    (fun number heq => by cases heq; exact Nat.lt_succ_self _) (fun index heq => by cases heq)
  unfold reload
  simp only
  split
  · exact ⟨hask.orderly.of_pending rfl (Nat.le_refl _) fun _ => id, hask.leads, hask.reloading⟩
  · exact ⟨hask.orderly, hask.leads, hask.reloading⟩

end Service

end RealmAccess
