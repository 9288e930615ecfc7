/-
RealmAccess.Proofs.Service.Background — what a service does on its own account.

Serving the queue, telling callers how their reload ended, waking workers,
letting time pass: long as it may be, all of this is made of a few kinds of
changes (`Stirs`). So a relation between the states of a service that holds
for each of these changes, and can be put together, holds for all of it. What
a command leaves alone is shown that way, change by change and once.
-/
import RealmAccess.Service.Command
import Mathlib.Logic.Relation

namespace RealmAccess

/-- Whether a command concerns reloads under way, workers or the clock, and nothing that is stored. -/
def Command.background : Command → Bool
  | .release => true
  | .reload => true
  | .join => true
  | .startWorker _ _ => true
  | .cancelWorker _ => true
  | .advance _ => true
  | _ => false

namespace Service

/-- One change that a service makes on its own account. -/
inductive Stirs (s : Service) : Service → Prop
  | log (event : Event) : Stirs s (s.log event)
  | ask (caller : Caller) : Stirs s { s with reloader := s.reloader.ask caller }
  /-- A fetch begins, and the rows are asked for. -/
  | launch (caller : Caller) (others : List Caller) :
      Stirs s { s.record .authorizations with reloader := s.reloader.launch caller others }
  | land (fetch : Fetch) : Stirs s { s with reloader := s.reloader.land fetch }
  | requests (requests : List ReloadRequest) (asked : Nat) : Stirs s { s with requests, asked }
  | workers (workers : List Worker) (sleeps : Nat) : Stirs s { s with workers, sleeps }
  | clock (now : Nat) : Stirs s { s with now }

/-- Some changes lead from one state to another. -/
def Drifts : Service → Service → Prop := Relation.ReflTransGen Stirs

namespace Drifts

variable {s t u : Service}

theorem refl (s : Service) : s.Drifts s := Relation.ReflTransGen.refl

theorem trans (h : s.Drifts t) (h' : t.Drifts u) : s.Drifts u := Relation.ReflTransGen.trans h h'

theorem of_stirs (h : s.Stirs t) : s.Drifts t := Relation.ReflTransGen.single h

end Drifts

open Drifts

/-! ## The queue -/

theorem drifts_settleWorker (s : Service) (index : Nat) : s.Drifts (s.settleWorker index) := by
  unfold settleWorker
  split
  · exact refl s
  · have hworkers := fun workers => of_stirs (.workers (s := s) workers (s.sleeps + 1))
    simp only
    split
    · exact (hworkers _).trans (of_stirs (.log _))
    · exact hworkers _

theorem drifts_launch (s : Service) (caller : Caller) (others : List Caller) :
    s.Drifts (s.launch caller others) := (of_stirs (.log _)).trans (of_stirs (.launch caller others))

theorem drifts_land (s : Service) (fetch : Fetch) : s.Drifts (s.land fetch) := by
  have hlanded : s.Drifts
      { s.log (s.reloader.landing fetch) with reloader := s.reloader.land fetch } :=
    (of_stirs (.log _)).trans (of_stirs (.land fetch))
  unfold land resume
  cases fetch.caller with
  | request number => exact hlanded.trans (of_stirs (.requests _ _))
  | worker index => exact hlanded.trans ((of_stirs (.log _)).trans (drifts_settleWorker _ index))

theorem drifts_serve : ∀ (n : Nat) (s : Service), s.Drifts (serve n s)
  | 0, s => refl s
  | n + 1, s => by
      unfold serve
      split
      · simp only
        split
        · exact drifts_launch s _ _
        · exact (drifts_launch s _ _).trans ((drifts_land _ _).trans (drifts_serve n _))
      · exact refl s

theorem drifts_ask (s : Service) (caller : Caller) : s.Drifts (s.ask caller) :=
  (of_stirs (.ask caller)).trans (drifts_serve _ _)

theorem drifts_release (s : Service) : s.Drifts s.release.2 := by
  unfold release
  split
  · exact refl s
  · exact (drifts_land s _).trans (drifts_serve _ _)

theorem drifts_reload (s : Service) : s.Drifts s.reload.2 := by
  have hask : s.Drifts (ask
      { s with requests := s.requests ++ [⟨s.asked, none⟩], asked := s.asked + 1 }
      (.request s.asked)) := (of_stirs (.requests _ _)).trans (drifts_ask _ _)
  unfold reload
  simp only
  split
  · exact hask.trans (of_stirs (.requests _ _))
  · exact hask

/-! ## Workers and time -/

theorem drifts_wakeWorker (s : Service) (index : Nat) : s.Drifts (s.wakeWorker index) := by
  unfold wakeWorker
  split
  · exact refl s
  · exact (of_stirs (.workers _ _)).trans (drifts_ask _ _)

theorem drifts_foldl_wakeWorker : ∀ (indices : List Nat) (s : Service),
    s.Drifts (indices.foldl wakeWorker s)
  | [], s => refl s
  | i :: rest, s => (drifts_wakeWorker s i).trans (drifts_foldl_wakeWorker rest _)

theorem drifts_runUntil (target now : Nat) (s : Service) : s.Drifts (runUntil target now s) := by
  fun_induction runUntil target now s with
  | case1 now s hnone => exact of_stirs (.clock target)
  | case2 now s time halarm hlt ih =>
    exact ((of_stirs (.clock time)).trans (drifts_foldl_wakeWorker _ _)).trans ih
  | case3 now s time halarm hlt => exact of_stirs (.clock target)

theorem drifts_startWorker (s : Service) (settings : ReloadSettings) (cancelled : Bool) :
    s.Drifts (s.startWorker settings cancelled) := by
  have hworkers := fun workers => of_stirs (.workers (s := s) workers s.sleeps)
  unfold startWorker
  simp only
  split
  · exact ((hworkers _).trans (of_stirs (.log _))).trans (drifts_settleWorker _ _)
  · exact (hworkers _).trans (of_stirs (.log _))

theorem drifts_cancelWorker (s : Service) (index : Nat) : s.Drifts (s.cancelWorker index) := by
  have hworkers := fun workers => of_stirs (.workers (s := s) workers s.sleeps)
  unfold cancelWorker
  split
  · exact refl s
  · simp only
    split
    · exact (hworkers _).trans (of_stirs (.log _))
    · exact hworkers _

/-! ## Commands -/

/-- **What a command that runs in the background does**: nothing but these changes. -/
theorem drifts_run (s : Service) (c : Command) (hc : c.background = true) :
    s.Drifts (s.run c).2 := by
  cases c with
  | release => exact drifts_release s
  | reload => exact drifts_reload s
  | join => exact of_stirs (.requests _ _)
  | advance millis => exact drifts_runUntil _ _ s
  | startWorker settings cancelled => exact drifts_startWorker s settings cancelled
  | cancelWorker index => exact drifts_cancelWorker s index
  | _ => cases hc

end Service

end RealmAccess
