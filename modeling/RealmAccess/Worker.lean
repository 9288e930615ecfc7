/-
RealmAccess.Worker — reloading the matrix again and again.

A worker sleeps for its interval, asks for a reload, and sleeps again from
the moment that reload ended, whether it went well or not. Cancelling a
worker ends its sleep; a reload it already asked for is still carried out,
and then the worker stops.
-/
import RealmAccess.Config
import RealmAccess.Reload

namespace RealmAccess

/-- What a worker is doing. -/
inductive Worker.Phase where
  /-- It sleeps until some time, in milliseconds; the turn orders those that wake together. -/
  | sleeping (wake turn : Nat)
  /-- It waits for its reload to end. -/
  | reloading
  | stopped
  deriving DecidableEq, Inhabited

/-- A worker that reloads the matrix periodically. -/
structure Worker where
  /-- Seconds between the end of a reload and the next. -/
  intervalSecs : UInt64
  cancelled : Bool := false
  phase : Worker.Phase := .stopped
  deriving DecidableEq, Inhabited

namespace Worker

/-- Milliseconds between the end of a reload and the next. -/
def intervalMillis (w : Worker) : Nat := w.intervalSecs.toNat * 1000

/-- Whether a worker has stopped for good. -/
def finished (w : Worker) : Bool := w.phase = .stopped

/-- When a worker wakes, if it sleeps, and its turn. -/
def alarm? (w : Worker) : Option (Nat × Nat) :=
  match w.phase with
  | .sleeping wake turn => some (wake, turn)
  | _ => none

/-- Sleep, or stop if cancelled. -/
def settle (w : Worker) (now turn : Nat) : Worker :=
  { w with phase := if w.cancelled then .stopped else .sleeping (now + w.intervalMillis) turn }

theorem settle_ne_reloading (w : Worker) (now turn : Nat) :
    (w.settle now turn).phase ≠ .reloading := by
  unfold settle
  cases w.cancelled <;> simp

/-- Ask for a reload. -/
def wake (w : Worker) : Worker := { w with phase := .reloading }

/-- Cancel: sleep ends, a reload does not. -/
def cancel (w : Worker) : Worker :=
  { w with cancelled := true, phase := if w.phase = .reloading then .reloading else .stopped }

/-! ## Events -/

/-- The event of a worker that is not wanted. -/
def disabledEvent : Event := ⟨.info, "Authorization reload worker disabled by configuration", []⟩

/-- The event of a worker that starts. -/
def startingEvent (settings : ReloadSettings) : Event :=
  ⟨.info, "Starting authorization reload worker", [("interval_secs", .count settings.intervalSecs.toNat)]⟩

/-- The event of a worker that stops. -/
def stoppedEvent : Event := ⟨.info, "Authorization reload worker stopped", []⟩

/-- The event of a worker whose reload ended, given the matrix then and the number of its load. -/
def ranEvent (outcome : Outcome) (m : Matrix) (loads : Nat) : Event :=
  match outcome with
  | .loaded =>
    ⟨.debug, "Authorization reload run complete",
      [("rule_count", .count m.ruleCount), ("last_reload", .moment loads)]⟩
  | .failed failure =>
    ⟨.warn, "Authorization reload run failed",
      [("error", .text failure.message), ("last_reload", .moment loads)]⟩

end Worker

end RealmAccess
