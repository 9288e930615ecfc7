/-
RealmAccess.Proofs.Reload.Execution — overlapping reloads, move by move.

Many callers may have asked for a reload at once. What happens then is a
sequence of small moves of one reloader: somebody asks, a fetch is launched
and reads the rows, its answer comes at last, the store is edited, a check
is made. `Reloader.move` says when each can be made, with the functions that
a service runs, and an `Execution` is any endless sequence of them; `check`
is the move that changes nothing, so it also fills the time in between.

Two choices let it cover more than any one service does.

* The lock goes to any caller that waits, not to the first one.
* An answer comes with any outcome. The store decides somewhere between the
  rows being read and the matrix being put in place, so what its outage is
  at the end does not tell.
-/
import RealmAccess.Reload
import RealmAccess.Ruling.Policy

namespace RealmAccess

namespace Reloader

/-- The callers that wait for the end of their reload; the one with a fetch in flight is first. -/
def pending (r : Reloader) : List Caller := r.flight.toList.map (·.caller) ++ r.queue

/-- What can happen to a reloader. -/
inductive Move where
  /-- A caller that has no reload under way asks for one. -/
  | ask (caller : Caller)
  /-- A caller that waits takes the lock, and its fetch reads the rows. -/
  | launch (caller : Caller)
  /-- The fetch in flight ends, and with it the call that made it. -/
  | land (outcome : Outcome)
  | setRules (rules : List Rule)
  | setOutage (outage : Option StoreFailure)
  | stallNext
  /-- A check is made, or nothing happens. -/
  | check
  deriving DecidableEq

/-- Whether a move leaves fetch and matrix alone. -/
def Move.quiet : Move → Bool
  | .launch _ => false
  | .land _ => false
  | _ => true

/-- What a move leads to, if it can be made. -/
def move (r : Reloader) : Move → Option Reloader
  | .ask caller => if caller ∈ r.pending then none else some (r.ask caller)
  | .launch caller =>
    if r.flight = none ∧ caller ∈ r.queue then some (r.launch caller (r.queue.erase caller))
    else none
  | .land outcome => r.flight.map fun fetch => r.conclude fetch outcome
  | .setRules rules => some { r with store := { r.store with rules } }
  | .setOutage outage => some { r with store := { r.store with outage } }
  | .stallNext => some { r with store := { r.store with stallNext := true } }
  | .check => some r

/-- What some moves lead to, made from the first on. -/
def play (r : Reloader) (ms : List Move) : Option Reloader := ms.foldlM move r

@[simp] theorem play_nil (r : Reloader) : r.play [] = some r := rfl

theorem play_cons (r : Reloader) (m : Move) (ms : List Move) :
    r.play (m :: ms) = (r.move m).bind (·.play ms) := rfl

theorem play_append (r : Reloader) (ms ns : List Move) :
    r.play (ms ++ ns) = (r.play ms).bind (·.play ns) := List.foldlM_append

/-- A start of a list of moves that can be made can be made. -/
theorem play_take {r r' : Reloader} {ms : List Move} (h : r.play ms = some r') (n : Nat) :
    ∃ q, r.play (ms.take n) = some q := by
  rw [← List.take_append_drop n ms, play_append, Option.bind_eq_some_iff] at h
  obtain ⟨q, hq, -⟩ := h
  exact ⟨q, hq⟩

/-! ## When a move can be made -/

theorem move_ask_iff {r r' : Reloader} {caller : Caller} :
    r.move (.ask caller) = some r' ↔ caller ∉ r.pending ∧ r' = r.ask caller := by
  simp only [move]
  split <;> simp_all [eq_comm]

theorem move_launch_iff {r r' : Reloader} {caller : Caller} :
    r.move (.launch caller) = some r' ↔
      r.flight = none ∧ caller ∈ r.queue ∧ r' = r.launch caller (r.queue.erase caller) := by
  simp only [move]
  split <;> simp_all [eq_comm]

theorem move_land_iff {r r' : Reloader} {outcome : Outcome} :
    r.move (.land outcome) = some r' ↔
      ∃ fetch, r.flight = some fetch ∧ r' = r.conclude fetch outcome := by
  simp only [move, Option.map_eq_some_iff, eq_comm (b := r')]

/-- Every move is a launch, a landing or quiet. -/
theorem Move.kinds (m : Move) :
    (∃ caller, m = .launch caller) ∨ (∃ outcome, m = .land outcome) ∨ m.quiet = true := by
  cases m <;> simp [quiet]

theorem move_of_quiet {r r' : Reloader} {m : Move} (hm : m.quiet = true)
    (h : r.move m = some r') : r'.flight = r.flight ∧ r'.matrix = r.matrix := by
  cases m with
  | launch caller => simp [Move.quiet] at hm
  | land outcome => simp [Move.quiet] at hm
  | ask caller =>
    obtain ⟨-, rfl⟩ := move_ask_iff.mp h
    exact ⟨rfl, rfl⟩
  | _ =>
    cases h
    exact ⟨rfl, rfl⟩

/-! ## The end of a fetch -/

@[simp] theorem flight_conclude (r : Reloader) (fetch : Fetch) (outcome : Outcome) :
    (r.conclude fetch outcome).flight = none := by
  cases outcome <;> rfl

@[simp] theorem queue_conclude (r : Reloader) (fetch : Fetch) (outcome : Outcome) :
    (r.conclude fetch outcome).queue = r.queue := by
  cases outcome <;> rfl

theorem matrix_conclude_failed (r : Reloader) (fetch : Fetch) (failure : StoreFailure) :
    (r.conclude fetch (.failed failure)).matrix = r.matrix := rfl

theorem matrix_conclude_loaded (r : Reloader) (fetch : Fetch) :
    (r.conclude fetch .loaded).matrix = Matrix.load fetch.rows := rfl

/-! ## Who waits -/

theorem pending_of_flight {r : Reloader} {fetch : Fetch} (h : r.flight = some fetch) :
    r.pending = fetch.caller :: r.queue := by
  rw [pending, h]
  rfl

theorem pending_of_idle {r : Reloader} (h : r.flight = none) : r.pending = r.queue := by
  rw [pending, h]
  rfl

theorem pending_ask (r : Reloader) (caller : Caller) :
    (r.ask caller).pending = r.pending ++ [caller] := by
  rw [pending, pending, List.append_assoc]
  rfl

theorem pending_conclude (r : Reloader) (fetch : Fetch) (outcome : Outcome) :
    (r.conclude fetch outcome).pending = r.queue := by
  rw [pending_of_idle (flight_conclude r fetch outcome), queue_conclude]

/-- Who takes the lock goes on waiting, first in the line. -/
theorem pending_launch (r : Reloader) (caller : Caller) (others : List Caller) :
    (r.launch caller others).pending = caller :: others := rfl

/-- A move ends the reload of a caller. -/
def Ends (r : Reloader) (m : Move) (caller : Caller) : Prop :=
  ∃ outcome, m = .land outcome ∧ ∃ fetch, r.flight = some fetch ∧ fetch.caller = caller

theorem not_ends_of_ne_land {r : Reloader} {m : Move} (h : ∀ outcome, m ≠ .land outcome)
    (caller : Caller) : ¬ r.Ends m caller := by
  intro hends
  obtain ⟨outcome, hland, -⟩ := hends
  exact h outcome hland

/-- Whose reload ends was waiting for it. -/
theorem mem_pending_of_ends {r : Reloader} {m : Move} {caller : Caller} (h : r.Ends m caller) :
    caller ∈ r.pending := by
  obtain ⟨outcome, -, fetch, hflight, rfl⟩ := h
  rw [pending_of_flight hflight]
  exact List.mem_cons_self

/-- A launch changes the order of those who wait, and nothing else. -/
theorem perm_pending_launch {r : Reloader} {caller : Caller} (hflight : r.flight = none)
    (hqueue : caller ∈ r.queue) :
    (r.launch caller (r.queue.erase caller)).pending.Perm r.pending := by
  rw [pending_launch, pending_of_idle hflight]
  exact (List.perm_cons_erase hqueue).symm

/-- Nobody waits twice. -/
theorem nodup_of_move {r r' : Reloader} {m : Move} (h : r.move m = some r')
    (hnodup : r.pending.Nodup) : r'.pending.Nodup := by
  cases m with
  | ask caller =>
    obtain ⟨hfree, rfl⟩ := move_ask_iff.mp h
    rw [pending_ask, List.nodup_append]
    refine ⟨hnodup, by simp, ?_⟩
    intro c hc d hd
    rw [List.mem_singleton] at hd
    rintro rfl
    exact hfree (hd ▸ hc)
  | launch caller =>
    obtain ⟨hflight, hqueue, rfl⟩ := move_launch_iff.mp h
    exact (perm_pending_launch hflight hqueue).nodup_iff.mpr hnodup
  | land outcome =>
    obtain ⟨fetch, hflight, rfl⟩ := move_land_iff.mp h
    rw [pending_of_flight hflight, List.nodup_cons] at hnodup
    rw [pending_conclude]
    exact hnodup.2
  | _ =>
    cases h
    exact hnodup

/-- **Who waits after a move** is who asked by it or waited before, unless it ended that reload. -/
theorem mem_pending_of_move {r r' : Reloader} {m : Move} (h : r.move m = some r')
    (hnodup : r.pending.Nodup) (caller : Caller) :
    caller ∈ r'.pending ↔ (m = .ask caller ∨ caller ∈ r.pending) ∧ ¬ r.Ends m caller := by
  cases m with
  | ask d =>
    obtain ⟨-, rfl⟩ := move_ask_iff.mp h
    have hnot := not_ends_of_ne_land (r := r) (m := .ask d) (by simp) caller
    rw [pending_ask, List.mem_append, List.mem_singleton, Move.ask.injEq]
    constructor
    · exact fun hmem => ⟨hmem.symm.imp Eq.symm id, hnot⟩
    · exact fun hmem => (hmem.1.imp Eq.symm id).symm
  | launch d =>
    obtain ⟨hflight, hqueue, rfl⟩ := move_launch_iff.mp h
    have hnot := not_ends_of_ne_land (r := r) (m := .launch d) (by simp) caller
    rw [(perm_pending_launch hflight hqueue).mem_iff]
    simp [hnot]
  | land outcome =>
    obtain ⟨fetch, hflight, rfl⟩ := move_land_iff.mp h
    have hends : r.Ends (.land outcome) caller ↔ fetch.caller = caller := by
      simp [Ends, hflight]
    rw [pending_of_flight hflight, List.nodup_cons] at hnodup
    rw [pending_conclude, pending_of_flight hflight, hends, List.mem_cons]
    constructor
    · intro hmem
      refine ⟨.inr (.inr hmem), ?_⟩
      -- The caller that is let go stood first in the line, and stands in it once.
      intro heq
      exact hnodup.1 (heq ▸ hmem)
    · intro hmem
      obtain ⟨hask | hfirst | hqueue, hother⟩ := hmem
      · cases hask
      · exact absurd hfirst.symm hother
      · exact hqueue
  | _ =>
    cases h
    show caller ∈ r.pending ↔ _
    simp [Ends]

end Reloader

/-! ## Executions -/

/-- An endless sequence of moves of a reloader, at first with nobody waiting. -/
structure Execution where
  state : Nat → Reloader
  moves : Nat → Reloader.Move
  unasked : (state 0).pending = []
  follows : ∀ t, (state t).move (moves t) = some (state (t + 1))

namespace Execution

open Reloader

variable (e : Execution)

/-- The rows in the store at a moment. -/
def rowsAt (t : Nat) : List Rule := (e.state t).store.rules

/-- What the checks made at a moment are decided by. -/
def policy (primaryRealm : String) (t : Nat) : Policy := ⟨(e.state t).matrix, primaryRealm⟩

/-- A caller's reload returns with an outcome. -/
def Returns (caller : Caller) (t : Nat) (outcome : Outcome) : Prop :=
  e.moves t = .land outcome ∧ ∃ fetch, (e.state t).flight = some fetch ∧ fetch.caller = caller

/-- When the last fetch before a moment was launched. -/
def launched : Nat → Option Nat
  | 0 => none
  | t + 1 =>
    match e.moves t with
    | .launch _ => some t
    | _ => launched t

/-- When the rows were read that the matrix of a moment is built from; none if it is still the
matrix of the beginning. -/
def source : Nat → Option Nat
  | 0 => none
  | t + 1 =>
    match e.moves t with
    | .land .loaded => e.launched t
    | _ => source t

/-- The matrix that the rows of a moment give; without a moment, that of the beginning. -/
def matrixFrom : Option Nat → Matrix
  | none => (e.state 0).matrix
  | some u => Matrix.load (e.rowsAt u)

/-! ## From a list of moves -/

/-- What some moves led to after the first few of them. -/
def stateAfter (r : Reloader) (ms : List Move) (t : Nat) : Reloader :=
  (r.play (ms.take t)).getD r

theorem follows_stateAfter {r r' : Reloader} {ms : List Move} (h : r.play ms = some r') (t : Nat) :
    (stateAfter r ms t).move (ms[t]?.getD .check) = some (stateAfter r ms (t + 1)) := by
  obtain ⟨q, hq⟩ := play_take h t
  obtain ⟨q', hq'⟩ := play_take h (t + 1)
  rw [stateAfter, stateAfter, hq, hq', Option.getD_some, Option.getD_some]
  rw [List.take_add_one, play_append, hq, Option.bind_some] at hq'
  cases hm : ms[t]? with
  | none =>
    rw [hm] at hq'
    exact hq'
  | some m =>
    rw [hm, Option.toList_some, play_cons] at hq'
    simpa using hq'

/-- The execution that makes the moves of a list, and then checks for ever. -/
def ofMoves (r : Reloader) (ms : List Move) (hr : r.pending = []) (h : (r.play ms).isSome) :
    Execution where
  state := stateAfter r ms
  moves t := ms[t]?.getD .check
  unasked := hr
  follows := follows_stateAfter (Option.some_get h).symm

end Execution

end RealmAccess
