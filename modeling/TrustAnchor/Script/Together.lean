import TrustAnchor.Script.Basic

/-! Scripts that run side by side. A script keeps its turn until it sleeps, or until it has slept so
often in one turn that others are let in; those that were interrupted come back, the last one first,
when no other is ready. Among sleeping scripts the one that wakes first is next, and of several that
wake at the same moment the one that fell asleep first. Clocks tick in milliseconds, and a sleep ends
at the first tick that is not too early. No script notices how another one ends. -/

namespace TrustAnchor.Script

variable {α β : Type}

/-- How many sleeps a script may wake from in one turn. -/
def share : Nat := 128

/-- No sleep lasts longer: thirty years of 365 days, in milliseconds. -/
def longestSleep : Nat := 30 * 365 * 86400 * 1000

/-- How the turn of a script ends. -/
inductive Turn (α : Type) where
  | ended (result : Except Stop α)
  | asleep (d : Duration) (rest : Script α)
  /-- It stands before one sleep too many. -/
  | interrupted (rest : Script α)

/-- Follows a script to the end of its turn, through `spare` sleeps at most. A sleep of no length is
no end. -/
def takeTurn (spare : Nat) : Script α → (Turn α → Script β) → Script β
  | .done a, next => next (.ended (.ok a))
  | .stop why, next => next (.ended (.error why))
  | .ask (.sleep d) rest, next =>
    if spare = 0 then next (.interrupted (.ask (.sleep d) rest))
    else .ask (.sleep d) fun answer =>
      if d.nanos = 0 then takeTurn (spare - 1) (rest answer) next else next (.asleep d (rest answer))
  | .ask r rest, next => .ask r fun answer => takeTurn spare (rest answer) next

/-- A script that waits for its turn. -/
structure Waiting (α : Type) where
  /-- Its place among the scripts that run side by side. -/
  place : Nat
  /-- The sleeps that it may wake from in its turn. -/
  spare : Nat
  rest : Script α

/-- A script that waits for a tick of the clock. -/
structure Sleeping (α : Type) extends Waiting α where
  wake : Nat

/-- All scripts that have not ended. -/
structure Agenda (α : Type) where
  /-- The tick of the clock. -/
  now : Nat
  /-- In the order of their turns. -/
  ready : List (Waiting α)
  /-- The last one first. -/
  interrupted : List (Waiting α)
  /-- In the order in which they wake. -/
  asleep : List (Sleeping α)

namespace Agenda

def start (scripts : List (Script α)) : Agenda α where
  now := 0
  ready := scripts.zipIdx.map fun (rest, place) => { place, spare := share, rest }
  interrupted := []
  asleep := []

/-- The script whose turn it is. Only when nothing else is left does the clock go on, to the next
tick at which scripts wake. -/
def next? (a : Agenda α) : Option (Waiting α × Agenda α) :=
  match a.ready, a.interrupted, a.asleep with
  | w :: ready, _, _ => some (w, { a with ready })
  | [], w :: ready, _ => some (w, { a with ready, interrupted := [] })
  | [], [], s :: asleep =>
    let awake := asleep.takeWhile (·.wake = s.wake)
    some (s.toWaiting, {
      now := s.wake
      ready := awake.map (·.toWaiting)
      interrupted := []
      asleep := asleep.dropWhile (·.wake = s.wake) })
  | [], [], [] => none

/-- Behind all that wake no later. -/
def enqueue (s : Sleeping α) : List (Sleeping α) → List (Sleeping α)
  | [] => [s]
  | v :: queue => if v.wake ≤ s.wake then v :: enqueue s queue else s :: v :: queue

/-- A script falls asleep. Waking takes one of the sleeps of its next turn. -/
def fallAsleep (a : Agenda α) (place : Nat) (d : Duration) (rest : Script α) : Agenda α :=
  let wake := a.now + min d.millisUp longestSleep
  { a with asleep := enqueue { place, spare := share - 1, rest, wake } a.asleep }

def interrupt (a : Agenda α) (place : Nat) (rest : Script α) : Agenda α :=
  { a with interrupted := { place, spare := share, rest } :: a.interrupted }

end Agenda

/-- Takes turns until nothing waits; `turns` bounds their number. Results are put in the place of
their script. -/
def takeTurns : (turns : Nat) → Agenda α → (results : List (Option (Except Stop α))) →
    Script (List (Option (Except Stop α)))
  | 0, agenda, results =>
    match agenda.next? with
    | none => .done results
    | some _ => .stop .unfinished
  | turns + 1, agenda, results =>
    match agenda.next? with
    | none => .done results
    | some (w, agenda) =>
      w.rest.takeTurn w.spare fun
        | .ended result => takeTurns turns agenda (results.set w.place (some result))
        | .asleep d rest => takeTurns turns (agenda.fallAsleep w.place d rest) results
        | .interrupted rest => takeTurns turns (agenda.interrupt w.place rest) results

/-- What is left of each script when all have ended: its result, or the text with which it broke
off. -/
def collect : List (Option (Except Stop α)) → Script (List (Except String α))
  | [] => .done []
  | some (.ok a) :: rest => do return .ok a :: (← collect rest)
  | some (.error (.panicked text)) :: rest => do return .error text :: (← collect rest)
  | some (.error .unfinished) :: _ | none :: _ => .stop .unfinished

/-- Runs scripts side by side and waits for all of them; each may sleep fewer times than `rounds`,
and so takes at most twice as many turns. The results are in the order of the scripts. -/
def together (rounds : Nat) (scripts : List (Script α)) : Script (List (Except String α)) := do
  let turns := scripts.length * (2 * rounds)
  collect (← takeTurns turns (.start scripts) (scripts.map fun _ => none))

end TrustAnchor.Script
