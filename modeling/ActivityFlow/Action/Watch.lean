import ActivityFlow.Json.Order

/-!
# Watching a call

A caller watches the end of the handler's work, a cancel event if it has one, and a time limit if
there is one.

**When a handler is stopped.**  An event that is set does not stop the handler at once: the handler
gets two more turns, and the third finds it stopped, so a handler that pauses at most twice after
the event still completes.  A handler that waits is stopped as soon as the caller has seen the
event, or by the clock.  By the time the handler learns of it, the cancel event of its call is set.

**When the caller looks.**  The caller sees the end of the work two turns later, unless an event
makes it look earlier.  An event that is set before the caller began to watch, which it does in the
handler's first turn, is seen one turn sooner than a later one.

**Time limits.**  A time limit matters only to a handler that waits; a handler that goes on by
itself is faster than any limit.  A limit of no time is the exception: it acts like an event that is
set, but leaves one turn only, and the caller looks behind all others.  Of limits that end at the
same time, that of the earlier call ends first.

* `Watch` — what is known of a call while its handler works.
* `Watch.start`, `Watch.signal`, `Watch.afterTurn` — how that changes.
-/

namespace ActivityFlow

/-- How long a caller waits for a handler. -/
inductive Limit where
  | unlimited
  /-- So many hundredths of a millisecond; what is shorter is no time at all. -/
  | limited (time : Nat)
  deriving DecidableEq, Repr

/-- The limit that a value states in seconds, if it states one.  A time that already passed is no
time at all, and one without end is no limit. -/
def Limit.ofSeconds? (value : Json) : Option Limit :=
  match value, value.ratio? with
  | _, some (n, d) => some (.limited (n.toNat * 100000 / d))
  | .real (.infinite true), none => some (.limited 0)
  | .real _, none => some .unlimited
  | _, none => none

/-- The cancel event that a caller hands in. -/
inductive CancelEvent where
  | absent
  /-- An event that nobody but the handler sets. -/
  | unset
  | preset
  /-- An event that is set after five milliseconds. -/
  | later
  deriving DecidableEq, Repr

/-- What stops a handler that waits. -/
structure Alarm where
  /-- After which time, in hundredths of a millisecond, it goes off. -/
  time : Nat
  /-- How many turns later it has stopped the handler. -/
  turns : Nat
  deriving DecidableEq, Repr

namespace Alarm

/-- The alarm of a limit. -/
def ofLimit? : Limit → Option Alarm
  | .unlimited => none
  | .limited time => some ⟨time, 2⟩

/-- The alarm of an event that is set after a while. -/
def ofEvent? (event : CancelEvent) : Option Alarm :=
  if event = .later then some ⟨500, 4⟩ else none

/-- The alarm that goes off first; of two at the same time the one that stops sooner. -/
def first? : Option Alarm → Option Alarm → Option Alarm
  | some a, some b => some (if b.time < a.time then b else a)
  | a, b => a.or b

end Alarm

/-- What is left to a handler that is to be stopped. -/
structure Grace where
  /-- How many turns the handler still gets. -/
  turns : Nat
  /-- After how many turns the caller looks. -/
  look : Nat
  /-- Whether the caller looks behind all others. -/
  late : Bool
  deriving DecidableEq, Repr

namespace Grace

/-- What a limit of no time leaves. -/
def ofNoTime : Grace := ⟨1, 1, true⟩

/-- What an event leaves that is set by the end of the first turn. -/
def ofEarlyEvent : Grace := ⟨2, 2, false⟩

/-- What an event leaves that is set in a later turn. -/
def ofEvent : Grace := ⟨2, 3, false⟩

/-- What is left after one more turn. -/
def afterTurn (g : Grace) : Grace :=
  { g with turns := g.turns - 1, look := g.look - 1 }

end Grace

/-- What is known of a call while its handler works. -/
structure Watch where
  /-- The number of the call; a lower one means that the call began earlier. -/
  number : Nat
  /-- Whether the handler is in its first turn. -/
  isFirstTurn : Bool
  /-- Whether the cancel event of the call is set. -/
  signalled : Bool
  /-- Whether the caller watches that event. -/
  watched : Bool
  /-- What will stop a handler that waits. -/
  alarm : Option Alarm
  /-- What is left to the handler, once it is to be stopped. -/
  grace : Option Grace
  deriving DecidableEq, Repr

namespace Watch

/-- The watch at the beginning of a call. -/
def start (number : Nat) (event : CancelEvent) (limit : Limit) : Watch where
  number := number
  isFirstTurn := true
  signalled := event = .preset
  watched := event ≠ .absent
  alarm := Alarm.first? (Alarm.ofLimit? limit) (Alarm.ofEvent? event)
  grace :=
    if limit = .limited 0 then some .ofNoTime
    else if event = .preset then some .ofEarlyEvent
    else none

/-- What an event leaves that is set now. -/
def graceNow (w : Watch) : Option Grace :=
  if w.watched then some (if w.isFirstTurn then .ofEarlyEvent else .ofEvent) else none

/-- The watch after the event of the call was set. -/
def signal (w : Watch) : Watch :=
  { w with signalled := true, grace := w.grace.or w.graceNow }

/-- The watch after a turn. -/
def afterTurn (w : Watch) : Watch :=
  { w with isFirstTurn := false, grace := w.grace.map Grace.afterTurn }

/-- Whether the next turn finds the handler stopped. -/
def isLastTurn (w : Watch) : Bool :=
  w.grace.any (·.turns = 0)

/-- How many turns after its end the work is seen to have ended. -/
def turnsToNotice (w : Watch) : Nat :=
  match w.grace with
  | some g => min 2 g.look
  | none => 2

/-- Whether the caller looks behind all others. -/
def looksLate (w : Watch) : Bool :=
  w.grace.any (·.late)

end Watch

end ActivityFlow
