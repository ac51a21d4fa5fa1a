import Muster.Edit

/-!
# The registry of open edits

The edits that are open, each under its own id with the time of its last use. Times are readings of
one clock, handed in with every call; idle edits are dropped when a new one is opened, and when the
registry is full the edit that was used least recently makes room.
-/

namespace Muster

/-- Bounds on the registry. -/
structure Limits where
  maxSessions : Nat
  /-- how long an edit may go unused -/
  idleTimeout : Nat
deriving DecidableEq, Repr

/-- One open edit. -/
structure Session where
  id : String
  edit : Edit
  lastUsed : Nat
deriving Repr

/-- The open edits, in the order in which they were opened, and the bounds on them. -/
structure Registry where
  limits : Limits
  sessions : List Session
deriving Repr

namespace Registry

/-- A registry without edits. -/
def empty (limits : Limits) : Registry := ⟨limits, []⟩

/-- The number of open edits. -/
def size (r : Registry) : Nat := r.sessions.length

/-- The ids of the open edits. -/
def ids (r : Registry) : List String := r.sessions.map Session.id

/-- Unused for at least as long as an edit may be. -/
def isIdle (r : Registry) (now : Nat) (s : Session) : Bool :=
  now - s.lastUsed ≥ r.limits.idleTimeout

/-- Drops the idle edits. -/
def prune (r : Registry) (now : Nat) : Registry :=
  { r with sessions := r.sessions.filter fun s => !r.isIdle now s }

/-- Drops the idle edits and counts them. -/
def expire (r : Registry) (now : Nat) : Registry × Nat :=
  (r.prune now, r.size - (r.prune now).size)

/-- The place of the first session that was used no later than any other, counted on from `index`;
`best` is the place and time of the first such among those before. -/
def oldestFrom (index : Nat) (best : Nat × Nat) : List Session → Nat
  | [] => best.1
  | s :: rest =>
    oldestFrom (index + 1) (if s.lastUsed < best.2 then (index, s.lastUsed) else best) rest

/-- Takes out the session that was used least recently. -/
def dropOldest : List Session → List Session
  | [] => []
  | s :: rest => (s :: rest).eraseIdx (oldestFrom 1 (0, s.lastUsed) rest)

/-- Takes out sessions until fewer than `capacity` are left, in at most `steps` steps. -/
def makeRoom (capacity : Nat) : Nat → List Session → List Session
  | 0, sessions => sessions
  | steps + 1, sessions =>
    if sessions.length ≥ capacity then makeRoom capacity steps (dropOldest sessions) else sessions

/-- The sessions that stay when an edit is opened. -/
def staying (r : Registry) (now : Nat) : List Session :=
  let kept := (r.prune now).sessions
  makeRoom (max r.limits.maxSessions 1) kept.length kept

/-- Opens an edit of a squad under an id, in place of one that is still open under it. -/
def insert (r : Registry) (now : Nat) (id : String) (s : Squad) : Registry :=
  { r with sessions := ((r.staying now).filter fun t => t.id != id) ++ [⟨id, .start s, now⟩] }

/-- The open edit of that id. -/
def find? (r : Registry) (id : String) : Option Session := r.sessions.find? fun s => s.id == id

/-- Marks an edit as used and puts it in the state `e`. -/
def put (r : Registry) (now : Nat) (id : String) (e : Edit) : Registry :=
  { r with sessions := r.sessions.map fun s => if s.id == id then ⟨id, e, now⟩ else s }

/-- Closes an edit. -/
def erase (r : Registry) (id : String) : Registry :=
  { r with sessions := r.sessions.filter fun s => s.id != id }

end Registry

end Muster
