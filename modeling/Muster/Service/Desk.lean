import Muster.Json.Writing
import Muster.Service.Error
import Muster.Service.Order
import Muster.Service.Payload
import Muster.Service.Registry

/-!
# The service desk

Requests on the squads of one codex, and the replies to them. What a request asks for can be told
from the codex alone; then it is carried out on the edits that are open. A request comes with the
time and with an id that no edit has had, for the case that it opens one. What is asked of an edit
marks it as used, also when it fails. A request that aborts has no reply, and the edit that it was
working on is of no more use: it stays open, but whatever else is asked of it is refused.
-/

namespace Muster

/-- What is asked of the desk. -/
structure Request where
  method : String
  path : String
  body : String
deriving DecidableEq, Repr

/-- What the desk answers. -/
structure Reply where
  status : Status
  body : String
deriving DecidableEq, Repr

namespace Reply

/-- Every reply is JSON. -/
def contentType : String := "application/json"

/-- A reply that gives a value. -/
def ofJson (status : Status) (v : Json) : Reply := ⟨status, v.pretty⟩

/-- A reply that gives an error. -/
def ofError (e : ServiceError) : Reply := ofJson e.status (Payload.error e.message)

/-- The reply that gives a result, under a status of its own if all went well. -/
def ofResult (status : Status) : Except ServiceError Json → Option Reply
  | .error e => if e.aborts then none else some (ofError e)
  | .ok v => some (ofJson status v)

/-- The reply as it is sent. -/
def text (r : Reply) : String :=
  "HTTP/1.1 " ++ toString r.status.code ++ " " ++ r.status.reason ++ "\r\nContent-Type: "
    ++ contentType ++ "\r\nContent-Length: " ++ toString r.body.utf8ByteSize
    ++ "\r\nConnection: close\r\n\r\n" ++ r.body

end Reply

/-- What a request asks for, as far as the codex tells. -/
inductive Task where
  | health
  | units
  /-- an edit of the squad is opened -/
  | enter (s : Squad)
  /-- something is done with an open edit, and answered with what it gives -/
  | edit (id : String) (act : Edit → Edit × Except ServiceError Json)
  | close (id : String)
  | refuse (e : ServiceError)

/-- The status of a reply when all goes well. -/
def Task.status : Task → Status
  | enter _ => .created
  | _ => .ok

/-- A codex and the edits that are open on squads of it. -/
structure Desk where
  codex : Codex
  registry : Registry
  /-- the ids of edits that a request has aborted on -/
  broken : List String
deriving Repr

namespace Desk

/-- A desk without open edits. -/
def start (x : Codex) (limits : Limits) : Desk := ⟨x, .empty limits, []⟩

/-- At most 256 edits, each for half an hour of nanoseconds after its last use. -/
def defaultLimits : Limits := ⟨256, 1800 * 1000000000⟩

/-- The number of open edits. -/
def sessionCount (d : Desk) : Nat := d.registry.size

/-- Drops the idle edits and counts them. -/
def expire (d : Desk) (now : Nat) : Desk × Nat :=
  let (registry, dropped) := d.registry.expire now
  ({ d with registry }, dropped)

/-! ## What requests ask for -/

/-- The result of a step; on success the edit that follows it is shown with what the step gives. -/
def shown (form : Edit → α → Json) : Edit × Except EditError α → Edit × Except ServiceError Json
  | (e, .error err) => (e, .error (.edit err))
  | (e, .ok v) => (e, .ok (form e v))

/-- The result of a step; on success the edit that follows it is shown with its squad. -/
def shownSquad (id : String) : Edit × Except EditError α → Edit × Except ServiceError Json :=
  shown fun e _ => Payload.session id e

/-- Opens an edit of a unit of the codex, under a name of its own if one is given. -/
def openUnit (read : Json.Reader) (x : Codex) (body : String) : Task :=
  match (read body).bind OpenOrder.ofJson? with
  | none => .refuse (.badRequest .unreadable)
  | some order =>
    match Role.ofText? order.role with
    | none => .refuse (.badRequest (.unknownRole order.role))
    | some role =>
      match Squad.muster x role order.unit with
      | .error e => .refuse (.edit (.squad e))
      | .ok s =>
        .enter <| match order.name with
          | some name => s.rename name
          | none => s

/-- Shows an edit. -/
def showEdit (id : String) (e : Edit) : Edit × Except ServiceError Json :=
  (e, .ok (Payload.session id e))

/-- Lists the options of an edit and shows them. -/
def listOptions (id : String) (e : Edit) : Edit × Except ServiceError Json :=
  shown (Payload.options id) e.list

/-- The choice that an order names: by index, else by letter, else by the item. -/
def orderedChoice? (order : PickOrder) (item : Option Gear) : Option Choice :=
  match order.index, order.letter, item with
  | some n, _, _ => some (.index n)
  | none, some c, _ => some (.letter c)
  | none, none, some g => some (.gear g)
  | none, none, none => none

/-- Makes the picks that an order asks for. -/
def makePicks (order : PickOrder) (item : Option Gear) (e : Edit) :
    Edit × Except ServiceError Unit :=
  let wrapped := fun (e, result) => (e, Except.mapError ServiceError.edit result)
  match order.indices with
  | some indices => wrapped (e.pickList order.option indices)
  | none =>
    match orderedChoice? order item with
    | none => (e, .error (.badRequest .noChoice))
    | some c => wrapped (e.pick order.option c)

/-- Makes the picks that an order asks for and shows the options. -/
def pickAndList (id : String) (order : PickOrder) (item : Option Gear) (e : Edit) :
    Edit × Except ServiceError Json :=
  match makePicks order item e with
  | (e, .error err) => (e, .error err)
  | (e, .ok ()) => listOptions id e

/-- Makes picks on an edit and shows its options. -/
def pickOptions (read : Json.Reader) (x : Codex) (id body : String) : Task :=
  match (read body).bind PickOrder.ofJson? with
  | none => .refuse (.badRequest .unreadable)
  | some order =>
    match order.item.mapM (Gear.read x.arsenal) with
    | .error e => .refuse (.badRequest (.unreadableItem e))
    | .ok item => .edit id (pickAndList id order item)

/-- Applies the picks on an edit and goes back to viewing. -/
def applyPicks (id : String) (e : Edit) : Edit × Except ServiceError Json :=
  match e.apply with
  | (e, .error err) => (e, .error (.edit err))
  | (e, .ok _) => shownSquad id e.finish

/-- Sizes the squad of an edit by an order. -/
def changeSize (id : String) (order : SizeOrder) (e : Edit) : Edit × Except ServiceError Json :=
  match order.size, order.counts with
  | _, some counts => shownSquad id (e.resizeModels counts)
  | some size, none => shownSquad id (e.resize size)
  | none, none => (e, .error (.badRequest .noSize))

/-- Changes the size of the squad of an edit. -/
def resizeUnit (read : Json.Reader) (id body : String) : Task :=
  match (read body).bind SizeOrder.ofJson? with
  | none => .refuse (.badRequest .unreadable)
  | some order => .edit id (changeSize id order)

/-- Takes the squad of an edit back to its template. -/
def resetUnit (id : String) (e : Edit) : Edit × Except ServiceError Json :=
  shownSquad id e.reset

/-- The part of a path before its query. -/
def resource (path : String) : String := String.ofList (path.toList.takeWhile (· ≠ '?'))

/-- The steps of a path; slashes at its ends do not count. -/
def steps (path : String) : List String :=
  let inner := (path.toList.dropWhile (· = '/')).reverse.dropWhile (· = '/')
  (inner.reverse.splitOn '/').map String.ofList

/-- What a request asks for, with its body as `read` reads it. -/
def task (read : Json.Reader) (x : Codex) (r : Request) : Task :=
  let path := resource r.path
  match r.method, steps path with
  | "GET", ["api", "health"] => .health
  | "GET", ["api", "units"] => .units
  | "POST", ["api", "units"] => openUnit read x r.body
  | "GET", ["api", "units", id] => .edit id (showEdit id)
  | "DELETE", ["api", "units", id] => .close id
  | "GET", ["api", "units", id, "options"] => .edit id (listOptions id)
  | "POST", ["api", "units", id, "select"] => pickOptions read x id r.body
  | "POST", ["api", "units", id, "apply"] => .edit id (applyPicks id)
  | "POST", ["api", "units", id, "resize"] => resizeUnit read id r.body
  | "POST", ["api", "units", id, "reset"] => .edit id (resetUnit id)
  | method, _ => .refuse (.noRoute method path)

/-! ## Serving them -/

/-- Does something with an edit, unless it is broken. -/
def attempt (d : Desk) (id : String) (act : Edit → Edit × Except ServiceError Json) (e : Edit) :
    Edit × Except ServiceError Json :=
  if id ∈ d.broken then (e, .error .broken) else act e

/-- The edits that are broken after a result on one of them. -/
def brokenBy (d : Desk) (id : String) : Except ServiceError Json → List String
  | .error e => if e.aborts then id :: d.broken else d.broken
  | .ok _ => d.broken

/-- Does something with an open edit and answers with what it gives. -/
def withEdit (d : Desk) (now : Nat) (id : String) (act : Edit → Edit × Except ServiceError Json) :
    Desk × Except ServiceError Json :=
  match d.registry.find? id with
  | none => (d, .error (.noSession id))
  | some s =>
    let (e, result) := d.attempt id act s.edit
    ({ d with registry := d.registry.put now id e, broken := d.brokenBy id result }, result)

/-- Closes an edit. -/
def closeUnit (d : Desk) (id : String) : Desk × Except ServiceError Json :=
  match d.registry.find? id with
  | none => (d, .error (.noSession id))
  | some _ => ({ d with registry := d.registry.erase id }, .ok (Payload.closed id))

/-- The desk after a task, and the result. -/
def carryOut (d : Desk) (now : Nat) (newId : String) : Task → Desk × Except ServiceError Json
  | .health => (d, .ok (Payload.health d.codex d.registry.limits.maxSessions d.sessionCount))
  | .units => (d, .ok (Payload.units d.codex))
  | .enter s =>
    ({ d with
      registry := d.registry.insert now newId s
      broken := d.broken.filter (· ≠ newId) }, .ok (Payload.session newId (.start s)))
  | .edit id act => d.withEdit now id act
  | .close id => d.closeUnit id
  | .refuse e => (d, .error e)

/-- Serves a request, with its body as `read` reads it. -/
def handle (read : Json.Reader) (d : Desk) (now : Nat) (newId : String) (r : Request) :
    Desk × Option Reply :=
  let t := task read d.codex r
  let (d, result) := d.carryOut now newId t
  (d, Reply.ofResult t.status result)

end Desk

end Muster
