import Muster.Edit
import Muster.Json.Basic

/-!
# Payloads

The JSON forms of reports, listings and the answers of the service.
-/

namespace Muster

/-- The report on one group. -/
def GroupReport.toJson (r : GroupReport) : Json :=
  .record [("kind", .text r.kind), ("count", .nat r.count), ("points_each", .nat r.pointsEach),
    ("loadout", .texts r.loadout)]

/-- The report on a squad. -/
def SquadReport.toJson (r : SquadReport) : Json :=
  .record [("name", .text r.name), ("unit", .text r.unit), ("role", .text r.role.name),
    ("size", .nat r.size), ("size_range", .array [.nat r.minSize, .nat r.maxSize]),
    ("points", .nat r.points), ("wargear", .texts r.wargear),
    ("models", .array (r.models.map GroupReport.toJson)), ("problems", .texts r.problems)]

/-- One line of a listing; outside an exchange its net cost is `null`. -/
def Line.toJson (l : Line) : Json :=
  .record [("letter", .text l.letter.toString), ("label", .text l.label), ("cost", .nat l.cost),
    ("net", .ofOption .int l.net)]

/-- One option. -/
def Listing.toJson (l : Listing) : Json :=
  .record [("index", .nat l.index), ("header", .text l.header),
    ("picks_allowed", .nat l.picksAllowed), ("models_required_per", .nat l.modelsPer),
    ("per_model", .bool l.perModel), ("exchange", .ofOption .text l.exchange),
    ("choices", .array (l.choices.map Line.toJson)), ("selected", .texts l.selected),
    ("text", .text l.text)]

namespace Payload

/-- An edit with the report on its squad. -/
def session (id : String) (e : Edit) : Json :=
  .record [("id", .text id), ("state", .text e.stage.name), ("unit", e.squad.report.toJson)]

/-- An edit with its options. -/
def options (id : String) (e : Edit) (listings : List Listing) : Json :=
  .record [("id", .text id), ("state", .text e.stage.name),
    ("options", .array (listings.map Listing.toJson))]

/-- One unit of the codex, with the points of a new squad of it if one can be built. -/
def unit (x : Codex) (role : Role) (t : UnitTemplate) : Json :=
  .record [("role", .text role.name), ("name", .text t.name),
    ("size", .array [.nat t.minSize, .nat t.maxSize]), ("base_points", .nat t.basePoints),
    ("default_points", .ofOption (fun s => .nat s.points) (Squad.muster x role t.name).toOption),
    ("options", .nat t.options.length)]

/-- The faction with all its units. -/
def units (x : Codex) : Json :=
  .record [("faction", .text x.faction),
    ("units", .array (x.unitListing.map fun (role, t) => unit x role t))]

/-- The state of the service; the fields are in order of their names. -/
def health (x : Codex) (maxSessions sessions : Nat) : Json :=
  .record [("faction", .text x.faction), ("max_sessions", .nat maxSessions),
    ("service", .text "armoury-api"), ("sessions", .nat sessions), ("status", .text "ok"),
    ("version", .text "0.1.0")]

/-- What is left to say of an edit that was closed. -/
def closed (id : String) : Json := .record [("id", .text id), ("status", .text "closed")]

/-- An error. -/
def error (message : String) : Json :=
  .record [("status", .text "error"), ("message", .text message)]

end Payload

end Muster
