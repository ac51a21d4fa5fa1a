import Muster.Offer.Sheet
import Muster.Json.Reading
import Muster.Json.Writing
import Muster.Record
import Muster.Yaml.Node
import Muster.Codex.Document
import Muster.Codex.Audit
import Muster.Squad.Equipping
import Muster.Squad.Sizing
import Muster.Squad.Report
import Muster.Edit
import Muster.Force
import Muster.Service.Desk
import Muster.Service.Identifier
import Muster.Service.Wire
import Muster.Shelf
import Muster.Main
import Muster.Console
import Muster.Codex.Necrons
import Muster.Proofs.Points
import Muster.Proofs.Grammar
import Muster.Proofs.Precedence
import Muster.Proofs.Entitlement
import Muster.Proofs.Trades
import Muster.Proofs.Isolation
import Muster.Proofs.Limits
import Muster.Proofs.Writing
import Muster.Proofs.Picks
import Muster.Proofs.Prices
import Muster.Proofs.Selections
import Muster.Proofs.Shares
import Muster.Proofs.Lookalikes
import Muster.Proofs.Rechoosing
import Muster.Proofs.Resizing
import Muster.Proofs.Assembly
import Muster.Proofs.Menus
import Muster.Proofs.Interleaving
import Muster.Proofs.Releases
import Muster.Proofs.Commuting
import Muster.Proofs.Lookups
import Muster.Proofs.Capitals
import Muster.Proofs.Faults
import Muster.Proofs.Bodies
import Muster.Proofs.Totals
import Muster.Proofs.Aborts
import Muster.Proofs.Comparing
import Muster.Proofs.Filing
import Muster.Proofs.Numbering
