import Pasteboard.Main
import Pasteboard.Api.Router
import Pasteboard.Proofs.Slots.Latest
import Pasteboard.Proofs.Slots.Payloads
import Pasteboard.Proofs.Slots.Readback
import Pasteboard.Proofs.Slots.Shelf
import Pasteboard.Proofs.Board.Effect
import Pasteboard.Proofs.Access.Gate
import Pasteboard.Proofs.Api.Handlers
import Pasteboard.Proofs.Api.Paths
import Pasteboard.Proofs.Api.Serving
import Pasteboard.Proofs.Api.Disguise
import Pasteboard.Proofs.Api.Authority
import Pasteboard.Proofs.Listing.Cursor
import Pasteboard.Proofs.Listing.Page
import Pasteboard.Proofs.Listing.Walk
import Pasteboard.Proofs.Listing.Search
import Pasteboard.Proofs.Listing.Paging
import Pasteboard.Proofs.Search.Index
import Pasteboard.Proofs.Search.Expression
import Pasteboard.Proofs.Search.Substring
import Pasteboard.Proofs.Log.Chain
import Pasteboard.Proofs.Log.Undo
import Pasteboard.Proofs.Log.Deletion
import Pasteboard.Proofs.Board.Reachable
import Pasteboard.Proofs.Access.Calls
import Pasteboard.Proofs.Log.Failure
import Pasteboard.Proofs.Slots.Exclusive
import Pasteboard.Proofs.Slots.Swapped
import Pasteboard.Proofs.Slots.Erasure
import Pasteboard.Proofs.Log.Keys
import Pasteboard.Proofs.Api.Keys
import Pasteboard.Proofs.Command.Keys
import Pasteboard.Proofs.Log.Attribution
import Pasteboard.Proofs.Access.Rules
import Pasteboard.Proofs.Access.Forwarded
import Pasteboard.Proofs.Api.Contents
import Pasteboard.Proofs.Access.Revocation
import Pasteboard.Proofs.Access.Policy
import Pasteboard.Proofs.Access.Spelling
import Pasteboard.Proofs.Slots.History
import Pasteboard.Proofs.Net.Normal
import Pasteboard.Proofs.Slots.Patch
import Pasteboard.Proofs.Listing.Fitting
import Pasteboard.Proofs.Api.SlotQuery
import Pasteboard.Proofs.Api.Searching
import Pasteboard.Proofs.Listing.Endpoints
import Pasteboard.Proofs.Api.Posting
import Pasteboard.Proofs.Text.LineDiff
import Pasteboard.Proofs.Overrides
import Pasteboard.Proofs.Slots.Surplus
import Pasteboard.Proofs.Listing.Clauses
import Pasteboard.Proofs.Api.Files
