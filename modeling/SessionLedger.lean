import SessionLedger.Main
import SessionLedger.Rehearsal.Basic
import SessionLedger.Telemetry.Logging
import SessionLedger.Proofs.EventCoding
import SessionLedger.Proofs.Harmless
import SessionLedger.Proofs.Justification
import SessionLedger.Proofs.Recounting
import SessionLedger.Proofs.Provenance
import SessionLedger.Proofs.Ownership
import SessionLedger.Proofs.Tenancy
import SessionLedger.Proofs.Ending
import SessionLedger.Proofs.Opening
import SessionLedger.Proofs.Operations
import SessionLedger.Proofs.Rebuilding
import SessionLedger.Proofs.Delivery
import SessionLedger.Proofs.Places
import SessionLedger.Proofs.UnknownKinds
import SessionLedger.Proofs.CatchingUp
import SessionLedger.Proofs.LoneCall
import SessionLedger.Proofs.Outcomes
import SessionLedger.Proofs.Conflicts
import SessionLedger.Proofs.Inspection
import SessionLedger.Proofs.AppendConditions
import SessionLedger.Proofs.Freshness
import SessionLedger.Proofs.FailedLoads
import SessionLedger.Proofs.CalendarDays
import SessionLedger.Proofs.InstantText
import SessionLedger.Proofs.ExportedEvents
import SessionLedger.Proofs.MetadataChanges
import SessionLedger.Proofs.Paging
import SessionLedger.Proofs.Retries
import SessionLedger.Proofs.Usability
import SessionLedger.Proofs.MetadataLimits
import SessionLedger.Proofs.Observations
import SessionLedger.Proofs.Lifetimes
import SessionLedger.Proofs.Numbering
