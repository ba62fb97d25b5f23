import Issuance.Main
import Issuance.Cluster.EventRecorder
import Issuance.Rehearsal.Report
import Issuance.Retry.WatchError
import Issuance.Summary
import Issuance.Proofs.Crowd.Invalidation
import Issuance.Proofs.Crowd.OtherConditions
import Issuance.Proofs.Crowd.SharedBuild
import Issuance.Proofs.Reconcile.Decisions
import Issuance.Proofs.Reconcile.Ownership
import Issuance.Proofs.Rehearsal.Simulation
import Issuance.Proofs.Resource.Encoding
import Issuance.Proofs.Retry.Independence
import Issuance.Proofs.Retry.WatchErrors
import Issuance.Proofs.Run.Announcement
import Issuance.Proofs.Run.Collecting
import Issuance.Proofs.Run.Issuing
import Issuance.Proofs.Run.Reordering
import Issuance.Proofs.Run.Repetition
import Issuance.Proofs.Run.Signing
import Issuance.Proofs.PrivateCa.Template
import Issuance.Proofs.Encoding.PemBundle
import Issuance.Proofs.PrivateCa.Assembly
import Issuance.Proofs.PrivateCa.Client
import Issuance.Proofs.PrivateCa.Ordering
import Issuance.Proofs.Time.DurationPattern
import Issuance.Proofs.PrivateCa.Lifetime
import Issuance.Proofs.PrivateCa.Validity
import Issuance.Proofs.Config.Settings
