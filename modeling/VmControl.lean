import VmControl.Peer.Client
import VmControl.Proofs.Acceptance
import VmControl.Proofs.Codec.Exchanged
import VmControl.Proofs.Copy.Bitmaps
import VmControl.Proofs.Copy.Evidence
import VmControl.Proofs.Destinations
import VmControl.Proofs.Gate
import VmControl.Proofs.Gateway.Admission
import VmControl.Proofs.Gateway.Selection
import VmControl.Proofs.Migration.Rollback
import VmControl.Proofs.Monitor.Closing
import VmControl.Proofs.Monitor.Lines
import VmControl.Proofs.Monitor.Noise
import VmControl.Proofs.Monitor.Replacement
import VmControl.Proofs.Monitor.Routing
import VmControl.Proofs.Monitor.Watching
import VmControl.Proofs.Peer.Manifests
import VmControl.Proofs.Pool.BlockJobs
import VmControl.Proofs.Pool.Clearance
import VmControl.Proofs.Pool.Listing
import VmControl.Proofs.Pool.Polls
import VmControl.Proofs.Pool.Refusals
import VmControl.Proofs.Pool.Removal
import VmControl.Proofs.Rate
import VmControl.Proofs.Store.Atomicity
import VmControl.Proofs.Store.Keeping
import VmControl.Proofs.Task.Handles
import VmControl.Proofs.Task.Identifiers
import VmControl.Proofs.Task.Interruption
import VmControl.Proofs.Task.Scene
import VmControl.Rehearsal.Gate
import VmControl.Rehearsal.Log
import VmControl.Rehearsal.Names
import VmControl.Rehearsal.Scenario
import VmControl.Rehearsal.Session
import VmControl.Rehearsal.Task
