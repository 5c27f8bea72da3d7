import ActivityFlow.Controller.Operations
import ActivityFlow.Graph.Fingerprint
import ActivityFlow.Graph.Outline
import ActivityFlow.Persistence.Keyspace
import ActivityFlow.Persistence.Recorder
import ActivityFlow.Proofs.Diagram.Branches
import ActivityFlow.Proofs.Diagram.Reachability
import ActivityFlow.Proofs.Diagram.WellFormed
import ActivityFlow.Proofs.Diagram.Drawing
import ActivityFlow.Proofs.Diagram.Closing
import ActivityFlow.Proofs.Action.Stillness
import ActivityFlow.Proofs.Controller.Course
import ActivityFlow.Proofs.Controller.Recovery
import ActivityFlow.Proofs.Controller.Refusal
import ActivityFlow.Proofs.Diagram.Nesting
import ActivityFlow.Proofs.Graph.Snapshot
import ActivityFlow.Proofs.Controller.Offer
import ActivityFlow.Proofs.Controller.Independence
import ActivityFlow.Proofs.Controller.Isolation
import ActivityFlow.Proofs.Controller.Advancing
import ActivityFlow.Proofs.Persistence.Archive
import ActivityFlow.Proofs.Action.Dispatch
import ActivityFlow.Proofs.Action.Merging
import ActivityFlow.Proofs.Action.Cancellation
import ActivityFlow.Proofs.Diagram.Delivery
import ActivityFlow.Proofs.Diagram.LeadingObject
import ActivityFlow.Proofs.Diagram.Carried
import ActivityFlow.Proofs.Diagram.Aside
import ActivityFlow.Proofs.Diagram.Naming
import ActivityFlow.Proofs.Diagram.ArrowLine
import ActivityFlow.Proofs.Diagram.EdgeList
import ActivityFlow.Proofs.Diagram.Mirror
import ActivityFlow.Proofs.Diagram.Finality
import ActivityFlow.Proofs.Diagram.Layout
import ActivityFlow.Proofs.Action.Filling
import ActivityFlow.Proofs.Instance.Remembering
import ActivityFlow.Proofs.Instance.Projection
import ActivityFlow.Proofs.Controller.Reimport
import ActivityFlow.Proofs.Controller.Restarting
import ActivityFlow.Proofs.Graph.Fingerprint
import ActivityFlow.Proofs.Graph.Store
import ActivityFlow.Proofs.Diagram.Boundaries
import ActivityFlow.Proofs.Diagram.FirstFree
