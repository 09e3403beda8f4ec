import Chartwright.Chart.Deploy
import Chartwright.Log.Setup
import Chartwright.Main
import Chartwright.Rollout.Canary
import Chartwright.Rollout.Registry
import Chartwright.Proofs.Chart.Access
import Chartwright.Proofs.Chart.Isolation
import Chartwright.Proofs.Chart.Ports
import Chartwright.Proofs.Chart.Routing
import Chartwright.Proofs.Metadata.Key
import Chartwright.Proofs.Metadata.Merge
import Chartwright.Proofs.Network.Endpoints
import Chartwright.Proofs.Procfile.Grammar
import Chartwright.Proofs.Registry.Account
import Chartwright.Proofs.Registry.Independence
import Chartwright.Proofs.Rollout.Capacity
import Chartwright.Proofs.Rollout.Gradual
import Chartwright.Proofs.Rollout.Retiming
import Chartwright.Proofs.Rollout.Rollback
import Chartwright.Proofs.Rollout.Survivors
import Chartwright.Proofs.Rollout.Traffic
import Chartwright.Proofs.Procfile.Joining
import Chartwright.Proofs.Network.ObjectName
import Chartwright.Proofs.Chart.Pods
import Chartwright.Proofs.Chart.Deploy
import Chartwright.Proofs.Chart.Export
import Chartwright.Proofs.Chart.Templates
import Chartwright.Proofs.Network.PortName
import Chartwright.Proofs.Registry.Failure
import Chartwright.Proofs.Log.Program
import Chartwright.Proofs.Procfile.Metadata
import Chartwright.Proofs.Spec.Format
import Chartwright.Proofs.Chart.Location
import Chartwright.Proofs.Command.Render
