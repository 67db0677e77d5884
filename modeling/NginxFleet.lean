import NginxFleet.Client.Call
import NginxFleet.Client.Error
import NginxFleet.Config.Basic
import NginxFleet.Config.Environment
import NginxFleet.Controller.Schedule
import NginxFleet.Controller.Watch
import NginxFleet.Crd.Manifest
import NginxFleet.Discovery.Group
import NginxFleet.Discovery.Served
import NginxFleet.Discovery.Version
import NginxFleet.Http.Message
import NginxFleet.Http.Target
import NginxFleet.Json.Basic
import NginxFleet.Json.Edit
import NginxFleet.Json.Parser
import NginxFleet.Json.Printer
import NginxFleet.Json.Reader
import NginxFleet.Json.Received
import NginxFleet.Json.Token
import NginxFleet.Json.Yaml
import NginxFleet.KeyMap
import NginxFleet.Log
import NginxFleet.Main
import NginxFleet.Nginx.Basic
import NginxFleet.Nginx.Desired
import NginxFleet.Nginx.Drift
import NginxFleet.Nginx.Wire
import NginxFleet.Number.Binary64
import NginxFleet.Number.Power
import NginxFleet.Number.Shortest
import NginxFleet.Number.Unsigned
import NginxFleet.Object.Deployment
import NginxFleet.Object.Document
import NginxFleet.Object.Meta
import NginxFleet.Object.Place
import NginxFleet.Object.Pod
import NginxFleet.Object.PodShape
import NginxFleet.Object.PodTemplate
import NginxFleet.Object.Selector
import NginxFleet.Object.Service
import NginxFleet.Object.Shape
import NginxFleet.Reconcile.Deployment
import NginxFleet.Reconcile.Dispatch
import NginxFleet.Reconcile.Error
import NginxFleet.Reconcile.Service
import NginxFleet.Reconcile.Status
import NginxFleet.Report
import NginxFleet.Server.Cluster
import NginxFleet.Server.ObjectStore
import NginxFleet.Server.PollScript
import NginxFleet.Server.Refusal
import NginxFleet.Server.Script
import NginxFleet.Session
import NginxFleet.Startup.Launch
import NginxFleet.Startup.Wait
import NginxFleet.Text.Blank
import NginxFleet.Text.Cut
import NginxFleet.Text.FormEncoded
import NginxFleet.Text.Printable
import NginxFleet.Text.Quoted
import NginxFleet.Text.Split
import NginxFleet.Text.Terminal
import NginxFleet.Text.Utf8
import NginxFleet.Time.Calendar
import NginxFleet.Time.Timestamp
import NginxFleet.Proofs.Protocol.Call
import NginxFleet.Proofs.Protocol.Walk
import NginxFleet.Proofs.Wire.FreeForm
import NginxFleet.Proofs.Wire.Time
import NginxFleet.Proofs.Wire.Metadata
import NginxFleet.Proofs.Wire.Template
import NginxFleet.Proofs.Wire.Deployment
import NginxFleet.Proofs.Reconcile.Repair
import NginxFleet.Proofs.Wire.Service
import NginxFleet.Proofs.Wire.Version
import NginxFleet.Proofs.Naming.Dns
import NginxFleet.Proofs.Naming.Target
import NginxFleet.Proofs.Protocol.Sent
import NginxFleet.Proofs.Server.Effect
import NginxFleet.Proofs.Server.Fault
import NginxFleet.Proofs.Convergence.Demand
import NginxFleet.Proofs.Convergence.Plan
import NginxFleet.Proofs.Convergence.Run
import NginxFleet.Proofs.Convergence.Retry
import NginxFleet.Proofs.Wire.Filled
import NginxFleet.Proofs.Reconcile.Defaults
import NginxFleet.Proofs.Convergence.Quiescence
import NginxFleet.Proofs.Overlap.Dependents
import NginxFleet.Proofs.Overlap.Creation
import NginxFleet.Proofs.Overlap.Agreement
import NginxFleet.Proofs.Rollout.Settled
import NginxFleet.Proofs.Rollout.Effective
import NginxFleet.Proofs.Rollout.Sequence
import NginxFleet.Proofs.Rollout.Ownership
import NginxFleet.Proofs.Server.Optimistic
import NginxFleet.Proofs.Writers.Amid
import NginxFleet.Proofs.Writers.Accepted
import NginxFleet.Proofs.Coherence.Built
import NginxFleet.Proofs.Writers.Updates
import NginxFleet.Proofs.Coherence.Reachable
import NginxFleet.Proofs.Drift.Detection
import NginxFleet.Proofs.Drift.Update
import NginxFleet.Proofs.Text.Utf8
import NginxFleet.Proofs.Text.FormEncoded
import NginxFleet.Proofs.Selection.Agreement
import NginxFleet.Proofs.Isolation.Footprint
import NginxFleet.Proofs.Isolation.Lockstep
import NginxFleet.Proofs.Startup.Waiting
import NginxFleet.Proofs.Discovery.Served
import NginxFleet.Proofs.Status.Recorded
import NginxFleet.Proofs.Number.Rounding
import NginxFleet.Proofs.Number.Scaling
import NginxFleet.Proofs.Wire.Instance
import NginxFleet.Proofs.Number.Spelling
import NginxFleet.Proofs.Number.Reading
import NginxFleet.Proofs.Json.Fits
import NginxFleet.Proofs.Json.Lexing
import NginxFleet.Proofs.Json.Building
import NginxFleet.Proofs.Json.Parsed
import NginxFleet.Proofs.Wire.Printable
import NginxFleet.Proofs.Wire.Printed
import NginxFleet.Proofs.Config.Settings
import NginxFleet.Proofs.Naming.Limits
