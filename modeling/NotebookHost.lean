import NotebookHost.Text.Blank
import NotebookHost.Text.Split
import NotebookHost.Text.Utf8
import NotebookHost.Text.Hex
import NotebookHost.Text.Decimal
import NotebookHost.Text.Case
import NotebookHost.Json.Writer
import NotebookHost.Json.Reader
import NotebookHost.Instant.Text
import NotebookHost.Notebook.Codec
import NotebookHost.Failure
import NotebookHost.Refusal
import NotebookHost.Toml.Document
import NotebookHost.Settings.Load
import NotebookHost.Http.Target
import NotebookHost.Digest.Sha1
import NotebookHost.Digest.Base64
import NotebookHost.Handshake
import NotebookHost.Store.Basic
import NotebookHost.Store.Database
import NotebookHost.Catalogue.Basic
import NotebookHost.Supervisor.Basic
import NotebookHost.Routing
import NotebookHost.Delivery.Basic
import NotebookHost.Deployment.Basic
import NotebookHost.Management
import NotebookHost.Forwarding
import NotebookHost.Relay
import NotebookHost.Session
import NotebookHost.FileTree
import NotebookHost.ListenAddress
import NotebookHost.Startup
import NotebookHost.Main
import NotebookHost.Supervisor.Run
import NotebookHost.Supervisor.Sections
import NotebookHost.Supervisor.Callers
import NotebookHost.Catalogue.History
import NotebookHost.Delivery.Subscribers
import NotebookHost.Deployment.Run
import NotebookHost.Proofs.Text.ByteOrder
import NotebookHost.Proofs.Text.Case
import NotebookHost.Proofs.Text.Decimal
import NotebookHost.Proofs.Text.Numeral
import NotebookHost.Proofs.Json.RoundTrip
import NotebookHost.Proofs.Instant.RoundTrip
import NotebookHost.Proofs.Notebook.RoundTrip
import NotebookHost.Proofs.Catalogue.Records
import NotebookHost.Proofs.Catalogue.Effects
import NotebookHost.Proofs.Catalogue.Uniqueness
import NotebookHost.Proofs.Catalogue.Index
import NotebookHost.Proofs.Catalogue.Lookup
import NotebookHost.Proofs.Catalogue.Roster
import NotebookHost.Proofs.Supervisor.Seats
import NotebookHost.Proofs.Supervisor.Ports
import NotebookHost.Proofs.Hub.Steps
import NotebookHost.Proofs.Hub.Isolation
import NotebookHost.Proofs.Hub.Hints
import NotebookHost.Proofs.Supervisor.Processes
import NotebookHost.Proofs.Supervisor.Allocation
import NotebookHost.Proofs.Supervisor.Conduct
import NotebookHost.Proofs.Supervisor.Monitors
import NotebookHost.Proofs.Supervisor.Stopping
import NotebookHost.Proofs.Supervisor.Agreement
import NotebookHost.Proofs.Supervisor.Simulation
import NotebookHost.Proofs.Supervisor.Twins
import NotebookHost.Proofs.Supervisor.Bystanders
import NotebookHost.Proofs.Supervisor.Interleavings
import NotebookHost.Proofs.Catalogue.Announcements
import NotebookHost.Proofs.Catalogue.Atomicity
import NotebookHost.Proofs.Catalogue.Log
import NotebookHost.Proofs.Hostname
import NotebookHost.Proofs.Catalogue.Admission
import NotebookHost.Proofs.Delivery.Order
import NotebookHost.Proofs.Delivery.Subscribers
import NotebookHost.Proofs.Hub.Atomicity
import NotebookHost.Proofs.Hub.Following
import NotebookHost.Proofs.Hub.Convergence
import NotebookHost.Proofs.Hub.Reachability
import NotebookHost.Proofs.Text.Utf8
import NotebookHost.Proofs.Notebook.Lossless
import NotebookHost.Proofs.Settings.Ports
import NotebookHost.Proofs.Supervisor.Signal
import NotebookHost.Proofs.Supervisor.Actions
import NotebookHost.Proofs.Supervisor.Accounts
import NotebookHost.Proofs.Supervisor.Shutdown
import NotebookHost.Proofs.Delivery.Losses
import NotebookHost.Proofs.Delivery.Panics
import NotebookHost.Proofs.Text.Split
import NotebookHost.Proofs.Hub.Faults
import NotebookHost.Proofs.Http.Target
import NotebookHost.Proofs.Http.Headers
import NotebookHost.Proofs.Forwarding.Reached
import NotebookHost.Proofs.Forwarding.Places
import NotebookHost.Proofs.Forwarding.Provenance
import NotebookHost.Proofs.Forwarding.Transparency
import NotebookHost.Proofs.Catalogue.Neighbours
import NotebookHost.Proofs.Catalogue.Updates
import NotebookHost.Proofs.Hostname.Grammar
import NotebookHost.Proofs.Relay
import NotebookHost.Proofs.Handshake
import NotebookHost.Proofs.Supervisor.Watch
import NotebookHost.Proofs.Supervisor.Reloading
import NotebookHost.Proofs.Supervisor.Custody
import NotebookHost.Proofs.Supervisor.Removal
import NotebookHost.Proofs.PortRange
import NotebookHost.Proofs.Management.Routes
import NotebookHost.Proofs.Management.Bodies
import NotebookHost.Proofs.Store.History
