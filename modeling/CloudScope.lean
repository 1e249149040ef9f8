import CloudScope.Catalog.Registry
import CloudScope.Main
import CloudScope.Proofs.Dispatch.Frames
import CloudScope.Proofs.Expr.Parsing
import CloudScope.Proofs.Http.ScopeHeader
import CloudScope.Proofs.Catalog.Route
import CloudScope.Proofs.Catalog.Endpoints
import CloudScope.Proofs.Catalog.PassThrough
import CloudScope.Proofs.Catalog.Forwarding
import CloudScope.Proofs.Http.Tokens
import CloudScope.Proofs.Dispatch.DryRun
import CloudScope.Proofs.Context.Guards
import CloudScope.Proofs.Dispatch.Pinning
import CloudScope.Proofs.Dispatch.LeafRuns
import CloudScope.Proofs.Catalog.Effects
import CloudScope.Proofs.Catalog.Overrides
import CloudScope.Proofs.Dispatch.Regrouping
import CloudScope.Proofs.Http.Spellings
import CloudScope.Proofs.Expr.Printing
import CloudScope.Proofs.Dispatch.Outcomes
import CloudScope.Proofs.Http.History
import CloudScope.Proofs.Context.ShellScope
import CloudScope.Proofs.Http.Updates
import CloudScope.Proofs.Context.Injection
import CloudScope.Proofs.Catalog.Instances
import CloudScope.Proofs.Settings.Layers
import CloudScope.Proofs.Dispatch.Refusals
import CloudScope.Proofs.Json.Grammar
import CloudScope.Proofs.Json.Acceptance
import CloudScope.Proofs.Catalog.Listing
import CloudScope.Proofs.Expr.Calls
import CloudScope.Proofs.Dispatch.Depth
import CloudScope.Proofs.Scope.Canonical
