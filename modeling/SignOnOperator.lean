import SignOnOperator.Dex.Endpoint
import SignOnOperator.Health
import SignOnOperator.Main
import SignOnOperator.Proofs.Accounts
import SignOnOperator.Proofs.Agreement
import SignOnOperator.Proofs.ApplicationName
import SignOnOperator.Proofs.Awaited
import SignOnOperator.Proofs.Cleanup
import SignOnOperator.Proofs.Compensation
import SignOnOperator.Proofs.Custody
import SignOnOperator.Proofs.DerivedNames
import SignOnOperator.Proofs.Discretion
import SignOnOperator.Proofs.Exclusion
import SignOnOperator.Proofs.Finalizers
import SignOnOperator.Proofs.Fitting
import SignOnOperator.Proofs.Footprint
import SignOnOperator.Proofs.Guards
import SignOnOperator.Proofs.Independence
import SignOnOperator.Proofs.LoadedOnce
import SignOnOperator.Proofs.Messages
import SignOnOperator.Proofs.Namesakes
import SignOnOperator.Proofs.Pipeline
import SignOnOperator.Proofs.Publication
import SignOnOperator.Proofs.Readback
import SignOnOperator.Proofs.Realm
import SignOnOperator.Proofs.Recovery
import SignOnOperator.Proofs.Redelivery
import SignOnOperator.Proofs.Release
import SignOnOperator.Proofs.Removal
import SignOnOperator.Proofs.Requirements
import SignOnOperator.Proofs.Residue
import SignOnOperator.Proofs.Revision
import SignOnOperator.Proofs.Roles
import SignOnOperator.Proofs.Rollout
import SignOnOperator.Proofs.Sensitivity
import SignOnOperator.Proofs.Separation
import SignOnOperator.Proofs.SharedSecret
import SignOnOperator.Proofs.Subjects
import SignOnOperator.Proofs.Survival
import SignOnOperator.Proofs.System
import SignOnOperator.Proofs.TimeLimits
import SignOnOperator.Proofs.Upkeep
import SignOnOperator.Proofs.UpstreamService
import SignOnOperator.Rehearsal.Checks
import SignOnOperator.Rehearsal.Exchange
import SignOnOperator.Rehearsal.Session
import SignOnOperator.Startup.Environment
import SignOnOperator.Startup.FileTree
