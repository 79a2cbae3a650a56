import JumptotechLabs.Session.Reasons
import JumptotechLabs.Session.Standing
import JumptotechLabs.Session.Ceiling
import JumptotechLabs.Session.Orphans
import JumptotechLabs.Session.Judgements
import JumptotechLabs.Access.Trials
import JumptotechLabs.Access.Agreement
import JumptotechLabs.Billing.Ownership
import JumptotechLabs.Billing.Ordering
import JumptotechLabs.Sandboxd.Shells
import JumptotechLabs.Terminal.Claims
import JumptotechLabs.Sandboxd.Isolation
import JumptotechLabs.Billing.Coverage
import JumptotechLabs.Billing.Interleaving
import JumptotechLabs.Session.Checks
import JumptotechLabs.Observability.Secrets
import JumptotechLabs.Verifier.CidrAgreement
import JumptotechLabs.Verifier.IamConditions
import JumptotechLabs.Verifier.IamRewriting
import JumptotechLabs.Session.Identity
import JumptotechLabs.Session.Reclaiming
import JumptotechLabs.Verifier.Dockerfile
import JumptotechLabs.Verifier.SystemdComments
import JumptotechLabs.Verifier.JenkinsStages
import JumptotechLabs.Terraform.HclStray
import JumptotechLabs.Terraform.HclConsumption
import JumptotechLabs.Progress.MigrationOrder
import JumptotechLabs.Labs.Onward
import JumptotechLabs.Labs.Following
import JumptotechLabs.Terminal.OutputFlow
import JumptotechLabs.Session.SandboxPaths
import JumptotechLabs.Progress.ClosedAttempts
import JumptotechLabs.Docker.Ustar
import JumptotechLabs.Terminal.Budgets
import JumptotechLabs.Kubernetes.NetworkPolicy
import JumptotechLabs.Providers.Teardown
import JumptotechLabs.Observability.CutSecrets
import JumptotechLabs.Terraform.Locals
import JumptotechLabs.Terminal.Broker
import JumptotechLabs.Verifier.Inventory
import JumptotechLabs.Verifier.Commands
import JumptotechLabs.Classroom.EventStores
import JumptotechLabs.Labs.StageCycle
import JumptotechLabs.Web.Links
import JumptotechLabs.Auth.Users
