import Tenancy.Database.Import
import Tenancy.Http.Server
import Tenancy.Proofs.Growth
import Tenancy.Proofs.SchemaSteps
import Tenancy.Proofs.MenuCover
import Tenancy.Proofs.Ancestry
import Tenancy.Proofs.Partition
import Tenancy.Proofs.Labels
import Tenancy.Proofs.Tenant
import Tenancy.Proofs.Numbering
import Tenancy.Proofs.Guard
import Tenancy.Proofs.TenantWrites
import Tenancy.Proofs.TenantReads
import Tenancy.Proofs.Founding
import Tenancy.Proofs.PolicyRelation
import Tenancy.Proofs.SubjectNames
import Tenancy.Proofs.PolicyHistory
import Tenancy.Proofs.PolicyStep
import Tenancy.Proofs.TreeView
import Tenancy.Proofs.Integrity
import Tenancy.Proofs.Atomicity
import Tenancy.Proofs.Gates
import Tenancy.Proofs.Regularity
import Tenancy.Proofs.Permanence
import Tenancy.Proofs.Paging
import Tenancy.Proofs.Visibility
import Tenancy.Proofs.MenuRoutes
import Tenancy.Proofs.StrayHomes
import Tenancy.Proofs.AuditTrail
import Tenancy.Proofs.Oversight
import Tenancy.Proofs.Subtree
import Tenancy.Proofs.NewOrganization
import Tenancy.Proofs.Descent
import Tenancy.Proofs.FirstLevelView
import Tenancy.Proofs.Climb
import Tenancy.Proofs.Closure
import Tenancy.Proofs.Reordering
import Tenancy.Proofs.CheckBoxes
import Tenancy.Proofs.Credentials
import Tenancy.Proofs.InternalErrors
import Tenancy.Proofs.CommonShape
import Tenancy.Proofs.RoleEditor
import Tenancy.Proofs.Search
import Tenancy.Proofs.PageByPage
import Tenancy.Proofs.TableOrder
import Tenancy.Proofs.PermissionOrder
import Tenancy.Proofs.Repetition
import Tenancy.Proofs.Splitting
import Tenancy.Proofs.PathSegments
import Tenancy.Proofs.Base64
import Tenancy.Proofs.JsonObjects
import Tenancy.Proofs.TokenRoundTrip
import Tenancy.Proofs.ReadAgain
import Tenancy.Proofs.LinearLoops
