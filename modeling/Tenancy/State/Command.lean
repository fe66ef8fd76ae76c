import Tenancy.State.Account
import Tenancy.State.Entry
import Tenancy.State.OperationLog
import Tenancy.State.Organization
import Tenancy.State.Role

/-!
# Commands

All that the system can be asked for, as values, and what it answers. `State.perform` carries out a
command on behalf of an account; it is the one entry to the operations, so that a run of the system
is a list of accounts and commands. A command that fails leaves the state as it was, unless its
journal keeps a database.
-/

namespace Tenancy

/-- What the system can be asked for. -/
inductive Command where
  | bootstrap (credentials : Credentials)
  | login (credentials : Credentials)
  | createAccount (request : NewAccount)
  | listAccounts (page : Page) (filter : AccountFilter)
  | currentAccount
  | accountDetail (id : Int)
  | createRole (request : NewRole)
  | listRoles (page : Page) (name : Option String)
  | roleDetail (id : Int)
  | createOrganization (request : NewOrganization)
  | organizationTree (limit : LimitType)
  | organizationDetail (id : Int)
  | menus
  | listOperationLogs (page : Page)
  deriving DecidableEq, Repr

/-- What the system answers. -/
inductive Answer where
  | account (a : Account)
  | entered (a : Account)
  | created (id : Int)
  | accounts (l : Listing AccountEntry)
  | accountDetail (d : AccountDetail)
  | roles (l : Listing Role)
  | roleDetail (d : RoleDetail)
  | organization (o : Organization)
  | organizations (f : Forest TreeNode)
  | menus (f : Forest TreeNode)
  | operationLogs (l : Listing OperationLog)

/-- The forest of an answer; the answers without one have the empty forest. -/
def Answer.forest : Answer → Forest TreeNode
  | accountDetail d => d.menus
  | roleDetail d => d.menus
  | organizations f | menus f => f
  | _ => .nil

/-- Carries out a command on behalf of an account. The first two commands need no account. -/
def State.perform (s : State) (caller : Int) : Command → Journal (State × Answer)
  | .bootstrap credentials => do
    let (s, a) ← s.bootstrap credentials
    return (s, .account a)
  | .login credentials => return (s, .entered (← s.login credentials))
  | .createAccount request => do
    let (s, a) ← s.createAccount caller request
    return (s, .created a.id)
  | .listAccounts page filter => return (s, .accounts (← s.listAccounts caller page filter))
  | .currentAccount => return (s, .accountDetail (← s.currentAccount caller))
  | .accountDetail id => return (s, .accountDetail (← s.accountDetail caller id))
  | .createRole request => do
    let (s, r) ← s.createRole caller request
    return (s, .created r.id)
  | .listRoles page name => return (s, .roles (← s.listRoles page name))
  | .roleDetail id => return (s, .roleDetail (← s.roleDetail id))
  | .createOrganization request => do
    let (s, o) ← s.createOrganization caller request
    return (s, .created o.id)
  | .organizationTree limit => return (s, .organizations (← s.organizationTree caller limit))
  | .organizationDetail id => return (s, .organization (← s.organizationDetail caller id))
  | .menus => return (s, .menus (← s.menuForest fun _ => false))
  | .listOperationLogs page => return (s, .operationLogs (← s.listOperationLogs caller page))

end Tenancy
