import WebDispatch.Components

/-!
# Scripted policies

Policies given by data: who sends a request is told by a header field, and what senders may do by
rules.
-/

namespace WebDispatch

def everyone : String := "system.Everyone"

/-- The principal that senders act as who say who they are. -/
def authenticated : String := "system.Authenticated"

/-- Takes the principals of a sender from a header field, where they stand between commas. -/
def AuthenticationPolicy.ofHeader (name : String) : AuthenticationPolicy where
  principals r :=
    everyone :: (match r.header? name with
      | some value => authenticated :: Text.splitOn ',' value
      | none => [])

/-- Permission for a principal; a star stands for all permissions, no path for all resources. -/
structure AccessRule where
  principal : String
  permission : String
  path : Option String := none
deriving DecidableEq, Repr, Inhabited

def AccessRule.permits (rule : AccessRule) (context : Resource) (principals : List String)
    (permission : String) : Bool :=
  principals.contains rule.principal
    && (rule.permission = "*" || rule.permission = permission)
    && rule.path.all fun path => context.path = path

def AuthorizationPolicy.ofRules (rules : List AccessRule) : AuthorizationPolicy where
  permits context principals permission :=
    rules.any fun rule => rule.permits context principals permission

end WebDispatch
