import AgqlAuth.Base.Encoding
import AgqlAuth.Base.Text
import AgqlAuth.Json.OrderedMap
import AgqlAuth.Model.Session

/-!
# Role-scope catalogues

The bounded catalogue of scopes and roles that a host distributes, its
validation, and the expansion of a token's roles to the scopes they grant.
Strings are ordered by code points, which is the order of their UTF-8 bytes.
-/

namespace AgqlAuth

open Json (OrderedMap OrderedSet)

def maxRoleScopeCatalogueScopes : Nat := 4096
def maxRoleScopeCatalogueRoles : Nat := 1024
def maxRoleScopeCatalogueScopesPerRole : Nat := 1024
def maxRoleScopeCatalogueExactOnlyPatterns : Nat := 1024
def maxRoleScopeCatalogueValueLength : Nat := 512

structure RoleScopeDefinition where
  scope : String
  exactOnly : Bool := false
  deriving DecidableEq

/-- A role and the exact scopes it grants; `name` is only for display. -/
structure RoleScopeGrant where
  id : String
  name : String
  scopes : List String
  deriving DecidableEq

structure RoleScopeCatalogue where
  version : String
  scopes : List RoleScopeDefinition
  roles : List RoleScopeGrant
  exactOnlyScopePatterns : List String := []
  deriving DecidableEq

inductive RoleScopeCatalogueError where
  | invalid (message : String)
  deriving DecidableEq

inductive RoleScopeExpansionError where
  | unavailable
  | unknownRole (role : String)
  | invalidCatalogue (message : String)
  deriving DecidableEq

def isAsciiControl (byte : UInt8) : Bool := byte.toNat < 32 || byte.toNat = 127

def isAsciiWhitespace (byte : UInt8) : Bool :=
  let n := byte.toNat
  n = 32 || n = 9 || n = 10 || n = 12 || n = 13

def validateValue (value : String) : Except RoleScopeCatalogueError Unit :=
  if value.isEmpty || value.utf8ByteSize > maxRoleScopeCatalogueValueLength ||
      (utf8Bytes value).any fun byte => isAsciiWhitespace byte || isAsciiControl byte then
    .error (.invalid "catalogue contains an empty, oversized, or whitespace-bearing value")
  else .ok ()

def validateDisplayName (value : String) : Except RoleScopeCatalogueError Unit :=
  if (trim value).isEmpty || value.utf8ByteSize > maxRoleScopeCatalogueValueLength ||
      (utf8Bytes value).any isAsciiControl then
    .error (.invalid "catalogue contains an invalid role name")
  else .ok ()

/-- The loops that `validate` runs over values: each passes `check` and none is repeated. -/
def validateDistinct (check : String → Except RoleScopeCatalogueError Unit) (duplicate : String) :
    List String → OrderedSet String → Except RoleScopeCatalogueError (OrderedSet String)
  | [], seen => .ok seen
  | value :: rest, seen => do
      check value
      if seen.contains value then .error (.invalid duplicate)
      else validateDistinct check duplicate rest (seen.insert value ())

/-- The test of one scope that a role refers to. -/
def validateReference (registeredScopes : OrderedSet String) (scope : String) :
    Except RoleScopeCatalogueError Unit := do
  validateValue scope
  if registeredScopes.contains scope then .ok ()
  else .error (.invalid "role references an unregistered scope")

/-- The loop of `validate` over the roles. -/
def validateRoles (registeredScopes : OrderedSet String) :
    List RoleScopeGrant → OrderedSet String → Except RoleScopeCatalogueError Unit
  | [], _ => .ok ()
  | role :: rest, roleIds => do
      validateValue role.id
      validateDisplayName role.name
      if roleIds.contains role.id then
        .error (.invalid "catalogue contains a duplicate role ID")
      else if role.scopes.length > maxRoleScopeCatalogueScopesPerRole then
        .error (.invalid "role has too many scope references")
      else do
        let _ ← validateDistinct (validateReference registeredScopes)
          "role contains a duplicate scope reference" role.scopes .empty
        validateRoles registeredScopes rest (roleIds.insert role.id ())

namespace RoleScopeCatalogue

def registered (self : RoleScopeCatalogue) : List String := self.scopes.map (·.scope)

def roleIds (self : RoleScopeCatalogue) : List String := self.roles.map (·.id)

def validate (self : RoleScopeCatalogue) : Except RoleScopeCatalogueError Unit := do
  validateValue self.version
  if self.scopes.length > maxRoleScopeCatalogueScopes then
    .error (.invalid "catalogue has too many scope definitions")
  else if self.roles.length > maxRoleScopeCatalogueRoles then
    .error (.invalid "catalogue has too many role definitions")
  else if self.exactOnlyScopePatterns.length > maxRoleScopeCatalogueExactOnlyPatterns then
    .error (.invalid "catalogue has too many exact-only patterns")
  else do
    let registeredScopes ← validateDistinct validateValue "catalogue contains a duplicate scope"
      self.registered .empty
    validateRoles registeredScopes self.roles .empty
    let _ ← validateDistinct validateValue "catalogue contains a duplicate exact-only pattern"
      self.exactOnlyScopePatterns .empty
    .ok ()

end RoleScopeCatalogue

@[ext]
structure RoleScopeExpansion where
  catalogueVersion : String
  scopes : List String
  deriving DecidableEq

/-- A catalogue's roles, each with the scopes it grants. -/
structure StaticRoleScopeExpansion where
  version : String
  roleScopes : OrderedMap String (List String)

namespace StaticRoleScopeExpansion

def new (catalogue : RoleScopeCatalogue) :
    Except RoleScopeExpansionError StaticRoleScopeExpansion :=
  match catalogue.validate with
  | .error (.invalid message) => .error (.invalidCatalogue message)
  | .ok () => .ok {
      version := catalogue.version
      roleScopes := .collect (catalogue.roles.map fun role => (role.id, role.scopes)) }

def scopesOfRole (self : StaticRoleScopeExpansion) (role : String) :
    Except RoleScopeExpansionError (List String) :=
  match self.roleScopes.find? role with
  | some scopes => .ok scopes
  | none => .error (.unknownRole role)

def expandRoles (self : StaticRoleScopeExpansion) (roles : List String) :
    Except RoleScopeExpansionError RoleScopeExpansion := do
  let scopes ← roles.mapM self.scopesOfRole
  .ok { catalogueVersion := self.version, scopes := (OrderedSet.collect scopes.flatten).keys }

end StaticRoleScopeExpansion

def effectiveScopes (directScopes : List String) (expansion : RoleScopeExpansion) : List String :=
  (OrderedSet.collect (directScopes ++ expansion.scopes)).keys

end AgqlAuth
