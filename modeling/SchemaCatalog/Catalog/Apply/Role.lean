import SchemaCatalog.Catalog.Apply.Outcome

/-!
# Roles and grants

A role may be dropped when no grant names it. A grant about tables files them under their keys; a
revocation is matched against grants by its objects, a common grantee and a common privilege.
-/

namespace SchemaCatalog

/-! ## 1. Roles -/

def CreateRole.apply (s : CreateRole) (b : Builder) : Except CatalogError Builder := do
  if (b.role? s.name).isSome then throw (.alreadyExists "role" s.name)
  s.memberOf.forM fun parent => b.requireRole parent ("role `" ++ s.name ++ "`")
  pure (b.addRole { name := s.name, options := s.options, memberships := s.memberOf })

def Builder.dropRole (b : Builder) (ifExists : Bool) (name : String) :
    Except CatalogError Builder :=
  match b.role? name with
  | none => if ifExists then .ok b else .error (.notFound "role" name)
  | some _ =>
    let grants := b.roleDependents name
    if grants.isEmpty then .ok (b.removeRole name)
    else .error (.dropConflict "role" name (grants.map fun g => "grant `" ++ g.describe ++ "`"))

def DropRole.apply (s : DropRole) (b : Builder) : Outcome :=
  Outcome.each (fun b name => .whole b (b.dropRole s.ifExists name)) b s.names

def Role.join (r : Role) (roles : List String) : Role :=
  { r with memberships := r.memberships ++ roles.filter fun n => !r.memberships.contains n }

def Role.leave (r : Role) (roles : List String) : Role :=
  { r with memberships := r.memberships.filter fun n => !roles.contains n }

/-- Makes a grantee a member of roles; one that is no role of the catalog is passed over. -/
def GrantRole.grantTo (s : GrantRole) (b : Builder) (grantee : String) :
    Except CatalogError Builder := do
  b.requireRole grantee ("GRANT " ++ ", ".intercalate s.roles)
  match b.role? grantee with
  | some r => b.replaceRole (r.join s.roles)
  | none => pure b

def GrantRole.apply (s : GrantRole) (b : Builder) : Outcome :=
  match s.roles.forM fun role => b.requireRole role ("GRANT " ++ ", ".intercalate s.roles) with
  | .error e => { builder := b, failure := some e }
  | .ok () => Outcome.each (fun b grantee => .whole b (s.grantTo b grantee)) b s.grantees

/-- Ends the memberships of a grantee, and counts them. -/
def RevokeRole.revokeFrom (s : RevokeRole) (state : Builder × Nat) (grantee : String) :
    Except CatalogError (Builder × Nat) :=
  match state.1.role? grantee with
  | some r => do
    let left := r.leave s.roles
    let b ← state.1.replaceRole left
    pure (b, state.2 + (r.memberships.length - left.memberships.length))
  | none => pure state

/-- Revokes roles; some membership must end. Whether one did is known when all grantees are done. -/
def RevokeRole.apply (s : RevokeRole) (b : Builder) : Outcome :=
  match s.grantees.foldlM s.revokeFrom (b, 0) with
  | .error e => { builder := b, failure := some e }
  | .ok (b', removed) =>
    if removed == 0 then
      { builder := b'
        failure := some (.revokeMismatch
          (", ".intercalate s.roles ++ " FROM " ++ ", ".intercalate s.grantees)) }
    else { builder := b' }

/-! ## 2. Grants of privileges -/

/-- The objects of a grant, which must exist, with tables named by their keys. -/
def resolveObjects (b : Builder) (objects : GrantObjects) (referencedBy : String) :
    Except CatalogError GrantObjects :=
  match objects.kind with
  | .tables => do
    let tables ← objects.names.mapM fun n => b.requireTable n referencedBy
    pure { objects with names := tables.map (·.key) }
  | .schemas | .allTablesInSchema | .allFunctionsInSchema => do
    objects.names.forM fun n =>
      if n.name == defaultSchema || (b.schema? n.name).isSome then .ok ()
      else .error (.unresolved "schema" n.name referencedBy)
    pure objects
  | .functions => do
    objects.names.forM fun n =>
      if (b.function? n.name).isSome then .ok ()
      else .error (.unresolved "function" n.qualified referencedBy)
    pure objects
  | .sequences | .other => pure objects

def requirePrivilegeColumns (b : Builder) (privileges : List Privilege) (key : TableKey) :
    Except CatalogError Unit := do
  let e ← b.requireEntry key
  privileges.forM fun p => requireColumns e.metadata.columns e.table.qualifiedName p.columns

def GrantPrivileges.grant (s : GrantPrivileges) : Grant :=
  { privileges := s.privileges
    objects := s.objects
    grantees := s.grantees
    allPrivileges := s.allPrivileges
    withGrantOption := s.withGrantOption
    grantedBy := s.grantedBy }

def GrantPrivileges.apply (s : GrantPrivileges) (b : Builder) : Except CatalogError Builder := do
  let referencedBy := "GRANT " ++ s.grant.describe
  s.grantees.forM fun grantee => b.requireRole grantee referencedBy
  if let some grantor := s.grantedBy then b.requireRole grantor referencedBy
  let objects ← resolveObjects b s.objects referencedBy
  if objects.kind == .tables then
    objects.names.forM (requirePrivilegeColumns b s.privileges)
  pure (b.addGrant { s.grant with objects })

/-- The objects of a revocation, with the tables that exist named by their keys. -/
def RevokePrivileges.resolvedObjects (s : RevokePrivileges) (b : Builder) : GrantObjects :=
  if s.objects.kind == .tables then
    { s.objects with
      names := s.objects.names.map fun n =>
        match b.resolve? n with
        | some t => t.key
        | none => n }
  else s.objects

/-- A revocation about the given objects matches a grant. -/
def RevokePrivileges.isAbout (s : RevokePrivileges) (objects : GrantObjects) (g : Grant) : Bool :=
  g.objects == objects && s.grantees.any g.grantees.contains
    && (g.allPrivileges || s.allPrivileges
      || s.privileges.any fun p => g.privileges.any fun q => q.kind == p.kind)

def RevokePrivileges.describe (s : RevokePrivileges) (objects : GrantObjects) : String :=
  (if s.allPrivileges then "ALL" else describePrivileges s.privileges)
    ++ " ON " ++ objects.describe ++ " FROM " ++ ", ".intercalate s.grantees

/-- Revokes privileges: the grants that match are dropped, or lose their grant option only. -/
def RevokePrivileges.apply (s : RevokePrivileges) (b : Builder) : Except CatalogError Builder :=
  let objects := s.resolvedObjects b
  if b.grants.any (s.isAbout objects) then
    .ok (b.replaceGrants (s.isAbout objects) fun g =>
      if s.grantOptionFor then some { g with withGrantOption := false } else none)
  else .error (.revokeMismatch (s.describe objects))

end SchemaCatalog
