import AgqlAuth.Scope.RoleCatalogue

/-!
# Role expansion

What an accepted catalogue guarantees, and the expansion of roles over it as a
union of scope sets.
-/

namespace AgqlAuth

open Json (OrderedMap OrderedSet)

theorem OrderedSet.contains_iff {κ : Type} [LinearOrder κ] {seen : OrderedSet κ} {key : κ} :
    seen.contains key = true ↔ key ∈ seen.keys :=
  decide_eq_true_iff

/-- The values of an accepted list pass the check, differ and are all collected. -/
structure DistinctValues (check : String → Except RoleScopeCatalogueError Unit)
    (values : List String) (seen collected : OrderedSet String) : Prop where
  checked : ∀ value ∈ values, check value = .ok ()
  distinct : values.Nodup
  fresh : ∀ value ∈ values, value ∉ seen.keys
  collects : ∀ key, key ∈ collected.keys ↔ key ∈ seen.keys ∨ key ∈ values

theorem distinctValues_of_validateDistinct {check : String → Except RoleScopeCatalogueError Unit}
    {duplicate : String} {collected : OrderedSet String} (values : List String) :
    ∀ seen, validateDistinct check duplicate values seen = .ok collected →
      DistinctValues check values seen collected := by
  induction values with
  | nil =>
      intro seen accepted
      cases accepted
      exact ⟨by simp, List.nodup_nil, by simp, by simp⟩
  | cons value rest ih =>
      intro seen accepted
      obtain ⟨⟨⟩, passed, accepted⟩ := Except.exists_of_bind_eq_ok accepted
      obtain ⟨unseen, accepted⟩ := Except.ite_error_eq_ok_iff.mp accepted
      rw [OrderedSet.contains_iff] at unseen
      have others := ih _ accepted
      have fresh_later : ∀ other ∈ rest, other ≠ value ∧ other ∉ seen.keys := by
        intro other mem
        have absent := others.fresh other mem
        rw [OrderedMap.mem_keys_insert, not_or] at absent
        exact absent
      refine ⟨?_, ?_, ?_, ?_⟩
      · exact List.forall_mem_cons.mpr ⟨passed, others.checked⟩
      · exact List.nodup_cons.mpr ⟨fun mem => (fresh_later value mem).1 rfl, others.distinct⟩
      · exact List.forall_mem_cons.mpr ⟨unseen, fun other mem => (fresh_later other mem).2⟩
      · intro key
        rw [others.collects, OrderedMap.mem_keys_insert, List.mem_cons, or_assoc, or_left_comm]

/-- Role identifiers differ, and every role refers to registered scopes only. -/
structure ValidRoles (registeredScopes : OrderedSet String) (roles : List RoleScopeGrant)
    (seen : OrderedSet String) : Prop where
  distinct : (roles.map (·.id)).Nodup
  fresh : ∀ role ∈ roles, role.id ∉ seen.keys
  registered : ∀ role ∈ roles, ∀ scope ∈ role.scopes, scope ∈ registeredScopes.keys

theorem registered_of_validateReference {registeredScopes : OrderedSet String} {scope : String}
    (accepted : validateReference registeredScopes scope = .ok ()) :
    scope ∈ registeredScopes.keys := by
  obtain ⟨⟨⟩, -, accepted⟩ := Except.exists_of_bind_eq_ok accepted
  split at accepted
  · rename_i present
    exact OrderedSet.contains_iff.mp present
  · cases accepted

theorem validRoles_of_validateRoles {registeredScopes : OrderedSet String}
    (roles : List RoleScopeGrant) : ∀ seen, validateRoles registeredScopes roles seen = .ok () →
      ValidRoles registeredScopes roles seen := by
  induction roles with
  | nil =>
      intro seen _
      exact ⟨List.nodup_nil, by simp, by simp⟩
  | cons role rest ih =>
      intro seen accepted
      obtain ⟨⟨⟩, -, accepted⟩ := Except.exists_of_bind_eq_ok accepted
      obtain ⟨⟨⟩, -, accepted⟩ := Except.exists_of_bind_eq_ok accepted
      obtain ⟨unseen, accepted⟩ := Except.ite_error_eq_ok_iff.mp accepted
      obtain ⟨-, accepted⟩ := Except.ite_error_eq_ok_iff.mp accepted
      rw [OrderedSet.contains_iff] at unseen
      obtain ⟨references, collected, accepted⟩ := Except.exists_of_bind_eq_ok accepted
      have referenced := distinctValues_of_validateDistinct role.scopes _ collected
      have others := ih _ accepted
      have fresh_later : ∀ other ∈ rest, other.id ≠ role.id ∧ other.id ∉ seen.keys := by
        intro other mem
        have absent := others.fresh other mem
        rw [OrderedMap.mem_keys_insert, not_or] at absent
        exact absent
      refine ⟨?_, ?_, ?_⟩
      · refine List.nodup_cons.mpr ⟨?_, others.distinct⟩
        intro mem
        obtain ⟨other, mem, same⟩ := List.mem_map.mp mem
        exact (fresh_later other mem).1 same
      · exact List.forall_mem_cons.mpr ⟨unseen, fun other mem => (fresh_later other mem).2⟩
      · refine List.forall_mem_cons.mpr ⟨?_, others.registered⟩
        intro scope mem
        exact registered_of_validateReference (referenced.checked scope mem)

namespace RoleScopeCatalogue

/-- What the expansion relies on: no identifier is repeated and no reference dangles. -/
structure Valid (catalogue : RoleScopeCatalogue) : Prop where
  scopes_distinct : catalogue.registered.Nodup
  roles_distinct : catalogue.roleIds.Nodup
  closed : ∀ role ∈ catalogue.roles, ∀ scope ∈ role.scopes, scope ∈ catalogue.registered

theorem valid_of_validate {self : RoleScopeCatalogue} (accepted : self.validate = .ok ()) :
    self.Valid := by
  obtain ⟨⟨⟩, -, accepted⟩ := Except.exists_of_bind_eq_ok accepted
  obtain ⟨-, accepted⟩ := Except.ite_error_eq_ok_iff.mp accepted
  obtain ⟨-, accepted⟩ := Except.ite_error_eq_ok_iff.mp accepted
  obtain ⟨-, accepted⟩ := Except.ite_error_eq_ok_iff.mp accepted
  obtain ⟨registeredScopes, collected, accepted⟩ := Except.exists_of_bind_eq_ok accepted
  obtain ⟨⟨⟩, roles, -⟩ := Except.exists_of_bind_eq_ok accepted
  have scopes := distinctValues_of_validateDistinct self.registered _ collected
  have valid := validRoles_of_validateRoles self.roles _ roles
  refine ⟨scopes.distinct, valid.distinct, ?_⟩
  intro role mem scope granted
  rcases (scopes.collects scope).mp (valid.registered role mem scope granted) with earlier | listed
  · cases earlier
  · exact listed

end RoleScopeCatalogue

namespace StaticRoleScopeExpansion

theorem scopesOfRole_eq_ok {self : StaticRoleScopeExpansion} {role : String}
    {scopes : List String} :
    self.scopesOfRole role = .ok scopes ↔ self.roleScopes.find? role = some scopes := by
  unfold scopesOfRole
  cases self.roleScopes.find? role <;> simp

theorem scopesOfRole_eq_error {self : StaticRoleScopeExpansion} {role : String}
    {e : RoleScopeExpansionError} :
    self.scopesOfRole role = .error e ↔
      self.roleScopes.find? role = none ∧ e = .unknownRole role := by
  unfold scopesOfRole
  cases self.roleScopes.find? role <;> simp [eq_comm]

/-- The expansion of two lists of roles one after the other, as the loop runs over them. -/
theorem expandRoles_append (self : StaticRoleScopeExpansion) (first second : List String) :
    self.expandRoles (first ++ second) = (do
      let before ← self.expandRoles first
      let after ← self.expandRoles second
      .ok { catalogueVersion := self.version, scopes := effectiveScopes before.scopes after }) := by
  unfold expandRoles
  rw [List.mapM_append]
  cases left : first.mapM self.scopesOfRole with
  | error e => rfl
  | ok before =>
      cases right : second.mapM self.scopesOfRole with
      | error e => rfl
      | ok after =>
          have union : (OrderedSet.collect (before ++ after).flatten).keys =
              (OrderedSet.collect ((OrderedSet.collect before.flatten).keys ++
                (OrderedSet.collect after.flatten).keys)).keys := by
            rw [OrderedMap.keys_eq_iff]
            intro scope
            rw [OrderedSet.mem_keys_collect, OrderedSet.mem_keys_collect, List.flatten_append,
              List.mem_append, List.mem_append, OrderedSet.mem_keys_collect,
              OrderedSet.mem_keys_collect]
          simp only [bind, Except.bind, pure, Except.pure, effectiveScopes, union]

section Catalogue

variable {catalogue : RoleScopeCatalogue} {self : StaticRoleScopeExpansion}
variable (accepted : catalogue.validate = .ok ()) (built : new catalogue = .ok self)
include accepted built

theorem new_eq : self = {
    version := catalogue.version
    roleScopes := .collect (catalogue.roles.map fun role => (role.id, role.scopes)) } := by
  rw [new, accepted] at built
  cases built
  rfl

/-- Building the map loses no role: a role is looked up exactly as the catalogue has it. -/
theorem scopesOfRole_iff {role : String} {scopes : List String} :
    self.scopesOfRole role = .ok scopes ↔
      ∃ grant ∈ catalogue.roles, grant.id = role ∧ grant.scopes = scopes := by
  have distinct : ((catalogue.roles.map fun grant => (grant.id, grant.scopes)).map
      Prod.fst).Nodup := by
    rw [List.map_map]
    exact (RoleScopeCatalogue.valid_of_validate accepted).roles_distinct
  rw [scopesOfRole_eq_ok, new_eq accepted built, OrderedMap.find?_collect distinct, List.mem_map]
  simp only [Prod.mk.injEq]

theorem scopesOfRole_known {role : String} :
    (∃ scopes, self.scopesOfRole role = .ok scopes) ↔ role ∈ catalogue.roleIds := by
  simp only [scopesOfRole_iff accepted built, RoleScopeCatalogue.roleIds, List.mem_map]
  exact ⟨fun ⟨_, grant, mem, same, _⟩ => ⟨grant, mem, same⟩,
    fun ⟨grant, mem, same⟩ => ⟨_, grant, mem, same, rfl⟩⟩

/-- Expansion fails exactly at the first role that the catalogue does not have. -/
theorem expandRoles_eq_error_iff {roles : List String} {e : RoleScopeExpansionError} :
    self.expandRoles roles = .error e ↔
      ∃ before role after, roles = before ++ role :: after ∧
        (∀ known ∈ before, known ∈ catalogue.roleIds) ∧ role ∉ catalogue.roleIds ∧
        e = .unknownRole role := by
  have failed_iff : self.expandRoles roles = .error e ↔
      roles.mapM self.scopesOfRole = .error e := by
    unfold expandRoles
    cases roles.mapM self.scopesOfRole with
    | error e' => simp only [bind, Except.bind, Except.error.injEq]
    | ok scopes => exact iff_of_false (fun h => nomatch h) (fun h => nomatch h)
  have unknown_iff : ∀ role, self.scopesOfRole role = .error e ↔
      role ∉ catalogue.roleIds ∧ e = .unknownRole role := by
    intro role
    rw [scopesOfRole_eq_error, ← scopesOfRole_known accepted built]
    simp only [scopesOfRole_eq_ok, ← Option.isSome_iff_exists, Bool.not_eq_true,
      Option.isSome_eq_false_iff, Option.isNone_iff_eq_none]
  simp only [failed_iff, Except.mapM_eq_error_iff, unknown_iff, scopesOfRole_known accepted built]

/-- A successful expansion is the ordered union of what the listed roles grant. -/
structure ExpandsTo (catalogue : RoleScopeCatalogue) (roles : List String)
    (expansion : RoleScopeExpansion) : Prop where
  version : expansion.catalogueVersion = catalogue.version
  ascending : expansion.scopes.Pairwise (· < ·)
  union : ∀ scope, scope ∈ expansion.scopes ↔
    ∃ grant ∈ catalogue.roles, grant.id ∈ roles ∧ scope ∈ grant.scopes

theorem expandsTo_of_expandRoles {roles : List String} {expansion : RoleScopeExpansion}
    (expanded : self.expandRoles roles = .ok expansion) :
    ExpandsTo catalogue roles expansion := by
  obtain ⟨granted, mapped, result⟩ := Except.exists_of_bind_eq_ok expanded
  cases result
  refine ⟨?_, (OrderedSet.collect granted.flatten).ascending, ?_⟩
  · rw [new_eq accepted built]
  · intro scope
    rw [OrderedSet.mem_keys_collect, List.mem_flatten]
    simp only [Except.mem_of_mapM_eq_ok roles granted mapped, scopesOfRole_iff accepted built]
    constructor
    · rintro ⟨_, ⟨role, asked, grant, known, rfl, rfl⟩, mem⟩
      exact ⟨grant, known, asked, mem⟩
    · rintro ⟨grant, known, asked, mem⟩
      exact ⟨grant.scopes, ⟨grant.id, asked, grant, known, rfl, rfl⟩, mem⟩

theorem exists_expandRoles {roles : List String}
    (known : ∀ role ∈ roles, role ∈ catalogue.roleIds) :
    ∃ expansion, self.expandRoles roles = .ok expansion := by
  cases expanded : self.expandRoles roles with
  | ok expansion => exact ⟨expansion, rfl⟩
  | error e =>
      obtain ⟨before, role, after, rfl, -, unknown, -⟩ :=
        (expandRoles_eq_error_iff accepted built).mp expanded
      exact absurd (known role (by simp)) unknown

/-- Two lists of the same roles, in any order and with any repetitions, expand alike. -/
theorem expandRoles_congr {roles roles' : List String} (same : ∀ role, role ∈ roles ↔ role ∈ roles')
    {expansion : RoleScopeExpansion} (expanded : self.expandRoles roles = .ok expansion) :
    self.expandRoles roles' = .ok expansion := by
  obtain ⟨granted, mapped, -⟩ := Except.exists_of_bind_eq_ok expanded
  have known : ∀ role ∈ roles', role ∈ catalogue.roleIds := by
    intro role asked
    rw [← scopesOfRole_known accepted built]
    exact Except.forall_of_mapM_eq_ok roles granted mapped role ((same role).mpr asked)
  obtain ⟨expansion', expanded'⟩ := exists_expandRoles accepted built known
  have first := expandsTo_of_expandRoles accepted built expanded
  have second := expandsTo_of_expandRoles accepted built expanded'
  have scopes : expansion.scopes = expansion'.scopes := by
    apply List.Perm.eq_of_pairwise' first.ascending second.ascending
    refine (List.perm_ext_iff_of_nodup (first.ascending.imp ne_of_lt)
      (second.ascending.imp ne_of_lt)).mpr fun scope => ?_
    simp only [first.union, second.union, same]
  have version : expansion.catalogueVersion = expansion'.catalogueVersion :=
    first.version.trans second.version.symm
  rw [expanded']
  exact congrArg Except.ok (RoleScopeExpansion.ext version scopes).symm

end Catalogue

end StaticRoleScopeExpansion

theorem mem_effectiveScopes {scope : String} {directScopes : List String}
    {expansion : RoleScopeExpansion} :
    scope ∈ effectiveScopes directScopes expansion ↔
      scope ∈ directScopes ∨ scope ∈ expansion.scopes := by
  rw [effectiveScopes, OrderedSet.mem_keys_collect, List.mem_append]

theorem effectiveScopes_comm (first second : RoleScopeExpansion) :
    effectiveScopes first.scopes second = effectiveScopes second.scopes first := by
  unfold effectiveScopes
  rw [OrderedMap.keys_eq_iff]
  intro scope
  rw [OrderedSet.mem_keys_collect, OrderedSet.mem_keys_collect, List.mem_append, List.mem_append,
    or_comm]

theorem effectiveScopes_mono {directScopes moreScopes : List String}
    {expansion wider : RoleScopeExpansion} (direct : directScopes ⊆ moreScopes)
    (expanded : expansion.scopes ⊆ wider.scopes) :
    effectiveScopes directScopes expansion ⊆ effectiveScopes moreScopes wider := by
  intro scope mem
  rw [mem_effectiveScopes] at mem ⊢
  exact mem.imp (fun held => direct held) (fun held => expanded held)

namespace StaticRoleScopeExpansion

/--
Over an accepted catalogue, roles expand unless one of them is unknown, and the
error names the first; the expansion is the strictly ordered union of the scopes
that the catalogue gives the listed roles, all of them registered.  Order and
repetitions of the roles do not matter, a concatenation expands to the effective
scopes of either part over the other, and effective scopes grow with both arguments.
-/
theorem expandRoles_spec {catalogue : RoleScopeCatalogue} (accepted : catalogue.validate = .ok ()) :
    ∃ self, new catalogue = .ok self ∧
      (∀ roles e, self.expandRoles roles = .error e ↔
        ∃ before role after, roles = before ++ role :: after ∧
          (∀ known ∈ before, known ∈ catalogue.roleIds) ∧ role ∉ catalogue.roleIds ∧
          e = .unknownRole role) ∧
      (∀ roles expansion, self.expandRoles roles = .ok expansion →
        expansion.catalogueVersion = catalogue.version ∧
        expansion.scopes.Pairwise (· < ·) ∧
        (∀ scope, scope ∈ expansion.scopes ↔
          ∃ grant ∈ catalogue.roles, grant.id ∈ roles ∧ scope ∈ grant.scopes) ∧
        ∀ scope ∈ expansion.scopes, scope ∈ catalogue.registered) ∧
      (∀ roles roles' expansion, (∀ role, role ∈ roles ↔ role ∈ roles') →
        (self.expandRoles roles = .ok expansion ↔ self.expandRoles roles' = .ok expansion)) ∧
      (∀ first second, self.expandRoles (first ++ second) = (do
        let left ← self.expandRoles first
        let right ← self.expandRoles second
        .ok ⟨catalogue.version, effectiveScopes left.scopes right⟩)) ∧
      (∀ left right, effectiveScopes left.scopes right = effectiveScopes right.scopes left) ∧
      ∀ directScopes moreScopes expansion wider, directScopes ⊆ moreScopes →
        expansion.scopes ⊆ wider.scopes →
        effectiveScopes directScopes expansion ⊆ effectiveScopes moreScopes wider := by
  have built : new catalogue = .ok {
      version := catalogue.version
      roleScopes := .collect (catalogue.roles.map fun role => (role.id, role.scopes)) } := by
    rw [new, accepted]
  refine ⟨_, built, ?_, ?_, ?_, ?_, effectiveScopes_comm, ?_⟩
  · intro roles e
    exact expandRoles_eq_error_iff accepted built
  · intro roles expansion expanded
    have expands := expandsTo_of_expandRoles accepted built expanded
    refine ⟨expands.version, expands.ascending, expands.union, ?_⟩
    intro scope mem
    obtain ⟨grant, known, -, granted⟩ := (expands.union scope).mp mem
    exact (RoleScopeCatalogue.valid_of_validate accepted).closed grant known scope granted
  · intro roles roles' expansion same
    exact ⟨expandRoles_congr accepted built same,
      expandRoles_congr accepted built fun role => (same role).symm⟩
  · exact expandRoles_append _
  · intro directScopes moreScopes expansion wider direct expanded
    exact effectiveScopes_mono direct expanded

/-- A catalogue with two roles that share a scope. -/
def sampleCatalogue : RoleScopeCatalogue where
  version := "revision-7"
  scopes := [⟨"inventory.read", false⟩, ⟨"inventory.write", true⟩, ⟨"billing.read", false⟩]
  roles := [⟨"support", "Support", ["inventory.read", "billing.read"]⟩,
    ⟨"operator", "Operator", ["inventory.write", "inventory.read"]⟩]

theorem expandRoles_spec_sample : ∃ self, new sampleCatalogue = .ok self ∧
    self.expandRoles ["operator", "guest", "auditor"] = .error (.unknownRole "guest") := by
  have accepted : sampleCatalogue.validate = .ok () := by decide +kernel
  obtain ⟨self, built, fails, -⟩ := expandRoles_spec accepted
  exact ⟨self, built, (fails _ _).mpr
    ⟨["operator"], "guest", ["auditor"], rfl, by decide, by decide, rfl⟩⟩

end StaticRoleScopeExpansion

end AgqlAuth
