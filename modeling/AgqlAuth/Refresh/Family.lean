import AgqlAuth.Refresh.MemoryStore
import Mathlib.Data.List.Chain

/-!
# Session families

What one operation can do to one family: change its records in place, open it,
or extend it by one record that replaces its live one.  From this every family
is a chain in commit order whose newest record alone may be live, and a family
without a live record never gets one again.
-/

namespace AgqlAuth

open Interaction

variable {ι : Type} [DecidableEq ι]

section Change

variable {liveReads : Bool} {calls : RefreshPool ι} {t : RefreshTrace ι} {w w' : RefreshWorld}
variable {i : ι} {e : AuthEvent} {fam : Uuid}

/-- The family keeps its records, each at most changed in place. -/
structure Steady (w w' : RefreshWorld) (fam : Uuid) : Prop where
  forward : ∀ {id record}, w.records id = some record → record.sessionFamilyId = fam →
    ∃ record', w'.records id = some record' ∧ Restamped record record'
  backward : ∀ {id record'}, w'.records id = some record' → record'.sessionFamilyId = fam →
    ∃ record, w.records id = some record ∧ Restamped record record'

/-- A new record replaces the live record `current` of the family. -/
structure Extension (svc : AuthService) (call : RefreshCall) (h : AuthHistory) (w : RefreshWorld)
    (fam : Uuid) (current record : StoredRefreshToken) (now : OffsetDateTime) : Prop where
  stored : w.records current.id = some current
  live : current.revokedAt = none
  unused : w.records record.id = none
  current_family : current.sessionFamilyId = fam
  family : record.sessionFamilyId = fam
  planned : ∃ refreshToken assuranceOverride source newest user grant,
    call.Presents h refreshToken assuranceOverride ∧
      RotationPlan svc refreshToken assuranceOverride h current.id record now source newest user
        grant

/-- Everything an operation can do to one family. -/
inductive FamilyChange (svc : AuthService) (call : RefreshCall) (h : AuthHistory)
    (w : RefreshWorld) (fam : Uuid) : AuthEvent → RefreshWorld → Prop where
  | steady {e : AuthEvent} {w' : RefreshWorld} (steady : Steady w w' fam) :
      FamilyChange svc call h w fam e w'
  | opened {record : StoredRefreshToken} {resp : AuthOp.Resp (.insertRefreshToken record)}
      (plan : SessionPlan call h record) (unused : w.records record.id = none)
      (family : record.sessionFamilyId = fam)
      (first : ∀ id other, w.records id = some other → other.sessionFamilyId ≠ fam) :
      FamilyChange svc call h w fam ⟨.insertRefreshToken record, resp⟩ (w.put record)
  | extended {current record : StoredRefreshToken} {now : OffsetDateTime}
      {ipAddress userAgent : Option String}
      (extension : Extension svc call h w fam current record now) :
      FamilyChange svc call h w fam
        ⟨.rotateRefreshToken current.id record now ipAddress userAgent,
          (.ok true : AuthResult Bool)⟩
        (w.rotate current record now ipAddress userAgent)

theorem Steady.of_eq (same : ∀ id record, record.sessionFamilyId = fam →
    (w.records id = some record ↔ w'.records id = some record)) : Steady w w' fam where
  forward := fun stored family => ⟨_, (same _ _ family).mp stored, .refl _⟩
  backward := fun stored family => ⟨_, (same _ _ family).mpr stored, .refl _⟩

theorem Steady.of_pointwise {change : StoredRefreshToken → StoredRefreshToken → Prop}
    (pointwise : w.Pointwise change w')
    (restamps : ∀ {record record'}, change record record' → Restamped record record') :
    Steady w w' fam := by
  constructor
  · intro id record stored _
    rcases pointwise.2 id with ⟨absent, -⟩ | ⟨_, record', before, after, changed⟩
    · cases absent.symm.trans stored
    · cases before.symm.trans stored
      exact ⟨record', after, restamps changed⟩
  · intro id record' stored _
    rcases pointwise.2 id with ⟨-, absent⟩ | ⟨record, _, before, after, changed⟩
    · cases absent.symm.trans stored
    · cases after.symm.trans stored
      exact ⟨record, before, restamps changed⟩

/-- The replaced record belongs to the family of the presented one. -/
theorem RotationPlan.current_family {svc : AuthService} {refreshToken : String}
    {assuranceOverride : Option SessionAssurance} {currentTokenId : Uuid}
    {record source current : StoredRefreshToken} {now : OffsetDateTime}
    {newest : Option StoredRefreshToken} {user : StoredUser} {grant : CurrentRefreshGrant}
    (sound : Sound t w)
    (plan : RotationPlan svc refreshToken assuranceOverride (t.of i) currentTokenId record now
      source newest user grant)
    (stored : w.records currentTokenId = some current) :
    current.sessionFamilyId = record.sessionFamilyId := by
  rw [plan.replacement.family]
  cases plan.target with
  | ordinary unrevoked unexpired =>
      obtain ⟨_, stored', later⟩ := sound.shown (observed_of_foundByHash plan.found)
      cases stored.symm.trans stored'
      exact later.field (·.sessionFamilyId)
  | @reuse newest within snapshot replaceable =>
      obtain ⟨_, stored', later⟩ :=
        sound.shown (observed_of_readLive snapshot (List.mem_singleton_self newest))
      cases stored.symm.trans stored'
      have same : newest.sessionFamilyId = source.sessionFamilyId := by
        simp only [canReplaceNewest, Bool.and_eq_true, beq_iff_eq] at replaceable
        exact replaceable.1.1.1.2
      exact (later.field (·.sessionFamilyId)).trans same

theorem familyChange (reached : RefreshReachable liveReads calls ⟨t, w⟩) (sound : Sound t w)
    (change : PoolChange liveReads calls t w i e w') (fam : Uuid) :
    FamilyChange (calls i).1 (calls i).2 (t.of i) w fam e w' := by
  cases change with
  | unchanged same =>
      refine .steady (.of_eq fun id record _ => ?_)
      rw [same]
  | @inserted record resp plan _ =>
      have unused := sound.fresh_id reached plan.drawn plan.unwritten
      by_cases family : record.sessionFamilyId = fam
      · refine .opened plan unused family fun id other stored => ?_
        rw [← family]
        exact sound.fresh_family reached plan.family_drawn plan.unwritten stored
      · refine .steady (.of_eq fun id other other_family => ?_)
        by_cases same : id = record.id
        · subst same
          rw [unused, RefreshWorld.put_self]
          refine iff_of_false nofun fun eq => ?_
          cases eq
          exact family other_family
        · rw [RefreshWorld.put_of_ne _ same]
  | @rotated currentTokenId record current now ipAddress userAgent _ _ _ _ _ _ presents plan
      stored live _ =>
      have unused := sound.fresh_id reached plan.drawn plan.unwritten
      have same_family := plan.current_family sound stored
      obtain rfl : current.id = currentTokenId := sound.keyed stored
      have ne : current.id ≠ record.id := by
        intro same
        rw [same] at stored
        cases unused.symm.trans stored
      by_cases family : record.sessionFamilyId = fam
      · exact .extended {
          stored, live, unused, family
          current_family := same_family.trans family
          planned := ⟨_, _, _, _, _, _, presents, plan⟩ }
      · refine .steady (.of_eq fun id other other_family => ?_)
        by_cases same : id = record.id
        · subst same
          rw [unused, rotate_replacement]
          refine iff_of_false nofun fun eq => ?_
          cases eq
          exact family other_family
        · by_cases same_current : id = current.id
          · subst same_current
            rw [stored, rotate_current ne]
            constructor
            · intro eq
              cases eq
              exact absurd (same_family.symm.trans other_family) family
            · intro eq
              cases eq
              exact absurd (same_family.symm.trans other_family) family
          · rw [rotate_other same same_current]
  | restamped pointwise killed => exact .steady (.of_pointwise pointwise fun changed => changed.1)

/-- While a family has a live record, no operation moves the stamps of its revoked ones. -/
theorem stamps_kept (reached : RefreshReachable liveReads calls ⟨t, w⟩) (sound : Sound t w)
    (change : PoolChange liveReads calls t w i e w') (withLiveReads : liveReads = true)
    {id : Uuid} {record record' : StoredRefreshToken} (before : w.records id = some record)
    (after : w'.records id = some record') (revoked : record.revokedAt ≠ none)
    (spared : revokesFamily e.op ≠ some record.sessionFamilyId ∨
      ∃ live, w'.LiveIn record.sessionFamilyId live) :
    SameStamps record record' := by
  cases change with
  | unchanged same =>
      rw [same, before] at after
      cases after
      exact ⟨rfl, rfl⟩
  | @inserted placed resp plan _ =>
      have unused := sound.fresh_id reached plan.drawn plan.unwritten
      have ne : id ≠ placed.id := by
        rintro rfl
        cases unused.symm.trans before
      rw [RefreshWorld.put_of_ne _ ne, before] at after
      cases after
      exact ⟨rfl, rfl⟩
  | @rotated currentTokenId placed current now ipAddress userAgent _ _ _ _ _ _ presents plan
      stored live _ =>
      have unused := sound.fresh_id reached plan.drawn plan.unwritten
      obtain rfl : current.id = currentTokenId := sound.keyed stored
      have ne : id ≠ placed.id := by
        rintro rfl
        cases unused.symm.trans before
      have ne_current : id ≠ current.id := by
        rintro rfl
        cases stored.symm.trans before
        exact revoked live
      rw [rotate_other ne ne_current, before] at after
      cases after
      exact ⟨rfl, rfl⟩
  | restamped pointwise killed =>
      rcases pointwise.2 id with ⟨absent, -⟩ | ⟨_, _, before', after', -, kept⟩
      · cases absent.symm.trans before
      · cases before'.symm.trans before
        cases after'.symm.trans after
        refine kept withLiveReads revoked ?_
        rcases spared with other | ⟨live, ⟨stored, family⟩, unrevoked⟩
        · exact other
        · intro same
          exact killed live.id live stored (family ▸ same) unrevoked

end Change

/-- `newer` took the place of `older`, whose link is intact or was cleared. -/
def Link (kept : StoredRefreshToken → StoredRefreshToken → Prop) (w : RefreshWorld)
    (newer older : Uuid) : Prop :=
  ∃ record replaced, w.records newer = some record ∧ w.records older = some replaced ∧
    replaced.revokedAt ≠ none ∧
    (replaced.replacedByTokenId = none ∨ replaced.replacedByTokenId = some newer) ∧
    kept record.core replaced.core

/-- `ids` lists the family in commit order, newest first. -/
structure Chain (kept : StoredRefreshToken → StoredRefreshToken → Prop) (w : RefreshWorld)
    (fam : Uuid) (ids : List Uuid) : Prop where
  nodup : ids.Nodup
  members : ∀ id, id ∈ ids ↔ ∃ record, w.records id = some record ∧ record.sessionFamilyId = fam
  links : ids.IsChain (Link kept w)
  newest : ∀ id ∈ ids.head?, ∀ record, w.records id = some record →
    record.replacedByTokenId = none

namespace Chain

variable {kept : StoredRefreshToken → StoredRefreshToken → Prop} {w w' : RefreshWorld} {fam : Uuid}
variable {ids : List Uuid}

theorem tail_revoked {id : Uuid} (chain : Chain kept w fam (id :: ids)) :
    ∀ older ∈ ids, ∃ record, w.records older = some record ∧ record.revokedAt ≠ none := by
  have links := chain.links
  clear chain
  induction ids generalizing id with
  | nil => simp
  | cons next ids ih =>
      obtain ⟨link, links⟩ := List.isChain_cons_cons.mp links
      intro older mem
      rcases List.mem_cons.mp mem with rfl | mem
      · obtain ⟨_, replaced, -, stored, revoked, -⟩ := link
        exact ⟨replaced, stored, revoked⟩
      · exact ih links older mem

/-- Only the newest record of a chain can be live. -/
theorem live_is_newest (chain : Chain kept w fam ids) {record : StoredRefreshToken}
    (live : w.LiveIn fam record) : ids.head? = some record.id := by
  obtain ⟨⟨stored, family⟩, unrevoked⟩ := live
  have mem := (chain.members record.id).mpr ⟨record, stored, family⟩
  cases ids with
  | nil => cases mem
  | cons id ids =>
      rcases List.mem_cons.mp mem with same | older
      · rw [same]
        rfl
      · obtain ⟨_, stored', revoked⟩ := chain.tail_revoked record.id older
        cases stored.symm.trans stored'
        exact absurd unrevoked revoked

theorem steady (chain : Chain kept w fam ids) (steady : Steady w w' fam) :
    Chain kept w' fam ids := by
  constructor
  · exact chain.nodup
  · intro id
    rw [chain.members]
    constructor
    · rintro ⟨record, stored, family⟩
      obtain ⟨record', stored', restamped⟩ := steady.forward stored family
      exact ⟨record', stored', (restamped.later.field (·.sessionFamilyId)).trans family⟩
    · rintro ⟨record', stored', family⟩
      obtain ⟨record, stored, restamped⟩ := steady.backward stored' family
      exact ⟨record, stored, (restamped.later.field (·.sessionFamilyId)).symm.trans family⟩
  · refine chain.links.imp_of_mem_imp fun newer older newer_mem older_mem link => ?_
    obtain ⟨record, replaced, stored, replaced_stored, revoked, linked, keeps⟩ := link
    obtain ⟨_, stored_, family⟩ := (chain.members newer).mp newer_mem
    cases stored.symm.trans stored_
    obtain ⟨_, replaced_stored_, replaced_family⟩ := (chain.members older).mp older_mem
    cases replaced_stored.symm.trans replaced_stored_
    obtain ⟨record', stored', restamped⟩ := steady.forward stored family
    obtain ⟨replaced', replaced_stored', replaced_restamped⟩ :=
      steady.forward replaced_stored replaced_family
    refine ⟨record', replaced', stored', replaced_stored', replaced_restamped.revoked revoked,
      ?_, ?_⟩
    · rcases replaced_restamped.link with same | cleared
      · rw [same]
        exact linked
      · exact .inl cleared
    · rw [restamped.core, replaced_restamped.core]
      exact keeps
  · intro id head record' stored'
    have mem := List.mem_of_mem_head? head
    obtain ⟨record, stored, family⟩ := (chain.members id).mp mem
    obtain ⟨_, stored'', restamped⟩ := steady.forward stored family
    cases stored''.symm.trans stored'
    rcases restamped.link with same | cleared
    · rw [same]
      exact chain.newest id head record stored
    · exact cleared

theorem opened {record : StoredRefreshToken} (family : record.sessionFamilyId = fam)
    (first : ∀ id other, w.records id = some other → other.sessionFamilyId ≠ fam)
    (unlinked : record.replacedByTokenId = none) : Chain kept (w.put record) fam [record.id] := by
  constructor
  · exact List.nodup_singleton _
  · intro id
    by_cases same : id = record.id
    · subst same
      simp [family]
    · rw [RefreshWorld.put_of_ne _ same]
      refine iff_of_false (by simpa using same) ?_
      rintro ⟨other, stored, other_family⟩
      exact first id other stored other_family
  · exact .singleton _
  · intro id head other stored
    cases head
    cases (RefreshWorld.put_self w record).symm.trans stored
    exact unlinked

/-- A link points to a record of the chain. -/
theorem successor_mem {id : Uuid} (links : (id :: ids).IsChain (Link kept w)) :
    ∀ older ∈ ids, ∀ record successor, w.records older = some record →
      record.replacedByTokenId = some successor → successor ∈ id :: ids := by
  induction ids generalizing id with
  | nil => simp
  | cons next ids ih =>
      obtain ⟨link, links⟩ := List.isChain_cons_cons.mp links
      intro older mem record successor stored linked
      rcases List.mem_cons.mp mem with rfl | mem
      · obtain ⟨_, _, -, stored', -, cleared | linked', -⟩ := link
        · cases stored.symm.trans stored'
          cases linked.symm.trans cleared
        · cases stored.symm.trans stored'
          cases linked.symm.trans linked'
          exact List.mem_cons_self
      · exact List.mem_cons_of_mem _ (ih links older mem record successor stored linked)

theorem successor_injective_aux {id : Uuid} (nodup : (id :: ids).Nodup)
    (links : (id :: ids).IsChain (Link kept w)) :
    ∀ first ∈ ids, ∀ second ∈ ids, ∀ record record' successor, w.records first = some record →
      w.records second = some record' → record.replacedByTokenId = some successor →
        record'.replacedByTokenId = some successor → first = second := by
  induction ids generalizing id with
  | nil => simp
  | cons next ids ih =>
      obtain ⟨link, links⟩ := List.isChain_cons_cons.mp links
      obtain ⟨new, nodup⟩ := List.nodup_cons.mp nodup
      have below : ∀ record, w.records next = some record →
          ∀ successor ∈ next :: ids, record.replacedByTokenId ≠ some successor := by
        rintro record stored successor mem linked
        obtain ⟨_, _, -, stored', -, cleared | linked', -⟩ := link
        · cases stored.symm.trans stored'
          cases linked.symm.trans cleared
        · cases stored.symm.trans stored'
          cases linked.symm.trans linked'
          exact new mem
      intro first first_mem second second_mem record record' successor stored stored' linked linked'
      rcases List.mem_cons.mp first_mem with rfl | first_older
      · rcases List.mem_cons.mp second_mem with rfl | second_older
        · rfl
        · exact absurd linked (below record stored successor
            (successor_mem links second second_older record' successor stored' linked'))
      · rcases List.mem_cons.mp second_mem with rfl | second_older
        · exact absurd linked' (below record' stored' successor
            (successor_mem links first first_older record successor stored linked))
        · exact ih nodup links first first_older second second_older record record' successor
            stored stored' linked linked'

/-- No record is the successor of two records. -/
theorem successor_injective (chain : Chain kept w fam ids) {first second : StoredRefreshToken}
    {successor : Uuid} (first_in : w.InFamily fam first) (second_in : w.InFamily fam second)
    (linked : first.replacedByTokenId = some successor)
    (linked' : second.replacedByTokenId = some successor) : first = second := by
  have first_mem := (chain.members first.id).mpr ⟨first, first_in⟩
  have second_mem := (chain.members second.id).mpr ⟨second, second_in⟩
  cases ids with
  | nil => cases first_mem
  | cons newest ids =>
      have older : ∀ {record : StoredRefreshToken}, w.records record.id = some record →
          record.replacedByTokenId = some successor → record.id ∈ newest :: ids →
            record.id ∈ ids := by
        intro record stored linked mem
        refine (List.mem_cons.mp mem).resolve_left ?_
        rintro rfl
        cases (chain.newest _ rfl record stored).symm.trans linked
      have same := successor_injective_aux chain.nodup chain.links first.id
        (older first_in.1 linked first_mem) second.id (older second_in.1 linked' second_mem)
        first second successor first_in.1 second_in.1 linked linked'
      have stored := first_in.1
      rw [same] at stored
      exact Option.some.inj (stored.symm.trans second_in.1)

section Extended

variable {current record : StoredRefreshToken} {now : OffsetDateTime}
variable {ipAddress userAgent : Option String}

/-- What a rotation leaves of the older part of a chain. -/
theorem rotate_older {svc : AuthService} {call : RefreshCall} {h : AuthHistory}
    (chain : Chain kept w fam ids) (extension : Extension svc call h w fam current record now)
    {older : Uuid} (mem : older ∈ ids.tail) :
    (w.rotate current record now ipAddress userAgent).records older = w.records older := by
  have head := chain.live_is_newest ⟨⟨extension.stored, extension.current_family⟩, extension.live⟩
  obtain ⟨rest, rfl⟩ : ∃ rest, ids = current.id :: rest := by
    cases ids with
    | nil => cases head
    | cons id rest => exact ⟨rest, by rw [Option.some.inj head]⟩
  obtain ⟨_, stored, -⟩ := (chain.members older).mp (List.mem_of_mem_tail mem)
  apply rotate_other
  · rintro rfl
    cases extension.unused.symm.trans stored
  · rintro rfl
    exact (List.nodup_cons.mp chain.nodup).1 mem

theorem extended {svc : AuthService} {call : RefreshCall} {h : AuthHistory}
    (chain : Chain kept w fam ids) (extension : Extension svc call h w fam current record now)
    (unlinked : record.replacedByTokenId = none) (keeps : kept record.core current.core) :
    Chain kept (w.rotate current record now ipAddress userAgent) fam (record.id :: ids) := by
  have head := chain.live_is_newest ⟨⟨extension.stored, extension.current_family⟩, extension.live⟩
  have ne : current.id ≠ record.id := by
    intro same
    have stored := extension.stored
    rw [same] at stored
    cases extension.unused.symm.trans stored
  constructor
  · refine List.nodup_cons.mpr ⟨?_, chain.nodup⟩
    intro mem
    obtain ⟨_, stored, -⟩ := (chain.members _).mp mem
    cases extension.unused.symm.trans stored
  · intro id
    rw [List.mem_cons, chain.members]
    by_cases same : id = record.id
    · subst same
      rw [rotate_replacement]
      simp [extension.family]
    · by_cases same_current : id = current.id
      · subst same_current
        rw [rotate_current ne, extension.stored]
        simp [ne, extension.current_family, superseded]
      · rw [rotate_other same same_current]
        simp [same]
  · refine List.isChain_cons.mpr ⟨?_, ?_⟩
    · intro older older_head
      cases head.symm.trans older_head
      exact ⟨record, _, rotate_replacement, rotate_current ne, nofun, .inr rfl, keeps⟩
    · refine chain.links.imp_of_mem_tail_imp fun newer older newer_mem older_mem link => ?_
      obtain ⟨record', replaced, stored, replaced_stored, revoked, linked, keeps'⟩ := link
      have newer_ne : newer ≠ record.id := by
        rintro rfl
        cases extension.unused.symm.trans stored
      have older_same : (w.rotate current record now ipAddress userAgent).records older =
          some replaced := (chain.rotate_older extension older_mem).trans replaced_stored
      by_cases same : newer = current.id
      · subst same
        cases extension.stored.symm.trans stored
        exact ⟨_, replaced, rotate_current ne, older_same, revoked, linked, keeps'⟩
      · refine ⟨record', replaced, ?_, older_same, revoked, linked, keeps'⟩
        rw [rotate_other newer_ne same]
        exact stored
  · intro id newest other stored
    cases newest
    cases rotate_replacement.symm.trans stored
    exact unlinked

end Extended

end Chain

/-- Every record but the newest names its successor. -/
def Intact (w : RefreshWorld) (ids : List Uuid) : Prop :=
  ids.IsChain fun newer older =>
    ∃ replaced, w.records older = some replaced ∧ replaced.replacedByTokenId = some newer

/-- The family is live, or was never revoked as a whole. -/
def Unbroken (t : RefreshTrace ι) (w : RefreshWorld) (fam : Uuid) : Prop :=
  (∃ live, w.LiveIn fam live) ∨ ∀ i e, (i, e) ∈ t → revokesFamily e.op ≠ some fam

section Families

variable {liveReads : Bool} {calls : RefreshPool ι} {t : RefreshTrace ι} {w w' : RefreshWorld}
variable {i : ι} {e : AuthEvent} {fam : Uuid} {ids : List Uuid}

theorem Extension.unlinked {svc : AuthService} {call : RefreshCall} {h : AuthHistory}
    {current record : StoredRefreshToken} {now : OffsetDateTime}
    (extension : Extension svc call h w fam current record now) :
    record.replacedByTokenId = none := by
  obtain ⟨_, _, _, _, _, _, -, plan⟩ := extension.planned
  exact plan.replacement.unlinked

theorem Steady.live_before (steady : Steady w w' fam) {live : StoredRefreshToken}
    (after : w'.LiveIn fam live) : ∃ before, w.records live.id = some before ∧
      before.sessionFamilyId = fam ∧ before.revokedAt = none := by
  obtain ⟨⟨stored, family⟩, unrevoked⟩ := after
  obtain ⟨before, stored', restamped⟩ := steady.backward stored family
  refine ⟨before, stored', (restamped.later.field (·.sessionFamilyId)).symm.trans family, ?_⟩
  cases revoked : before.revokedAt with
  | none => rfl
  | some stamp => exact absurd unrevoked (restamped.revoked (by simp [revoked]))

theorem Unbroken.before_steady (sound : Sound t w) (steady : Steady w w' fam)
    (unbroken : Unbroken ((i, e) :: t) w' fam) : Unbroken t w fam := by
  rcases unbroken with ⟨live, after⟩ | untouched
  · obtain ⟨before, stored, family, unrevoked⟩ := steady.live_before after
    have key : before.id = live.id := sound.keyed stored
    exact .inl ⟨before, ⟨key ▸ stored, family⟩, unrevoked⟩
  · exact .inr fun j e' mem => untouched j e' (List.mem_cons_of_mem _ mem)

theorem Intact.step (reached : RefreshReachable liveReads calls ⟨t, w⟩) (sound : Sound t w)
    (change : PoolChange liveReads calls t w i e w') (withLiveReads : liveReads = true)
    (unbroken : Unbroken ((i, e) :: t) w' fam)
    {kept : StoredRefreshToken → StoredRefreshToken → Prop} (chain : Chain kept w fam ids)
    (intact : Intact w ids) : Intact w' ids := by
  cases ids with
  | nil => exact .nil
  | cons newest ids =>
      refine List.IsChain.imp_of_mem_tail_imp ?_ intact
      rintro newer older - older_mem ⟨replaced, stored, linked⟩
      obtain ⟨_, stored', revoked⟩ := chain.tail_revoked older older_mem
      cases stored.symm.trans stored'
      obtain ⟨_, stored'', family⟩ := (chain.members older).mp (List.mem_cons_of_mem _ older_mem)
      cases stored.symm.trans stored''
      obtain ⟨replaced', after, -⟩ := sound.persists reached change stored
      have same : SameStamps replaced replaced' := by
        refine stamps_kept reached sound change withLiveReads stored after revoked ?_
        rw [family]
        rcases unbroken with live | untouched
        · exact .inr live
        · exact .inl (untouched i e List.mem_cons_self)
      exact ⟨replaced', after, same.2.trans linked⟩

/-- Every family is a chain; `kept` is whatever every rotation maintains. -/
theorem family_chain (kept : StoredRefreshToken → StoredRefreshToken → Prop)
    (keeps : ∀ {t : RefreshTrace ι} {w i fam current record now},
      RefreshReachable liveReads calls ⟨t, w⟩ →
        Extension (calls i).1 (calls i).2 (t.of i) w fam current record now →
          kept record.core current.core)
    {c : RefreshConfig liveReads ι} (reached : RefreshReachable liveReads calls c) (fam : Uuid) :
    ∃ ids, Chain kept c.state fam ids ∧
      (liveReads = true → Unbroken c.trace c.state fam → Intact c.state ids) := by
  refine refresh_invariant (I := fun t w => ∃ ids, Chain kept w fam ids ∧
    (liveReads = true → Unbroken t w fam → Intact w ids)) ?_ ?_ reached
  · refine ⟨[], ⟨List.nodup_nil, ?_, .nil, ?_⟩, fun _ _ => .nil⟩
    · intro id
      simp
    · intro id head
      cases head
  · rintro t w w' i e reached ⟨ids, chain, intact⟩ pool
    have change := pool.change
    have sound := sound_of_reachable reached
    cases familyChange reached sound change fam with
    | steady steady =>
        refine ⟨ids, chain.steady steady, fun withLiveReads unbroken => ?_⟩
        exact (intact withLiveReads (unbroken.before_steady sound steady)).step reached sound change
          withLiveReads unbroken chain
    | @opened record resp plan unused family first =>
        exact ⟨[record.id], .opened family first plan.unlinked, fun _ _ => .singleton _⟩
    | @extended current record now ipAddress userAgent extension =>
        refine ⟨record.id :: ids, chain.extended extension extension.unlinked
          (keeps reached extension), fun withLiveReads unbroken => ?_⟩
        have live : w.LiveIn fam current :=
          ⟨⟨extension.stored, extension.current_family⟩, extension.live⟩
        refine List.isChain_cons.mpr ⟨?_, ?_⟩
        · intro older head
          cases (chain.live_is_newest live).symm.trans head
          refine ⟨_, rotate_current ?_, rfl⟩
          intro same
          have stored := extension.stored
          rw [same] at stored
          cases extension.unused.symm.trans stored
        · exact (intact withLiveReads (.inl ⟨current, live⟩)).step reached sound change
            withLiveReads unbroken chain

/--
In every state any interleaving reaches, a family has at most one unrevoked
record, no two of its records have the same successor, and the family is one
linear chain: in commit order, newest first, each record is linked to the one
placed after it or to nothing, and to exactly that one unless the store revoked
the family as a whole.
-/
theorem one_live_token_per_family {c : RefreshConfig liveReads ι}
    (reached : RefreshReachable liveReads calls c) (fam : Uuid) :
    (∀ first second, c.state.LiveIn fam first → c.state.LiveIn fam second → first = second) ∧
      (∀ first second successor, c.state.InFamily fam first → c.state.InFamily fam second →
        first.replacedByTokenId = some successor → second.replacedByTokenId = some successor →
          first = second) ∧
      ∃ ids, Chain (fun _ _ => True) c.state fam ids ∧
        (liveReads = true → Unbroken c.trace c.state fam → Intact c.state ids) := by
  obtain ⟨ids, chain, intact⟩ := family_chain (fun _ _ => True) (fun _ _ => trivial) reached fam
  refine ⟨?_, ?_, ids, chain, intact⟩
  · intro first second live_first live_second
    have head_first := chain.live_is_newest live_first
    have head_second := chain.live_is_newest live_second
    have same : first.id = second.id := Option.some.inj (head_first.symm.trans head_second)
    have stored := live_first.1.1
    rw [same] at stored
    exact Option.some.inj (stored.symm.trans live_second.1.1)
  · intro first second successor first_in second_in linked linked'
    exact chain.successor_injective first_in second_in linked linked'

theorem one_live_token_after_reuse :
    (sampleRun [0, 1, 2]).memory.store.tokens.map (·.id) = [⟨7⟩, ⟨5⟩, ⟨3⟩] ∧
      ∀ first second, (sampleRun [0, 1, 2]).config.state.LiveIn sampleFamily first →
        (sampleRun [0, 1, 2]).config.state.LiveIn sampleFamily second → first = second :=
  ⟨rfl, (one_live_token_per_family (sampleRun [0, 1, 2]).reached sampleFamily).1⟩

/-- The family has records, and none of them is live. -/
structure Dead (w : RefreshWorld) (fam : Uuid) : Prop where
  known : ∃ record, w.InFamily fam record
  revoked : ∀ record, ¬ w.LiveIn fam record

/-- Nothing is placed in a dead family. -/
theorem Dead.not_placed (reached : RefreshReachable liveReads calls ⟨t, w⟩) (dead : Dead w fam)
    (pool : PoolStep liveReads calls t w i e w') {record : StoredRefreshToken}
    (placed : placedBy e = some record) : record.sessionFamilyId ≠ fam := by
  rintro rfl
  have sound := sound_of_reachable reached
  obtain ⟨allowed, effect⟩ := pool
  cases places_of_placedBy placed with
  | inserted =>
      obtain ⟨known, stored, family⟩ := dead.known
      have plan : SessionPlan (calls i).2 (t.of i) record := allowed
      exact sound.fresh_family reached plan.family_drawn plan.unwritten stored family
  | rotated currentTokenId =>
      obtain ⟨_, _, _, _, _, _, -, plan⟩ := allowed
      obtain ⟨current, stored, live, -, -⟩ := effect
      have family := plan.current_family sound stored
      obtain rfl : current.id = currentTokenId := sound.keyed stored
      exact dead.revoked current ⟨⟨stored, family⟩, live⟩

/-- A family that had records and is live now was live before. -/
theorem live_before (reached : RefreshReachable liveReads calls ⟨t, w⟩)
    (change : PoolChange liveReads calls t w i e w') (known : ∃ record, w.InFamily fam record)
    (after : ∃ live, w'.LiveIn fam live) : ∃ live, w.LiveIn fam live := by
  have sound := sound_of_reachable reached
  obtain ⟨live, after⟩ := after
  cases familyChange reached sound change fam with
  | steady steady =>
      obtain ⟨before, stored, family, unrevoked⟩ := steady.live_before after
      have key : before.id = live.id := sound.keyed stored
      exact ⟨before, ⟨key ▸ stored, family⟩, unrevoked⟩
  | opened plan unused family first =>
      obtain ⟨record, stored, record_family⟩ := known
      exact absurd record_family (first _ _ stored)
  | @extended current record now ipAddress userAgent extension =>
      exact ⟨current, ⟨extension.stored, extension.current_family⟩, extension.live⟩

theorem Dead.change (reached : RefreshReachable liveReads calls ⟨t, w⟩) (dead : Dead w fam)
    (change : PoolChange liveReads calls t w i e w') : Dead w' fam := by
  have sound := sound_of_reachable reached
  constructor
  · obtain ⟨record, stored, family⟩ := dead.known
    obtain ⟨record', after, later⟩ := sound.persists reached change stored
    have key : record'.id = record.id := later.field (·.id)
    exact ⟨record', by rw [key]; exact after, (later.field (·.sessionFamilyId)).trans family⟩
  · intro record live
    obtain ⟨before, live_before⟩ := live_before reached change dead.known ⟨record, live⟩
    exact dead.revoked before live_before

/-- A call that returned a payload for a family has placed a record in it. -/
theorem payload_placed {c : RefreshConfig liveReads ι} {payload : AuthPayload}
    (returned : Returned calls.program c i (.ok (some payload)))
    (named : payload.user.tokenClaims.sessionFamilyId = some fam.toString) :
    ∃ e ∈ c.trace.of i, ∃ record, placedBy e = some record ∧ record.sessionFamilyId = fam := by
  have ended : callPost (calls i).1 (calls i).2 (c.trace.of i) (.ok (some payload)) :=
    (RefreshCall.verified (calls i).1 (calls i).2).post_of_path returned
  have placed : ∀ {record write}, writes (c.trace.of i) = [write] →
      (∀ e, writeOf e = some write → placedBy e = some record) →
      Delivered (calls i).1 record payload →
      ∃ e ∈ c.trace.of i, ∃ record, placedBy e = some record ∧ record.sessionFamilyId = fam := by
    intro record write written places delivered
    have mem : write ∈ writes (c.trace.of i) := by simp [written]
    obtain ⟨e, e_mem, wrote⟩ := List.mem_filterMap.mp mem
    refine ⟨e, e_mem, record, places e wrote, Uuid.toString_injective ?_⟩
    exact Option.some.inj (delivered.family.symm.trans named)
  cases presented : (calls i).2.presentedToken with
  | some refreshToken =>
      simp only [callPost, presented] at ended
      cases ended with
      | @rotated currentTokenId record source _ known entitled written delivered =>
          refine placed written (fun e wrote => ?_) delivered
          rw [placedBy, wrote]
  | none =>
      simp only [callPost, presented] at ended
      obtain ⟨record, written, delivered⟩ := ended
      refine placed written (fun e wrote => ?_) delivered
      rw [placedBy, wrote]

/--
Once a family has records but no unrevoked one, no later interleaving gives it
an unrevoked record, and a call that later returns a payload for it had placed
its record before.
-/
theorem dead_families_stay_dead {c c' : RefreshConfig liveReads ι}
    (reached : RefreshReachable liveReads calls c) (dead : Dead c.state fam)
    (run : Steps (refreshStore liveReads) calls.program c c') :
    (∀ record, ¬ c'.state.LiveIn fam record) ∧
      ∀ i payload, Returned calls.program c' i (.ok (some payload)) →
        payload.user.tokenClaims.sessionFamilyId = some fam.toString →
          ∃ e ∈ c.trace.of i, ∃ record, placedBy e = some record ∧
            record.sessionFamilyId = fam := by
  have still : Dead c'.state fam ∧ ∀ i, ∀ e ∈ c'.trace.of i, ∀ record, placedBy e = some record →
      record.sessionFamilyId = fam → e ∈ c.trace.of i := by
    refine Steps.invariant (I := fun c' => Dead c'.state fam ∧ ∀ i, ∀ e ∈ c'.trace.of i,
      ∀ record, placedBy e = some record → record.sessionFamilyId = fam → e ∈ c.trace.of i)
      ?_ reached ⟨dead, fun _ _ mem _ _ _ => mem⟩ run
    rintro c₁ c₂ reached₁ ⟨dead₁, earlier⟩ edge
    obtain ⟨j, e₂, extended, pool⟩ := refresh_step edge
    refine ⟨dead₁.change reached₁ pool.change, ?_⟩
    intro i e mem record placed family
    rw [extended] at mem
    rcases mem_of_cons_iff.mp mem with ⟨rfl, rfl⟩ | mem
    · exact absurd family (dead₁.not_placed reached₁ pool placed)
    · exact earlier i e mem record placed family
  refine ⟨still.1.revoked, ?_⟩
  intro i payload returned named
  obtain ⟨e, mem, record, placed, family⟩ := payload_placed returned named
  exact ⟨e, still.2 i e mem record placed family, record, placed, family⟩

theorem sampleFamily_signed_out : Dead (sampleRun [0, 1, 2, 3, 4]).config.state sampleFamily where
  known := by
    obtain ⟨record, stored, family⟩ : ∃ record,
        (sampleRun [0, 1, 2, 3, 4]).memory.store.get ⟨3⟩ = some record ∧
          record.sessionFamilyId = sampleFamily := ⟨_, rfl, rfl⟩
    obtain ⟨mem, key⟩ := MemoryRefreshTokenStore.get_eq_some.mp stored
    exact ⟨record, key ▸ stored, family⟩
  revoked record live := by
    have mem := (MemoryHost.findLive_meets (m := (sampleRun [0, 1, 2, 3, 4]).memory) sampleFamily
      record).mpr live
    have none_live : (sampleRun [0, 1, 2, 3, 4]).memory.store.findLiveRefreshTokensInFamily
      sampleFamily = [] := rfl
    rw [none_live] at mem
    cases mem

/-- A reuse within the grace window after the sign-out brings nothing back. -/
theorem signed_out_family_stays_dead :
    Dead (sampleRun [0, 1, 2, 3, 4]).config.state sampleFamily ∧
      ∀ record, ¬ ((sampleRun [0, 1, 2, 3, 4]).schedule
        (List.replicate 12 5)).config.state.LiveIn sampleFamily record :=
  ⟨sampleFamily_signed_out, (dead_families_stay_dead (sampleRun [0, 1, 2, 3, 4]).reached
    sampleFamily_signed_out (Running.steps_schedule _ _)).1⟩

end Families

end AgqlAuth
