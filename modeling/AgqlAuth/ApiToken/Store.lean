import AgqlAuth.ApiToken.Calls
import AgqlAuth.Interaction.FreshNames
import AgqlAuth.Interaction.Standing
import Mathlib.Logic.Function.Basic

/-!
# The API-token store

What `ApiTokenStore` documents: a record is found by its hash whether revoked or
not, and after its insertion only its use and its revocation are written to it.
-/

namespace AgqlAuth

open Interaction

/-- The parts of a record no store operation changes. -/
def StoredApiToken.core (self : StoredApiToken) : StoredApiToken :=
  { self with lastUsedAt := none, revokedAt := none, userAgent := none, ipAddress := none }

/-- What the changeable parts do not enter into is the same for records with one core. -/
theorem StoredApiToken.congr_core {α : Type} {self other : StoredApiToken}
    (f : StoredApiToken → α) (blind : ∀ record, f record.core = f record)
    (same : self.core = other.core) : f self = f other := by
  rw [← blind self, same, blind other]

/-- The records, and every identifier drawn so far. -/
structure ApiTokenWorld where
  records : Uuid → Option StoredApiToken
  generated : List Uuid

namespace ApiTokenWorld

def put (w : ApiTokenWorld) (record : StoredApiToken) : ApiTokenWorld :=
  { w with records := Function.update w.records record.id (some record) }

/-- Change the record with this identifier, if there is one. -/
def modify (w : ApiTokenWorld) (tokenId : Uuid) (change : StoredApiToken → StoredApiToken) :
    ApiTokenWorld :=
  { w with records := Function.update w.records tokenId ((w.records tokenId).map change) }

variable {w : ApiTokenWorld} {id tokenId : Uuid} {record : StoredApiToken}
variable {change : StoredApiToken → StoredApiToken}

@[simp]
theorem put_self : (w.put record).records record.id = some record := Function.update_self ..

theorem put_of_ne (ne : id ≠ record.id) : (w.put record).records id = w.records id :=
  Function.update_of_ne ne ..

@[simp]
theorem modify_self : (w.modify tokenId change).records tokenId = (w.records tokenId).map change :=
  Function.update_self ..

theorem modify_of_ne (ne : id ≠ tokenId) : (w.modify tokenId change).records id = w.records id :=
  Function.update_of_ne ne ..

end ApiTokenWorld

/-- `touch_api_token`. -/
def StoredApiToken.touched (usedAt : OffsetDateTime) (ipAddress userAgent : Option String)
    (record : StoredApiToken) : StoredApiToken :=
  { record with lastUsedAt := some usedAt, ipAddress, userAgent }

/-- `revoke_api_token`: which instant a record revoked before keeps is left open. -/
def StoredApiToken.revokedAs (stamp : StoredApiToken → OffsetDateTime) (record : StoredApiToken) :
    StoredApiToken :=
  { record with revokedAt := some (stamp record) }

/-- An `Err` answer may hide an operation that took effect. -/
def Attempted (w : ApiTokenWorld) (applied : Prop) (w' : ApiTokenWorld) : AuthResult Unit → Prop
  | .ok () => applied
  | .error _ => w' = w ∨ applied

theorem Attempted.either {w w' : ApiTokenWorld} {applied : Prop} {resp : AuthResult Unit}
    (attempted : Attempted w applied w' resp) : w' = w ∨ applied := by
  cases resp with
  | ok _ => exact .inr attempted
  | error _ => exact attempted

/-- What a lookup by hash may answer. -/
def Lookup (w : ApiTokenWorld) (tokenHash : String) : AuthResult (Option StoredApiToken) → Prop
  | .ok (some record) => w.records record.id = some record ∧ record.tokenHash = tokenHash
  | .ok none => ∀ id record, w.records id = some record → record.tokenHash ≠ tokenHash
  | .error _ => True

/-- What an operation may answer and do. -/
def ApiTokenEffect (w : ApiTokenWorld) :
    (op : apiTokenStoreSignature.Op) → apiTokenStoreSignature.Resp op → ApiTokenWorld → Prop
  | .inl .newUuid, id, w' => (id : Uuid) ∉ w.generated ∧ w' = { w with generated := id :: w.generated }
  | .inl (.insertApiToken record), resp, w' => Attempted w (w' = w.put record) w' resp
  | .inl (.findApiTokenByHash tokenHash), resp, w' => w' = w ∧ Lookup w tokenHash resp
  | .inl (.touchApiToken tokenId usedAt ipAddress userAgent), resp, w' =>
      Attempted w (w' = w.modify tokenId (.touched usedAt ipAddress userAgent)) w' resp
  | .inr (.revokeApiToken tokenId _ _), resp, w' =>
      Attempted w (∃ stamp, w' = w.modify tokenId (.revokedAs stamp)) w' resp
  | _, _, w' => w' = w

/-- Any store meeting the contract, with fresh identifiers. -/
def apiTokenStore : Shared apiTokenStoreSignature where
  State := ApiTokenWorld
  init := ⟨fun _ => none, []⟩
  Effect := ApiTokenEffect

def drawnTokenId : ApiTokenStoreEvent → Option Uuid
  | ⟨.inl .newUuid, id⟩ => some id
  | _ => none

theorem Attempted.generated {w w' : ApiTokenWorld} {applied : Prop} {resp : AuthResult Unit}
    (attempted : Attempted w applied w' resp) (kept : applied → w'.generated = w.generated) :
    w'.generated = w.generated := by
  rcases attempted.either with rfl | applied
  · rfl
  · exact kept applied

theorem generated_kept {w w' : ApiTokenWorld} {op : apiTokenStoreSignature.Op}
    {resp : apiTokenStoreSignature.Resp op} (effect : ApiTokenEffect w op resp w')
    (undrawn : drawnTokenId ⟨op, resp⟩ = none) : w'.generated = w.generated := by
  rcases op with op | op
  · cases op with
    | now => rw [show w' = w from effect]
    | newUuid => cases undrawn
    | fillBytes length => rw [show w' = w from effect]
    | insertApiToken record =>
        refine Attempted.generated effect ?_
        rintro rfl
        rfl
    | findApiTokenByHash tokenHash => rw [effect.1]
    | touchApiToken tokenId usedAt ipAddress userAgent =>
        refine Attempted.generated effect ?_
        rintro rfl
        rfl
  · cases op with
    | revokeApiToken tokenId revokedAt reason =>
        refine Attempted.generated effect ?_
        rintro ⟨stamp, rfl⟩
        rfl

def freshTokenIds : FreshNames apiTokenStore Uuid where
  drawn := drawnTokenId
  issued w := w.generated
  init := rfl
  draw {s op resp s' name} effect drawn := by
    rcases op with op | op
    · cases op with
      | newUuid =>
          cases drawn
          exact ⟨effect.1, congrArg ApiTokenWorld.generated effect.2⟩
      | _ => cases drawn
    · cases op with
      | revokeApiToken => cases drawn
  keep := generated_kept

/-- The store holds the record, unrevoked where `live` asks for it. -/
def Holds (live : Bool) (w : ApiTokenWorld) (fact : StoredApiToken) : Prop :=
  ∃ record, w.records fact.id = some record ∧ record.core = fact ∧
    (live = true → record.revokedAt = none)

/-- What a write of another kind leaves of a record. -/
structure Preserves (live : Bool) (w w' : ApiTokenWorld) (fact : StoredApiToken) : Prop where
  back : Holds live w' fact → Holds live w fact
  forth : Holds live w fact → Holds live w' fact

section Preserve

variable {live : Bool} {w w' : ApiTokenWorld} {fact record : StoredApiToken} {tokenId : Uuid}
variable {change : StoredApiToken → StoredApiToken}

theorem Holds.of_records (holds : Holds live w fact)
    (same : w'.records fact.id = w.records fact.id) : Holds live w' fact := by
  obtain ⟨record, held, rest⟩ := holds
  exact ⟨record, same.trans held, rest⟩

theorem holds_put (record : StoredApiToken) (unrevoked : live = true → record.revokedAt = none) :
    Holds live (w.put record) record.core :=
  ⟨record, ApiTokenWorld.put_self, rfl, unrevoked⟩

theorem holds_of_put (holds : Holds live (w.put record) fact) :
    record.core = fact ∨ Holds live w fact := by
  by_cases same : fact.id = record.id
  · obtain ⟨held, found, core, -⟩ := holds
    rw [same, ApiTokenWorld.put_self] at found
    cases found
    exact .inl core
  · exact .inr (holds.of_records (ApiTokenWorld.put_of_ne same).symm)

/-- A change that keeps the core and does not revoke. -/
theorem preserves_modify (core : ∀ record, (change record).core = record.core)
    (stamp : ∀ record, (change record).revokedAt = record.revokedAt) :
    Preserves live w (w.modify tokenId change) fact := by
  by_cases same : fact.id = tokenId
  · subst same
    constructor
    case back =>
      rintro ⟨record, found, rfl, unrevoked⟩
      rw [ApiTokenWorld.modify_self] at found
      obtain ⟨before, held, rfl⟩ := Option.map_eq_some_iff.mp found
      refine ⟨before, held, (core before).symm, fun asked => ?_⟩
      rw [← stamp before]
      exact unrevoked asked
    case forth =>
      rintro ⟨record, held, rfl, unrevoked⟩
      refine ⟨change record, ?_, core record, fun asked => ?_⟩
      · rw [ApiTokenWorld.modify_self, held, Option.map_some]
      · rw [stamp record]
        exact unrevoked asked
  · exact ⟨fun holds => holds.of_records (ApiTokenWorld.modify_of_ne same).symm,
      fun holds => holds.of_records (ApiTokenWorld.modify_of_ne same)⟩

/-- A revocation ends what is live under its identifier and keeps the record. -/
theorem holds_of_revoked {stamp : StoredApiToken → OffsetDateTime}
    (holds : Holds live (w.modify tokenId (.revokedAs stamp)) fact) :
    Holds live w fact ∧ (live = true → fact.id ≠ tokenId) := by
  by_cases same : fact.id = tokenId
  · subst same
    obtain ⟨record, found, rfl, unrevoked⟩ := holds
    rw [ApiTokenWorld.modify_self] at found
    obtain ⟨before, held, rfl⟩ := Option.map_eq_some_iff.mp found
    have kept : live ≠ true := fun asked => nomatch unrevoked asked
    exact ⟨⟨before, held, rfl, fun asked => absurd asked kept⟩, fun asked => absurd asked kept⟩
  · exact ⟨holds.of_records (ApiTokenWorld.modify_of_ne same).symm, fun _ => same⟩

theorem holds_revoked {stamp : StoredApiToken → OffsetDateTime} (holds : Holds live w fact)
    (spared : live = true → fact.id ≠ tokenId) :
    Holds live (w.modify tokenId (.revokedAs stamp)) fact := by
  by_cases same : fact.id = tokenId
  · subst same
    have kept : live ≠ true := fun asked => spared asked rfl
    obtain ⟨record, held, core, -⟩ := holds
    refine ⟨record.revokedAs stamp, ?_, core, fun asked => absurd asked kept⟩
    rw [ApiTokenWorld.modify_self, held, Option.map_some]
  · exact holds.of_records (ApiTokenWorld.modify_of_ne same)

end Preserve

/-- The event inserts the record, whatever the store answers. -/
def Inserts (e : ApiTokenStoreEvent) (fact : StoredApiToken) : Prop :=
  ∃ record resp, e = observed (insertedApiToken record resp) ∧ record.core = fact

def Secures (e : ApiTokenStoreEvent) (fact : StoredApiToken) : Prop :=
  ∃ record, e = observed (insertedApiToken record (.ok ())) ∧ record.core = fact ∧
    record.revokedAt = none

/-- The store has answered that the record is revoked. -/
def Revokes (live : Bool) (e : ApiTokenStoreEvent) (fact : StoredApiToken) : Prop :=
  live = true ∧ ∃ revokedAt reason, e = revokedApiToken fact.id revokedAt reason (.ok ())

/-- The event writes to the identifier in a way that may end the record. -/
def Threatens (live : Bool) (e : ApiTokenStoreEvent) (fact : StoredApiToken) : Prop :=
  (∃ record resp, e = observed (insertedApiToken record resp) ∧ record.id = fact.id) ∨
    live = true ∧ ∃ revokedAt reason resp, e = revokedApiToken fact.id revokedAt reason resp

section Steps

variable {live : Bool} {w w' : ApiTokenWorld} {fact : StoredApiToken}
variable {op : apiTokenStoreSignature.Op} {resp : apiTokenStoreSignature.Resp op}

theorem not_revokes_observed (e : ApiTokenEvent) : ¬Revokes live (observed e) fact := by
  rintro ⟨-, revokedAt, reason, same⟩
  cases same

theorem touched_preserves {tokenId : Uuid} {usedAt : OffsetDateTime}
    {ipAddress userAgent : Option String} :
    Preserves live w (w.modify tokenId (.touched usedAt ipAddress userAgent)) fact :=
  preserves_modify (fun _ => rfl) fun _ => rfl

theorem holds_origin (effect : ApiTokenEffect w op resp w') (stands : Holds live w' fact) :
    Inserts ⟨op, resp⟩ fact ∨ Holds live w fact ∧ ¬Revokes live ⟨op, resp⟩ fact := by
  rcases op with op | op
  · have spared : ¬Revokes live ⟨.inl op, resp⟩ fact := not_revokes_observed ⟨op, resp⟩
    cases op with
    | insertApiToken record =>
        rcases Attempted.either effect with rfl | rfl
        · exact .inr ⟨stands, spared⟩
        · rcases holds_of_put stands with core | before
          · exact .inl ⟨record, resp, rfl, core⟩
          · exact .inr ⟨before, spared⟩
    | touchApiToken tokenId usedAt ipAddress userAgent =>
        refine .inr ⟨?_, spared⟩
        rcases Attempted.either effect with rfl | rfl
        · exact stands
        · exact touched_preserves.back stands
    | newUuid =>
        obtain ⟨-, rfl⟩ := effect
        exact .inr ⟨stands, spared⟩
    | findApiTokenByHash tokenHash =>
        obtain ⟨rfl, -⟩ := effect
        exact .inr ⟨stands, spared⟩
    | now | fillBytes length =>
        obtain rfl : w' = w := effect
        exact .inr ⟨stands, spared⟩
  · cases op with
    | revokeApiToken tokenId revokedAt reason =>
        refine .inr ?_
        rcases resp with e | _
        · constructor
          · rcases effect with rfl | ⟨stamp, rfl⟩
            · exact stands
            · exact (holds_of_revoked stands).1
          · rintro ⟨-, stamp, why, same⟩
            cases same
        · obtain ⟨stamp, rfl⟩ := effect
          obtain ⟨before, spared⟩ := holds_of_revoked stands
          refine ⟨before, ?_⟩
          rintro ⟨asked, at', why, same⟩
          cases same
          exact spared asked rfl

theorem holds_secured (effect : ApiTokenEffect w op resp w') (secures : Secures ⟨op, resp⟩ fact) :
    Holds live w' fact := by
  obtain ⟨record, same, rfl, unrevoked⟩ := secures
  cases same
  obtain rfl : w' = w.put record := effect
  exact holds_put record fun _ => unrevoked

theorem holds_kept (effect : ApiTokenEffect w op resp w') (stands : Holds live w fact)
    (safe : ¬Threatens live ⟨op, resp⟩ fact) : Holds live w' fact := by
  rcases op with op | op
  · cases op with
    | insertApiToken record =>
        have ne : fact.id ≠ record.id := fun same =>
          safe (.inl ⟨record, resp, rfl, same.symm⟩)
        rcases Attempted.either effect with rfl | rfl
        · exact stands
        · exact stands.of_records (ApiTokenWorld.put_of_ne ne)
    | touchApiToken tokenId usedAt ipAddress userAgent =>
        rcases Attempted.either effect with rfl | rfl
        · exact stands
        · exact touched_preserves.forth stands
    | newUuid =>
        obtain ⟨-, rfl⟩ := effect
        exact stands
    | findApiTokenByHash tokenHash =>
        obtain ⟨rfl, -⟩ := effect
        exact stands
    | now | fillBytes length =>
        obtain rfl : w' = w := effect
        exact stands
  · cases op with
    | revokeApiToken tokenId revokedAt reason =>
        have spared : live = true → fact.id ≠ tokenId := by
          rintro asked rfl
          exact safe (.inr ⟨asked, revokedAt, reason, resp, rfl⟩)
        rcases Attempted.either effect with rfl | ⟨stamp, rfl⟩
        · exact stands
        · exact holds_revoked stands spared

theorem not_holds_init (live : Bool) (fact : StoredApiToken) :
    ¬Holds live ⟨fun _ => none, []⟩ fact := by
  rintro ⟨record, held, -⟩
  cases held

end Steps

/-- The records of the store; with `live`, those that are not revoked. -/
def standingRecords (live : Bool) : Standing apiTokenStore StoredApiToken where
  stands := Holds live
  proposes := Inserts
  secures := Secures
  withdraws := Revokes live
  threatens := Threatens live
  init := not_holds_init live
  origin := holds_origin
  secured := holds_secured
  kept := holds_kept

end AgqlAuth
