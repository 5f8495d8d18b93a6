import DaemonPki.Certificate.Metadata
import DaemonPki.Foundation.Index
import DaemonPki.Foundation.Transition

/-!
# The registry of machine identities

The identities that may act and the certificate fingerprints they are bound to
(`daemon-pki-core/src/identity/registry.rs`).

A fingerprint is bound once: `register` refuses a fingerprint that is in use, and no method of the
registry removes an identity or rebinds one. So the map of the fingerprints is an index of the
table of the identities, and a revoked identity keeps its fingerprint from ever being authorized
again.

## Main definitions

* `DaemonPki.MachineIdentity`, `DaemonPki.IdentityRegistry` with `register`, `authorize`,
  `disable`, `enable` and `revoke`.
* `DaemonPki.RegistryCall`, `DaemonPki.registrySystem`: runs of the registry.
* `DaemonPki.IdentityRegistry.WellFormed`: the representation invariant.

## Main results

* `DaemonPki.IdentityRegistry.wellFormed_of_run`: the invariant holds along every run.
* `DaemonPki.IdentityRegistry.extends_of_run`: no identity is lost, and none is reinstated.
* `DaemonPki.IdentityRegistry.authorization_of_run`: who is authorized along every run.
-/

namespace DaemonPki

open Foundation

/-- Source: `registry.rs`, lines 9–14. -/
inductive IdentityType
  | device
  | workload
  | service
  | human
  deriving DecidableEq, Repr

/-- Source: `registry.rs`, lines 17–21. -/
inductive IdentityStatus
  | active
  | disabled
  | revoked
  deriving DecidableEq, Repr

namespace IdentityStatus

/-- Source: `registry.rs`, lines 24–26. -/
def isActive : IdentityStatus → Bool
  | active => true
  | _ => false

/-- Source: `registry.rs`, lines 28–30. -/
def isTerminal : IdentityStatus → Bool
  | revoked => true
  | _ => false

end IdentityStatus

/-- Source: `registry.rs`, lines 34–43. -/
structure MachineIdentity where
  id : Uuid
  name : String
  identityType : IdentityType
  certificateFingerprintSha256 : String
  status : IdentityStatus
  roles : List String
  createdAt : OffsetDateTime
  updatedAt : OffsetDateTime
  deriving DecidableEq, Repr

namespace MachineIdentity

/-- A new identity, with the identifier and the clock reading drawn by the call. Source:
`registry.rs`, lines 46–64. -/
def new (id : Uuid) (now : OffsetDateTime) (name : String) (identityType : IdentityType)
    (certificateFingerprintSha256 : String) : MachineIdentity where
  id := id
  name := name
  identityType := identityType
  certificateFingerprintSha256 := certificateFingerprintSha256
  status := .active
  roles := []
  createdAt := now
  updatedAt := now

/-- Source: `registry.rs`, lines 79–81. -/
def hasRole (identity : MachineIdentity) (role : String) : Bool :=
  identity.roles.any fun item => item = role

/-- Source: `registry.rs`, lines 66–77. -/
def withRole (identity : MachineIdentity) (role : String) : MachineIdentity :=
  if identity.hasRole role then identity
  else { identity with roles := identity.roles ++ [role] }

/-- Source: `registry.rs`, lines 83–88. -/
def disable (now : OffsetDateTime) (identity : MachineIdentity) : MachineIdentity :=
  if identity.status.isTerminal then identity
  else { identity with status := .disabled, updatedAt := now }

/-- Source: `registry.rs`, lines 90–95. -/
def enable (now : OffsetDateTime) (identity : MachineIdentity) : MachineIdentity :=
  if identity.status.isTerminal then identity
  else { identity with status := .active, updatedAt := now }

/-- Source: `registry.rs`, lines 97–100. -/
def revoke (now : OffsetDateTime) (identity : MachineIdentity) : MachineIdentity :=
  { identity with status := .revoked, updatedAt := now }

end MachineIdentity

/-- Source: `registry.rs`, lines 104–123. -/
inductive IdentityRegistryError
  | alreadyExists (id : Uuid)
  | fingerprintAlreadyBound (id : Uuid)
  | notFound (id : Uuid)
  | fingerprintNotFound (fingerprint : String)
  | notActive (id : Uuid)
  deriving DecidableEq, Repr

/-- Source: `registry.rs`, lines 126–129. -/
structure IdentityRegistry where
  identities : HashMap Uuid MachineIdentity
  fingerprints : HashMap String Uuid
  deriving DecidableEq

namespace IdentityRegistry

/-- Source: `registry.rs`, lines 132–134. -/
def new : IdentityRegistry := ⟨∅, ∅⟩

/-- Enter an identity and bind its fingerprint. Source: `registry.rs`, lines 163–172. -/
def bind (registry : IdentityRegistry) (identity : MachineIdentity) : IdentityRegistry where
  identities := registry.identities.insert identity.id identity
  fingerprints := registry.fingerprints.insert identity.certificateFingerprintSha256 identity.id

/-- Source: `registry.rs`, lines 136–174. -/
def register (registry : IdentityRegistry) (identity : MachineIdentity) :
    Except IdentityRegistryError Uuid × IdentityRegistry :=
  if identity.id ∈ registry.identities then (.error (.alreadyExists identity.id), registry)
  else
    match registry.fingerprints.lookup identity.certificateFingerprintSha256 with
    | some existingId => (.error (.fingerprintAlreadyBound existingId), registry)
    | none => (.ok identity.id, registry.bind identity)

/-- Source: `registry.rs`, lines 176–181. -/
def get (registry : IdentityRegistry) (id : Uuid) : Option MachineIdentity :=
  registry.identities.lookup id

/-- Source: `registry.rs`, lines 190–198. -/
def findByFingerprint (registry : IdentityRegistry) (fingerprint : String) :
    Option MachineIdentity :=
  (registry.fingerprints.lookup fingerprint).bind registry.get

/-- Source: `registry.rs`, lines 200–230. -/
def authorize (registry : IdentityRegistry) (fingerprint role : String) :
    Except IdentityRegistryError MachineIdentity :=
  match registry.findByFingerprint fingerprint with
  | none => .error (.fingerprintNotFound fingerprint)
  | some identity =>
    if !identity.status.isActive then .error (.notActive identity.id)
    else if !identity.hasRole role then .error (.notActive identity.id)
    else .ok identity

/-- Call a method of an identity on the reference that `get_mut` returns. -/
def modify (registry : IdentityRegistry) (id : Uuid) (f : MachineIdentity → MachineIdentity) :
    Except IdentityRegistryError Unit × IdentityRegistry :=
  match registry.identities.lookup id with
  | none => (.error (.notFound id), registry)
  | some identity =>
    (.ok (), { registry with identities := registry.identities.insert id (f identity) })

/-- Source: `registry.rs`, lines 232–245. -/
def disable (registry : IdentityRegistry) (now : OffsetDateTime) (id : Uuid) :
    Except IdentityRegistryError Unit × IdentityRegistry :=
  registry.modify id (MachineIdentity.disable now)

/-- Source: `registry.rs`, lines 247–260. -/
def enable (registry : IdentityRegistry) (now : OffsetDateTime) (id : Uuid) :
    Except IdentityRegistryError Unit × IdentityRegistry :=
  registry.modify id (MachineIdentity.enable now)

/-- Source: `registry.rs`, lines 262–275. -/
def revoke (registry : IdentityRegistry) (now : OffsetDateTime) (id : Uuid) :
    Except IdentityRegistryError Unit × IdentityRegistry :=
  registry.modify id (MachineIdentity.revoke now)

end IdentityRegistry

/-! ### Runs -/

/-- A call on a registry, with the clock reading that it sees. -/
inductive RegistryCall
  | register (identity : MachineIdentity)
  | disable (now : OffsetDateTime) (id : Uuid)
  | enable (now : OffsetDateTime) (id : Uuid)
  | revoke (now : OffsetDateTime) (id : Uuid)

namespace IdentityRegistry

/-- Whether a call succeeds, and the registry that it leaves behind. -/
def call (registry : IdentityRegistry) :
    RegistryCall → Except IdentityRegistryError Unit × IdentityRegistry
  | .register identity =>
      ((registry.register identity).1.map fun _ => (), (registry.register identity).2)
  | .disable now id => registry.disable now id
  | .enable now id => registry.enable now id
  | .revoke now id => registry.revoke now id

end IdentityRegistry

/-- The registry under all calls. -/
def registrySystem : LTS IdentityRegistry RegistryCall :=
  .ofFun fun registry call => (registry.call call).2

/-! ### What a method does to an identity -/

namespace MachineIdentity

/-- `x'` is the identity `x` with another status and another time of its last update, and a
revoked identity stays revoked. -/
def Updates (x x' : MachineIdentity) : Prop :=
  x' = { x with status := x'.status, updatedAt := x'.updatedAt } ∧
    (x.status = .revoked → x'.status = .revoked)

variable {x x' : MachineIdentity}

theorem Updates.id_eq (h : x.Updates x') : x'.id = x.id := by
  rw [h.1]

theorem Updates.fingerprint_eq (h : x.Updates x') :
    x'.certificateFingerprintSha256 = x.certificateFingerprintSha256 := by
  rw [h.1]

theorem updates_refl (x : MachineIdentity) : x.Updates x := ⟨rfl, fun h => h⟩

theorem updates_disable (now : OffsetDateTime) (x : MachineIdentity) :
    x.Updates (x.disable now) := by
  rw [disable]
  split_ifs with h
  · exact updates_refl x
  · refine ⟨rfl, fun hrevoked => ?_⟩
    rw [hrevoked] at h
    exact absurd rfl h

theorem updates_enable (now : OffsetDateTime) (x : MachineIdentity) :
    x.Updates (x.enable now) := by
  rw [enable]
  split_ifs with h
  · exact updates_refl x
  · refine ⟨rfl, fun hrevoked => ?_⟩
    rw [hrevoked] at h
    exact absurd rfl h

theorem updates_revoke (now : OffsetDateTime) (x : MachineIdentity) : x.Updates (x.revoke now) :=
  ⟨rfl, fun _ => rfl⟩

end MachineIdentity

namespace IdentityRegistry

variable {registry registry' : IdentityRegistry} {id : Uuid} {x x' : MachineIdentity}
  {fingerprint role : String}

/-! ### What a call does to the registry -/

/-- What `register` checks: neither the identifier nor the fingerprint is in use. -/
def Accepts (registry : IdentityRegistry) (identity : MachineIdentity) : Prop :=
  identity.id ∉ registry.identities ∧
    registry.fingerprints.lookup identity.certificateFingerprintSha256 = none

theorem register_of_accepts (h : registry.Accepts x) :
    registry.register x = (.ok x.id, registry.bind x) := by
  rw [register, if_neg h.1, h.2]

theorem register_of_not_accepts (h : ¬registry.Accepts x) :
    ∃ e, registry.register x = (.error e, registry) := by
  rw [register]
  split_ifs with hid
  · exact ⟨_, rfl⟩
  · cases hbound : registry.fingerprints.lookup x.certificateFingerprintSha256 with
    | none => exact absurd ⟨hid, hbound⟩ h
    | some existingId => exact ⟨_, rfl⟩

theorem modify_cases (registry : IdentityRegistry) (id : Uuid)
    (f : MachineIdentity → MachineIdentity) :
    registry.modify id f = (.error (.notFound id), registry) ∨
      ∃ x, registry.identities.lookup id = some x ∧ registry.modify id f =
        (.ok (), { registry with identities := registry.identities.insert id (f x) }) := by
  rw [modify]
  cases hx : registry.identities.lookup id with
  | none => exact Or.inl rfl
  | some x => exact Or.inr ⟨x, rfl, rfl⟩

/-- What a call can do: it fails and changes nothing, it enters an identity that `register`
accepts, or it updates one identity. -/
inductive Change (registry : IdentityRegistry) :
    Except IdentityRegistryError Unit × IdentityRegistry → Prop
  | fail (e : IdentityRegistryError) : Change registry (.error e, registry)
  | bind {x : MachineIdentity} (h : registry.Accepts x) :
      Change registry (.ok (), registry.bind x)
  | update {id : Uuid} {x x' : MachineIdentity} (h : registry.identities.lookup id = some x)
      (hx : x.Updates x') : Change registry
        (.ok (), { registry with identities := registry.identities.insert id x' })

theorem change_modify (registry : IdentityRegistry) (id : Uuid)
    {f : MachineIdentity → MachineIdentity} (hf : ∀ x : MachineIdentity, x.Updates (f x)) :
    Change registry (registry.modify id f) := by
  rcases registry.modify_cases id f with h | ⟨x, hx, h⟩ <;> rw [h]
  · exact .fail _
  · exact .update hx (hf x)

theorem change_call (registry : IdentityRegistry) (call : RegistryCall) :
    Change registry (registry.call call) := by
  cases call with
  | register identity =>
    rw [IdentityRegistry.call]
    by_cases h : registry.Accepts identity
    · rw [register_of_accepts h]
      exact .bind h
    · obtain ⟨e, he⟩ := register_of_not_accepts h
      rw [he]
      exact .fail e
  | disable now id => exact change_modify registry id (MachineIdentity.updates_disable now)
  | enable now id => exact change_modify registry id (MachineIdentity.updates_enable now)
  | revoke now id => exact change_modify registry id (MachineIdentity.updates_revoke now)

/-- A call that fails changes nothing. -/
theorem Change.eq_of_error {result : Except IdentityRegistryError Unit × IdentityRegistry}
    (h : Change registry result) {e : IdentityRegistryError} (he : result.1 = .error e) :
    result.2 = registry := by
  cases h with
  | fail _ => rfl
  | bind _ => cases he
  | update _ _ => cases he

/-! ### The representation invariant -/

/-- The representation invariant: the keys are the identifiers, and the map of the fingerprints
is the index of the fingerprints of the table. -/
structure WellFormed (registry : IdentityRegistry) : Prop where
  id_eq : ∀ id x, registry.identities.lookup id = some x → x.id = id
  fingerprints : IsIndex registry.fingerprints registry.identities fun x =>
    some x.certificateFingerprintSha256

theorem wellFormed_new : new.WellFormed :=
  ⟨fun id x hx => by simp [new] at hx, isIndex_empty⟩

theorem WellFormed.bind (h : registry.WellFormed) (hx : registry.Accepts x) :
    (registry.bind x).WellFormed := by
  refine ⟨fun id y hy => ?_, ?_⟩
  · rw [IdentityRegistry.bind, HashMap.lookup_insert_eq_ite] at hy
    split_ifs at hy with hid
    · cases hy
      exact hid.symm
    · exact h.id_eq id y hy
  · refine h.fingerprints.insert_some (Finmap.lookup_eq_none.mpr hx.1) rfl ?_
    exact h.fingerprints.lookup_eq_none.mp hx.2

theorem WellFormed.update (h : registry.WellFormed)
    (hx : registry.identities.lookup id = some x) (hupdates : x.Updates x') :
    WellFormed { registry with identities := registry.identities.insert id x' } := by
  refine ⟨fun k y hy => ?_, ?_⟩
  · rw [HashMap.lookup_insert_eq_ite] at hy
    split_ifs at hy with hid
    · cases hy
      rw [hupdates.id_eq, h.id_eq id x hx, hid]
    · exact h.id_eq k y hy
  · exact h.fingerprints.replace hx (congrArg some hupdates.fingerprint_eq)

theorem Change.wellFormed {result : Except IdentityRegistryError Unit × IdentityRegistry}
    (hchange : Change registry result) (h : registry.WellFormed) : result.2.WellFormed := by
  cases hchange with
  | fail _ => exact h
  | bind hx => exact h.bind hx
  | update hx hupdates => exact h.update hx hupdates

/-- **The representation invariant** holds after any sequence of calls. -/
theorem wellFormed_of_run (run : registrySystem.Run new registry) : registry.WellFormed := by
  refine run.invariant (fun u a v hu hstep => ?_) wellFormed_new
  rw [hstep]
  exact (change_call u a).wellFormed hu

/-! ### No identity is lost or reinstated -/

/-- Every identity of `registry` is in `registry'` under the same fingerprint, and it is revoked
there if it was. -/
def Extends (registry registry' : IdentityRegistry) : Prop :=
  ∀ id x, registry.identities.lookup id = some x →
    ∃ x', registry'.identities.lookup id = some x' ∧
      x'.certificateFingerprintSha256 = x.certificateFingerprintSha256 ∧
      (x.status = .revoked → x'.status = .revoked)

theorem Extends.refl (registry : IdentityRegistry) : registry.Extends registry :=
  fun _ x hx => ⟨x, hx, rfl, fun h => h⟩

theorem Extends.trans {r s t : IdentityRegistry} (h : r.Extends s) (h' : s.Extends t) :
    r.Extends t := by
  intro id x hx
  obtain ⟨y, hy, hfingerprint, hrevoked⟩ := h id x hx
  obtain ⟨z, hz, hfingerprint', hrevoked'⟩ := h' id y hy
  exact ⟨z, hz, hfingerprint'.trans hfingerprint, fun h => hrevoked' (hrevoked h)⟩

theorem Change.extends {result : Except IdentityRegistryError Unit × IdentityRegistry}
    (hchange : Change registry result) : registry.Extends result.2 := by
  intro k y hy
  cases hchange with
  | fail _ => exact ⟨y, hy, rfl, fun h => h⟩
  | @bind x hx =>
    have hne : k ≠ x.id := fun e => hx.1 (e ▸ Finmap.mem_of_lookup_eq_some hy)
    exact ⟨y, (Finmap.lookup_insert_of_ne _ hne).trans hy, rfl, fun h => h⟩
  | @update id x x' hx hupdates =>
    simp only [HashMap.lookup_insert_eq_ite]
    split_ifs with hk
    · subst hk
      obtain rfl : x = y := Option.some.inj (hx.symm.trans hy)
      exact ⟨x', rfl, hupdates.fingerprint_eq, hupdates.2⟩
    · exact ⟨y, hy, rfl, fun h => h⟩

theorem extends_of_run (run : registrySystem.Run registry registry') :
    registry.Extends registry' := by
  refine run.rel Extends.refl (fun _ _ _ => Extends.trans) (fun _ _ _ _ _ => trivial) ?_ trivial
  intro u a v _ hstep
  rw [hstep]
  exact (change_call u a).extends

/-! ### Authorization -/

theorem hasRole_iff : x.hasRole role = true ↔ role ∈ x.roles := by
  simp [MachineIdentity.hasRole]

theorem WellFormed.findByFingerprint_eq_some_iff (h : registry.WellFormed) :
    registry.findByFingerprint fingerprint = some x ↔
      (∃ id, registry.identities.lookup id = some x) ∧
        x.certificateFingerprintSha256 = fingerprint := by
  rw [findByFingerprint, Option.bind_eq_some_iff]
  constructor
  · rintro ⟨id, hid, hx⟩
    obtain ⟨y, hy, hfingerprint⟩ := (h.fingerprints fingerprint id).mp hid
    obtain rfl : y = x := Option.some.inj (hy.symm.trans hx)
    exact ⟨⟨id, hx⟩, Option.some.inj hfingerprint⟩
  · rintro ⟨⟨id, hx⟩, rfl⟩
    exact ⟨id, (h.fingerprints _ id).mpr ⟨x, hx, rfl⟩, hx⟩

/-- The identity that is authorized is the active one with the fingerprint and the role. -/
theorem WellFormed.authorize_eq_ok_iff (h : registry.WellFormed) :
    registry.authorize fingerprint role = .ok x ↔
      (∃ id, registry.identities.lookup id = some x) ∧
        x.certificateFingerprintSha256 = fingerprint ∧ x.status = .active ∧ role ∈ x.roles := by
  rw [← and_assoc, ← h.findByFingerprint_eq_some_iff, authorize]
  cases registry.findByFingerprint fingerprint with
  | none => simp
  | some y =>
    have hactive : y.status.isActive = true ↔ y.status = .active := by
      cases y.status <;> simp [IdentityStatus.isActive]
    by_cases hstatus : y.status.isActive = true
    · by_cases hrole : y.hasRole role = true
      · simp only [hstatus, hrole, Bool.not_true, Bool.false_eq_true, if_false, Except.ok.injEq,
          Option.some.injEq]
        refine ⟨fun e => ⟨e, e ▸ hactive.mp hstatus, e ▸ hasRole_iff.mp hrole⟩, fun e => e.1⟩
      · simp only [hstatus, hrole, Bool.not_true, Bool.false_eq_true, if_false, Bool.not_false,
          if_true, reduceCtorEq, false_iff, Option.some.injEq, not_and]
        rintro rfl _ hmem
        exact hrole (hasRole_iff.mpr hmem)
    · simp only [hstatus, Bool.not_false, if_true, reduceCtorEq, false_iff, Option.some.injEq,
        not_and]
      rintro rfl hmem
      exact absurd (hactive.mpr hmem) hstatus

/-- A revoked identity is not authorized, and its fingerprint is not bound again. -/
theorem WellFormed.refuses_of_revoked (h : registry.WellFormed)
    (hx : registry.identities.lookup id = some x) (hrevoked : x.status = .revoked) :
    (∀ role, ∃ e, registry.authorize x.certificateFingerprintSha256 role = .error e) ∧
      ∀ y : MachineIdentity, y.certificateFingerprintSha256 = x.certificateFingerprintSha256 →
        ∃ e, (registry.register y).1 = .error e := by
  have hbound : registry.fingerprints.lookup x.certificateFingerprintSha256 = some id :=
    (h.fingerprints _ id).mpr ⟨x, hx, rfl⟩
  refine ⟨fun role => ?_, fun y hy => ?_⟩
  · cases hresult : registry.authorize x.certificateFingerprintSha256 role with
    | error e => exact ⟨e, rfl⟩
    | ok y =>
      obtain ⟨⟨k, hk⟩, hfingerprint, hactive, -⟩ := h.authorize_eq_ok_iff.mp hresult
      have hkey : k = id :=
        h.fingerprints.key_unique hk hx (congrArg some hfingerprint) rfl
      subst hkey
      obtain rfl : x = y := Option.some.inj (hx.symm.trans hk)
      rw [hrevoked] at hactive
      cases hactive
  · have hnot : ¬registry.Accepts y := fun hacc => by
      rw [Accepts, hy, hbound] at hacc
      cases hacc.2
    obtain ⟨e, he⟩ := register_of_not_accepts hnot
    exact ⟨e, by rw [he]⟩

/-- **Binding and authorization along every run.** After any sequence of calls, successful and
failing: identifiers and fingerprints are unique and the map of the fingerprints is exactly that
of the registered identities; a call that fails changes nothing; the identity authorized for a
fingerprint and a role is the registered one with this fingerprint, if it is active and has the
role; and once an identity has been revoked, in every continuation its fingerprint is authorized
for no role and cannot be registered again. -/
theorem authorization_of_run (run : registrySystem.Run new registry) :
    ((∀ id x, registry.identities.lookup id = some x → x.id = id) ∧
      (∀ id id' x x', registry.identities.lookup id = some x →
        registry.identities.lookup id' = some x' →
        x.certificateFingerprintSha256 = x'.certificateFingerprintSha256 → id = id') ∧
      ∀ fingerprint id, registry.fingerprints.lookup fingerprint = some id ↔
        ∃ x, registry.identities.lookup id = some x ∧
          x.certificateFingerprintSha256 = fingerprint) ∧
    (∀ call e, (registry.call call).1 = .error e → (registry.call call).2 = registry) ∧
    (∀ fingerprint role x, registry.authorize fingerprint role = .ok x ↔
      (∃ id, registry.identities.lookup id = some x) ∧
        x.certificateFingerprintSha256 = fingerprint ∧ x.status = .active ∧ role ∈ x.roles) ∧
    ∀ now id, (registry.revoke now id).1 = .ok () →
      ∃ x, registry.identities.lookup id = some x ∧
        ∀ later (_ : registrySystem.Run (registry.revoke now id).2 later),
          (∀ role, ∃ e, later.authorize x.certificateFingerprintSha256 role = .error e) ∧
          ∀ y : MachineIdentity,
            y.certificateFingerprintSha256 = x.certificateFingerprintSha256 →
            ∃ e, (later.register y).1 = .error e := by
  have h : registry.WellFormed := wellFormed_of_run run
  refine ⟨⟨h.id_eq, fun id id' x x' hx hx' heq => ?_, fun fingerprint id => ?_⟩,
    fun call e he => (change_call registry call).eq_of_error he,
    fun fingerprint role x => h.authorize_eq_ok_iff, fun now id hok => ?_⟩
  · exact h.fingerprints.key_unique hx hx' rfl (congrArg some heq.symm)
  · simpa only [Option.some.injEq] using h.fingerprints fingerprint id
  · rcases registry.modify_cases id (MachineIdentity.revoke now) with hfail | ⟨x, hx, hrevoke⟩
    · rw [IdentityRegistry.revoke, hfail] at hok
      cases hok
    · refine ⟨x, hx, fun later continuation => ?_⟩
      have hfirst : (registry.revoke now id).2.identities.lookup id = some (x.revoke now) := by
        rw [IdentityRegistry.revoke, hrevoke]
        exact Finmap.lookup_insert _
      obtain ⟨x', hx', hfingerprint, hrevoked⟩ := extends_of_run continuation id _ hfirst
      have hlater : later.WellFormed := by
        refine continuation.invariant (fun u a v hu hstep => ?_) ?_
        · rw [hstep]
          exact (change_call u a).wellFormed hu
        · exact (change_modify registry id (MachineIdentity.updates_revoke now)).wellFormed h
      have hrefuses := hlater.refuses_of_revoked hx' (hrevoked rfl)
      rwa [hfingerprint] at hrefuses

/-- A registry whose only identity, with one role, was registered. -/
def sampleRegistry : IdentityRegistry :=
  (new.call (.register ((MachineIdentity.new 1 0 "agent" .workload "aa").withRole "issue"))).2

def sampleRun : registrySystem.Run new sampleRegistry :=
  .snoc .nil (.register ((MachineIdentity.new 1 0 "agent" .workload "aa").withRole "issue")) rfl

/-- The identity is authorized until it is revoked, and not after it is enabled again. -/
theorem authorization_of_run_sampleRegistry :
    (∃ x, sampleRegistry.authorize "aa" "issue" = .ok x) ∧
      ∃ e, ((sampleRegistry.revoke 5 1).2.enable 6 1).2.authorize "aa" "issue" = .error e := by
  refine ⟨⟨(MachineIdentity.new 1 0 "agent" .workload "aa").withRole "issue", by decide⟩, ?_⟩
  obtain ⟨x, hx, hlater⟩ := (authorization_of_run sampleRun).2.2.2 5 1 rfl
  obtain rfl : (MachineIdentity.new 1 0 "agent" .workload "aa").withRole "issue" = x :=
    Option.some.inj hx
  exact (hlater _ (.snoc .nil (.enable 6 1) rfl)).1 "issue"

end IdentityRegistry

end DaemonPki
