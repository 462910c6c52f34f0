import AgentRoom.Domain.Failures
import AgentRoom.Library.Fallible
import AgentRoom.Library.Ranking
import AgentRoom.Moderation.Action

namespace AgentRoom.Lobby

open Library

abbrev RoomInstanceId := Nat

abbrev MatrixRoomReference := String

abbrev RoomRegion := String

abbrev RoomLanguage := String

inductive RoomCatalogVisibility where
  | publicVisibility
  | unlisted
  | privateVisibility
deriving DecidableEq

inductive RoomCatalogStatus where
  | active
  | frozen
  | archived
deriving DecidableEq

def RoomCatalogStatus.asStr : RoomCatalogStatus → String
  | .active => "active"
  | .frozen => "frozen"
  | .archived => "archived"

structure RoomCatalog where
  id : RoomCatalogId
  kind : RoomCatalogKind
  slug : Option String
  language : Option RoomLanguage
  matrixSpaceId : Option MatrixRoomReference
  visibility : RoomCatalogVisibility
  status : RoomCatalogStatus

def RoomCatalog.isJoinable (catalog : RoomCatalog) : Bool := decide (catalog.status = .active)

def maximumRoomCapacity : Nat := 1000

structure RoomCapacity where
  soft : Nat
  hard : Nat
  positive : 0 < soft
  above : soft < hard
  bounded : hard ≤ maximumRoomCapacity

def RoomCapacity.standard : RoomCapacity := ⟨180, 250, by decide, by decide, by decide⟩

inductive RoomInstanceState where
  | provisioning
  | active
  | draining
  | archived
  | failed
deriving DecidableEq

def RoomInstanceState.asStr : RoomInstanceState → String
  | .provisioning => "provisioning"
  | .active => "active"
  | .draining => "draining"
  | .archived => "archived"
  | .failed => "failed"

def RoomInstanceState.acceptsAllocations (state : RoomInstanceState) : Bool := decide (state = .active)

structure RoomInstance where
  id : RoomInstanceId
  catalogId : RoomCatalogId
  matrixRoomId : MatrixRoomReference
  region : Option RoomRegion
  capacity : RoomCapacity
  allocatedSlots : Nat
  state : RoomInstanceState
  fits : allocatedSlots ≤ capacity.hard

namespace RoomInstance

variable (room : RoomInstance)

def remainingSlots : Nat := room.capacity.hard - room.allocatedSlots

def isAboveSoftCapacity : Bool := decide (room.capacity.soft ≤ room.allocatedSlots)

def acceptsAllocations : Bool := room.state.acceptsAllocations && decide (0 < room.remainingSlots)

def reserveSlot : DomainResult RoomInstance :=
  if room.state.acceptsAllocations then
    if free : room.allocatedSlots < room.capacity.hard then .ok { room with allocatedSlots := room.allocatedSlots + 1, fits := free }
    else .error (.capacityExceeded room.capacity.hard)
  else .error (.invalidTransition "room_instance" room.state.asStr "reserved")

def releaseSlot : DomainResult RoomInstance :=
  if 0 < room.allocatedSlots then
    .ok { room with allocatedSlots := room.allocatedSlots - 1, fits := Nat.le_trans (Nat.sub_le ..) room.fits }
  else .error (.invariantViolation "room_instance" "不能释放不存在的容量槽位")

end RoomInstance

inductive RoomRecoveryAffinity where
  | other
  | previous
deriving DecidableEq

inductive RoomInvitationAffinity where
  | none
  | explicit
deriving DecidableEq

inductive RoomPreferenceMatch where
  | different
  | matching
deriving DecidableEq

structure RoomAllocationAffinity where
  recovery : RoomRecoveryAffinity
  friendsInRoom : Nat
  invitation : RoomInvitationAffinity
  language : RoomPreferenceMatch
  region : RoomPreferenceMatch

def RoomAllocationAffinity.keepsSocialContext (affinity : RoomAllocationAffinity) : Bool :=
  decide (affinity.recovery = .previous) || decide (0 < affinity.friendsInRoom) || decide (affinity.invitation = .explicit)

structure RoomAllocationCandidate where
  room : RoomInstance
  affinity : RoomAllocationAffinity

def RoomAllocationCandidate.rankingKey (candidate : RoomAllocationCandidate) : List Nat :=
  [(decide (candidate.affinity.recovery = .previous)).toNat, candidate.affinity.friendsInRoom,
    (decide (candidate.affinity.invitation = .explicit)).toNat, (decide (candidate.affinity.language = .matching)).toNat,
    (decide (candidate.affinity.region = .matching)).toNat, (!candidate.room.isAboveSoftCapacity).toNat,
    candidate.room.allocatedSlots]

def compareCandidates : RoomAllocationCandidate → RoomAllocationCandidate → Ordering :=
  compareLex (compareOn RoomAllocationCandidate.rankingKey) (fun left right => compare right.room.id left.room.id)

inductive RoomAllocationDecision where
  | reserve (room : RoomInstanceId)
  | provisionNew

def bestCandidate (candidates : List RoomAllocationCandidate) : Option RoomAllocationCandidate :=
  maxBy compareCandidates (candidates.filter fun candidate => candidate.room.acceptsAllocations)

def chooseRoomInstance (candidates : List RoomAllocationCandidate) : RoomAllocationDecision :=
  match bestCandidate candidates with
  | none => .provisionNew
  | some best =>
    if best.room.isAboveSoftCapacity && !best.affinity.keepsSocialContext then .provisionNew else .reserve best.room.id

def chooseManualRoomInstance (candidate : RoomAllocationCandidate) : DomainResult RoomAllocationDecision :=
  if candidate.room.state.acceptsAllocations then
    if candidate.room.remainingSlots = 0 then .error (.capacityExceeded candidate.room.capacity.hard)
    else .ok (.reserve candidate.room.id)
  else .error (.invalidTransition "room_instance" candidate.room.state.asStr "reserved")

instance : Std.TransCmp compareCandidates := by
  have later : Std.TransCmp (fun left right : RoomAllocationCandidate => compare right.room.id left.room.id) := by
    have : Std.TransCmp (compareOn fun candidate : RoomAllocationCandidate => candidate.room.id) := inferInstance
    exact inferInstanceAs (Std.TransCmp fun left right => compareOn (fun candidate : RoomAllocationCandidate => candidate.room.id) right left)
  unfold compareCandidates
  infer_instance

theorem compare_le_cons (first second : Nat) (firsts seconds : List Nat) :
    (compare (first :: firsts) (second :: seconds)).isLE = true ↔
      first < second ∨ first = second ∧ (compare firsts seconds).isLE = true := by
  rw [List.compare_cons_cons]
  rcases Nat.lt_trichotomy first second with less | rfl | more
  · simp [Nat.compare_eq_lt.mpr less, less]
  · simp
  · simp [Nat.compare_eq_gt.mpr more]
    omega

open Library

abbrev RoomReservationId := Nat

abbrev RoomProvisioningJobId := Nat

abbrev RoomProvisioningLeaseId := Nat

abbrev MatrixRoomAliasLocalpart := String

inductive RoomReservationState where
  | reserved
  | committed
  | released
  | expired
deriving DecidableEq

def RoomReservationState.asStr : RoomReservationState → String
  | .reserved => "reserved"
  | .committed => "committed"
  | .released => "released"
  | .expired => "expired"

structure RoomReservation where
  id : RoomReservationId
  catalogId : RoomCatalogId
  roomInstanceId : RoomInstanceId
  agentInstanceId : AgentInstanceId
  reservedAt : UtcMillis
  expiresAt : UtcMillis
  state : RoomReservationState
  finalizedAt : Option UtcMillis
  later : reservedAt < expiresAt
  consistent : state ≠ .reserved ↔ finalizedAt.isSome = true
  ordered : ∀ time, finalizedAt = some time → reservedAt ≤ time

namespace RoomReservation

variable (reservation : RoomReservation)

def finalized (state : RoomReservationState) (now : UtcMillis) (ends : state ≠ .reserved) (after : reservation.reservedAt ≤ now) :
    RoomReservation :=
  { reservation with
    state
    finalizedAt := some now
    consistent := ⟨fun _ => rfl, fun _ => ends⟩
    ordered := by
      rintro time ⟨⟩
      exact after }

-- Whether something changed is told as well; what did not change is none.
def commit (now : UtcMillis) : DomainResult (Option RoomReservation) :=
  match reservation.state with
  | .reserved =>
    if within : now < reservation.expiresAt ∧ reservation.reservedAt ≤ now then
      .ok (some (reservation.finalized .committed now (by decide) within.2))
    else .error (.invalidTransition "room_reservation" "reserved" "committed_after_expiry")
  | .committed => .ok none
  | .released | .expired => .error (.invalidTransition "room_reservation" reservation.state.asStr "committed")

def release (now : UtcMillis) : DomainResult (Option RoomReservation) :=
  if after : reservation.reservedAt ≤ now then
    match reservation.state with
    | .reserved | .committed => .ok (some (reservation.finalized .released now (by decide) after))
    | .released | .expired => .ok none
  else .error (.validation "room_reservation_released_at" "不能早于预约时间")

def expire (now : UtcMillis) : DomainResult (Option RoomReservation) :=
  match reservation.state with
  | .reserved =>
    if due : reservation.expiresAt ≤ now then
      .ok (some (reservation.finalized .expired now (by decide)
        (Nat.le_trans (Nat.le_of_lt ((UtcMillis.lt_iff).mp reservation.later)) due)))
    else .error (.invalidTransition "room_reservation" "reserved" "expired_before_deadline")
  | .committed | .released | .expired => .ok none

end RoomReservation

structure StoredReservation where
  reservation : RoomReservation
  agentId : AgentId

inductive RoomProvisioningTarget where
  | space
  | roomInstance (id : RoomInstanceId) (region : Option RoomRegion)

inductive RoomProvisioningKind where
  | space
  | roomInstance
deriving DecidableEq

namespace RoomProvisioningTarget

def kind : RoomProvisioningTarget → RoomProvisioningKind
  | .space => .space
  | .roomInstance _ _ => .roomInstance

def roomInstanceId : RoomProvisioningTarget → Option RoomInstanceId
  | .space => none
  | .roomInstance id _ => some id

def region : RoomProvisioningTarget → Option RoomRegion
  | .space => none
  | .roomInstance _ region => region

end RoomProvisioningTarget

structure RoomProvisioningLease where
  id : RoomProvisioningLeaseId
  expiresAt : UtcMillis

-- A row of room_provisioning_job; one that is not pending is completed.
structure JobRow where
  id : RoomProvisioningJobId
  catalogId : RoomCatalogId
  target : RoomProvisioningTarget
  aliasLocalpart : MatrixRoomAliasLocalpart
  matrixRoomId : Option MatrixRoomReference
  pending : Bool
  lease : Option RoomProvisioningLease
  createdAt : UtcMillis

structure LobbyStore where
  catalogs : List RoomCatalog
  rooms : List RoomInstance
  reservations : List StoredReservation
  jobs : List JobRow
  authorized : AgentId → AgentInstanceId → Bool

namespace LobbyStore

variable (store : LobbyStore)

def catalog (id : RoomCatalogId) : Option RoomCatalog := store.catalogs.find? fun catalog => decide (catalog.id = id)

def room (id : RoomInstanceId) : Option RoomInstance := store.rooms.find? fun room => decide (room.id = id)

def reservation (id : RoomReservationId) : Option StoredReservation :=
  store.reservations.find? fun stored => decide (stored.reservation.id = id)

def job (id : RoomProvisioningJobId) : Option JobRow := store.jobs.find? fun row => decide (row.id = id)

end LobbyStore

-- Reads by a key: the first row, the only one where the key is.
def orElse {α : Type} (error : RepositoryErrorKind) (found : Option α) : Except RepositoryErrorKind α :=
  match found with
  | some value => .ok value
  | none => .error error

theorem or_else_ok (error : RepositoryErrorKind) (found : Option α) (value : α) :
    orElse error found = .ok value ↔ found = some value := by
  cases found <;> simp [orElse]

theorem find_keyed [DecidableEq κ] (key : α → κ) {rows : List α} (id : κ) (row : α)
    (found : (rows.find? fun row => decide (key row = id)) = some row) : row ∈ rows ∧ key row = id :=
  ⟨List.mem_of_find?_eq_some found, of_decide_eq_true (@List.find?_some _ _ row rows found)⟩

section

variable (store : LobbyStore)

theorem catalog_found {id : RoomCatalogId} (found : store.catalog id = some catalog) :
    catalog ∈ store.catalogs ∧ catalog.id = id := find_keyed RoomCatalog.id id catalog found

theorem job_found {id : RoomProvisioningJobId} (found : store.job id = some row) : row ∈ store.jobs ∧ row.id = id :=
  find_keyed JobRow.id id row found

end

end AgentRoom.Lobby
