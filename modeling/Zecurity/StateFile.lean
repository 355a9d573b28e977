import Zecurity.ShieldResources

/-!
The shield's state and its file `state.json` (`shield/src/types.rs`), and the functions that
change both: the controller-signed peer list and resource set
(`shield/src/control_stream.rs`, `shield/src/peer_list.rs`) and the certificate renewal
(`shield/src/renewal.rs`).

The file is what a reader makes of it: the fields of `ShieldStateOnDisk`, or nothing if it is
missing or does not parse. Signatures are not computed: a signed message says whether it verifies
under the Workspace CA key, and what its payload decodes to.
-/

namespace Zecurity.StateFile

open ShieldResources

structure ConnectorRef where
  connectorId : String
  connectorAddr : String
  deriving DecidableEq

structure ShieldState where
  shieldId : String
  trustDomain : String
  /-- the connectors to dial, the current one first -/
  connectors : List ConnectorRef
  interfaceAddr : String
  enrolledAt : String
  certNotAfter : Int
  peerListIssuedAtMs : ℕ
  resourceGenerationFloor : ℕ

/-- The file, with the list of connectors and the single connector of older files. -/
structure ShieldStateOnDisk where
  shieldId : String
  trustDomain : String
  connectors : List ConnectorRef
  connectorId : Option String
  connectorAddr : Option String
  interfaceAddr : String
  enrolledAt : String
  certNotAfter : Int
  peerListIssuedAtMs : ℕ
  resourceGenerationFloor : ℕ

abbrev Disk := Option ShieldStateOnDisk

def ShieldState.ofDisk (v : ShieldStateOnDisk) : ShieldState where
  shieldId := v.shieldId
  trustDomain := v.trustDomain
  connectors :=
    if v.connectors ≠ [] then v.connectors
    else
      match v.connectorId, v.connectorAddr with
      | some id, some addr => [⟨id, addr⟩]
      | _, _ => []
  interfaceAddr := v.interfaceAddr
  enrolledAt := v.enrolledAt
  certNotAfter := v.certNotAfter
  peerListIssuedAtMs := v.peerListIssuedAtMs
  resourceGenerationFloor := v.resourceGenerationFloor

def load (disk : Disk) : Except String ShieldState :=
  match disk with
  | none => .error "failed to read state.json"
  | some file =>
    if (ShieldState.ofDisk file).connectors = [] then
      .error "state file state.json has no connectors — re-enrollment required"
    else .ok (ShieldState.ofDisk file)

/-- What `save` writes: the new shape only. -/
def toFile (state : ShieldState) : ShieldStateOnDisk where
  shieldId := state.shieldId
  trustDomain := state.trustDomain
  connectors := state.connectors
  connectorId := none
  connectorAddr := none
  interfaceAddr := state.interfaceAddr
  enrolledAt := state.enrolledAt
  certNotAfter := state.certNotAfter
  peerListIssuedAtMs := state.peerListIssuedAtMs
  resourceGenerationFloor := state.resourceGenerationFloor

/-- How a write to the file ends: done, failed with the file as it was, or torn, which leaves
a file that does not parse. -/
inductive Write
  | done
  | kept
  | torn
  deriving DecidableEq

def Write.onto (w : Write) (disk : Disk) (file : ShieldStateOnDisk) : Disk :=
  match w with
  | .done => some file
  | .kept => disk
  | .torn => none

def save (state : ShieldState) (w : Write) (disk : Disk) : Disk := w.onto disk (toFile state)

variable {state : ShieldState} {disk : Disk}

lemma ofDisk_toFile (state : ShieldState) : ShieldState.ofDisk (toFile state) = state := by
  cases state with
  | mk sid td cs => cases cs <;> rfl

lemma load_save (h : state.connectors ≠ []) (disk : Disk) :
    load (save state .done disk) = .ok state := by
  simp [load, save, Write.onto, ofDisk_toFile, h]

lemma load_save_nil (h : state.connectors = []) (disk : Disk) :
    ∃ err, load (save state .done disk) = .error err := by
  simp [load, save, Write.onto, ofDisk_toFile, h]

lemma load_ok (h : load disk = .ok state) :
    ∃ file, disk = some file ∧ ShieldState.ofDisk file = state ∧ state.connectors ≠ [] := by
  rcases disk with _ | file
  · cases h
  · simp only [load] at h
    split at h <;> cases h
    next hne => exact ⟨file, rfl, rfl, hne⟩

/-! ### Signed messages -/

/-- A signed message: whether its signature verifies under the Workspace CA key in its context,
and what its payload decodes to. -/
structure Signed (α : Type) where
  verifies : Bool
  payload : Option α

structure PeerListPayload where
  trustDomain : String
  shieldId : String
  issuedAtUnixMs : ℕ
  peers : List ConnectorRef
  deriving DecidableEq

/-- The check that both kinds of message share; `what` names the kind in the errors. -/
def verifySigned {α : Type} (what : String) (trustDomainOf shieldIdOf : α → String)
    (signed : Signed α) (trustDomain shieldId : String) : Except String α :=
  if !signed.verifies then
    .error (what ++ " signature does not verify against the Workspace CA")
  else
    match signed.payload with
    | none => .error (what ++ " payload")
    | some payload =>
      if trustDomainOf payload ≠ trustDomain then
        .error (what ++ " is for trust domain " ++ (trustDomainOf payload).quote ++ ", not " ++
          trustDomain.quote)
      else if shieldIdOf payload ≠ shieldId then
        .error (what ++ " is for shield " ++ (shieldIdOf payload).quote ++ ", not " ++
          shieldId.quote)
      else .ok payload

def verify (signed : Signed PeerListPayload) (trustDomain shieldId : String) :
    Except String PeerListPayload :=
  verifySigned "peer list" PeerListPayload.trustDomain PeerListPayload.shieldId signed trustDomain
    shieldId

def verifyResourceSet (signed : Signed ResourceSetPayload) (trustDomain shieldId : String) :
    Except String ResourceSetPayload :=
  verifySigned "resource set" ResourceSetPayload.trustDomain ResourceSetPayload.shieldId signed
    trustDomain shieldId

/-! ### The peer list -/

/-- The list turned so that the current head stays first, if the list has it. -/
def keepHead (connectors newList : List ConnectorRef) : List ConnectorRef :=
  match connectors with
  | [] => newList
  | head :: _ =>
    match newList.findIdx? fun c => c.connectorId = head.connectorId with
    | some idx => newList.rotate idx
    | none => newList

/-- The state with the connectors and the time of an accepted list. -/
def accepted (state : ShieldState) (payload : PeerListPayload) : ShieldState :=
  { state with
    peerListIssuedAtMs := payload.issuedAtUnixMs
    connectors := keepHead state.connectors payload.peers }

/-- The file keeps its connectors and gets the time of an empty list. -/
def persistIssuedAt (disk : Disk) (issuedAtMs : ℕ) (w : Write) : Disk :=
  match load disk with
  | .error _ => disk
  | .ok onDisk => save { onDisk with peerListIssuedAtMs := issuedAtMs } w disk

/-- The state and the file after `apply_signed_peer_list`, and whether the list was applied. -/
def applySignedPeerList (state : ShieldState) (disk : Disk) (signed : Signed PeerListPayload)
    (w : Write) : ShieldState × Disk × Bool :=
  match verify signed state.trustDomain state.shieldId with
  | .error _ => (state, disk, false)
  | .ok payload =>
    if payload.issuedAtUnixMs ≤ state.peerListIssuedAtMs then (state, disk, false)
    else
      let newState := accepted state payload
      if newState.connectors = [] then
        (newState, persistIssuedAt disk payload.issuedAtUnixMs w, true)
      else (newState, save newState w disk, true)

/-! ### The resource set -/

/-- The end of `apply_signed_resource_set`: a higher generation raises the floor and is saved. -/
def raiseFloor (state : ShieldState) (disk : Disk) (generation : ℕ) (w : Write) :
    ShieldState × Disk :=
  if state.resourceGenerationFloor < generation then
    let state := { state with resourceGenerationFloor := generation }
    (state, save state w disk)
  else (state, disk)

/-! ### Renewal and failover -/

/-- `renew_cert`, by the connector that answered, if one did and its certificate was good. The
new state is taken over only if it was saved. -/
def renewCert (state : ShieldState) (disk : Disk) (selectedIdx : Option ℕ) (certNotAfter : Int)
    (w : Write) : Disk × Except String ShieldState :=
  match selectedIdx.filter fun idx => idx < state.connectors.length with
  | none => (disk, .error "no peer connectors available for renewal")
  | some idx =>
    let newState := { state with
      connectors := state.connectors.rotate idx
      certNotAfter := certNotAfter }
    (save newState w disk,
      if w = .done then .ok newState else .error "failed to save state.json after renewal")

/-- `adopt_failover_head`: the connector that answered becomes the head. -/
def adoptFailoverHead (state : ShieldState) (disk : Disk) (selectedIdx : ℕ) (w : Write) :
    ShieldState × Disk :=
  if 0 < selectedIdx then
    let state := { state with connectors := state.connectors.rotate selectedIdx }
    (state, save state w disk)
  else (state, disk)

lemma keepHead_perm (cs newList : List ConnectorRef) : (keepHead cs newList).Perm newList := by
  unfold keepHead
  split
  · exact List.Perm.refl _
  · split
    · exact List.rotate_perm _ _
    · exact List.Perm.refl _

lemma keepHead_eq_nil {cs newList} : keepHead cs newList = [] ↔ newList = [] := by
  have hp := keepHead_perm cs newList
  constructor
  · intro h
    exact (h ▸ hp).nil_eq.symm
  · rintro rfl
    exact hp.eq_nil

/-- The list verifies for this shield, and is newer than the last one accepted. -/
def Newer (state : ShieldState) (signed : Signed PeerListPayload) (payload : PeerListPayload) :
    Prop :=
  verify signed state.trustDomain state.shieldId = .ok payload ∧
    state.peerListIssuedAtMs < payload.issuedAtUnixMs

variable {floor : ℕ} {sg : Signed PeerListPayload}

lemma applySignedPeerList_of_newer {pl} (h : Newer state sg pl) (disk : Disk) (w : Write) :
    applySignedPeerList state disk sg w = (accepted state pl,
      if pl.peers = [] then persistIssuedAt disk pl.issuedAtUnixMs w
      else save (accepted state pl) w disk, true) := by
  have hn : (accepted state pl).connectors = [] ↔ pl.peers = [] := keepHead_eq_nil
  simp only [applySignedPeerList, h.1, if_neg (Nat.not_le.2 h.2), hn]
  split <;> rfl

lemma applySignedPeerList_of_not_newer (h : ∀ payload, ¬ Newer state sg payload) (disk : Disk)
    (w : Write) : applySignedPeerList state disk sg w = (state, disk, false) := by
  unfold applySignedPeerList
  rcases hv : verify sg state.trustDomain state.shieldId with err | payload
  · rfl
  · have hle : payload.issuedAtUnixMs ≤ state.peerListIssuedAtMs :=
      Nat.le_of_not_lt fun hlt => h payload ⟨hv, hlt⟩
    simp only [hle, if_true]

/-! ### The floor -/

lemma applySignedPeerList_floor (state : ShieldState) (disk : Disk)
    (sg : Signed PeerListPayload) (w : Write) :
    (applySignedPeerList state disk sg w).1.resourceGenerationFloor =
      state.resourceGenerationFloor := by
  unfold applySignedPeerList
  split
  · rfl
  · split
    · rfl
    · simp only
      split <;> rfl

lemma renewCert_floor {mem idx exp w} (h : (renewCert state disk idx exp w).2 = .ok mem) :
    mem.resourceGenerationFloor = state.resourceGenerationFloor := by
  unfold renewCert at h
  split at h
  · cases h
  · simp only at h
    split at h
    · rw [← Except.ok.inj h]
    · cases h

lemma adoptFailoverHead_floor (state : ShieldState) (disk : Disk) (idx : ℕ) (w : Write) :
    (adoptFailoverHead state disk idx w).1.resourceGenerationFloor =
      state.resourceGenerationFloor := by
  unfold adoptFailoverHead
  split <;> rfl

/-- Whatever a reader makes of the file has at least this floor. -/
def KeepsFloor (disk : Disk) (floor : ℕ) : Prop :=
  ∀ state, load disk = .ok state → floor ≤ state.resourceGenerationFloor

lemma KeepsFloor.mono {m n} (h : KeepsFloor disk n) (hle : m ≤ n) : KeepsFloor disk m :=
  fun state hl => hle.trans (h state hl)

lemma KeepsFloor.save (h : KeepsFloor disk floor) (hs : floor ≤ state.resourceGenerationFloor)
    (w : Write) : KeepsFloor (save state w disk) floor := by
  intro loaded hl
  cases w with
  | done =>
    obtain ⟨file, hf, rfl, -⟩ := load_ok hl
    cases hf
    rwa [ofDisk_toFile]
  | kept => exact h loaded hl
  | torn => cases hl

lemma keepsFloor_applySignedPeerList (h : KeepsFloor disk floor)
    (hs : floor ≤ state.resourceGenerationFloor) (sg : Signed PeerListPayload) (w : Write) :
    KeepsFloor (applySignedPeerList state disk sg w).2.1 floor := by
  unfold applySignedPeerList
  split
  · exact h
  · dsimp only
    split_ifs
    · exact h
    · unfold persistIssuedAt
      split
      · exact h
      · next onDisk hl =>
        refine KeepsFloor.save h ?_ w
        exact h onDisk hl
    · refine KeepsFloor.save h ?_ w
      exact hs

lemma keepsFloor_renewCert (h : KeepsFloor disk floor)
    (hs : floor ≤ state.resourceGenerationFloor) (idx : Option ℕ) (exp : Int) (w : Write) :
    KeepsFloor (renewCert state disk idx exp w).1 floor := by
  unfold renewCert
  split
  · exact h
  · refine KeepsFloor.save h ?_ w
    exact hs

lemma keepsFloor_adoptFailoverHead (h : KeepsFloor disk floor)
    (hs : floor ≤ state.resourceGenerationFloor) (idx : ℕ) (w : Write) :
    KeepsFloor (adoptFailoverHead state disk idx w).2 floor := by
  unfold adoptFailoverHead
  split
  · refine KeepsFloor.save h ?_ w
    exact hs
  · exact h

/-- A save that succeeds leaves the floor of the generation in the file, if the file had the floor
of the state or the generation is above it. -/
lemma keepsFloor_raiseFloor {generation : ℕ}
    (h : state.resourceGenerationFloor < generation ∨
      KeepsFloor disk state.resourceGenerationFloor) :
    KeepsFloor (raiseFloor state disk generation .done).2 generation := by
  unfold raiseFloor
  split
  · intro loaded hl
    obtain ⟨file, hf, rfl, -⟩ := load_ok hl
    cases hf
    rw [ofDisk_toFile]
  · next hge =>
    intro loaded hl
    exact (Nat.le_of_not_lt hge).trans (h.resolve_left hge loaded hl)

lemma raiseFloor_floor (state : ShieldState) (disk : Disk) (generation : ℕ) (w : Write) :
    (raiseFloor state disk generation w).1.resourceGenerationFloor =
      max state.resourceGenerationFloor generation := by
  unfold raiseFloor
  split
  · next hlt => exact (max_eq_right hlt.le).symm
  · next hge => exact (max_eq_left (Nat.le_of_not_lt hge)).symm

end Zecurity.StateFile
