import OmarchySync.Trust.Host
import OmarchySync.Trust.Validate

/-!
# The pairing store

The six operations on the pairing directories. Broker approvals and identity signatures are
recorded in the journal as they happen, whether or not the operation succeeds later.
-/

namespace OmarchySync

open Logic Wire

/-- A marker proving that a local user-presence check approved this peer. -/
structure AuthorizationGrant where
  userPresence : Text

/-- Local policy boundary. -/
abbrev AuthorizationBroker := DeviceCertificate → Result AuthorizationGrant

/-- What a call takes from the operating system. -/
structure Env where
  stamp : Stamp
  order : ReadDir

/-- The two records belong to one attempt under one PairID. -/
def ensureSameBinding (old new : PairingRecord) : Result Unit := do
  bailIf (old.pairId ≠ new.pairId ∨ old.initiatorDeviceId ≠ new.initiatorDeviceId ∨
    old.responderDeviceId ≠ new.responderDeviceId ∨ old.sessionBinding ≠ new.sessionBinding)
    "conflicting pairing record already exists"
  let oldBytes ← old.signingBytes
  let newBytes ← new.signingBytes
  bailIf (oldBytes ≠ newBytes) "conflicting pairing record already exists"

/-- The record binds the two devices in either role. -/
def PairingRecord.binds (r : PairingRecord) (first second : Text) : Prop :=
  (r.initiatorDeviceId = first ∧ r.responderDeviceId = second) ∨
    (r.initiatorDeviceId = second ∧ r.responderDeviceId = first)

instance (r : PairingRecord) (first second : Text) : Decidable (r.binds first second) :=
  inferInstanceAs (Decidable (_ ∨ _))

section Files

variable [Serde]

def readRecord (h : Host) (folder : Folder) (name : FileName) : Result (Option PairingRecord) :=
  match h.file folder name with
  | none => .ok none
  | some bytes => do return some (← PairingRecord.fromBytes bytes)

def recordPath (pairId : Text) : Result FileName := do
  checkedPairId pairId
  return recordFile pairId

def writePending (env : Env) (record : PairingRecord) : StoreM Unit := do
  let path ← recordPath record.pairId
  let h ← Traced.read
  if (h.file .pending path).isSome then do
    let old ← readRecord h .pending path
    let old ← someOr "pending pairing path disappeared" old
    ensureSameBinding old record
    if old.isComplete then return ()
    let bytes ← record.toBytes
    writeAtomic env.stamp .pending path bytes
  else do
    let bytes ← record.toBytes
    writeAtomic env.stamp .pending path bytes

/-- One round of the loop in `removeStalePending`. -/
def removeStaleEntry (active : PairingRecord) (name : FileName) : StoreM Unit := do
  let h ← Traced.read
  match ← readRecord h .pending name with
  | none => return ()
  | some pending =>
      if pending.binds active.initiatorDeviceId active.responderDeviceId then
        Traced.step .removePending (·.drop .pending name)
      else return ()

/-- Remove the pending records of the two devices an active record binds. -/
def removeStalePending (env : Env) (active : PairingRecord) : StoreM Unit := do
  let h ← Traced.read
  Traced.forEach (removeStaleEntry active) (env.order.enumerate (h.trust .pending))

def persistActive (env : Env) (record : PairingRecord) : StoreM Unit := do
  let path ← recordPath record.pairId
  let h ← Traced.read
  bailIf ((h.file .revoked path).isSome) "pairing PairID has been revoked"
  if (h.file .active path).isSome then do
    let existing ← readRecord h .active path
    let existing ← someOr "pairing path disappeared" existing
    bailIf (existing ≠ record) "conflicting pairing record already exists"
    removeStalePending env record
  else do
    let bytes ← record.toBytes
    writeAtomic env.stamp .active path bytes
    removeStalePending env record

end Files

section Operations

variable [Crypto] [Noise]

def localRole (session : AuthenticatedPairingSession) : UInt8 :=
  if session.isInitiator then roleInitiator else roleResponder

/-- The other role of a session. -/
def peerRole (session : AuthenticatedPairingSession) : UInt8 :=
  if session.isInitiator then roleResponder else roleInitiator

def recordFromSession (session : AuthenticatedPairingSession) (pairId : Text)
    (grant : AuthorizationGrant) (identity : DeviceIdentity) : Result PairingRecord := do
  let (initiator, responder) := session.certificatesByRole
  let initiatorCertificate ← initiator.toBytes
  let responderCertificate ← responder.toBytes
  return {
    protocolVersion := protocolVersion
    domain := recordDomain
    pairId
    initiatorDeviceId := initiator.deviceId
    responderDeviceId := responder.deviceId
    initiatorPublicKey := initiator.publicKey
    responderPublicKey := responder.publicKey
    initiatorCertificate
    responderCertificate
    sessionBinding := session.sessionBinding
    authorizingDeviceId := identity.deviceId
    userPresence := grant.userPresence
    authorizedAt := 0
    initiatorSignature := none
    responderSignature := none }

def validateSessionIdentity (session : AuthenticatedPairingSession) (identity : DeviceIdentity) :
    Result Unit :=
  bailIf (identity.deviceId ≠ session.localDeviceId ∨
    identity.publicKey ≠ session.localCertificate.publicKey)
    "local identity does not match authenticated pairing session"

/-- Sign the record's canonical bytes under a role; the signature enters the journal. -/
def signRecord (identity : DeviceIdentity) (record : PairingRecord) (role : UInt8) :
    StoreM (Array8 64) := do
  let message ← record.signingBytes
  Traced.step .sign (·.log (.signed (.record record role)))
  return identity.sign (message ++ [role])

namespace PairingStore

variable [Serde]

def prepare (store : PairingStore) (env : Env) (session : AuthenticatedPairingSession)
    (identity : DeviceIdentity) (broker : AuthorizationBroker) : StoreM PairingRecord := do
  validateSessionIdentity session identity
  let grant ← context "local pairing authorization denied" (broker session.peerCertificate)
  Traced.step .approve (·.log (.approved session.peerCertificate))
  bailIf (grant.userPresence.bytes = [] ∨ grant.userPresence.len > maxMarkerBytes)
    "invalid user-presence marker"
  let record ← recordFromSession session session.pairId grant identity
  let record := { record with authorizedAt := store.now }
  let signature ← signRecord identity record (localRole session)
  let record := record.setSignature (localRole session) signature
  store.validateRecord record session identity false true false
  writePending env record
  return record

def coSign (store : PairingStore) (env : Env) (session : AuthenticatedPairingSession)
    (identity : DeviceIdentity) (pending : PairingRecord) : StoreM PairingRecord := do
  validateSessionIdentity session identity
  bailIf (pending.isComplete) "pairing record is already fully signed"
  store.validateRecord pending session identity false true false
  bailIf ((pending.signatureFor (localRole session)).isSome)
    "local identity has already signed this record"
  let signature ← signRecord identity pending (localRole session)
  let complete := pending.setSignature (localRole session) signature
  store.validateRecord complete session identity true true false
  writePending env complete
  return complete

def resumePrepare (store : PairingStore) (env : Env) (session : AuthenticatedPairingSession)
    (identity : DeviceIdentity) (pending : PairingRecord) : StoreM PairingRecord := do
  validateSessionIdentity session identity
  store.validatePendingStored pending
  bailIf (pending.authorizingDeviceId ≠ identity.deviceId)
    "pending authorization belongs to another device"
  let grant : AuthorizationGrant := { userPresence := pending.userPresence }
  let record ← recordFromSession session session.pairId grant identity
  let record := { record with authorizedAt := pending.authorizedAt }
  let signature ← signRecord identity record (localRole session)
  let record := record.setSignature (localRole session) signature
  store.validateRecord record session identity false true false
  writePending env record
  return record

def finalize (store : PairingStore) (env : Env) (session : AuthenticatedPairingSession)
    (identity : DeviceIdentity) (record : PairingRecord) : StoreM Unit := do
  validateSessionIdentity session identity
  store.validateRecord record session identity true true false
  persistActive env record

def reconcile (store : PairingStore) (env : Env) (session : AuthenticatedPairingSession)
    (identity : DeviceIdentity) (record : PairingRecord) : StoreM Unit := do
  validateSessionIdentity session identity
  store.validateRecord record session identity true false true
  persistActive env record

def revoke (store : PairingStore) (pairId : Text) : StoreM Unit := do
  let path ← recordPath pairId
  let h ← Traced.read
  let record ← readRecord h .active path
  let record ← someOr "active pairing record is missing" record
  store.validateStored record
  bailIf ((h.file .revoked path).isSome) "pairing has already been revoked"
  Traced.step .revoke (·.rename .active path .revoked path)

end PairingStore

end Operations

end OmarchySync
