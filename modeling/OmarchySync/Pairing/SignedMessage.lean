import OmarchySync.Announcement
import OmarchySync.Pairing.Peer
import OmarchySync.Trust.Binding

/-!
# Everything that is ever signed

The five encoders whose output an issuer or a device signs. Together they are injective: the
signed bytes determine the encoder, and what it was applied to.
-/

namespace OmarchySync

open Logic Wire

/-- The arguments of `makeTranscript`. -/
structure TranscriptFields where
  hash : Array8 32
  mode : UInt8
  pairId : Text
  initiatorCert : DeviceCertificate
  responderCert : DeviceCertificate
  initiatorStatic : Array8 32
  responderStatic : Array8 32

inductive SignedMessage where
  | certificate (c : DeviceCertificate)
  | discovery (announcement : DiscoveryAnnouncement)
  | route (deviceId : Text)
  | transcript (t : TranscriptFields) (role : UInt8)
  | record (r : PairingRecord) (role : UInt8)

namespace SignedMessage

/-- The bytes that are signed. -/
def bytes : SignedMessage → Result Bytes
  | certificate c => c.signingBytes
  | discovery announcement => announcement.signingBytes
  | route deviceId => .ok (routeMagic ++ deviceId.bytes)
  | transcript t role => do
      let transcript ← makeTranscript t.hash t.mode t.pairId t.initiatorCert t.responderCert
        t.initiatorStatic t.responderStatic
      return signedMessage transcript role
  | record r role => do return (← r.signingBytes) ++ [role]

/-- The message without the signatures that its own object carries. -/
def content : SignedMessage → SignedMessage
  | certificate c => certificate c.unsigned
  | discovery announcement => discovery announcement.unsigned
  | record r role => record r.unsigned role
  | message => message

/-- The bytes at which the five magics differ. -/
def mark (bs : Bytes) : Option UInt8 × Option UInt8 :=
  (bs[8]?, if bs[8]? = some 83 then bs[24]? else none)

/-- The marks of the five kinds. -/
def kindMark : SignedMessage → Option UInt8 × Option UInt8
  | certificate _ => (some 67, none)
  | discovery _ => (some 68, none)
  | route _ => (some 82, none)
  | transcript _ _ => (some 83, some 83)
  | record _ _ => (some 83, some 82)

private theorem mark_bytes {m : SignedMessage} {bs : Bytes} (h : m.bytes = .ok bs) :
    mark bs = m.kindMark := by
  cases m with
  | certificate c =>
      obtain ⟨-, rfl⟩ := (DeviceCertificate.signingBytes_eq_ok ..).mp h
      rfl
  | discovery a =>
      obtain ⟨-, _, -, rfl⟩ := (DiscoveryAnnouncement.signingBytes_eq_ok ..).mp h
      rfl
  | route deviceId =>
      obtain rfl := Except.ok.inj h
      rfl
  | transcript t role =>
      simp only [bytes, bind_eq_ok, pure_eq_ok] at h
      obtain ⟨_, -, rfl⟩ := h
      rfl
  | record r role =>
      simp only [bytes, bind_eq_ok, pure_eq_ok, PairingRecord.signingBytes_eq_ok] at h
      obtain ⟨_, ⟨-, rfl⟩, rfl⟩ := h
      rfl

private theorem certificate_inj {c c' : DeviceCertificate} {bs : Bytes}
    (h : (certificate c).bytes = .ok bs) (h' : (certificate c').bytes = .ok bs) :
    c.unsigned = c'.unsigned := by
  obtain ⟨hc, rfl⟩ := (DeviceCertificate.signingBytes_eq_ok ..).mp h
  obtain ⟨hc', heq⟩ := (DeviceCertificate.signingBytes_eq_ok ..).mp h'
  exact (DeviceCertificate.layout_inj hc hc' heq).1

private theorem discovery_inj {a a' : DiscoveryAnnouncement} {bs : Bytes}
    (h : (discovery a).bytes = .ok bs) (h' : (discovery a').bytes = .ok bs) :
    a.unsigned = a'.unsigned := by
  obtain ⟨-, certificate, hcert, rfl⟩ := (DiscoveryAnnouncement.signingBytes_eq_ok ..).mp h
  obtain ⟨-, certificate', hcert', heq⟩ := (DiscoveryAnnouncement.signingBytes_eq_ok ..).mp h'
  exact (DiscoveryAnnouncement.layout_inj hcert hcert' heq).1

private theorem transcript_inj {t t' : TranscriptFields} {role role' : UInt8} {bs : Bytes}
    (h : (transcript t role).bytes = .ok bs) (h' : (transcript t' role').bytes = .ok bs) :
    t = t' ∧ role = role' := by
  simp only [bytes, bind_eq_ok, pure_eq_ok] at h h'
  obtain ⟨out, hout, rfl⟩ := h
  obtain ⟨out', hout', heq⟩ := h'
  obtain ⟨rfl, hrole⟩ := List.append_inj' (List.append_cancel_left heq) rfl
  obtain ⟨⟨hhash, hmode, hpair, hinitiator, hresponder⟩, hstatic, hstatic'⟩ :=
    makeTranscript_inj hout hout'
  cases t
  cases t'
  simp only at hhash hmode hpair hinitiator hresponder hstatic hstatic'
  subst hhash hmode hpair hinitiator hresponder hstatic hstatic'
  exact ⟨rfl, (List.singleton_inj.mp hrole).symm⟩

private theorem record_inj {r r' : PairingRecord} {role role' : UInt8} {bs : Bytes}
    (h : (record r role).bytes = .ok bs) (h' : (record r' role').bytes = .ok bs) :
    r.unsigned = r'.unsigned ∧ role = role' := by
  simp only [bytes, bind_eq_ok, pure_eq_ok, PairingRecord.signingBytes_eq_ok] at h h'
  obtain ⟨_, ⟨hr, rfl⟩, rfl⟩ := h
  obtain ⟨_, ⟨hr', rfl⟩, heq⟩ := h'
  rw [PairingRecord.layout_append, PairingRecord.layout_append] at heq
  obtain ⟨hunsigned, hrole⟩ := PairingRecord.layout_inj hr' hr heq
  exact ⟨hunsigned.symm, (List.singleton_inj.mp hrole).symm⟩

private theorem content_eq_of_bytes {m m' : SignedMessage} {bs : Bytes} (h : m.bytes = .ok bs)
    (h' : m'.bytes = .ok bs) : m.content = m'.content := by
  have hkind : m.kindMark = m'.kindMark := (mark_bytes h).symm.trans (mark_bytes h')
  cases m with
  | certificate c =>
      cases m' with
      | certificate c' => rw [content, content, certificate_inj h h']
      | _ => simp [kindMark] at hkind
  | discovery a =>
      cases m' with
      | discovery a' => rw [content, content, discovery_inj h h']
      | _ => simp [kindMark] at hkind
  | route deviceId =>
      cases m' with
      | route deviceId' =>
          have heq := List.append_cancel_left ((Except.ok.inj h).trans (Except.ok.inj h').symm)
          rw [Text.ext heq]
      | _ => simp [kindMark] at hkind
  | transcript t role =>
      cases m' with
      | transcript t' role' =>
          obtain ⟨rfl, rfl⟩ := transcript_inj h h'
          rfl
      | _ => simp [kindMark] at hkind
  | record r role =>
      cases m' with
      | record r' role' =>
          obtain ⟨hunsigned, rfl⟩ := record_inj h h'
          rw [content, content, hunsigned]
      | _ => simp [kindMark] at hkind

end SignedMessage

/-- The five encoders are jointly injective, so a verifier that accepts only what was signed
accepts a message only when exactly its content was signed, in its context and role. -/
theorem signed_messages_unambiguous :
    (∀ (m m' : SignedMessage) (bs : Bytes), m.bytes = .ok bs → m'.bytes = .ok bs →
      m.content = m'.content) ∧
    (∀ (signed : SignedMessage → Prop) (accepts : Bytes → Prop),
      (∀ bs, accepts bs → ∃ m, signed m ∧ m.bytes = .ok bs) →
      ∀ (m' : SignedMessage) (bs : Bytes), m'.bytes = .ok bs → accepts bs →
        ∃ m, signed m ∧ m.content = m'.content) := by
  constructor
  · intro m m' bs h h'
    exact SignedMessage.content_eq_of_bytes h h'
  · intro signed accepts hideal m' bs h' haccepted
    obtain ⟨m, hsigned, h⟩ := hideal bs haccepted
    exact ⟨m, hsigned, SignedMessage.content_eq_of_bytes h h'⟩

namespace Loopback

attribute [local instance] crypto

/-- The initiator signs a record that the responder has signed as one that nobody has. -/
theorem signed_messages_unambiguous_record :
    (SignedMessage.record (recordOf 7 1 2 2 100) roleInitiator).content =
      (SignedMessage.record (signedBy (recordOf 7 1 2 2 100) 2 roleResponder)
        roleInitiator).content := by
  have hok : (SignedMessage.record (recordOf 7 1 2 2 100) roleInitiator).bytes.isOk = true := by
    decide +kernel
  obtain ⟨bs, hbytes⟩ := (isOk_iff _).mp hok
  have hsigned : (SignedMessage.record (signedBy (recordOf 7 1 2 2 100) 2 roleResponder)
      roleInitiator).bytes = .ok bs := by
    rw [← hbytes]
    simp only [SignedMessage.bytes, signedBy, PairingRecord.signingBytes_setSignature]
  exact signed_messages_unambiguous.1 _ _ bs hbytes hsigned

end Loopback

end OmarchySync
