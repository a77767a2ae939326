import Spdm.Protocol

/-!
# The SPDM context and the collaborators of the requester

`SpdmContext` holds what the two requester flows read and write: the negotiated version and
algorithms, the transcripts `message_a`, `message_b` and `message_m`, the session table with
each session's `message_m`, and the peer certificate chains, in a buffer sized by `Config`.

The two requester files were written against different layouts of the peer information:
`get_certificate_req.rs` writes one chain, `peer_cert_chain.cert_chain`, and
`get_measurements_req.rs` reads per-slot chains; `SpdmPeerInfo` keeps both. Transcript buffers,
the session table and `append_message_m`/`reset_message_m` are not in the fragment and are
modelled from the spec: a bounded buffer whose append writes all of its input or nothing.
Cryptography and the device are parameters, so every theorem holds for every provider and
every responder.
-/

namespace Spdm

/-- The constants of `config.rs`, and those of `crate::protocol` that the flows use, of one
build. -/
structure Config where
  /-- `MAX_SPDM_CERT_CHAIN_DATA_SIZE`. -/
  maxSpdmCertChainDataSize : Nat
  /-- `MAX_SPDM_CERT_PORTION_LEN`. -/
  maxSpdmCertPortionLen : Nat
  /-- `MAX_SPDM_MSG_SIZE`, the send buffer of GET_MEASUREMENTS. -/
  maxSpdmMsgSize : Nat
  /-- `MAX_SPDM_TRANSPORT_SIZE`, the send buffer of GET_CERTIFICATE. -/
  maxSpdmTransportSize : Nat
  /-- `MAX_SPDM_OPAQUE_SIZE`. -/
  maxSpdmOpaqueSize : Nat
  /-- The capacity of `ManagedBufferL1L2`. -/
  l1l2BufferSize : Nat
  /-- The capacity of `ManagedBuffer12Sign`. -/
  sign12BufferSize : Nat
  /-- `SPDM_VERSION_1_2_SIGNING_PREFIX_CONTEXT`. -/
  spdmVersion12SigningPrefixContext : List UInt8
  /-- `SPDM_VERSION_1_2_SIGNING_CONTEXT_ZEROPAD_6`. -/
  spdmVersion12SigningContextZeropad6 : List UInt8
  /-- `SPDM_MEASUREMENTS_SIGN_CONTEXT`. -/
  spdmMeasurementsSignContext : List UInt8

/-- Modelled from the spec: `ManagedBuffer`, a transcript of bounded capacity. -/
structure ManagedBuffer where
  capacity : Nat
  data : List UInt8
  data_le : data.length ≤ capacity
  deriving DecidableEq

namespace ManagedBuffer

/-- `ManagedBuffer::default`: an empty buffer. -/
def empty (capacity : Nat) : ManagedBuffer := ⟨capacity, [], Nat.zero_le _⟩

/-- `ManagedBuffer::as_ref`. -/
def asRef (b : ManagedBuffer) : List UInt8 := b.data

/-- `ManagedBuffer::append_message`: all of `bytes`, or `None` when they do not fit. -/
def appendMessage (b : ManagedBuffer) (bytes : List UInt8) : Option ManagedBuffer :=
  if h : b.data.length + bytes.length ≤ b.capacity then
    some ⟨b.capacity, b.data ++ bytes, by simpa using h⟩
  else none

/-- `ManagedBuffer::reset_message`. -/
def resetMessage (b : ManagedBuffer) : ManagedBuffer := empty b.capacity

theorem appendMessage_eq_some {b b' : ManagedBuffer} {bytes : List UInt8} :
    b.appendMessage bytes = some b' ↔
      b.data.length + bytes.length ≤ b.capacity ∧ b'.data = b.data ++ bytes ∧
        b'.capacity = b.capacity := by
  unfold appendMessage
  split
  · next h =>
    simp only [Option.some.injEq, h, true_and]
    constructor
    · rintro rfl; exact ⟨rfl, rfl⟩
    · rcases b' with ⟨c, d, _⟩
      rintro ⟨rfl, rfl⟩; rfl
  · next h => simp [h]

theorem appendMessage_of_le {b : ManagedBuffer} {bytes : List UInt8}
    (h : b.data.length + bytes.length ≤ b.capacity) :
    b.appendMessage bytes = some ⟨b.capacity, b.data ++ bytes, by simpa using h⟩ := by
  simp [appendMessage, h]

theorem appendMessage_append (b : ManagedBuffer) (x y : List UInt8) :
    b.appendMessage (x ++ y) = (b.appendMessage x).bind (·.appendMessage y) := by
  unfold appendMessage
  by_cases h₁ : b.data.length + x.length ≤ b.capacity
  · by_cases h₂ : b.data.length + x.length + y.length ≤ b.capacity <;>
      simp [h₁, h₂, Nat.add_assoc]
  · have : ¬b.data.length + (x ++ y).length ≤ b.capacity := by simp; omega
    simp only [this, h₁, dite_false, Option.none_bind]

@[simp] theorem resetMessage_data (b : ManagedBuffer) : b.resetMessage.data = [] := rfl

@[simp] theorem empty_data (capacity : Nat) : (empty capacity).data = [] := rfl

end ManagedBuffer

/-- Modelled from the spec: a running hash context, by its algorithm and the bytes it has
absorbed. -/
structure SpdmHashCtx where
  algo : SpdmBaseHashAlgo
  absorbed : List UInt8
  deriving DecidableEq

/-- `SpdmSessionRuntimeInfo`: the transcripts of one session. -/
structure SpdmSessionRuntimeInfo where
  messageM : ManagedBuffer
  digestContextL1l2 : Option SpdmHashCtx

/-- `SpdmSession`, as far as the measurement flow uses it. -/
structure SpdmSession where
  sessionId : UInt32
  runtimeInfo : SpdmSessionRuntimeInfo

/-- The session with its measurement transcript replaced. -/
def SpdmSession.setMessageM (s : SpdmSession) (m : ManagedBuffer) : SpdmSession :=
  { s with runtimeInfo := { s.runtimeInfo with messageM := m } }

@[simp] theorem SpdmSession.setMessageM_sessionId (s : SpdmSession) (m : ManagedBuffer) :
    (s.setMessageM m).sessionId = s.sessionId := rfl

@[simp] theorem SpdmSession.setMessageM_setMessageM (s : SpdmSession) (m m' : ManagedBuffer) :
    (s.setMessageM m).setMessageM m' = s.setMessageM m' := rfl

/-- `SpdmNegotiateInfo`: the negotiated version and algorithms. -/
structure SpdmNegotiateInfo where
  spdmVersionSel : SpdmVersion
  baseHashSel : SpdmBaseHashAlgo
  baseAsymSel : SpdmBaseAsymAlgo

/-- `SpdmConfigInfo`: the caller's policies the flows consult. -/
structure SpdmConfigInfo where
  runtimeContentChangeSupport : Bool

/-- `SpdmProvisionInfo`: the pinned peer chain, when one is provisioned. -/
structure SpdmProvisionInfo (cfg : Config) where
  peerCertChainData : Option (SpdmCertChainData cfg.maxSpdmCertChainDataSize)

/-- `SpdmRuntimeInfo`: the transcripts of the connection and the measurement state. -/
structure SpdmRuntimeInfo where
  messageA : ManagedBuffer
  messageB : ManagedBuffer
  messageM : ManagedBuffer
  digestContextL1l2 : Option SpdmHashCtx
  needMeasurementSignature : Bool
  contentChanged : SpdmMeasurementContentChanged

/-- `SpdmPeerInfo`, in the two layouts the requester files use. -/
structure SpdmPeerInfo (cfg : Config) where
  /-- `peer_cert_chain[slot_id]`, read by `get_measurements_req.rs`. -/
  peerCertChain : Fin spdmMaxSlotNumber → Option SpdmCertChainBuffer
  /-- `peer_cert_chain.cert_chain`, written by `get_certificate_req.rs`. -/
  certChain : SpdmCertChainData cfg.maxSpdmCertChainDataSize

/-- `SpdmContext`, the `common` part of a `RequesterContext`. -/
structure SpdmContext (cfg : Config) where
  configInfo : SpdmConfigInfo
  provisionInfo : SpdmProvisionInfo cfg
  negotiateInfo : SpdmNegotiateInfo
  runtimeInfo : SpdmRuntimeInfo
  peerInfo : SpdmPeerInfo cfg
  session : List SpdmSession

/-- Apply `f` to the first session whose id is `id`. -/
def modifySession (f : SpdmSession → SpdmSession) (id : UInt32) :
    List SpdmSession → List SpdmSession
  | [] => []
  | s :: ss => if s.sessionId = id then f s :: ss else s :: modifySession f id ss

theorem find?_modifySession (f : SpdmSession → SpdmSession)
    (hf : ∀ s, (f s).sessionId = s.sessionId) (id : UInt32) (ss : List SpdmSession) :
    (modifySession f id ss).find? (·.sessionId = id) = (ss.find? (·.sessionId = id)).map f := by
  induction ss with
  | nil => rfl
  | cons s ss ih =>
    by_cases h : s.sessionId = id
    · simp [modifySession, h, hf]
    · simp [modifySession, h, ih]

theorem find?_modifySession_ne (f : SpdmSession → SpdmSession)
    (hf : ∀ s, (f s).sessionId = s.sessionId) {id id' : UInt32} (h : id' ≠ id)
    (ss : List SpdmSession) :
    (modifySession f id ss).find? (·.sessionId = id') = ss.find? (·.sessionId = id') := by
  induction ss with
  | nil => rfl
  | cons s ss ih =>
    by_cases hs : s.sessionId = id
    · simp [modifySession, hs, hf, List.find?_cons, Ne.symm h]
    · simp [modifySession, hs, List.find?_cons, ih]

namespace SpdmContext

variable {cfg : Config}

/-- `get_immutable_session_via_id`: the first session with this id. -/
def getImmutableSessionViaId (ctx : SpdmContext cfg) (id : UInt32) : Option SpdmSession :=
  ctx.session.find? (·.sessionId = id)

/-- The measurement transcript of the session, or of the context when `session_id` is
`None`; `None` for an unknown session. -/
def messageM (ctx : SpdmContext cfg) : Option UInt32 → Option ManagedBuffer
  | none => some ctx.runtimeInfo.messageM
  | some id => (ctx.getImmutableSessionViaId id).map (·.runtimeInfo.messageM)

/-- The context with that measurement transcript replaced. -/
def setMessageM (ctx : SpdmContext cfg) : Option UInt32 → ManagedBuffer → SpdmContext cfg
  | none, m => { ctx with runtimeInfo := { ctx.runtimeInfo with messageM := m } }
  | some id, m => { ctx with session := modifySession (·.setMessageM m) id ctx.session }

/-- Modelled from the spec: `SpdmContext::new`, a context of the caller's config and provision
information with everything else zeroed: no version or algorithm negotiated, every transcript
an empty buffer of `capacity`, no peer chain and no session. -/
def new (configInfo : SpdmConfigInfo) (provisionInfo : SpdmProvisionInfo cfg) (capacity : Nat) :
    SpdmContext cfg where
  configInfo := configInfo
  provisionInfo := provisionInfo
  negotiateInfo := ⟨.spdmVersion10, ⟨0⟩, ⟨0⟩⟩
  runtimeInfo := ⟨.empty capacity, .empty capacity, .empty capacity, none, false,
    .notSupported⟩
  peerInfo := ⟨fun _ => none, ⟨0, List.replicate cfg.maxSpdmCertChainDataSize 0,
    List.length_replicate _ _⟩⟩
  session := []

/-- The context with `need_measurement_signature` set to `b`. -/
def setNeedMeasurementSignature (ctx : SpdmContext cfg) (b : Bool) : SpdmContext cfg :=
  { ctx with runtimeInfo := { ctx.runtimeInfo with needMeasurementSignature := b } }

/-- The context with `content_changed` set to `c`. -/
def setContentChanged (ctx : SpdmContext cfg) (c : SpdmMeasurementContentChanged) :
    SpdmContext cfg :=
  { ctx with runtimeInfo := { ctx.runtimeInfo with contentChanged := c } }

/-- The context with the chain `peer_cert_chain.cert_chain` replaced. -/
def setCertChain (ctx : SpdmContext cfg) (c : SpdmCertChainData cfg.maxSpdmCertChainDataSize) :
    SpdmContext cfg :=
  { ctx with peerInfo := { ctx.peerInfo with certChain := c } }

/-- `runtime_info.message_b.append_message(bytes)`: `None` when the bytes do not fit. -/
def appendMessageB (ctx : SpdmContext cfg) (bytes : List UInt8) : Option (SpdmContext cfg) :=
  (ctx.runtimeInfo.messageB.appendMessage bytes).map fun b =>
    { ctx with runtimeInfo := { ctx.runtimeInfo with messageB := b } }

@[simp] theorem setNeedMeasurementSignature_runtimeInfo (ctx : SpdmContext cfg) (b : Bool) :
    (ctx.setNeedMeasurementSignature b).runtimeInfo =
      { ctx.runtimeInfo with needMeasurementSignature := b } := rfl

@[simp] theorem setNeedMeasurementSignature_negotiateInfo (ctx : SpdmContext cfg) (b : Bool) :
    (ctx.setNeedMeasurementSignature b).negotiateInfo = ctx.negotiateInfo := rfl

@[simp] theorem setNeedMeasurementSignature_configInfo (ctx : SpdmContext cfg) (b : Bool) :
    (ctx.setNeedMeasurementSignature b).configInfo = ctx.configInfo := rfl

@[simp] theorem setNeedMeasurementSignature_peerInfo (ctx : SpdmContext cfg) (b : Bool) :
    (ctx.setNeedMeasurementSignature b).peerInfo = ctx.peerInfo := rfl

@[simp] theorem setContentChanged_peerInfo (ctx : SpdmContext cfg)
    (c : SpdmMeasurementContentChanged) : (ctx.setContentChanged c).peerInfo = ctx.peerInfo := rfl

@[simp] theorem setContentChanged_runtimeInfo (ctx : SpdmContext cfg)
    (c : SpdmMeasurementContentChanged) :
    (ctx.setContentChanged c).runtimeInfo = { ctx.runtimeInfo with contentChanged := c } := rfl

@[simp] theorem setContentChanged_negotiateInfo (ctx : SpdmContext cfg)
    (c : SpdmMeasurementContentChanged) :
    (ctx.setContentChanged c).negotiateInfo = ctx.negotiateInfo := rfl

@[simp] theorem setCertChain_peerInfo (ctx : SpdmContext cfg)
    (c : SpdmCertChainData cfg.maxSpdmCertChainDataSize) :
    (ctx.setCertChain c).peerInfo = { ctx.peerInfo with certChain := c } := rfl

@[simp] theorem setCertChain_runtimeInfo (ctx : SpdmContext cfg)
    (c : SpdmCertChainData cfg.maxSpdmCertChainDataSize) :
    (ctx.setCertChain c).runtimeInfo = ctx.runtimeInfo := rfl

@[simp] theorem setCertChain_provisionInfo (ctx : SpdmContext cfg)
    (c : SpdmCertChainData cfg.maxSpdmCertChainDataSize) :
    (ctx.setCertChain c).provisionInfo = ctx.provisionInfo := rfl

@[simp] theorem setCertChain_negotiateInfo (ctx : SpdmContext cfg)
    (c : SpdmCertChainData cfg.maxSpdmCertChainDataSize) :
    (ctx.setCertChain c).negotiateInfo = ctx.negotiateInfo := rfl

@[simp] theorem messageM_setNeedMeasurementSignature (ctx : SpdmContext cfg) (b : Bool) :
    (ctx.setNeedMeasurementSignature b).messageM = ctx.messageM := rfl

@[simp] theorem messageM_setContentChanged (ctx : SpdmContext cfg)
    (c : SpdmMeasurementContentChanged) : (ctx.setContentChanged c).messageM = ctx.messageM := rfl

theorem appendMessageB_eq_some {ctx ctx' : SpdmContext cfg} {bytes : List UInt8} :
    ctx.appendMessageB bytes = some ctx' ↔
      ∃ b, ctx.runtimeInfo.messageB.appendMessage bytes = some b ∧
      ctx' = { ctx with runtimeInfo := { ctx.runtimeInfo with messageB := b } } := by
  simp only [appendMessageB, Option.map_eq_some']
  exact ⟨fun ⟨b, hb, h⟩ => ⟨b, hb, h.symm⟩, fun ⟨b, hb, h⟩ => ⟨b, hb, h.symm⟩⟩

/-- Modelled from the spec: `SpdmContext::append_message_m`, absent from the fragment. It
appends to the measurement transcript of `session_id`, all of `bytes` or nothing; an unknown
session is `InvalidParameter` and a full buffer `BufferFull`. -/
def appendMessageM (ctx : SpdmContext cfg) (sessionId : Option UInt32) (bytes : List UInt8) :
    Except SpdmStatus (SpdmContext cfg) :=
  match ctx.messageM sessionId with
  | none => .error .invalidParameter
  | some m =>
    match m.appendMessage bytes with
    | none => .error .bufferFull
    | some m' => .ok (ctx.setMessageM sessionId m')

/-- Modelled from the spec: `SpdmContext::reset_message_m`, absent from the fragment. It
empties the measurement transcript of `session_id`, when there is one. -/
def resetMessageM (ctx : SpdmContext cfg) (sessionId : Option UInt32) : SpdmContext cfg :=
  match ctx.messageM sessionId with
  | none => ctx
  | some m => ctx.setMessageM sessionId m.resetMessage

@[simp] theorem messageM_setMessageM {ctx : SpdmContext cfg} {sid : Option UInt32}
    {m m' : ManagedBuffer} (h : ctx.messageM sid = some m) :
    (ctx.setMessageM sid m').messageM sid = some m' := by
  cases sid with
  | none => rfl
  | some id =>
    simp only [messageM, getImmutableSessionViaId, Option.map_eq_some'] at h
    obtain ⟨s, hs, -⟩ := h
    simp only [messageM, setMessageM, getImmutableSessionViaId]
    rw [find?_modifySession (·.setMessageM m') (fun _ => rfl), hs]
    rfl

theorem messageM_setMessageM_ne {ctx : SpdmContext cfg} {sid sid' : Option UInt32}
    (m : ManagedBuffer) (h : sid' ≠ sid) :
    (ctx.setMessageM sid m).messageM sid' = ctx.messageM sid' := by
  cases sid with
  | none => cases sid' with
    | none => exact absurd rfl h
    | some _ => rfl
  | some id => cases sid' with
    | none => rfl
    | some id' =>
      simp only [messageM, setMessageM, getImmutableSessionViaId]
      rw [find?_modifySession_ne (·.setMessageM m) (fun _ => rfl)
        (fun h' => h (congrArg some h'))]

@[simp] theorem setMessageM_negotiateInfo (ctx : SpdmContext cfg) (sid : Option UInt32)
    (m : ManagedBuffer) : (ctx.setMessageM sid m).negotiateInfo = ctx.negotiateInfo := by
  cases sid <;> rfl

@[simp] theorem setMessageM_peerInfo (ctx : SpdmContext cfg) (sid : Option UInt32)
    (m : ManagedBuffer) : (ctx.setMessageM sid m).peerInfo = ctx.peerInfo := by
  cases sid <;> rfl

@[simp] theorem setMessageM_messageA (ctx : SpdmContext cfg) (sid : Option UInt32)
    (m : ManagedBuffer) :
    (ctx.setMessageM sid m).runtimeInfo.messageA = ctx.runtimeInfo.messageA := by
  cases sid <;> rfl

@[simp] theorem setMessageM_contentChanged (ctx : SpdmContext cfg) (sid : Option UInt32)
    (m : ManagedBuffer) :
    (ctx.setMessageM sid m).runtimeInfo.contentChanged = ctx.runtimeInfo.contentChanged := by
  cases sid <;> rfl

@[simp] theorem setMessageM_needMeasurementSignature (ctx : SpdmContext cfg)
    (sid : Option UInt32) (m : ManagedBuffer) :
    (ctx.setMessageM sid m).runtimeInfo.needMeasurementSignature =
      ctx.runtimeInfo.needMeasurementSignature := by
  cases sid <;> rfl

@[simp] theorem setMessageM_configInfo (ctx : SpdmContext cfg) (sid : Option UInt32)
    (m : ManagedBuffer) : (ctx.setMessageM sid m).configInfo = ctx.configInfo := by
  cases sid <;> rfl

@[simp] theorem resetMessageM_contentChanged (ctx : SpdmContext cfg) (sid : Option UInt32) :
    (ctx.resetMessageM sid).runtimeInfo.contentChanged = ctx.runtimeInfo.contentChanged := by
  unfold resetMessageM; split <;> simp

theorem setMessageM_setMessageM (ctx : SpdmContext cfg) (sid : Option UInt32)
    (m m' : ManagedBuffer) :
    (ctx.setMessageM sid m).setMessageM sid m' = ctx.setMessageM sid m' := by
  cases sid with
  | none => rfl
  | some id =>
    simp only [setMessageM, mk.injEq, and_true, true_and]
    induction ctx.session with
    | nil => rfl
    | cons s ss ih => by_cases h : s.sessionId = id <;> simp [modifySession, h, ih]

theorem appendMessageM_eq_ok {ctx ctx' : SpdmContext cfg} {sid : Option UInt32}
    {bytes : List UInt8} (h : ctx.appendMessageM sid bytes = .ok ctx') :
    ∃ m m', ctx.messageM sid = some m ∧ m.appendMessage bytes = some m' ∧
      ctx' = ctx.setMessageM sid m' := by
  unfold appendMessageM at h
  split at h
  · cases h
  · next m hm =>
    split at h
    · cases h
    · next m' hm' => exact ⟨m, m', hm, hm', (Except.ok.inj h).symm⟩

theorem appendMessageM_error {ctx : SpdmContext cfg} {sid : Option UInt32}
    {bytes : List UInt8} {e : SpdmStatus} (h : ctx.appendMessageM sid bytes = .error e) :
    ctx.messageM sid = none ∧ e = .invalidParameter ∨
      ∃ m, ctx.messageM sid = some m ∧ m.appendMessage bytes = none ∧ e = .bufferFull := by
  unfold appendMessageM at h
  split at h
  · exact .inl ⟨‹_›, (Except.error.inj h).symm⟩
  · next m hm =>
    split at h
    · exact .inr ⟨m, hm, ‹_›, (Except.error.inj h).symm⟩
    · cases h

theorem appendMessageM_appendMessageM {ctx c₁ c₂ : SpdmContext cfg} {sid : Option UInt32}
    {x y : List UInt8} (h₁ : ctx.appendMessageM sid x = .ok c₁)
    (h₂ : c₁.appendMessageM sid y = .ok c₂) :
    ∃ m m', ctx.messageM sid = some m ∧ m.appendMessage (x ++ y) = some m' ∧
      c₂ = ctx.setMessageM sid m' := by
  obtain ⟨m, m₁, hm, hm₁, rfl⟩ := appendMessageM_eq_ok h₁
  obtain ⟨m₁', m', hm₁', hm', rfl⟩ := appendMessageM_eq_ok h₂
  rw [messageM_setMessageM hm] at hm₁'
  cases hm₁'
  refine ⟨m, m', hm, ?_, setMessageM_setMessageM ..⟩
  rw [ManagedBuffer.appendMessage_append, hm₁]
  exact hm'

theorem appendMessageM_of_append {ctx : SpdmContext cfg} {sid : Option UInt32}
    {m m' : ManagedBuffer} {x y : List UInt8} (hm : ctx.messageM sid = some m)
    (h : m.appendMessage (x ++ y) = some m') :
    ∃ c₁, ctx.appendMessageM sid x = .ok c₁ ∧
      c₁.appendMessageM sid y = .ok (ctx.setMessageM sid m') := by
  rw [ManagedBuffer.appendMessage_append] at h
  obtain ⟨m₁, h₁, h₂⟩ := Option.bind_eq_some.mp h
  refine ⟨ctx.setMessageM sid m₁, by simp [appendMessageM, hm, h₁], ?_⟩
  simp [appendMessageM, messageM_setMessageM hm, h₂, setMessageM_setMessageM]

end SpdmContext

/-- The cryptographic provider the core is given. -/
structure SpdmCrypto where
  /-- `crypto::hash::hash_all`. -/
  hashAll : SpdmBaseHashAlgo → List UInt8 → Option SpdmDigestStruct
  /-- `crypto::asym_verify::verify`: algorithms, DER chain, message and signature. -/
  asymVerify : SpdmBaseHashAlgo → SpdmBaseAsymAlgo → List UInt8 → List UInt8 →
    SpdmSignatureStruct → Except SpdmStatus Unit
  /-- `crypto::cert_operation::get_cert_from_cert_chain`: the bounds of one certificate. -/
  getCertFromCertChain : List UInt8 → Int → Except SpdmStatus (Nat × Nat)
  /-- `crypto::cert_operation::verify_cert_chain`. -/
  verifyCertChain : List UInt8 → Except SpdmStatus Unit
  /-- `crypto::rand::get_random`, filling a nonce. -/
  getRandom : Except SpdmStatus SpdmNonceStruct

/-- Modelled from the spec: `crypto::hash::hash_ctx_finalize`, the digest of all the bytes
the context absorbed. -/
def SpdmCrypto.hashCtxFinalize (crypto : SpdmCrypto) (ctx : SpdmHashCtx) :
    Option SpdmDigestStruct :=
  crypto.hashAll ctx.algo ctx.absorbed

/-- A provider that accepts every chain and signature, finds the first certificate in byte
`0`, hashes everything to the empty digest and draws the zero nonce. -/
def acceptingCrypto : SpdmCrypto :=
  ⟨fun _ _ => some ⟨[]⟩, fun _ _ _ _ _ => .ok (), fun _ _ => .ok (0, 1), fun _ => .ok (),
    .ok SpdmNonceStruct.default⟩

/-- The transport and device the requester talks through, with state `σ`: a responder of any
behaviour. A session id selects the secured channel. -/
structure SpdmDeviceIo (σ : Type) where
  send : σ → Option UInt32 → List UInt8 → Except SpdmStatus σ
  receive : σ → Option UInt32 → Except SpdmStatus (List UInt8 × σ)

/-- A responder that accepts every request and answers with `responses` in order, and with
`EIO` once they run out. -/
def SpdmDeviceIo.scripted : SpdmDeviceIo (List (List UInt8)) where
  send d _ _ := .ok d
  receive d _ :=
    match d with
    | response :: rest => .ok (response, rest)
    | [] => .error .eio

/-- The device `io` with a log of every response it delivered: it behaves as `io`, and only
gives the proofs a name for the responses a run has received. -/
def SpdmDeviceIo.recording {σ : Type} (io : SpdmDeviceIo σ) :
    SpdmDeviceIo (σ × List (List UInt8)) where
  send d sid bytes := (io.send d.1 sid bytes).map (·, d.2)
  receive d sid := (io.receive d.1 sid).map fun r => (r.1, r.2, d.2 ++ [r.1])

theorem SpdmDeviceIo.recording_log {σ : Type} {io : SpdmDeviceIo σ}
    {d d₁ d' : σ × List (List UInt8)} {sid : Option UInt32} {req response : List UInt8}
    (hs : io.recording.send d sid req = .ok d₁)
    (hr : io.recording.receive d₁ sid = .ok (response, d')) :
    d'.2 = d.2 ++ [response] := by
  simp only [recording] at hs hr
  cases h₁ : io.send d.1 sid req <;> simp only [h₁, Except.map, reduceCtorEq, Except.ok.injEq] at hs
  cases h₂ : io.receive d₁.1 sid <;> simp only [h₂, Except.map, reduceCtorEq, Except.ok.injEq] at hr
  subst hs
  simp only [Prod.mk.injEq] at hr
  obtain ⟨rfl, rfl⟩ := hr
  rfl

/-- A small build: an eight-byte chain buffer, portions and opaque data of up to eight bytes,
256-byte message and signing buffers, a 32-byte transport buffer and empty signing
contexts. -/
def smallConfig : Config := ⟨8, 8, 256, 32, 8, 256, 256, [], [], []⟩

end Spdm
