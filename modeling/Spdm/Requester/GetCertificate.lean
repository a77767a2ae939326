import Spdm.Requester.Basic
import Spdm.Message.Certificate

/-!
# The GET_CERTIFICATE flow

`send_receive_spdm_certificate` fetches the peer's chain portion by portion: each round of
`send_receive_spdm_certificate_partial` asks for `length` bytes at `offset`, checks the
portion against `MAX_SPDM_CERT_PORTION_LEN` and `MAX_SPDM_CERT_CHAIN_DATA_SIZE`, copies it into
`peer_cert_chain.cert_chain` and logs request and response in `message_b`. The loop runs while
`length != 0`; when a chain is pinned in the provision information, the assembled chain is then
checked against it.

The loop is modelled with fuel, one unit a round, and `CertificateLoop` says where it stands
when the fuel is spent: still running, left with `length = 0`, or returned early. A statement
about every fuel is a statement about every point of every run.
-/

namespace Spdm

variable {cfg : Config} {σ : Type}

namespace RequesterContext

/-- `message_b.append_message(bytes)`, failing with `ENOMEM` when the bytes do not fit. -/
def appendMessageB (bytes : List UInt8) : SpdmM (RequesterContext cfg σ) Unit := fun s =>
  match s.common.appendMessageB bytes with
  | some c => (.ok (), { s with common := c })
  | none => (.error (.status .enomem), s)

/-- Write the chain buffer `peer_cert_chain.cert_chain`. -/
def setCertChain (c : SpdmCertChainData cfg.maxSpdmCertChainDataSize) :
    SpdmM (RequesterContext cfg σ) Unit := fun s =>
  (.ok (), { s with common := s.common.setCertChain c })

/-- The bytes of a GET_CERTIFICATE request as the send buffer holds them: the encoder's result
is ignored and `writer.used()` taken. -/
def getCertificateRequestBytes (cfg : Config) (slotId : UInt8) (offset length : UInt16) :
    List UInt8 :=
  ((Writer.init cfg.maxSpdmTransportSize).write
    (getCertificateRequestWrites ⟨slotId, offset, length⟩)).2.written

variable (io : SpdmDeviceIo σ)

/-- `send_receive_spdm_certificate_partial`: one round, returning the portion and remainder
lengths of the response. -/
def sendReceiveSpdmCertificatePartial (slotId : UInt8) (offset length : UInt16) :
    SpdmM (RequesterContext cfg σ) (UInt16 × UInt16) := do
  let sendBuffer := getCertificateRequestBytes cfg slotId offset length
  sendMessage io none sendBuffer
  appendMessageB sendBuffer
  let receiveBuffer ← receiveMessage io none
  match SpdmMessageHeader.read (Reader.init receiveBuffer) with
  | none => SpdmM.throw (.status .eio)
  | some (messageHeader, reader) =>
    match messageHeader.requestResponseCode with
    | .spdmResponseCertificate =>
      match SpdmCertificateResponsePayload.spdmRead cfg reader with
      | none => SpdmM.throw (.status .efault)
      | some (certificate, reader) =>
        let used := reader.used
        if certificate.portionLength.toNat > cfg.maxSpdmCertPortionLen then
          SpdmM.throw (.status .enomem)
        else do
          let chainEnd ← SpdmM.lift (u16Add offset certificate.portionLength)
          if chainEnd.toNat > cfg.maxSpdmCertChainDataSize then SpdmM.throw (.status .enomem)
          else do
            let portion ← SpdmM.lift (slice certificate.certChain 0 certificate.portionLength.toNat)
            let s ← SpdmM.get
            let certChain ← SpdmM.lift (s.common.peerInfo.certChain.copyFromSlice offset.toNat
              (offset.toNat + certificate.portionLength.toNat) portion)
            let dataSize ← SpdmM.lift (u16Add offset certificate.portionLength)
            setCertChain { certChain with dataSize := dataSize }
            appendMessageB (← SpdmM.lift (slice receiveBuffer 0 used))
            pure (certificate.portionLength, certificate.remainderLength)
    | _ => SpdmM.throw (.status .einval)

end RequesterContext

/-- The CERTIFICATE response the requester reads from `response`, when its header carries the
CERTIFICATE code and its payload decodes. -/
def decodeCertificateResponse (cfg : Config) (response : List UInt8) :
    Option (SpdmCertificateResponsePayload cfg) :=
  match SpdmMessageHeader.read (Reader.init response) with
  | some (header, reader) =>
    if header.requestResponseCode = .spdmResponseCertificate then
      (SpdmCertificateResponsePayload.spdmRead cfg reader).map (·.1)
    else none
  | none => none

/-- The part of the chain a response carries: the first `portion_length` bytes of its array. -/
def SpdmCertificateResponsePayload.portion (c : SpdmCertificateResponsePayload cfg) :
    List UInt8 :=
  c.certChain.take c.portionLength.toNat

/-- What an accepted round of `send_receive_spdm_certificate_partial` did: sent the request,
received `response`, copied its portion at `offset`, set `data_size` to the new end and logged the
request and the response up to the portion in `message_b`. -/
structure AcceptedRound (io : SpdmDeviceIo σ) (slotId : UInt8) (offset length : UInt16)
    (s s' : RequesterContext cfg σ) (response : List UInt8)
    (certificate : SpdmCertificateResponsePayload cfg) : Prop where
  exchange : ∃ d, io.send s.device none
      (RequesterContext.getCertificateRequestBytes cfg slotId offset length) = .ok d ∧
    io.receive d none = .ok (response, s'.device)
  decode : decodeCertificateResponse cfg response = some certificate
  portion_le : certificate.portionLength.toNat ≤ cfg.maxSpdmCertPortionLen
  chainEnd_le : offset.toNat + certificate.portionLength.toNat ≤ cfg.maxSpdmCertChainDataSize
  dataSize_eq : s'.common.peerInfo.certChain.dataSize.toNat =
    offset.toNat + certificate.portionLength.toNat
  data_eq : s'.common.peerInfo.certChain.data =
    s.common.peerInfo.certChain.data.take offset.toNat ++ certificate.portion ++
      s.common.peerInfo.certChain.data.drop (offset.toNat + certificate.portionLength.toNat)
  response_length : 8 + certificate.portionLength.toNat ≤ response.length
  messageB_eq : s'.common.runtimeInfo.messageB.data = s.common.runtimeInfo.messageB.data ++
    RequesterContext.getCertificateRequestBytes cfg slotId offset length ++
      response.take (8 + certificate.portionLength.toNat)
  messageB_capacity : s'.common.runtimeInfo.messageB.capacity =
    s.common.runtimeInfo.messageB.capacity
  provisionInfo_eq : s'.common.provisionInfo = s.common.provisionInfo
  negotiateInfo_eq : s'.common.negotiateInfo = s.common.negotiateInfo

namespace RequesterContext

theorem appendMessageB_eq_ok {bytes : List UInt8} {s s' : RequesterContext cfg σ} {u : Unit} :
    appendMessageB bytes s = (.ok u, s') ↔
      ∃ c, s.common.appendMessageB bytes = some c ∧ s' = { s with common := c } := by
  cases hc : s.common.appendMessageB bytes <;> simp [appendMessageB, hc, eq_comm]

theorem noPanic_appendMessageB (bytes : List UInt8) (s : RequesterContext cfg σ) :
    SpdmM.NoPanic (appendMessageB bytes) s := by
  cases hc : s.common.appendMessageB bytes <;> simp [SpdmM.NoPanic, appendMessageB, hc]

variable (io : SpdmDeviceIo σ)

theorem sendReceiveSpdmCertificatePartial_eq_ok {slotId : UInt8} {offset length p rem : UInt16}
    {s s' : RequesterContext cfg σ}
    (h : sendReceiveSpdmCertificatePartial io slotId offset length s = (.ok (p, rem), s')) :
    ∃ response certificate, AcceptedRound io slotId offset length s s' response certificate ∧
      p = certificate.portionLength ∧ rem = certificate.remainderLength := by
  unfold sendReceiveSpdmCertificatePartial at h
  obtain ⟨_, s₁, h₁, h⟩ := SpdmM.bind_eq_ok.mp h
  obtain ⟨d₁, hsend, rfl⟩ := (sendMessage_eq_ok io).mp h₁
  obtain ⟨_, s₂, h₂, h⟩ := SpdmM.bind_eq_ok.mp h
  obtain ⟨c₂, hb₂, rfl⟩ := appendMessageB_eq_ok.mp h₂
  obtain ⟨R, s₃, h₃, h⟩ := SpdmM.bind_eq_ok.mp h
  obtain ⟨d₃, hrecv, rfl⟩ := (receiveMessage_eq_ok io).mp h₃
  rcases hhdr : SpdmMessageHeader.read (Reader.init R) with _ | ⟨hdr, r₀⟩ <;>
    simp only [hhdr, SpdmM.throw_apply, reduceCtorEq, Prod.mk.injEq, false_and] at h
  rcases hcode : hdr.requestResponseCode <;>
    simp only [hcode, SpdmM.throw_apply, reduceCtorEq, Prod.mk.injEq, false_and] at h
  rcases hcert : SpdmCertificateResponsePayload.spdmRead cfg r₀ with _ | ⟨cert, r₁⟩ <;>
    simp only [hcert, SpdmM.throw_apply, reduceCtorEq, Prod.mk.injEq, false_and] at h
  have hp : ¬cert.portionLength.toNat > cfg.maxSpdmCertPortionLen := fun hp => by simp [hp] at h
  rw [if_neg hp] at h
  obtain ⟨chainEnd, hend, h⟩ := SpdmM.lift_bind_eq_ok.mp h
  have hle : ¬chainEnd.toNat > cfg.maxSpdmCertChainDataSize := fun he => by simp [he] at h
  rw [if_neg hle] at h
  obtain ⟨portion, hportion, h⟩ := SpdmM.lift_bind_eq_ok.mp h
  rw [SpdmM.get_bind] at h
  obtain ⟨chain, hchain, h⟩ := SpdmM.lift_bind_eq_ok.mp h
  obtain ⟨dataSize, hds, h⟩ := SpdmM.lift_bind_eq_ok.mp h
  obtain ⟨_, _, h₉, h⟩ := SpdmM.bind_eq_ok.mp h
  obtain ⟨-, rfl⟩ := Prod.mk.inj h₉
  obtain ⟨logged, hlogged, h⟩ := SpdmM.lift_bind_eq_ok.mp h
  obtain ⟨_, _, h₁₁, h⟩ := SpdmM.bind_eq_ok.mp h
  obtain ⟨c₁₁, hb₁₁, rfl⟩ := appendMessageB_eq_ok.mp h₁₁
  obtain ⟨⟨⟩, rfl⟩ := Prod.mk.inj h
  -- the facts the steps established
  obtain ⟨hsum, hend⟩ := u16Add_eq_ok.mp hend
  obtain ⟨-, hds⟩ := u16Add_eq_ok.mp hds
  obtain ⟨-, -, rfl⟩ := slice_eq_ok.mp hportion
  obtain ⟨-, -, -, -, hdata⟩ := SpdmCertChainData.copyFromSlice_eq_ok.mp hchain
  obtain ⟨-, hR, rfl⟩ := slice_eq_ok.mp hlogged
  obtain ⟨b₂, hm₂, rfl⟩ := SpdmContext.appendMessageB_eq_some.mp hb₂
  obtain ⟨b₁₁, hm₁₁, rfl⟩ := SpdmContext.appendMessageB_eq_some.mp hb₁₁
  obtain ⟨-, hb₂d, hb₂c⟩ := ManagedBuffer.appendMessage_eq_some.mp hm₂
  obtain ⟨-, hb₁₁d, hb₁₁c⟩ := ManagedBuffer.appendMessage_eq_some.mp hm₁₁
  have hmoved := (SpdmMessageHeader.moved_of_read hhdr).trans
    (SpdmCertificateResponsePayload.moved_of_spdmRead hcert)
  have hused : r₁.used = 8 + cert.portionLength.toNat := by
    have := hmoved.used_eq.1
    simp only [Reader.init_used] at this
    omega
  have hlen : r₁.used ≤ R.length := by simpa [hmoved.used_eq.2] using r₁.used_le
  refine ⟨R, cert, ⟨⟨d₁, hsend, hrecv⟩, ?_, by omega, by omega, by simpa using hds, ?_, by omega,
    ?_, ?_, rfl, rfl⟩, rfl, rfl⟩
  · simp [decodeCertificateResponse, hhdr, hcode, hcert]
  · simpa [SpdmCertificateResponsePayload.portion] using hdata
  · simp [hb₁₁d, hb₂d, hused]
  · simp [hb₁₁c, hb₂c]

/-- A round from an offset inside the chain buffer never panics: the bounds checks come
before the `u16` sum, the copy and both slices, when the two limits fit in a `u16`. -/
theorem noPanic_sendReceiveSpdmCertificatePartial
    (hmax : cfg.maxSpdmCertChainDataSize + cfg.maxSpdmCertPortionLen ≤ 65535)
    {slotId : UInt8} {offset length : UInt16}
    (hoff : offset.toNat ≤ cfg.maxSpdmCertChainDataSize) (s : RequesterContext cfg σ) :
    SpdmM.NoPanic (sendReceiveSpdmCertificatePartial io slotId offset length) s := by
  unfold sendReceiveSpdmCertificatePartial
  refine SpdmM.NoPanic.bind (noPanic_sendMessage io _ _ s) fun _ _ _ => ?_
  refine SpdmM.NoPanic.bind (noPanic_appendMessageB _ _) fun _ _ _ => ?_
  refine SpdmM.NoPanic.bind (noPanic_receiveMessage io _ _) fun R _ _ => ?_
  rcases hhdr : SpdmMessageHeader.read (Reader.init R) with _ | ⟨hdr, r₀⟩
  · exact SpdmM.noPanic_throw_status _ _
  dsimp only
  rcases hcode : hdr.requestResponseCode <;> dsimp only <;>
    try exact SpdmM.noPanic_throw_status _ _
  rcases hcert : SpdmCertificateResponsePayload.spdmRead cfg r₀ with _ | ⟨cert, r₁⟩
  · exact SpdmM.noPanic_throw_status _ _
  dsimp only
  split
  · exact SpdmM.noPanic_throw_status _ _
  next hp =>
  obtain ⟨chainEnd, hend, hendv⟩ :=
    u16Add_of_lt (a := offset) (b := cert.portionLength) (by omega)
  refine SpdmM.NoPanic.lift_bind hend ?_
  split
  · exact SpdmM.noPanic_throw_status _ _
  next hle =>
  have hcopy : cert.portionLength.toNat ≤ cert.certChain.length := by
    rw [cert.length_certChain]; omega
  refine SpdmM.NoPanic.lift_bind (slice_zero hcopy) (SpdmM.NoPanic.get_bind ?_)
  refine SpdmM.NoPanic.lift_bind (SpdmCertChainData.copyFromSlice_of_le _
    (Nat.le_add_right _ _) (by omega) (by simp; omega)) ?_
  refine SpdmM.NoPanic.lift_bind hend ?_
  refine SpdmM.NoPanic.bind (by simp [SpdmM.NoPanic, setCertChain]) fun _ _ _ => ?_
  have hused : r₁.used ≤ R.length := by
    have := ((SpdmMessageHeader.moved_of_read hhdr).trans
      (SpdmCertificateResponsePayload.moved_of_spdmRead hcert)).used_eq.2
    simpa [this] using r₁.used_le
  refine SpdmM.NoPanic.lift_bind (slice_zero hused) ?_
  exact SpdmM.NoPanic.bind (noPanic_appendMessageB _ _) fun _ _ _ => SpdmM.noPanic_pure _ _

end RequesterContext

/-- Where the `while length != 0` loop stands: running at `offset` with `length` to ask for,
left with `length = 0`, or returned early with a fault. -/
inductive CertificateLoop (cfg : Config) (σ : Type) where
  | running (offset length : UInt16) (s : RequesterContext cfg σ)
  | done (offset : UInt16) (s : RequesterContext cfg σ)
  | failed (e : Fault) (s : RequesterContext cfg σ)

/-- `config::MAX_SPDM_CERT_PORTION_LEN as u16`. -/
def maxPortionU16 (cfg : Config) : UInt16 := UInt16.ofNat cfg.maxSpdmCertPortionLen

theorem toNat_maxPortionU16 (hP : cfg.maxSpdmCertPortionLen < 65536) :
    (maxPortionU16 cfg).toNat = cfg.maxSpdmCertPortionLen := by
  rw [maxPortionU16, UInt16.toNat_ofNat', Nat.mod_eq_of_lt hP]

theorem maxPortionU16_ne_zero
    (hmax : cfg.maxSpdmCertChainDataSize + cfg.maxSpdmCertPortionLen ≤ 65535)
    (hpos : 0 < cfg.maxSpdmCertPortionLen) : maxPortionU16 cfg ≠ 0 := fun h => by
  have := toNat_maxPortionU16 (show cfg.maxSpdmCertPortionLen < 65536 by omega)
  rw [h, UInt16.toNat_zero] at this
  omega

/-- The next `length`: the remainder, capped at `MAX_SPDM_CERT_PORTION_LEN`. -/
def nextLength (cfg : Config) (remainderLength : UInt16) : UInt16 :=
  if remainderLength > maxPortionU16 cfg then maxPortionU16 cfg else remainderLength

/-- The loop of `send_receive_spdm_certificate`, run for at most `fuel` rounds. An `Err` of a
round becomes `EIO`; a panic stays a panic. -/
def certificateLoop (io : SpdmDeviceIo σ) (slotId : UInt8) :
    Nat → UInt16 → UInt16 → RequesterContext cfg σ → CertificateLoop cfg σ
  | 0, offset, length, s => if length = 0 then .done offset s else .running offset length s
  | fuel + 1, offset, length, s =>
    if length = 0 then .done offset s
    else
      match RequesterContext.sendReceiveSpdmCertificatePartial io slotId offset length s with
      | (.ok (portionLength, remainderLength), s) =>
        match u16Add offset portionLength with
        | .ok offset => certificateLoop io slotId fuel offset (nextLength cfg remainderLength) s
        | .error e => .failed e s
      | (.error .panic, s) => .failed .panic s
      | (.error (.status _), s) => .failed (.status .eio) s

namespace CertificateLoop

def isRunning : CertificateLoop cfg σ → Bool
  | .running .. => true
  | _ => false

end CertificateLoop

section Loop

variable (io : SpdmDeviceIo σ) (slotId : UInt8)

@[simp] theorem certificateLoop_length_zero (fuel : Nat) (offset : UInt16)
    (s : RequesterContext cfg σ) : certificateLoop io slotId fuel offset 0 s = .done offset s := by
  cases fuel <;> simp [certificateLoop]

theorem certificateLoop_zero {offset length : UInt16} (hl : length ≠ 0)
    (s : RequesterContext cfg σ) :
    certificateLoop io slotId 0 offset length s = .running offset length s := by
  simp [certificateLoop, hl]

theorem certificateLoop_succ {fuel : Nat} {offset length : UInt16} (hl : length ≠ 0)
    (s : RequesterContext cfg σ) :
    certificateLoop io slotId (fuel + 1) offset length s =
      match RequesterContext.sendReceiveSpdmCertificatePartial io slotId offset length s with
      | (.ok (portionLength, remainderLength), s) =>
        match u16Add offset portionLength with
        | .ok offset => certificateLoop io slotId fuel offset (nextLength cfg remainderLength) s
        | .error e => .failed e s
      | (.error .panic, s) => .failed .panic s
      | (.error (.status _), s) => .failed (.status .eio) s := by
  rw [certificateLoop, if_neg hl]

/-- A property of the loop's position that accepted rounds preserve holds wherever the loop
is still running and where it ends with `length = 0`. -/
theorem certificateLoop_invariant (P : UInt16 → UInt16 → RequesterContext cfg σ → Prop)
    (step : ∀ offset length s s' response certificate offset', length ≠ 0 →
      AcceptedRound io slotId offset length s s' response certificate →
      u16Add offset certificate.portionLength = .ok offset' → P offset length s →
      P offset' (nextLength cfg certificate.remainderLength) s') :
    ∀ fuel offset length s, P offset length s →
      (∀ o l s', certificateLoop io slotId fuel offset length s = .running o l s' → P o l s') ∧
      (∀ o s', certificateLoop io slotId fuel offset length s = .done o s' → P o 0 s') := by
  intro fuel
  induction fuel with
  | zero =>
    intro offset length s hP
    by_cases hl : length = 0
    · subst hl; simpa using hP
    · simp only [certificateLoop_zero io slotId hl, CertificateLoop.running.injEq,
        reduceCtorEq, false_implies, implies_true, and_true]
      rintro o l s' ⟨rfl, rfl, rfl⟩; exact hP
  | succ n ih =>
    intro offset length s hP
    by_cases hl : length = 0
    · subst hl; simpa using hP
    rw [certificateLoop_succ io slotId hl]
    rcases hp : RequesterContext.sendReceiveSpdmCertificatePartial io slotId offset length s
      with ⟨_ | ⟨p, rem⟩, s₁⟩
    · rename_i e; cases e <;> simp
    obtain ⟨response, certificate, hround, rfl, rfl⟩ :=
      RequesterContext.sendReceiveSpdmCertificatePartial_eq_ok io hp
    rcases hu : u16Add offset certificate.portionLength with _ | offset'
    · simp [hu]
    · simp only [hu]
      exact ih offset' _ s₁ (step _ _ _ _ _ _ _ hl hround hu hP)

/-- The rounds the free space of `message_b` leaves: each accepted round logs at least eight
bytes there. -/
def messageBRoom (s : RequesterContext cfg σ) : Nat :=
  (s.common.runtimeInfo.messageB.capacity - s.common.runtimeInfo.messageB.data.length) / 8

theorem messageBRoom_lt {offset length : UInt16} {s s' : RequesterContext cfg σ}
    {response : List UInt8} {certificate : SpdmCertificateResponsePayload cfg}
    (h : AcceptedRound io slotId offset length s s' response certificate) :
    messageBRoom s' < messageBRoom s := by
  have hle := s'.common.runtimeInfo.messageB.data_le
  have hlen := h.response_length
  rw [h.messageB_eq, h.messageB_capacity] at hle
  simp only [List.length_append, List.length_take] at hle
  simp only [messageBRoom, h.messageB_eq, h.messageB_capacity, List.length_append,
    List.length_take]
  omega

theorem certificateLoop_not_running :
    ∀ fuel offset length (s : RequesterContext cfg σ), messageBRoom s < fuel →
      (certificateLoop io slotId fuel offset length s).isRunning = false := by
  intro fuel
  induction fuel with
  | zero => intro _ _ _ h; omega
  | succ n ih =>
    intro offset length s hroom
    by_cases hl : length = 0
    · subst hl; simp [CertificateLoop.isRunning]
    rw [certificateLoop_succ io slotId hl]
    rcases hp : RequesterContext.sendReceiveSpdmCertificatePartial io slotId offset length s
      with ⟨_ | ⟨p, rem⟩, s₁⟩
    · rename_i e; cases e <;> rfl
    obtain ⟨response, certificate, hround, rfl, rfl⟩ :=
      RequesterContext.sendReceiveSpdmCertificatePartial_eq_ok io hp
    rcases hu : u16Add offset certificate.portionLength with _ | offset'
    · simp [hu, CertificateLoop.isRunning]
    · simp only [hu]
      exact ih offset' _ s₁ (by have := messageBRoom_lt io slotId hround; omega)

/-- From an offset inside the chain buffer the loop ends only with a status, never a panic,
when the two limits fit in a `u16`. -/
theorem certificateLoop_failed_ne_panic
    (hmax : cfg.maxSpdmCertChainDataSize + cfg.maxSpdmCertPortionLen ≤ 65535) :
    ∀ fuel offset length (s : RequesterContext cfg σ) e s',
      offset.toNat ≤ cfg.maxSpdmCertChainDataSize →
      certificateLoop io slotId fuel offset length s = .failed e s' → e ≠ .panic := by
  intro fuel
  induction fuel with
  | zero =>
    intro offset length s e s' _ h
    by_cases hl : length = 0
    · subst hl; simp at h
    · simp [certificateLoop_zero io slotId hl] at h
  | succ n ih =>
    intro offset length s e s' hoff h
    by_cases hl : length = 0
    · subst hl; simp at h
    rw [certificateLoop_succ io slotId hl] at h
    have hnp : SpdmM.NoPanic
        (RequesterContext.sendReceiveSpdmCertificatePartial io slotId offset length) s :=
      RequesterContext.noPanic_sendReceiveSpdmCertificatePartial io hmax hoff s
    rcases hp : RequesterContext.sendReceiveSpdmCertificatePartial io slotId offset length s
      with ⟨_ | ⟨p, rem⟩, s₁⟩
    · rename_i e₁
      simp only [SpdmM.NoPanic, hp] at hnp
      rw [hp] at h
      cases e₁ with
      | panic => exact absurd rfl hnp
      | status => simp only [CertificateLoop.failed.injEq] at h; simp [← h.1]
    obtain ⟨response, certificate, hround, rfl, rfl⟩ :=
      RequesterContext.sendReceiveSpdmCertificatePartial_eq_ok io hp
    have hsum := hround.chainEnd_le
    obtain ⟨offset', hu, hv⟩ := u16Add_of_lt (a := offset) (b := certificate.portionLength)
      (by omega)
    simp only [hp, hu] at h
    exact ih offset' _ s₁ e s' (by omega) h

end Loop

section Assembly

/-- The portion length a response announces; zero when it does not decode. -/
def responsePortionLength (cfg : Config) (response : List UInt8) : Nat :=
  ((decodeCertificateResponse cfg response).map (·.portionLength.toNat)).getD 0

/-- The portion a response carries; empty when it does not decode. -/
def responsePortion (cfg : Config) (response : List UInt8) : List UInt8 :=
  ((decodeCertificateResponse cfg response).map (·.portion)).getD []

/-- The chain buffer holds the portions of `responses`, in order: `offset` is the sum of their
portion lengths and lies inside the buffer, the buffer starts with the portions, and after a
first round `data_size` is `offset`. -/
structure Assembled (responses : List (List UInt8)) (offset : UInt16) (ctx : SpdmContext cfg) :
    Prop where
  offset_eq : offset.toNat = (responses.map (responsePortionLength cfg)).sum
  offset_le : offset.toNat ≤ cfg.maxSpdmCertChainDataSize
  dataSize_eq : responses ≠ [] → ctx.peerInfo.certChain.dataSize = offset
  data_prefix : ctx.peerInfo.certChain.data.take offset.toNat =
    (responses.map (responsePortion cfg)).flatten

theorem assembled_nil (ctx : SpdmContext cfg) : Assembled [] 0 ctx :=
  ⟨rfl, Nat.zero_le _, fun h => absurd rfl h, by simp⟩

variable {io : SpdmDeviceIo σ} {slotId : UInt8}

/-- An accepted round, on a device that logs its responses, adds its response's portion to the
assembled chain. -/
theorem Assembled.step {offset length offset' : UInt16}
    {s s' : RequesterContext cfg (σ × List (List UInt8))} {response : List UInt8}
    {certificate : SpdmCertificateResponsePayload cfg}
    (h : AcceptedRound io.recording slotId offset length s s' response certificate)
    (hu : u16Add offset certificate.portionLength = .ok offset')
    (ha : Assembled s.device.2 offset s.common) :
    Assembled s'.device.2 offset' s'.common := by
  obtain ⟨d, hs, hr⟩ := h.exchange
  rw [SpdmDeviceIo.recording_log hs hr]
  obtain ⟨-, hv⟩ := u16Add_eq_ok.mp hu
  have hp := h.portion_le
  have hend := h.chainEnd_le
  have hlen : certificate.portion.length = certificate.portionLength.toNat := by
    simp [SpdmCertificateResponsePayload.portion, certificate.length_certChain, hp]
  have hdata := s.common.peerInfo.certChain.length_data
  refine ⟨?_, by omega, fun _ => UInt16.toNat.inj (by rw [h.dataSize_eq, hv]), ?_⟩
  · simp [responsePortionLength, h.decode, ha.offset_eq, hv, List.sum_append]
  · have hoff := ha.offset_le
    have hF : ((s.device.2.map (responsePortion cfg)).flatten).length = offset.toNat := by
      rw [← ha.data_prefix, List.length_take, hdata, Nat.min_eq_left hoff]
    rw [h.data_eq, hv, ha.data_prefix, List.append_assoc, List.take_append_eq_append_take,
      List.take_of_length_le (by omega), hF, Nat.add_sub_cancel_left, List.take_left' hlen]
    simp [responsePortion, h.decode]

/-- Against any responder, wherever the loop stands the chain buffer holds the portions of the
responses received so far, in order, no round has panicked, and on `length = 0` `data_size` is the
sum of their lengths. -/
theorem certificateLoop_assembles_portions
    (hmax : cfg.maxSpdmCertChainDataSize + cfg.maxSpdmCertPortionLen ≤ 65535)
    (hpos : 0 < cfg.maxSpdmCertPortionLen) (io : SpdmDeviceIo σ) (slotId : UInt8)
    (common : SpdmContext cfg) (d : σ) (fuel : Nat) :
    match certificateLoop io.recording slotId fuel 0 (maxPortionU16 cfg) ⟨common, (d, [])⟩ with
    | .running offset _ s => Assembled s.device.2 offset s.common
    | .done offset s => Assembled s.device.2 offset s.common ∧
        s.common.peerInfo.certChain.dataSize = offset
    | .failed e _ => e ≠ .panic := by
  have hlen := maxPortionU16_ne_zero hmax hpos
  have hinv := certificateLoop_invariant io.recording slotId
    (fun offset length s => Assembled s.device.2 offset s.common ∧ (s.device.2 = [] → length ≠ 0))
    (fun _ _ _ _ _ _ _ _ h hu hP => ⟨hP.1.step h hu, fun hnil => absurd hnil (by
      obtain ⟨_, hs, hr⟩ := h.exchange
      simp [SpdmDeviceIo.recording_log hs hr])⟩)
    fuel 0 _ ⟨common, (d, [])⟩ ⟨assembled_nil common, fun _ => hlen⟩
  split
  · next o l s heq => exact (hinv.1 o l s heq).1
  · next o s heq =>
    obtain ⟨ha, hne⟩ := hinv.2 o s heq
    exact ⟨ha, ha.dataSize_eq fun hnil => hne hnil rfl⟩
  · next e s heq =>
    exact certificateLoop_failed_ne_panic io.recording slotId hmax _ 0 _ _ _ _ (Nat.zero_le _) heq

/-- A CERTIFICATE response with the whole five-byte chain `[5, 0, 0, 0, 0x30]` and nothing
remaining. -/
def wholeChainResponse : List UInt8 := [0x12, 0x02, 0, 0, 5, 0, 0, 0, 5, 0, 0, 0, 0x30]

theorem certificateLoop_assembles_wholeChainResponse :
    smallConfig.maxSpdmCertChainDataSize +
        smallConfig.maxSpdmCertPortionLen ≤ 65535 ∧
      0 < smallConfig.maxSpdmCertPortionLen ∧
      match certificateLoop SpdmDeviceIo.scripted.recording 0 2 0
          (maxPortionU16 smallConfig)
          ⟨(SpdmContext.new ⟨false⟩ ⟨none⟩ 64 : SpdmContext smallConfig),
            ([wholeChainResponse], [])⟩ with
      | .running offset _ s => Assembled s.device.2 offset s.common
      | .done offset s => Assembled s.device.2 offset s.common ∧
          s.common.peerInfo.certChain.dataSize = offset
      | .failed e _ => e ≠ .panic := by
  have hmax : smallConfig.maxSpdmCertChainDataSize +
      smallConfig.maxSpdmCertPortionLen ≤ 65535 := by decide
  have hpos : 0 < smallConfig.maxSpdmCertPortionLen := by decide
  exact ⟨hmax, hpos, certificateLoop_assembles_portions hmax hpos SpdmDeviceIo.scripted 0
    (SpdmContext.new ⟨false⟩ ⟨none⟩ 64) [wholeChainResponse] 2⟩

/-- A build whose portions are empty: `MAX_SPDM_CERT_PORTION_LEN = 0`. -/
def zeroPortionConfig : Config := ⟨1, 0, 64, 32, 8, 64, 64, [], [], []⟩

/-- A context whose chain buffer still says `data_size = 5` from before. -/
def staleChainContext : SpdmContext zeroPortionConfig :=
  { SpdmContext.new ⟨false⟩ ⟨none⟩ 64 with peerInfo := ⟨fun _ => none, ⟨5, [0], rfl⟩⟩ }

/-- With empty portions the loop ends before its first round, and `data_size` keeps a stale
value that is neither the sum of the (no) portions nor within the chain buffer. -/
theorem certificateLoop_zero_portion_keeps_stale_size :
    zeroPortionConfig.maxSpdmCertChainDataSize + zeroPortionConfig.maxSpdmCertPortionLen ≤ 65535 ∧
      certificateLoop SpdmDeviceIo.scripted.recording 0 1 0 (maxPortionU16 zeroPortionConfig)
          ⟨staleChainContext, ([], [])⟩ = .done 0 ⟨staleChainContext, ([], [])⟩ ∧
      zeroPortionConfig.maxSpdmCertChainDataSize <
        staleChainContext.peerInfo.certChain.dataSize.toNat :=
  ⟨by decide, rfl, by decide⟩

end Assembly

section Verify

variable (crypto : SpdmCrypto)

/-- The check of `send_receive_spdm_certificate` after the loop: when a chain is pinned, the
assembled chain must be longer than its header, its root certificate must hash to the header's
root hash, its DER part must equal the pinned chain, and the DER part must verify. -/
def verifyAssembledCertChain (ctx : SpdmContext cfg) : Except Fault Unit :=
  match ctx.provisionInfo.peerCertChainData with
  | none => .ok ()
  | some peerCertChainData => do
    let certChain := ctx.peerInfo.certChain
    let hashSize := ctx.negotiateInfo.baseHashSel.getSize
    failIf (certChain.dataSize ≤ (← u16Add 4 hashSize)) (.status .eio)
    let dataSize ← u16Sub (← u16Sub certChain.dataSize 4) hashSize
    let derPart ← slice certChain.data (4 + hashSize.toNat) certChain.dataSize.toNat
    let data ← copyFromSlice (List.replicate cfg.maxSpdmCertChainDataSize 0) 0 dataSize.toNat
      derPart
    let (rootCertBegin, rootCertEnd) ←
      (crypto.getCertFromCertChain (← slice data 0 dataSize.toNat) 0).mapError .status
    let rootCert ← slice data rootCertBegin rootCertEnd
    let rootHash ← (crypto.hashAll ctx.negotiateInfo.baseHashSel rootCert).elim (throw .panic) pure
    failIf (rootHash.data ≠ (← slice certChain.data 4 (4 + hashSize.toNat))) (.status .einval)
    failIf (dataSize ≠ peerCertChainData.dataSize) (.status .einval)
    failIf (data ≠ peerCertChainData.data) (.status .einval)
    match crypto.verifyCertChain (← slice data 0 dataSize.toNat) with
    | .error _ => throw (.status .efault)
    | .ok () => pure ()

/-- `send_receive_spdm_certificate`, run for at most `fuel` rounds; `none` when the loop is
still running then. -/
def sendReceiveSpdmCertificate (io : SpdmDeviceIo σ) (fuel : Nat) (slotId : UInt8)
    (s : RequesterContext cfg σ) : Option (Except Fault Unit × RequesterContext cfg σ) :=
  match certificateLoop io slotId fuel 0 (maxPortionU16 cfg) s with
  | .running .. => none
  | .failed e s => some (.error e, s)
  | .done _ s => some (verifyAssembledCertChain crypto s.common, s)

/-- What acceptance says of `chain` against the pinned chain `P` for a hash of size `H`: the chain
is longer than its header, its DER part is that of `P` and verifies, and its root hash is the hash
of the first certificate. -/
def PinnedChainAccepted (hashAlgo : SpdmBaseHashAlgo)
    (P chain : SpdmCertChainData cfg.maxSpdmCertChainDataSize) : Prop :=
  4 + hashAlgo.getSize.toNat < chain.dataSize.toNat ∧
    ∃ der, slice chain.data (4 + hashAlgo.getSize.toNat) chain.dataSize.toNat = .ok der ∧
      der = P.data.take P.dataSize.toNat ∧ crypto.verifyCertChain der = .ok () ∧
      ∃ b e rootCert rootHash, crypto.getCertFromCertChain der 0 = .ok (b, e) ∧
        slice (der ++ List.replicate (cfg.maxSpdmCertChainDataSize - der.length) 0) b e =
          .ok rootCert ∧
        crypto.hashAll hashAlgo rootCert = some rootHash ∧
        slice chain.data 4 (4 + hashAlgo.getSize.toNat) = .ok rootHash.data

theorem UInt16.le_iff_toNat_le' {a b : UInt16} : a ≤ b ↔ a.toNat ≤ b.toNat := Iff.rfl

theorem verifyAssembledCertChain_eq_ok {ctx : SpdmContext cfg}
    {P : SpdmCertChainData cfg.maxSpdmCertChainDataSize}
    (hP : ctx.provisionInfo.peerCertChainData = some P)
    (h : verifyAssembledCertChain crypto ctx = .ok ()) :
    PinnedChainAccepted crypto ctx.negotiateInfo.baseHashSel P ctx.peerInfo.certChain := by
  unfold verifyAssembledCertChain at h
  rw [hP] at h
  simp only [Except.bind_eq_ok'] at h
  obtain ⟨header, h₁, _, h₂, sub4, h₃, dataSize, h₄, der, h₅, data, h₆, der₁, h₇, ⟨b, e⟩, h₈,
    rootCert, h₉, rootHash, h₁₀, root, h₁₁, _, h₁₂, _, h₁₃, _, h₁₄, der₂, h₁₅, h₁₆⟩ := h
  obtain ⟨-, hheader⟩ := u16Add_eq_ok.mp h₁
  rw [failIf_eq_ok, UInt16.le_iff_toNat_le', not_le] at h₂
  obtain ⟨-, hsub4⟩ := u16Sub_eq_ok.mp h₃
  obtain ⟨-, hds⟩ := u16Sub_eq_ok.mp h₄
  obtain ⟨-, hder, -⟩ := slice_eq_ok.mp h₅
  obtain ⟨-, -, hlen, rfl⟩ := copyFromSlice_eq_ok.mp h₆
  have hpad : (List.replicate cfg.maxSpdmCertChainDataSize (0 : UInt8)).take 0 ++ der ++
      (List.replicate cfg.maxSpdmCertChainDataSize 0).drop dataSize.toNat =
      der ++ List.replicate (cfg.maxSpdmCertChainDataSize - der.length) 0 := by
    simp [hlen]
  have htake : ∀ {d}, slice ((List.replicate cfg.maxSpdmCertChainDataSize (0 : UInt8)).take 0 ++
      der ++ (List.replicate cfg.maxSpdmCertChainDataSize 0).drop dataSize.toNat) 0
      dataSize.toNat = .ok d → der = d := by
    intro d hd
    obtain ⟨-, -, rfl⟩ := slice_eq_ok.mp hd
    simp [hpad, ← hlen]
  obtain rfl := htake h₇
  obtain rfl := htake h₁₅
  rw [hpad] at h₉ h₁₄
  have hhash : crypto.hashAll ctx.negotiateInfo.baseHashSel rootCert = some rootHash := by
    revert h₁₀
    cases crypto.hashAll ctx.negotiateInfo.baseHashSel rootCert <;>
      simp [throw, throwThe, MonadExceptOf.throw, pure, Except.pure]
  rw [failIf_eq_ok, not_not] at h₁₂ h₁₃ h₁₄
  have h4 : (4 : UInt16).toNat = 4 := rfl
  refine ⟨by omega, der, h₅, ?_, ?_, b, e, rootCert, rootHash, ?_, h₉, hhash, h₁₂ ▸ h₁₁⟩
  · rw [← h₁₄, ← h₁₃, List.take_left' (by omega)]
  · revert h₁₆
    cases crypto.verifyCertChain der <;> simp [throw, throwThe, MonadExceptOf.throw]
  · revert h₈
    cases crypto.getCertFromCertChain der 0 <;> simp [Except.mapError]

theorem certificateLoop_frame (io : SpdmDeviceIo σ) (slotId : UInt8) {fuel : Nat}
    {offset length o : UInt16} {s s' : RequesterContext cfg σ}
    (h : certificateLoop io slotId fuel offset length s = .done o s') :
    s'.common.provisionInfo = s.common.provisionInfo ∧
      s'.common.negotiateInfo = s.common.negotiateInfo :=
  (certificateLoop_invariant io slotId (fun _ _ t => t.common.provisionInfo =
    s.common.provisionInfo ∧ t.common.negotiateInfo = s.common.negotiateInfo)
    (fun _ _ _ _ _ _ _ _ hr _ hP =>
      ⟨hr.provisionInfo_eq.trans hP.1, hr.negotiateInfo_eq.trans hP.2⟩)
    fuel offset length s ⟨rfl, rfl⟩).2 o s' h

theorem sendReceiveSpdmCertificate_of_done {io : SpdmDeviceIo σ} {fuel : Nat} {slotId : UInt8}
    {s s' : RequesterContext cfg σ} {o : UInt16}
    (h : certificateLoop io slotId fuel 0 (maxPortionU16 cfg) s = .done o s') :
    sendReceiveSpdmCertificate crypto io fuel slotId s =
      some (verifyAssembledCertChain crypto s'.common, s') := by
  simp [sendReceiveSpdmCertificate, h]

/-- With a chain pinned, an `Ok` of the flow, against any responder and after any number of
rounds, leaves a chain that `PinnedChainAccepted` describes for the pinned chain. -/
theorem sendReceiveSpdmCertificate_accepts_only_pinned_chain {io : SpdmDeviceIo σ} {fuel : Nat}
    {slotId : UInt8} {s s' : RequesterContext cfg σ}
    {P : SpdmCertChainData cfg.maxSpdmCertChainDataSize}
    (hP : s.common.provisionInfo.peerCertChainData = some P)
    (h : sendReceiveSpdmCertificate crypto io fuel slotId s = some (.ok (), s')) :
    PinnedChainAccepted crypto s.common.negotiateInfo.baseHashSel P
      s'.common.peerInfo.certChain := by
  unfold sendReceiveSpdmCertificate at h
  split at h
  · cases h
  · cases h
  · next o t hdone =>
    obtain ⟨hv, rfl⟩ := Prod.mk.inj (Option.some.inj h)
    obtain ⟨hprov, hneg⟩ := certificateLoop_frame io slotId hdone
    rw [← hneg]
    exact verifyAssembledCertChain_eq_ok crypto (by rw [hprov, hP]) hv

/-- The pinned chain: the DER part `[0x30]` of `wholeChainResponse`. -/
def pinnedChain : SpdmCertChainData smallConfig.maxSpdmCertChainDataSize :=
  ⟨1, [0x30, 0, 0, 0, 0, 0, 0, 0], rfl⟩

/-- A requester with `pinnedChain` provisioned, facing a responder that sends the whole
chain. -/
def pinnedStart : RequesterContext smallConfig (List (List UInt8)) :=
  ⟨SpdmContext.new ⟨false⟩ ⟨some pinnedChain⟩ 64, [wholeChainResponse]⟩

/-- `pinnedStart` after the exchange: the chain assembled, request and response logged. -/
def pinnedEnd : RequesterContext smallConfig (List (List UInt8)) :=
  ⟨{ pinnedStart.common with
      runtimeInfo := { pinnedStart.common.runtimeInfo with
        messageB := ⟨64, [0x11, 0x82, 0, 0, 0, 0, 8, 0] ++ wholeChainResponse, by decide⟩ }
      peerInfo := { pinnedStart.common.peerInfo with
        certChain := ⟨5, [5, 0, 0, 0, 0x30, 0, 0, 0], rfl⟩ } }, []⟩

theorem sendReceiveSpdmCertificate_accepts_pinnedChain :
    pinnedStart.common.provisionInfo.peerCertChainData = some pinnedChain ∧
      sendReceiveSpdmCertificate acceptingCrypto SpdmDeviceIo.scripted 2 0 pinnedStart =
        some (.ok (), pinnedEnd) ∧
      PinnedChainAccepted acceptingCrypto pinnedStart.common.negotiateInfo.baseHashSel pinnedChain
        pinnedEnd.common.peerInfo.certChain := by
  have hrun : sendReceiveSpdmCertificate acceptingCrypto SpdmDeviceIo.scripted 2 0 pinnedStart =
      some (.ok (), pinnedEnd) := rfl
  exact ⟨rfl, hrun, sendReceiveSpdmCertificate_accepts_only_pinned_chain acceptingCrypto rfl hrun⟩

/-- Against any responder the flow has returned once it has run one round more than
`message_b` has room for. -/
theorem sendReceiveSpdmCertificate_returns_within_messageB_room (io : SpdmDeviceIo σ)
    (slotId : UInt8) (s : RequesterContext cfg σ) :
    (sendReceiveSpdmCertificate crypto io (messageBRoom s + 1) slotId s).isSome = true := by
  have hend := certificateLoop_not_running io slotId (messageBRoom s + 1) 0 (maxPortionU16 cfg) s
    (Nat.lt_succ_self _)
  unfold sendReceiveSpdmCertificate
  split <;> simp_all [CertificateLoop.isRunning]

/-- A responder that stalls: every answer announces an empty portion with one byte still to
come, so `offset` never moves. -/
def stallingResponder : SpdmDeviceIo Unit :=
  ⟨fun _ _ _ => .ok (), fun _ _ => .ok ([0x12, 0x02, 0, 0, 0, 0, 1, 0], ())⟩

/-- A build with a one-byte chain buffer. -/
def tinyCertificateConfig : Config := ⟨1, 1, 64, 32, 8, 64, 64, [], [], []⟩

/-- With room in `message_b`, the stalling responder keeps the flow running past
`MAX_SPDM_CERT_CHAIN_DATA_SIZE + 1` exchanges. -/
theorem sendReceiveSpdmCertificate_stalls_past_chain_size :
    (sendReceiveSpdmCertificate acceptingCrypto stallingResponder
      (tinyCertificateConfig.maxSpdmCertChainDataSize + 1) 0
      ⟨(SpdmContext.new ⟨false⟩ ⟨none⟩ 64 : SpdmContext tinyCertificateConfig), ()⟩).isNone =
        true := by
  decide

/-- A pinned chain whose one DER byte differs from the `[0x30]` of `wholeChainResponse`. -/
def mismatchedChain : SpdmCertChainData smallConfig.maxSpdmCertChainDataSize :=
  ⟨1, [0x31, 0, 0, 0, 0, 0, 0, 0], rfl⟩

/-- A requester with `mismatchedChain` provisioned, before the exchange. -/
def mismatchedContext : SpdmContext smallConfig :=
  SpdmContext.new ⟨false⟩ ⟨some mismatchedChain⟩ 64

/-- `mismatchedContext` after the rounds against a responder that sends the whole chain
`[5, 0, 0, 0, 0x30]`: the chain assembled, request and response logged. -/
def mismatchedAssembled : SpdmContext smallConfig :=
  { mismatchedContext with
    runtimeInfo := { mismatchedContext.runtimeInfo with
      messageB := ⟨64, [0x11, 0x82, 0, 0, 0, 0, 8, 0] ++ wholeChainResponse, by decide⟩ }
    peerInfo := { mismatchedContext.peerInfo with
      certChain := ⟨5, [5, 0, 0, 0, 0x30, 0, 0, 0], rfl⟩ } }

/-- The rejection undoes nothing: after the loop has assembled the responder's chain, the byte
comparison with `mismatchedChain` fails with `EINVAL`, and the requester keeps the rejected chain,
`data_size = 5` where it was `0`, and `message_b` keeps the request and the response. -/
theorem sendReceiveSpdmCertificate_rejected_chain_not_undone :
    certificateLoop SpdmDeviceIo.scripted 0 2 0 (maxPortionU16 smallConfig)
        ⟨mismatchedContext, [wholeChainResponse]⟩ = .done 5 ⟨mismatchedAssembled, []⟩ ∧
    sendReceiveSpdmCertificate acceptingCrypto SpdmDeviceIo.scripted 2 0
        ⟨mismatchedContext, [wholeChainResponse]⟩ =
      some (.error (.status .einval), ⟨mismatchedAssembled, []⟩) ∧
    mismatchedAssembled.runtimeInfo.messageB.data ≠ [] ∧
    mismatchedAssembled.peerInfo.certChain.dataSize ≠
      mismatchedContext.peerInfo.certChain.dataSize :=
  ⟨rfl, rfl, by decide, by decide⟩

end Verify

end Spdm
