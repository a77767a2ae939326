import Spdm.Requester.Basic
import Spdm.Requester.MeasurementSignature
import Spdm.Message.Measurement

/-!
# The GET_MEASUREMENTS flow

`send_receive_spdm_measurement` rejects a slot id past the eight slots, encodes a
GET_MEASUREMENTS request with a fresh nonce, exchanges it with the device and hands both
buffers to `handle_spdm_measurement_record_response`. The handler reads the response, updates
`content_changed` from SPDM 1.2 on, appends the request and the response without its trailing
signature to the transcript, and, when a signature was requested, verifies it and empties the
transcript. The out parameters are written on the `Ok` exit only, so they are returned with it.

The handler's exits are described once, by one inversion lemma for its `Ok` and one for its
errors, for it and for each of its parts; `Spdm.Requester.MeasurementGuarantees` reads its
results off them.
-/

namespace Spdm

variable {cfg : Config} {σ : Type}

open SpdmMeasurementAttributes (signatureRequested)

namespace SpdmContext

/-- `content_changed := measurements.content_changed`, made from SPDM 1.2 on. -/
def updateContentChanged (ctx : SpdmContext cfg) (c : SpdmMeasurementContentChanged) :
    SpdmContext cfg :=
  if ctx.negotiateInfo.spdmVersionSel.atLeast12 then ctx.setContentChanged c else ctx

@[simp] theorem updateContentChanged_messageM (ctx : SpdmContext cfg)
    (c : SpdmMeasurementContentChanged) : (ctx.updateContentChanged c).messageM = ctx.messageM := by
  unfold updateContentChanged; split <;> rfl

@[simp] theorem updateContentChanged_negotiateInfo (ctx : SpdmContext cfg)
    (c : SpdmMeasurementContentChanged) :
    (ctx.updateContentChanged c).negotiateInfo = ctx.negotiateInfo := by
  unfold updateContentChanged; split <;> rfl

@[simp] theorem updateContentChanged_needMeasurementSignature (ctx : SpdmContext cfg)
    (c : SpdmMeasurementContentChanged) :
    (ctx.updateContentChanged c).runtimeInfo.needMeasurementSignature =
      ctx.runtimeInfo.needMeasurementSignature := by
  unfold updateContentChanged; split <;> rfl

@[simp] theorem updateContentChanged_contentChanged (ctx : SpdmContext cfg)
    (c : SpdmMeasurementContentChanged) :
    (ctx.updateContentChanged c).runtimeInfo.contentChanged =
      if ctx.negotiateInfo.spdmVersionSel.atLeast12 then c else ctx.runtimeInfo.contentChanged := by
  unfold updateContentChanged; split <;> rfl

@[simp] theorem updateContentChanged_peerInfo (ctx : SpdmContext cfg)
    (c : SpdmMeasurementContentChanged) : (ctx.updateContentChanged c).peerInfo = ctx.peerInfo := by
  unfold updateContentChanged; split <;> rfl

@[simp] theorem updateContentChanged_messageA (ctx : SpdmContext cfg)
    (c : SpdmMeasurementContentChanged) :
    (ctx.updateContentChanged c).runtimeInfo.messageA = ctx.runtimeInfo.messageA := by
  unfold updateContentChanged; split <;> rfl

@[simp] theorem peerCertChainDer_updateContentChanged (ctx : SpdmContext cfg)
    (c : SpdmMeasurementContentChanged) (slotId : UInt8) :
    peerCertChainDer (ctx.updateContentChanged c) slotId = peerCertChainDer ctx slotId :=
  peerCertChainDer_congr (by simp) (by simp) slotId

theorem resetMessageM_of_messageM {ctx : SpdmContext cfg} {sid : Option UInt32}
    {m : ManagedBuffer} (h : ctx.messageM sid = some m) :
    ctx.resetMessageM sid = ctx.setMessageM sid m.resetMessage := by
  simp [resetMessageM, h]

end SpdmContext

/-- The count `handle_spdm_measurement_record_response` returns: the total number of
measurements for `SpdmMeasurementQueryTotalNumber`, the number of blocks read otherwise. -/
def measurementCount (op : SpdmMeasurementOperation)
    (measurements : SpdmMeasurementsResponsePayload) : UInt8 :=
  match op with
  | .spdmMeasurementQueryTotalNumber => measurements.numberOfMeasurement
  | .spdmMeasurementRequestAll => measurements.measurementRecord.numberOfBlocks
  | _ => measurements.measurementRecord.numberOfBlocks

namespace RequesterContext

/-- `self.common.append_message_m(session_id, bytes)?`. -/
def appendMessageM (sessionId : Option UInt32) (bytes : List UInt8) :
    SpdmM (RequesterContext cfg σ) Unit := fun s =>
  match s.common.appendMessageM sessionId bytes with
  | .ok c => (.ok (), { s with common := c })
  | .error e => (.error (.status e), s)

theorem appendMessageM_eq_ok {sid : Option UInt32} {bytes : List UInt8}
    {s s' : RequesterContext cfg σ} {u : Unit} :
    appendMessageM sid bytes s = (.ok u, s') ↔
      ∃ c, s.common.appendMessageM sid bytes = .ok c ∧ s' = { s with common := c } := by
  cases h : s.common.appendMessageM sid bytes <;> simp [appendMessageM, h, eq_comm]

theorem appendMessageM_error {sid : Option UInt32} {bytes : List UInt8}
    {s s' : RequesterContext cfg σ} {e : Fault} (h : appendMessageM sid bytes s = (.error e, s')) :
    s' = s ∧ ∃ st, e = .status st ∧ s.common.appendMessageM sid bytes = .error st := by
  cases hc : s.common.appendMessageM sid bytes <;> simp_all [appendMessageM, eq_comm]

variable (crypto : SpdmCrypto)

/-- The signature check of `handle_spdm_measurement_record_response`: with `SIGNATURE_REQUESTED`,
verify and empty the transcript, failing with `VerifFail` on an error; a panic of the verifier
propagates. -/
def checkMeasurementSignature (sessionId : Option UInt32) (slotId : UInt8)
    (attrs : SpdmMeasurementAttributes) (signature : SpdmSignatureStruct) :
    SpdmM (RequesterContext cfg σ) Unit := fun s =>
  if attrs.contains signatureRequested then
    match verifyMeasurementSignature crypto s.common slotId sessionId signature with
    | .error .panic => (.error .panic, s)
    | .error (.status _) =>
      (.error (.status .verifFail), { s with common := s.common.resetMessageM sessionId })
    | .ok () => (.ok (), { s with common := s.common.resetMessageM sessionId })
  else (.ok (), s)

/-- The part of `handle_spdm_measurement_record_response` after a MEASUREMENTS response
decoded as `measurements`, with the reader `used` bytes into `receiveBuffer`. -/
def handleMeasurements (sessionId : Option UInt32) (slotId : UInt8)
    (attrs : SpdmMeasurementAttributes) (op : SpdmMeasurementOperation)
    (sendBuffer receiveBuffer : List UInt8) (measurements : SpdmMeasurementsResponsePayload)
    (used : Nat) : SpdmM (RequesterContext cfg σ) (UInt8 × SpdmMeasurementRecordStructure) := do
  SpdmM.modify fun s =>
    { s with common := s.common.updateContentChanged measurements.contentChanged }
  let s ← SpdmM.get
  let baseAsymSize := s.common.negotiateInfo.baseAsymSel.getSize.toNat
  let tempUsed ← SpdmM.lift (usizeSub used
    (if s.common.runtimeInfo.needMeasurementSignature then baseAsymSize else 0))
  appendMessageM sessionId sendBuffer
  appendMessageM sessionId (← SpdmM.lift (slice receiveBuffer 0 tempUsed))
  checkMeasurementSignature crypto sessionId slotId attrs measurements.signature
  pure (measurementCount op measurements, measurements.measurementRecord)

variable {crypto} in
theorem checkMeasurementSignature_eq_ok {sid : Option UInt32} {slotId : UInt8}
    {attrs : SpdmMeasurementAttributes} {signature : SpdmSignatureStruct}
    {s s' : RequesterContext cfg σ} {u : Unit}
    (h : checkMeasurementSignature crypto sid slotId attrs signature s = (.ok u, s')) :
    if attrs.contains signatureRequested then
      verifyMeasurementSignature crypto s.common slotId sid signature = .ok () ∧
        s' = { s with common := s.common.resetMessageM sid }
    else s' = s := by
  unfold checkMeasurementSignature at h
  split at h
  · next hc =>
    rw [if_pos hc]
    split at h
    · cases h
    · cases h
    · next hv => exact ⟨hv, (Prod.mk.inj h).2.symm⟩
  · next hc => rw [if_neg hc]; exact (Prod.mk.inj h).2.symm

variable {crypto} in
/-- An accepted decoded response: the trailing signature fits in the bytes read, the request
and the response up to the signature were appended to the transcript in one piece, the
signature check passed on that transcript, and the count and record were returned. -/
theorem handleMeasurements_eq_ok {sid : Option UInt32} {slotId : UInt8}
    {attrs : SpdmMeasurementAttributes} {op : SpdmMeasurementOperation} {S R : List UInt8}
    {P : SpdmMeasurementsResponsePayload} {used : Nat} {s s' : RequesterContext cfg σ}
    {x : UInt8 × SpdmMeasurementRecordStructure}
    (h : handleMeasurements crypto sid slotId attrs op S R P used s = (.ok x, s')) :
    let k := if s.common.runtimeInfo.needMeasurementSignature then
      s.common.negotiateInfo.baseAsymSel.getSize.toNat else 0
    k ≤ used ∧ used - k ≤ R.length ∧ ∃ m m', s.common.messageM sid = some m ∧
      m.appendMessage (S ++ R.take (used - k)) = some m' ∧
      checkMeasurementSignature crypto sid slotId attrs P.signature
        { s with common := (s.common.updateContentChanged P.contentChanged).setMessageM sid m' } =
        (.ok (), s') ∧
      x = (measurementCount op P, P.measurementRecord) := by
  unfold handleMeasurements at h
  rw [SpdmM.modify_bind, SpdmM.get_bind] at h
  obtain ⟨_, ht, h⟩ := SpdmM.lift_bind_eq_ok.mp h
  obtain ⟨hk, rfl⟩ := usizeSub_eq_ok.mp ht
  obtain ⟨_, _, h₄, h⟩ := SpdmM.bind_eq_ok.mp h
  obtain ⟨c₄, hc₄, rfl⟩ := appendMessageM_eq_ok.mp h₄
  obtain ⟨T, hT, h⟩ := SpdmM.lift_bind_eq_ok.mp h
  obtain ⟨-, hR, rfl⟩ := slice_eq_ok.mp hT
  obtain ⟨_, _, h₆, h⟩ := SpdmM.bind_eq_ok.mp h
  obtain ⟨c₆, hc₆, rfl⟩ := appendMessageM_eq_ok.mp h₆
  obtain ⟨_, s₇, h₇, h⟩ := SpdmM.bind_eq_ok.mp h
  obtain ⟨hx, rfl⟩ := Prod.mk.inj h
  obtain ⟨m, m', hm, hm', rfl⟩ := SpdmContext.appendMessageM_appendMessageM hc₄ hc₆
  simp only [SpdmContext.updateContentChanged_messageM,
    SpdmContext.updateContentChanged_needMeasurementSignature,
    SpdmContext.updateContentChanged_negotiateInfo] at hm hk hR ⊢
  exact ⟨hk, hR, m, m', hm, by simpa using hm', h₇, (Except.ok.inj hx).symm⟩

variable {crypto} in
theorem checkMeasurementSignature_eq_error {sid : Option UInt32} {slotId : UInt8}
    {attrs : SpdmMeasurementAttributes} {signature : SpdmSignatureStruct}
    {s s' : RequesterContext cfg σ} {e : Fault}
    (h : checkMeasurementSignature crypto sid slotId attrs signature s = (.error e, s')) :
    attrs.contains signatureRequested = true ∧ (e = .panic ∧ s' = s ∨
      e = .status .verifFail ∧ s' = { s with common := s.common.resetMessageM sid }) := by
  unfold checkMeasurementSignature at h
  split at h
  · next hc =>
    refine ⟨hc, ?_⟩
    split at h
    · obtain ⟨⟨⟩, rfl⟩ := Prod.mk.inj h
      exact .inl ⟨rfl, rfl⟩
    · obtain ⟨⟨⟩, rfl⟩ := Prod.mk.inj h
      exact .inr ⟨rfl, rfl⟩
    · cases (Prod.mk.inj h).1
  · cases (Prod.mk.inj h).1

variable {crypto} in
/-- The error exits of the rest of the handler, all after `content_changed` was updated: before the
transcript is touched, after the request alone was appended, and in the signature check on the
transcript extended by both. -/
theorem handleMeasurements_eq_error {sid : Option UInt32} {slotId : UInt8}
    {attrs : SpdmMeasurementAttributes} {op : SpdmMeasurementOperation} {S R : List UInt8}
    {P : SpdmMeasurementsResponsePayload} {used : Nat} {s s' : RequesterContext cfg σ}
    {e : Fault} (h : handleMeasurements crypto sid slotId attrs op S R P used s = (.error e, s')) :
    let ctx₁ := s.common.updateContentChanged P.contentChanged
    let k := if s.common.runtimeInfo.needMeasurementSignature then
      s.common.negotiateInfo.baseAsymSel.getSize.toNat else 0
    (s' = { s with common := ctx₁ } ∧
      (e = .panic ∨ e = .status .invalidParameter ∨ e = .status .bufferFull)) ∨
    ((e = .status .bufferFull ∨ e = .panic) ∧ ∃ m m₁, s.common.messageM sid = some m ∧
      m.appendMessage S = some m₁ ∧ s' = { s with common := ctx₁.setMessageM sid m₁ }) ∨
    ∃ m m', s.common.messageM sid = some m ∧ m.appendMessage (S ++ R.take (used - k)) = some m' ∧
      checkMeasurementSignature crypto sid slotId attrs P.signature
        { s with common := ctx₁.setMessageM sid m' } = (.error e, s') := by
  unfold handleMeasurements at h
  rw [SpdmM.modify_bind, SpdmM.get_bind] at h
  obtain ⟨he, rfl⟩ | ⟨_, ht, h⟩ := SpdmM.lift_bind_eq_error.mp h
  · exact .inl ⟨rfl, .inl (usizeSub_error he)⟩
  obtain ⟨-, rfl⟩ := usizeSub_eq_ok.mp ht
  obtain h | ⟨_, _, h₄, h⟩ := SpdmM.bind_eq_error.mp h
  · obtain ⟨rfl, st, rfl, hst⟩ := appendMessageM_error h
    rcases SpdmContext.appendMessageM_error hst with ⟨-, rfl⟩ | ⟨-, -, -, rfl⟩
    · exact .inl ⟨rfl, .inr (.inl rfl)⟩
    · exact .inl ⟨rfl, .inr (.inr rfl)⟩
  obtain ⟨c₄, hc₄, rfl⟩ := appendMessageM_eq_ok.mp h₄
  obtain ⟨m, m₁, hm, hm₁, rfl⟩ := SpdmContext.appendMessageM_eq_ok hc₄
  have hm₀ : s.common.messageM sid = some m := by simpa using hm
  obtain ⟨he, rfl⟩ | ⟨T, hT, h⟩ := SpdmM.lift_bind_eq_error.mp h
  · exact .inr (.inl ⟨.inr (slice_error he), m, m₁, hm₀, hm₁, rfl⟩)
  obtain ⟨-, -, rfl⟩ := slice_eq_ok.mp hT
  obtain h | ⟨_, _, h₆, h⟩ := SpdmM.bind_eq_error.mp h
  · obtain ⟨rfl, st, rfl, hst⟩ := appendMessageM_error h
    refine .inr (.inl ⟨.inl ?_, m, m₁, hm₀, hm₁, rfl⟩)
    rcases SpdmContext.appendMessageM_error hst with ⟨hn, -⟩ | ⟨_, -, -, rfl⟩
    · rw [SpdmContext.messageM_setMessageM hm] at hn
      cases hn
    · rfl
  obtain ⟨c₆, hc₆, rfl⟩ := appendMessageM_eq_ok.mp h₆
  obtain ⟨m₂, m', hm₂, hm', rfl⟩ := SpdmContext.appendMessageM_appendMessageM hc₄ hc₆
  obtain rfl : m = m₂ := Option.some.inj (hm.symm.trans hm₂)
  obtain h | ⟨_, _, h₇, h⟩ := SpdmM.bind_eq_error.mp h
  · exact .inr (.inr ⟨m, m', hm₀, by simpa using hm', h⟩)
  · cases (Prod.mk.inj h).1

variable {crypto} in
theorem handleMeasurements_error_contentChanged {sid : Option UInt32} {slotId : UInt8}
    {attrs : SpdmMeasurementAttributes} {op : SpdmMeasurementOperation} {S R : List UInt8}
    {P : SpdmMeasurementsResponsePayload} {used : Nat} {s s' : RequesterContext cfg σ}
    {e : Fault} (h : handleMeasurements crypto sid slotId attrs op S R P used s = (.error e, s')) :
    s'.common.runtimeInfo.contentChanged =
      (s.common.updateContentChanged P.contentChanged).runtimeInfo.contentChanged := by
  rcases handleMeasurements_eq_error h with ⟨rfl, -⟩ | ⟨-, m, m₁, -, -, rfl⟩ |
    ⟨m, m', -, -, hcheck⟩
  · rfl
  · simp
  · obtain ⟨-, ⟨-, rfl⟩ | ⟨-, rfl⟩⟩ := checkMeasurementSignature_eq_error hcheck <;> simp

theorem noPanic_appendMessageM (sid : Option UInt32) (bytes : List UInt8)
    (s : RequesterContext cfg σ) : SpdmM.NoPanic (appendMessageM sid bytes) s := by
  unfold SpdmM.NoPanic appendMessageM; split <;> simp

variable {crypto} in
theorem noPanic_checkMeasurementSignature {sid : Option UInt32} {slotId : UInt8}
    {attrs : SpdmMeasurementAttributes} {signature : SpdmSignatureStruct}
    {s : RequesterContext cfg σ}
    (h : verifyMeasurementSignature crypto s.common slotId sid signature ≠ .error .panic) :
    SpdmM.NoPanic (checkMeasurementSignature crypto sid slotId attrs signature) s := by
  unfold SpdmM.NoPanic checkMeasurementSignature
  split
  · split
    · next hv => exact absurd hv h
    all_goals simp
  · simp

variable {crypto} in
theorem noPanic_handleMeasurements {sid : Option UInt32} {slotId : UInt8}
    {attrs : SpdmMeasurementAttributes} {op : SpdmMeasurementOperation} {S R : List UInt8}
    {P : SpdmMeasurementsResponsePayload} {used : Nat} {s : RequesterContext cfg σ}
    (hk : (if s.common.runtimeInfo.needMeasurementSignature then
      s.common.negotiateInfo.baseAsymSel.getSize.toNat else 0) ≤ used)
    (hused : used ≤ R.length) (hder : peerCertChainDer s.common slotId ≠ .error .panic) :
    SpdmM.NoPanic (handleMeasurements crypto sid slotId attrs op S R P used) s := by
  unfold handleMeasurements
  refine SpdmM.NoPanic.modify_bind (SpdmM.NoPanic.get_bind ?_)
  refine SpdmM.NoPanic.lift_bind (usizeSub_of_le (by simpa using hk)) ?_
  refine SpdmM.NoPanic.bind (noPanic_appendMessageM _ _ _) fun _ _ h₄ => ?_
  obtain ⟨c₄, hc₄, rfl⟩ := appendMessageM_eq_ok.mp h₄
  obtain ⟨_, _, -, -, rfl⟩ := SpdmContext.appendMessageM_eq_ok hc₄
  refine SpdmM.NoPanic.lift_bind (slice_zero (Nat.le_trans (Nat.sub_le _ _) hused)) ?_
  refine SpdmM.NoPanic.bind (noPanic_appendMessageM _ _ _) fun _ _ h₆ => ?_
  obtain ⟨c₆, hc₆, rfl⟩ := appendMessageM_eq_ok.mp h₆
  obtain ⟨_, _, -, -, rfl⟩ := SpdmContext.appendMessageM_eq_ok hc₆
  refine SpdmM.NoPanic.bind (noPanic_checkMeasurementSignature
    (verifyMeasurementSignature_ne_panic crypto (by simpa using hder))) fun _ _ _ =>
    SpdmM.noPanic_pure _ _

variable (codecs : SpdmFieldCodecs cfg)
  (errorHandler : Option UInt32 → List UInt8 → SpdmM (RequesterContext cfg σ) Unit)

/-- `handle_spdm_measurement_record_response`. `errorHandler` is
`spdm_handle_error_response_main` for a GET_MEASUREMENTS request, absent from the fragment;
it may change the requester in any way, and its `Ok` still ends the call with `ErrorPeer`. -/
def handleSpdmMeasurementRecordResponse (sessionId : Option UInt32) (slotId : UInt8)
    (attrs : SpdmMeasurementAttributes) (op : SpdmMeasurementOperation)
    (sendBuffer receiveBuffer : List UInt8) :
    SpdmM (RequesterContext cfg σ) (UInt8 × SpdmMeasurementRecordStructure) := do
  SpdmM.modify fun s => { s with
    common := s.common.setNeedMeasurementSignature (attrs.contains signatureRequested) }
  let s ← SpdmM.get
  match SpdmMessageHeader.read (Reader.init receiveBuffer) with
  | none => SpdmM.throw (.status .invalidMsgField)
  | some (messageHeader, reader) =>
    if messageHeader.version ≠ s.common.negotiateInfo.spdmVersionSel then
      SpdmM.throw (.status .invalidMsgField)
    else
      match messageHeader.requestResponseCode with
      | .spdmResponseMeasurements =>
        match SpdmMeasurementsResponsePayload.spdmRead codecs s.common reader with
        | some (measurements, reader) =>
          handleMeasurements crypto sessionId slotId attrs op sendBuffer receiveBuffer
            measurements reader.used
        | none => SpdmM.throw (.status .invalidMsgField)
      | .spdmResponseError => do
        errorHandler sessionId receiveBuffer
        SpdmM.throw (.status .errorPeer)
      | _ => SpdmM.throw (.status .errorPeer)

variable {crypto codecs errorHandler} in
/-- The handler returns `Ok` only on a MEASUREMENTS response of the negotiated version whose
payload decodes in the context that records whether a signature was requested, and then only
as the rest of the handler does. -/
theorem handleSpdmMeasurementRecordResponse_eq_ok {sid : Option UInt32} {slotId : UInt8}
    {attrs : SpdmMeasurementAttributes} {op : SpdmMeasurementOperation} {S R : List UInt8}
    {s s' : RequesterContext cfg σ} {x : UInt8 × SpdmMeasurementRecordStructure}
    (h : handleSpdmMeasurementRecordResponse crypto codecs errorHandler sid slotId attrs op S R s =
      (.ok x, s')) :
    let s₁ : RequesterContext cfg σ := { s with
      common := s.common.setNeedMeasurementSignature (attrs.contains signatureRequested) }
    ∃ reader P r', SpdmMessageHeader.read (Reader.init R) =
        some (⟨s.common.negotiateInfo.spdmVersionSel, .spdmResponseMeasurements⟩, reader) ∧
      SpdmMeasurementsResponsePayload.spdmRead codecs s₁.common reader = some (P, r') ∧
      handleMeasurements crypto sid slotId attrs op S R P r'.used s₁ = (.ok x, s') := by
  unfold handleSpdmMeasurementRecordResponse at h
  rw [SpdmM.modify_bind, SpdmM.get_bind] at h
  rcases hhdr : SpdmMessageHeader.read (Reader.init R) with _ | ⟨⟨version, code⟩, reader⟩ <;>
    simp only [hhdr, SpdmM.throw_apply, reduceCtorEq, Prod.mk.injEq, false_and] at h
  by_cases hv : version = s.common.negotiateInfo.spdmVersionSel
  · subst hv
    simp only [SpdmContext.setNeedMeasurementSignature_negotiateInfo, ne_eq, not_true_eq_false,
      if_false] at h
    cases code <;>
      simp only [SpdmM.throw_apply, reduceCtorEq, Prod.mk.injEq, false_and] at h
    · rcases hread : SpdmMeasurementsResponsePayload.spdmRead codecs
          (s.common.setNeedMeasurementSignature (attrs.contains signatureRequested)) reader with
        _ | ⟨P, r'⟩ <;>
        simp only [hread, SpdmM.throw_apply, reduceCtorEq, Prod.mk.injEq, false_and] at h
      exact ⟨reader, P, r', rfl, hread, h⟩
    · obtain ⟨_, _, -, h⟩ := SpdmM.bind_eq_ok.mp h
      simp at h
  · simp only [SpdmContext.setNeedMeasurementSignature_negotiateInfo, ne_eq, hv,
      not_false_eq_true, if_true, SpdmM.throw_apply, reduceCtorEq, Prod.mk.injEq, false_and] at h

variable {crypto codecs errorHandler} in
/-- The error exits of the handler: before any transcript is touched, in the context that
records whether a signature was requested; on an ERROR response, through `errorHandler`; and
in the rest of the handler, on a MEASUREMENTS response that decoded. -/
theorem handleSpdmMeasurementRecordResponse_eq_error {sid : Option UInt32} {slotId : UInt8}
    {attrs : SpdmMeasurementAttributes} {op : SpdmMeasurementOperation} {S R : List UInt8}
    {s s' : RequesterContext cfg σ} {e : Fault}
    (h : handleSpdmMeasurementRecordResponse crypto codecs errorHandler sid slotId attrs op S R s =
      (.error e, s')) :
    let s₁ : RequesterContext cfg σ := { s with
      common := s.common.setNeedMeasurementSignature (attrs.contains signatureRequested) }
    (s' = s₁ ∧ (e = .status .invalidMsgField ∨ e = .status .errorPeer)) ∨
    (∃ reader, SpdmMessageHeader.read (Reader.init R) =
      some (⟨s.common.negotiateInfo.spdmVersionSel, .spdmResponseError⟩, reader)) ∨
    ∃ reader P r', SpdmMessageHeader.read (Reader.init R) =
        some (⟨s.common.negotiateInfo.spdmVersionSel, .spdmResponseMeasurements⟩, reader) ∧
      SpdmMeasurementsResponsePayload.spdmRead codecs s₁.common reader = some (P, r') ∧
      handleMeasurements crypto sid slotId attrs op S R P r'.used s₁ = (.error e, s') := by
  unfold handleSpdmMeasurementRecordResponse at h
  rw [SpdmM.modify_bind, SpdmM.get_bind] at h
  rcases hhdr : SpdmMessageHeader.read (Reader.init R) with _ | ⟨⟨version, code⟩, reader⟩
  · simp only [hhdr, SpdmM.throw_apply, Prod.mk.injEq, Except.error.injEq] at h
    exact .inl ⟨h.2.symm, .inl h.1.symm⟩
  simp only [hhdr] at h
  by_cases hv : version = s.common.negotiateInfo.spdmVersionSel
  · subst hv
    simp only [SpdmContext.setNeedMeasurementSignature_negotiateInfo, ne_eq, not_true_eq_false,
      if_false] at h
    cases code with
    | spdmResponseMeasurements =>
      rcases hread : SpdmMeasurementsResponsePayload.spdmRead codecs
          (s.common.setNeedMeasurementSignature (attrs.contains signatureRequested)) reader with
        _ | ⟨P, r'⟩ <;> simp only [hread, SpdmM.throw_apply, Prod.mk.injEq, Except.error.injEq] at h
      · exact .inl ⟨h.2.symm, .inl h.1.symm⟩
      · exact .inr (.inr ⟨reader, P, r', rfl, hread, h⟩)
    | spdmResponseError => exact .inr (.inl ⟨reader, rfl⟩)
    | spdmResponseCertificate | spdmRequestGetCertificate | spdmRequestGetMeasurements
    | unknown _ =>
      simp only [SpdmM.throw_apply, Prod.mk.injEq, Except.error.injEq] at h
      exact .inl ⟨h.2.symm, .inr h.1.symm⟩
  · simp only [SpdmContext.setNeedMeasurementSignature_negotiateInfo, ne_eq, hv,
      not_false_eq_true, if_true, SpdmM.throw_apply, Prod.mk.injEq, Except.error.injEq] at h
    exact .inl ⟨h.2.symm, .inl h.1.symm⟩

theorem handleSpdmMeasurementRecordResponse_of_decode {sid : Option UInt32} {slotId : UInt8}
    {attrs : SpdmMeasurementAttributes} {op : SpdmMeasurementOperation} {S R : List UInt8}
    {s : RequesterContext cfg σ} {reader r' : Reader} {P : SpdmMeasurementsResponsePayload}
    (hhdr : SpdmMessageHeader.read (Reader.init R) =
      some (⟨s.common.negotiateInfo.spdmVersionSel, .spdmResponseMeasurements⟩, reader))
    (hread : SpdmMeasurementsResponsePayload.spdmRead codecs
      (s.common.setNeedMeasurementSignature (attrs.contains signatureRequested)) reader =
        some (P, r')) :
    handleSpdmMeasurementRecordResponse crypto codecs errorHandler sid slotId attrs op S R s =
      handleMeasurements crypto sid slotId attrs op S R P r'.used
        { s with
          common := s.common.setNeedMeasurementSignature (attrs.contains signatureRequested) } := by
  unfold handleSpdmMeasurementRecordResponse
  rw [SpdmM.modify_bind, SpdmM.get_bind]
  simp only [hhdr, SpdmContext.setNeedMeasurementSignature_negotiateInfo, ne_eq, not_true_eq_false,
    if_false, hread]

/-- `encode_spdm_measurement_record`: a GET_MEASUREMENTS request of the negotiated version
with a fresh nonce, as the send buffer holds it. -/
def encodeSpdmMeasurementRecord (attrs : SpdmMeasurementAttributes)
    (op : SpdmMeasurementOperation) (slotId : UInt8) :
    SpdmM (RequesterContext cfg σ) (List UInt8) := do
  let nonce ← SpdmM.liftStatus crypto.getRandom
  let s ← SpdmM.get
  let request := SpdmMessageHeader.writes
      ⟨s.common.negotiateInfo.spdmVersionSel, .spdmRequestGetMeasurements⟩ ++
    SpdmGetMeasurementsRequestPayload.writes ⟨attrs, op, nonce, slotId⟩
  let written := (Writer.init cfg.maxSpdmMsgSize).write request
  let sendUsed ← SpdmM.liftStatus written.1
  pure (written.2.written.take sendUsed)

variable {crypto} in
theorem encodeSpdmMeasurementRecord_eq_ok {attrs : SpdmMeasurementAttributes}
    {op : SpdmMeasurementOperation} {slotId : UInt8} {s s' : RequesterContext cfg σ}
    {bytes : List UInt8}
    (h : encodeSpdmMeasurementRecord crypto attrs op slotId s = (.ok bytes, s')) : s' = s := by
  unfold encodeSpdmMeasurementRecord at h
  obtain ⟨_, _, h₁, k₁⟩ := SpdmM.bind_eq_ok.mp h
  obtain ⟨-, rfl⟩ := SpdmM.liftStatus_eq_ok.mp h₁
  rw [SpdmM.get_bind] at k₁
  obtain ⟨_, _, h₃, k₃⟩ := SpdmM.bind_eq_ok.mp k₁
  obtain ⟨-, rfl⟩ := SpdmM.liftStatus_eq_ok.mp h₃
  exact (Prod.mk.inj k₃).2.symm

theorem noPanic_encodeSpdmMeasurementRecord (attrs : SpdmMeasurementAttributes)
    (op : SpdmMeasurementOperation) (slotId : UInt8) (s : RequesterContext cfg σ) :
    SpdmM.NoPanic (encodeSpdmMeasurementRecord crypto attrs op slotId) s := by
  unfold encodeSpdmMeasurementRecord
  refine SpdmM.NoPanic.bind (SpdmM.noPanic_liftStatus _ _) fun _ _ _ => ?_
  refine SpdmM.NoPanic.get_bind ?_
  exact SpdmM.NoPanic.bind (SpdmM.noPanic_liftStatus _ _) fun _ _ _ => SpdmM.noPanic_pure _ _

variable (io : SpdmDeviceIo σ)

/-- `send_receive_spdm_measurement_record`. -/
def sendReceiveSpdmMeasurementRecord (sessionId : Option UInt32)
    (attrs : SpdmMeasurementAttributes) (op : SpdmMeasurementOperation) (slotId : UInt8) :
    SpdmM (RequesterContext cfg σ) (UInt8 × SpdmMeasurementRecordStructure) :=
  if slotId.toNat ≥ spdmMaxSlotNumber then SpdmM.throw (.status .invalidStateLocal)
  else do
    let sendBuffer ← encodeSpdmMeasurementRecord crypto attrs op slotId
    sendMessage io sessionId sendBuffer
    let receiveBuffer ← receiveMessage io sessionId
    handleSpdmMeasurementRecordResponse crypto codecs errorHandler sessionId slotId attrs op
      sendBuffer receiveBuffer

/-- `send_receive_spdm_measurement`: the count and the record it writes to its out
parameters on `Ok`. -/
def sendReceiveSpdmMeasurement (sessionId : Option UInt32) (slotId : UInt8)
    (attrs : SpdmMeasurementAttributes) (op : SpdmMeasurementOperation) :
    SpdmM (RequesterContext cfg σ) (UInt8 × SpdmMeasurementRecordStructure) := do
  let out ← sendReceiveSpdmMeasurementRecord crypto codecs errorHandler io sessionId attrs op
    slotId
  pure out

variable {crypto codecs errorHandler io} in
/-- A slot id past the eight slots is `InvalidStateLocal` before anything is encoded or sent:
the requester, its device included, is left as it was. -/
theorem sendReceiveSpdmMeasurementRecord_of_slot_ge {sid : Option UInt32}
    {attrs : SpdmMeasurementAttributes} {op : SpdmMeasurementOperation} {slotId : UInt8}
    (h : spdmMaxSlotNumber ≤ slotId.toNat) (s : RequesterContext cfg σ) :
    sendReceiveSpdmMeasurementRecord crypto codecs errorHandler io sid attrs op slotId s =
      (.error (.status .invalidStateLocal), s) := by
  simp [sendReceiveSpdmMeasurementRecord, h]

end RequesterContext

end Spdm
