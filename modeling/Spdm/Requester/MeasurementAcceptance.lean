import Spdm.Requester.MeasurementGuarantees

/-!
# The GET_MEASUREMENTS exchanges the requester accepts

`Spdm.Requester.MeasurementGuarantees` reads off what an `Ok` of the handler means
(`MeasurementsAccepted`). This module proves the converse, so that `MeasurementsAccepted` is
exactly the set of responses the handler accepts: every response that decodes, whose signature
fits in the bytes read, whose request and response fit in the transcript and whose requested
signature verifies on it, is accepted with the count and the record of its payload.

The converse is carried through `send_receive_spdm_measurement`: with a slot id in range, a
fresh nonce and room in the send buffer, a device that answers the GET_MEASUREMENTS request
with such a response gets the flow to return `Ok`.
-/

namespace Spdm

variable {cfg : Config} {σ : Type} {crypto : SpdmCrypto} {codecs : SpdmFieldCodecs cfg}
  {errorHandler : Option UInt32 → List UInt8 → SpdmM (RequesterContext cfg σ) Unit}

open SpdmMeasurementAttributes (signatureRequested)
open RequesterContext

namespace RequesterContext

variable (crypto) in
theorem checkMeasurementSignature_of_verify {sid : Option UInt32} {slotId : UInt8}
    {attrs : SpdmMeasurementAttributes} {signature : SpdmSignatureStruct}
    {s : RequesterContext cfg σ}
    (hv : attrs.contains signatureRequested = true →
      verifyMeasurementSignature crypto s.common slotId sid signature = .ok ()) :
    checkMeasurementSignature crypto sid slotId attrs signature s =
      (.ok (), if attrs.contains signatureRequested then
        { s with common := s.common.resetMessageM sid } else s) := by
  unfold checkMeasurementSignature
  split
  · next hb => rw [hv hb]
  · rfl

/-- The converse of `handleMeasurements_eq_ok`: when the signature fits in the bytes read, the
request and the response up to the signature fit in the transcript and the signature check
passes on it, the part after the decode accepts. -/
theorem handleMeasurements_of_transcript {sid : Option UInt32} {slotId : UInt8}
    {attrs : SpdmMeasurementAttributes} {op : SpdmMeasurementOperation} {S R : List UInt8}
    {P : SpdmMeasurementsResponsePayload} {used : Nat} {s s' : RequesterContext cfg σ}
    {m m' : ManagedBuffer} :
    let k := if s.common.runtimeInfo.needMeasurementSignature then
      s.common.negotiateInfo.baseAsymSel.getSize.toNat else 0
    k ≤ used → used - k ≤ R.length → s.common.messageM sid = some m →
      m.appendMessage (S ++ R.take (used - k)) = some m' →
      checkMeasurementSignature crypto sid slotId attrs P.signature
          { s with common := (s.common.updateContentChanged P.contentChanged).setMessageM sid m' } =
        (.ok (), s') →
      handleMeasurements crypto sid slotId attrs op S R P used s =
        (.ok (measurementCount op P, P.measurementRecord), s') := by
  intro k hk hR hm happ hcheck
  obtain ⟨c₁, h₁, h₂⟩ := SpdmContext.appendMessageM_of_append
    (show (s.common.updateContentChanged P.contentChanged).messageM sid = some m by simpa) happ
  unfold handleMeasurements
  rw [SpdmM.modify_bind, SpdmM.get_bind]
  simp only [SpdmContext.updateContentChanged_needMeasurementSignature,
    SpdmContext.updateContentChanged_negotiateInfo, SpdmM.lift_bind_of_ok (usizeSub_of_le hk),
    SpdmM.bind_apply, appendMessageM, h₁, slice_zero hR, SpdmM.lift_apply, h₂, hcheck,
    SpdmM.pure_apply]

/-- The GET_MEASUREMENTS request `encode_spdm_measurement_record` writes for the nonce `nonce`:
the header of the negotiated version, then the payload. -/
def getMeasurementsRequestBytes (ctx : SpdmContext cfg) (attrs : SpdmMeasurementAttributes)
    (op : SpdmMeasurementOperation) (nonce : SpdmNonceStruct) (slotId : UInt8) : List UInt8 :=
  (SpdmMessageHeader.writes ⟨ctx.negotiateInfo.spdmVersionSel, .spdmRequestGetMeasurements⟩ ++
    SpdmGetMeasurementsRequestPayload.writes ⟨attrs, op, nonce, slotId⟩).flatten

theorem length_getMeasurementsRequestBytes (ctx : SpdmContext cfg)
    (attrs : SpdmMeasurementAttributes) (op : SpdmMeasurementOperation) (nonce : SpdmNonceStruct)
    (slotId : UInt8) :
    (getMeasurementsRequestBytes ctx attrs op nonce slotId).length =
      2 + SpdmGetMeasurementsRequestPayload.wireLength attrs := by
  rw [getMeasurementsRequestBytes, List.flatten_append, List.length_append,
    SpdmGetMeasurementsRequestPayload.length_flatten_writes]
  rfl

variable (crypto) in
theorem encodeSpdmMeasurementRecord_of_fit {attrs : SpdmMeasurementAttributes}
    {op : SpdmMeasurementOperation} {slotId : UInt8} {nonce : SpdmNonceStruct}
    (hrand : crypto.getRandom = .ok nonce)
    (hfit : 2 + SpdmGetMeasurementsRequestPayload.wireLength attrs ≤ cfg.maxSpdmMsgSize)
    (s : RequesterContext cfg σ) :
    encodeSpdmMeasurementRecord crypto attrs op slotId s =
      (.ok (getMeasurementsRequestBytes s.common attrs op nonce slotId), s) := by
  obtain ⟨w, hw⟩ := @Writer.write_of_le (Writer.init cfg.maxSpdmMsgSize)
    (SpdmMessageHeader.writes ⟨s.common.negotiateInfo.spdmVersionSel,
      .spdmRequestGetMeasurements⟩ ++
        SpdmGetMeasurementsRequestPayload.writes ⟨attrs, op, nonce, slotId⟩)
    (by simpa [← length_getMeasurementsRequestBytes s.common attrs op nonce slotId,
      getMeasurementsRequestBytes] using hfit)
  simp only [encodeSpdmMeasurementRecord, SpdmM.bind_apply, SpdmM.liftStatus_apply, hrand,
    Except.mapError, SpdmM.get_apply, hw, SpdmM.pure_apply, (Writer.write_eq_ok hw).2.1]
  simp [getMeasurementsRequestBytes]

end RequesterContext

theorem handleSpdmMeasurementRecordResponse_accepts (crypto : SpdmCrypto)
    (codecs : SpdmFieldCodecs cfg)
    (errorHandler : Option UInt32 → List UInt8 → SpdmM (RequesterContext cfg σ) Unit)
    {sid : Option UInt32} {slotId : UInt8} {attrs : SpdmMeasurementAttributes}
    {op : SpdmMeasurementOperation} {S R : List UInt8}
    {s : RequesterContext cfg σ} {reader r' : Reader} {P : SpdmMeasurementsResponsePayload}
    {m m' : ManagedBuffer}
    (hhdr : SpdmMessageHeader.read (Reader.init R) =
      some (⟨s.common.negotiateInfo.spdmVersionSel, .spdmResponseMeasurements⟩, reader))
    (hread : SpdmMeasurementsResponsePayload.spdmRead codecs
      (s.common.setNeedMeasurementSignature (attrs.contains signatureRequested)) reader =
        some (P, r'))
    (hk : signatureLength s.common attrs ≤ r'.used)
    (hm : s.common.messageM sid = some m)
    (happ : m.appendMessage (S ++ R.take (r'.used - signatureLength s.common attrs)) = some m')
    (hver : attrs.contains signatureRequested = true →
      verifyMeasurementSignature crypto (((s.common.setNeedMeasurementSignature
        true).updateContentChanged P.contentChanged).setMessageM sid m') slotId sid P.signature =
          .ok ()) :
    ∃ s', handleSpdmMeasurementRecordResponse crypto codecs errorHandler sid slotId attrs op S R
        s = (.ok (measurementCount op P, P.measurementRecord), s') ∧
      MeasurementsAccepted crypto codecs sid slotId attrs S R s s' P r'.used := by
  have hused : r'.used ≤ R.length := by
    obtain ⟨n, hmoved⟩ := SpdmMeasurementsResponsePayload.moved_of_spdmRead codecs hread
    have h := (SpdmMessageHeader.moved_of_read hhdr).trans hmoved
    simpa [h.used_eq.2] using r'.used_le
  rw [handleSpdmMeasurementRecordResponse_of_decode crypto codecs errorHandler hhdr hread]
  have hm₁ : (s.common.setNeedMeasurementSignature (attrs.contains signatureRequested)).messageM
      sid = some m := by simpa using hm
  refine ⟨_, handleMeasurements_of_transcript hk (by omega) hm₁ happ
    (checkMeasurementSignature_of_verify crypto fun hb => ?_),
      ⟨⟨reader, r', hhdr, hread, rfl⟩, hk, ⟨m, m', hm, happ, ?_⟩, by split <;> rfl⟩⟩
  · rw [hb]
    exact hver hb
  · cases hb : attrs.contains signatureRequested
    · simp
    · exact ⟨by simpa using hver hb, SpdmContext.resetMessageM_of_messageM
        (SpdmContext.messageM_setMessageM (by simpa))⟩

/-- The converse of the transcript contract: the handler accepts every response that
`MeasurementsAccepted` describes, returning its count and record. -/
theorem handleSpdmMeasurementRecordResponse_of_accepted (crypto : SpdmCrypto)
    (codecs : SpdmFieldCodecs cfg)
    (errorHandler : Option UInt32 → List UInt8 → SpdmM (RequesterContext cfg σ) Unit)
    {sid : Option UInt32} {slotId : UInt8} {attrs : SpdmMeasurementAttributes}
    {op : SpdmMeasurementOperation} {S R : List UInt8}
    {s : RequesterContext cfg σ} {reader r' : Reader} {P : SpdmMeasurementsResponsePayload}
    {m m' : ManagedBuffer}
    (hhdr : SpdmMessageHeader.read (Reader.init R) =
      some (⟨s.common.negotiateInfo.spdmVersionSel, .spdmResponseMeasurements⟩, reader))
    (hread : SpdmMeasurementsResponsePayload.spdmRead codecs
      (s.common.setNeedMeasurementSignature (attrs.contains signatureRequested)) reader =
        some (P, r'))
    (hk : signatureLength s.common attrs ≤ r'.used)
    (hm : s.common.messageM sid = some m)
    (happ : m.appendMessage (S ++ R.take (r'.used - signatureLength s.common attrs)) = some m')
    (hver : attrs.contains signatureRequested = true →
      verifyMeasurementSignature crypto (((s.common.setNeedMeasurementSignature
        true).updateContentChanged P.contentChanged).setMessageM sid m') slotId sid P.signature =
          .ok ()) :
    ∃ s', handleSpdmMeasurementRecordResponse crypto codecs errorHandler sid slotId attrs op S R
        s = (.ok (measurementCount op P, P.measurementRecord), s') ∧
      MeasurementsAccepted crypto codecs sid slotId attrs S R s s' P r'.used :=
  handleSpdmMeasurementRecordResponse_accepts crypto codecs errorHandler hhdr hread hk hm happ hver

theorem handleSpdmMeasurementRecordResponse_accepts_signedExchange :
    ∃ (reader r' : Reader) (P : SpdmMeasurementsResponsePayload) (m m' : ManagedBuffer),
      SpdmMessageHeader.read (Reader.init signedMeasurementsResponse) =
        some (⟨measurementContext.negotiateInfo.spdmVersionSel, .spdmResponseMeasurements⟩,
          reader) ∧
      SpdmMeasurementsResponsePayload.spdmRead spdmFieldCodecs
          (measurementContext.setNeedMeasurementSignature
            (signatureRequested.contains signatureRequested)) reader = some (P, r') ∧
      signatureLength measurementContext signatureRequested ≤ r'.used ∧
      measurementContext.messageM none = some m ∧
      m.appendMessage (signedMeasurementsRequest ++ signedMeasurementsResponse.take
        (r'.used - signatureLength measurementContext signatureRequested)) = some m' ∧
      (signatureRequested.contains signatureRequested = true →
        verifyMeasurementSignature acceptingCrypto (((measurementContext.setNeedMeasurementSignature
          true).updateContentChanged P.contentChanged).setMessageM none m') 0 none P.signature =
            .ok ()) ∧
      ∃ s', handleSpdmMeasurementRecordResponse acceptingCrypto spdmFieldCodecs
          ignoreErrorResponse none 0 signatureRequested .spdmMeasurementRequestAll
          signedMeasurementsRequest
          signedMeasurementsResponse ⟨measurementContext, ()⟩ =
          (.ok (measurementCount .spdmMeasurementRequestAll P, P.measurementRecord), s') ∧
        MeasurementsAccepted acceptingCrypto spdmFieldCodecs none 0 signatureRequested
          signedMeasurementsRequest signedMeasurementsResponse ⟨measurementContext, ()⟩ s' P
          r'.used :=
  ⟨_, _, _, _, _, rfl, rfl, by decide, rfl, rfl, fun _ => rfl,
    handleSpdmMeasurementRecordResponse_of_accepted acceptingCrypto spdmFieldCodecs
      ignoreErrorResponse rfl rfl (by decide) rfl rfl (fun _ => rfl)⟩

/-- With a slot id in range, a fresh nonce and room for the request, a device that takes the
GET_MEASUREMENTS request and answers with a response `MeasurementsAccepted` describes gets the flow
to return its count and record. -/
theorem sendReceiveSpdmMeasurement_of_accepted (crypto : SpdmCrypto)
    (codecs : SpdmFieldCodecs cfg)
    (errorHandler : Option UInt32 → List UInt8 → SpdmM (RequesterContext cfg σ) Unit)
    {io : SpdmDeviceIo σ} {sid : Option UInt32} {slotId : UInt8}
    {attrs : SpdmMeasurementAttributes} {op : SpdmMeasurementOperation}
    {s : RequesterContext cfg σ} {nonce : SpdmNonceStruct} {d d' : σ} {R : List UInt8}
    {reader r' : Reader} {P : SpdmMeasurementsResponsePayload} {m m' : ManagedBuffer}
    (hslot : slotId.toNat < spdmMaxSlotNumber)
    (hrand : crypto.getRandom = .ok nonce)
    (hfit : 2 + SpdmGetMeasurementsRequestPayload.wireLength attrs ≤ cfg.maxSpdmMsgSize)
    (hsend : io.send s.device sid (getMeasurementsRequestBytes s.common attrs op nonce slotId) =
      .ok d)
    (hrecv : io.receive d sid = .ok (R, d'))
    (hhdr : SpdmMessageHeader.read (Reader.init R) =
      some (⟨s.common.negotiateInfo.spdmVersionSel, .spdmResponseMeasurements⟩, reader))
    (hread : SpdmMeasurementsResponsePayload.spdmRead codecs
      (s.common.setNeedMeasurementSignature (attrs.contains signatureRequested)) reader =
        some (P, r'))
    (hk : signatureLength s.common attrs ≤ r'.used)
    (hm : s.common.messageM sid = some m)
    (happ : m.appendMessage (getMeasurementsRequestBytes s.common attrs op nonce slotId ++
      R.take (r'.used - signatureLength s.common attrs)) = some m')
    (hver : attrs.contains signatureRequested = true →
      verifyMeasurementSignature crypto (((s.common.setNeedMeasurementSignature
        true).updateContentChanged P.contentChanged).setMessageM sid m') slotId sid P.signature =
          .ok ()) :
    ∃ s', sendReceiveSpdmMeasurement crypto codecs errorHandler io sid slotId attrs op s =
        (.ok (measurementCount op P, P.measurementRecord), s') ∧
      MeasurementsAccepted crypto codecs sid slotId attrs
        (getMeasurementsRequestBytes s.common attrs op nonce slotId) R { s with device := d' } s'
        P r'.used := by
  obtain ⟨s', h, hacc⟩ := handleSpdmMeasurementRecordResponse_accepts crypto codecs
    errorHandler (s := { s with device := d' }) hhdr hread hk hm happ hver
  have hrecord : sendReceiveSpdmMeasurementRecord crypto codecs errorHandler io sid attrs op slotId
      s = (.ok (measurementCount op P, P.measurementRecord), s') := by
    unfold sendReceiveSpdmMeasurementRecord
    rw [if_neg (by omega)]
    simp only [SpdmM.bind_apply, encodeSpdmMeasurementRecord_of_fit crypto hrand hfit, sendMessage,
      hsend, receiveMessage, hrecv]
    exact h
  exact ⟨s', by rw [sendReceiveSpdmMeasurement, SpdmM.bind_of_ok hrecord]; rfl, hacc⟩

theorem sendReceiveSpdmMeasurement_accepts_signedExchange :
    ∃ (reader r' : Reader) (P : SpdmMeasurementsResponsePayload) (m m' : ManagedBuffer),
      (0 : UInt8).toNat < spdmMaxSlotNumber ∧
      acceptingCrypto.getRandom = .ok SpdmNonceStruct.default ∧
      2 + SpdmGetMeasurementsRequestPayload.wireLength signatureRequested ≤
        smallConfig.maxSpdmMsgSize ∧
      SpdmMessageHeader.read (Reader.init signedMeasurementsResponse) =
        some (⟨measurementContext.negotiateInfo.spdmVersionSel, .spdmResponseMeasurements⟩,
          reader) ∧
      SpdmMeasurementsResponsePayload.spdmRead spdmFieldCodecs
          (measurementContext.setNeedMeasurementSignature true) reader = some (P, r') ∧
      signatureLength measurementContext signatureRequested ≤ r'.used ∧
      measurementContext.messageM none = some m ∧
      m.appendMessage (getMeasurementsRequestBytes measurementContext signatureRequested
          .spdmMeasurementRequestAll .default 0 ++ signedMeasurementsResponse.take
            (r'.used - signatureLength measurementContext signatureRequested)) = some m' ∧
      ∃ s', sendReceiveSpdmMeasurement acceptingCrypto spdmFieldCodecs ignoreErrorResponse
          SpdmDeviceIo.scripted none 0 signatureRequested .spdmMeasurementRequestAll
          ⟨measurementContext, [signedMeasurementsResponse]⟩ =
          (.ok (measurementCount .spdmMeasurementRequestAll P, P.measurementRecord), s') ∧
        MeasurementsAccepted acceptingCrypto spdmFieldCodecs none 0 signatureRequested
          (getMeasurementsRequestBytes measurementContext signatureRequested
            .spdmMeasurementRequestAll .default 0) signedMeasurementsResponse
          ⟨measurementContext, []⟩ s' P r'.used :=
  ⟨_, _, _, _, _, by decide, rfl, by decide, rfl, rfl, by decide, rfl, rfl,
    sendReceiveSpdmMeasurement_of_accepted acceptingCrypto spdmFieldCodecs ignoreErrorResponse
      (d := [signedMeasurementsResponse]) (by decide) rfl (by decide) rfl rfl rfl rfl (by decide)
      rfl rfl (fun _ => rfl)⟩

end Spdm
