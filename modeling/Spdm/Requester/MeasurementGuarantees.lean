import Spdm.Requester.GetMeasurements

/-!
# What the GET_MEASUREMENTS handler guarantees

Read off the inversion lemmas of `Spdm.Requester.GetMeasurements`, for every response the
device delivers:

* an `Ok` is an accepted MEASUREMENTS response (`MeasurementsAccepted`): the transcript of its
  session alone was extended by the request and the response up to its signature, and a
  requested signature verified on that transcript, which was then emptied;
* an `Err` leaves the transcript as it was, empty after `VerifFail`, or holding the request
  alone after `BufferFull`; it leaves `content_changed` as it was unless a MEASUREMENTS response
  of SPDM 1.2 or later decoded;
* the exchange keeps to `MeasurementFrame`, and panics only in the verifier's slice of a peer
  chain shorter than its header.
-/

namespace Spdm

variable {cfg : Config} {σ : Type} {crypto : SpdmCrypto} {codecs : SpdmFieldCodecs cfg}
  {errorHandler : Option UInt32 → List UInt8 → SpdmM (RequesterContext cfg σ) Unit}
  {io : SpdmDeviceIo σ}

open SpdmMeasurementAttributes (signatureRequested)
open RequesterContext

/-- The error exits on a response that is not an ERROR message, by what they leave in the
transcript of the session; a panic leaves it in any state. -/
theorem handleSpdmMeasurementRecordResponse_error_cases {sid : Option UInt32}
    {slotId : UInt8} {attrs : SpdmMeasurementAttributes} {op : SpdmMeasurementOperation}
    {S R : List UInt8} {s s' : RequesterContext cfg σ} {e : Fault}
    (hR : ∀ reader, SpdmMessageHeader.read (Reader.init R) ≠
      some (⟨s.common.negotiateInfo.spdmVersionSel, .spdmResponseError⟩, reader))
    (h : handleSpdmMeasurementRecordResponse crypto codecs errorHandler sid slotId attrs op S R s =
      (.error e, s')) :
    (s'.common.messageM sid = s.common.messageM sid ∧ e ≠ .status .verifFail) ∨
    (e = .status .verifFail ∧ (s'.common.messageM sid).map ManagedBuffer.data = some []) ∨
    (e = .status .bufferFull ∧ ∃ m m₁, s.common.messageM sid = some m ∧
      m.appendMessage S = some m₁ ∧ s'.common.messageM sid = some m₁) ∨
    e = .panic := by
  rcases handleSpdmMeasurementRecordResponse_eq_error h with ⟨rfl, he⟩ | ⟨reader, hr⟩ |
    ⟨reader, P, r', -, -, hm⟩
  · exact .inl ⟨by simp, by rcases he with rfl | rfl <;> decide⟩
  · exact absurd hr (hR reader)
  rcases handleMeasurements_eq_error hm with ⟨rfl, he⟩ | ⟨he | he, m, m₁, hm₀, hm₁, rfl⟩ |
    ⟨m, m', hm₀, hm', hcheck⟩
  · exact .inl ⟨by simp, by rcases he with rfl | rfl | rfl <;> decide⟩
  · refine .inr (.inr (.inl ⟨he, m, m₁, by simpa using hm₀, hm₁, ?_⟩))
    exact SpdmContext.messageM_setMessageM (by simpa using hm₀)
  · exact .inr (.inr (.inr he))
  obtain ⟨-, ⟨rfl, -⟩ | ⟨rfl, rfl⟩⟩ := checkMeasurementSignature_eq_error hcheck
  · exact .inr (.inr (.inr rfl))
  · have hm'' := @SpdmContext.messageM_setMessageM _ _ _ _ m' (show
      ((s.common.setNeedMeasurementSignature
        (attrs.contains signatureRequested)).updateContentChanged P.contentChanged).messageM sid =
        some m by simpa using hm₀)
    refine .inr (.inl ⟨rfl, ?_⟩)
    simp [SpdmContext.resetMessageM_of_messageM hm'', SpdmContext.messageM_setMessageM hm'']

/-- An SPDM 1.1 connection with 64-byte signatures (`base_asym_sel` bit 4), 128-byte
transcripts and the chain `[5, 0, 0, 0, 0x30]` in every slot. -/
def measurementContext : SpdmContext smallConfig :=
  { SpdmContext.new ⟨false⟩ ⟨none⟩ 128 with
    negotiateInfo := ⟨.spdmVersion11, ⟨0⟩, ⟨0x10⟩⟩
    peerInfo := ⟨fun _ => some ⟨5, [5, 0, 0, 0, 0x30]⟩, ⟨0, List.replicate 8 0, rfl⟩⟩ }

/-- An error handler that does nothing. -/
def ignoreErrorResponse {τ : Type} :
    Option UInt32 → List UInt8 → SpdmM (RequesterContext smallConfig τ) Unit :=
  fun _ _ => pure ()

/-- The SPDM 1.1 request for all measurements without a signature. -/
def unsignedMeasurementsRequest : List UInt8 := [0x11, 0xE0, 0x00, 0xFF]

/-- An SPDM 1.1 MEASUREMENTS response without a signature. -/
def unsignedMeasurementsResponse : List UInt8 :=
  [0x11, 0x60, 1, 0, 0, 0, 0, 0] ++ List.replicate 32 0 ++ [0, 0]

theorem handleSpdmMeasurementRecordResponse_verifFail_transcript {sid : Option UInt32}
    {slotId : UInt8} {attrs : SpdmMeasurementAttributes} {op : SpdmMeasurementOperation}
    {S R : List UInt8} {s s' : RequesterContext cfg σ}
    (hR : ∀ reader, SpdmMessageHeader.read (Reader.init R) ≠
      some (⟨s.common.negotiateInfo.spdmVersionSel, .spdmResponseError⟩, reader))
    (h : handleSpdmMeasurementRecordResponse crypto codecs errorHandler sid slotId attrs op S R s =
      (.error (.status .verifFail), s')) :
    (s'.common.messageM sid).map ManagedBuffer.data = some [] := by
  rcases handleSpdmMeasurementRecordResponse_error_cases hR h with ⟨-, hne⟩ | ⟨-, hm⟩ |
    ⟨he, -⟩ | he
  · exact absurd rfl hne
  · exact hm
  · cases he
  · cases he

/-- The SPDM 1.1 request for all measurements, signed, from slot 0, with the zero nonce. -/
def signedMeasurementsRequest : List UInt8 :=
  [0x11, 0xE0, 0x01, 0xFF] ++ List.replicate 32 0 ++ [0]

/-- `measurementContext` under SPDM 1.2, `content_changed` still `NOT_SUPPORTED`. -/
def measurementContext12 : SpdmContext smallConfig :=
  { measurementContext with negotiateInfo := ⟨.spdmVersion12, ⟨0⟩, ⟨0x10⟩⟩ }

/-- `acceptingCrypto`, except that no signature verifies. -/
def rejectingCrypto : SpdmCrypto :=
  { acceptingCrypto with asymVerify := fun _ _ _ _ _ => .error .verifFail }

/-- An SPDM 1.2 MEASUREMENTS response that announces in Param2 that the measurements changed:
one measurement, slot 0, an empty record, the zero nonce, no opaque data and a 64-byte
signature. -/
def changedMeasurementsResponse : List UInt8 :=
  [0x12, 0x60, 1, 0x10, 0, 0, 0, 0] ++ List.replicate 32 0 ++ [0, 0] ++ List.replicate 64 7

/-- A response whose signature does not verify is rejected with `VerifFail`, yet the
`content_changed` it announced has already replaced the requester's. -/
theorem handleSpdmMeasurementRecordResponse_rejected_sets_content_changed :
    measurementContext12.runtimeInfo.contentChanged = .notSupported ∧
    (handleSpdmMeasurementRecordResponse rejectingCrypto spdmFieldCodecs
        (fun _ _ => (pure () : SpdmM (RequesterContext smallConfig Unit) Unit)) none 0
        signatureRequested .spdmMeasurementRequestAll signedMeasurementsRequest
        changedMeasurementsResponse ⟨measurementContext12, ()⟩).1 =
      .error (.status .verifFail) ∧
    (handleSpdmMeasurementRecordResponse rejectingCrypto spdmFieldCodecs
        (fun _ _ => (pure () : SpdmM (RequesterContext smallConfig Unit) Unit)) none 0
        signatureRequested .spdmMeasurementRequestAll signedMeasurementsRequest
        changedMeasurementsResponse ⟨measurementContext12, ()⟩).2.common.runtimeInfo.contentChanged =
      .detectedChange :=
  ⟨rfl, rfl, rfl⟩

/-- An error exit after a MEASUREMENTS response of the negotiated version decoded leaves in
`content_changed` the flags that response announced, under SPDM 1.2 or later; any other error
exit on a response that is not an ERROR message leaves `content_changed` as it was. -/
theorem handleSpdmMeasurementRecordResponse_error_contentChanged {sid : Option UInt32}
    {slotId : UInt8} {attrs : SpdmMeasurementAttributes} {op : SpdmMeasurementOperation}
    {S R : List UInt8} {s s' : RequesterContext cfg σ} {e : Fault}
    (hR : ∀ reader, SpdmMessageHeader.read (Reader.init R) ≠
      some (⟨s.common.negotiateInfo.spdmVersionSel, .spdmResponseError⟩, reader))
    (h : handleSpdmMeasurementRecordResponse crypto codecs errorHandler sid slotId attrs op S R s =
      (.error e, s')) :
    (∀ reader P r', SpdmMessageHeader.read (Reader.init R) =
        some (⟨s.common.negotiateInfo.spdmVersionSel, .spdmResponseMeasurements⟩, reader) →
      SpdmMeasurementsResponsePayload.spdmRead codecs
        (s.common.setNeedMeasurementSignature (attrs.contains signatureRequested)) reader =
          some (P, r') →
      s'.common.runtimeInfo.contentChanged =
        if s.common.negotiateInfo.spdmVersionSel.atLeast12 then P.contentChanged
        else s.common.runtimeInfo.contentChanged) ∧
    ((¬∃ reader P r', SpdmMessageHeader.read (Reader.init R) =
        some (⟨s.common.negotiateInfo.spdmVersionSel, .spdmResponseMeasurements⟩, reader) ∧
      SpdmMeasurementsResponsePayload.spdmRead codecs
        (s.common.setNeedMeasurementSignature (attrs.contains signatureRequested)) reader =
          some (P, r')) →
      s'.common.runtimeInfo.contentChanged = s.common.runtimeInfo.contentChanged) := by
  refine ⟨fun reader P r' hhdr hread => ?_, fun hnd => ?_⟩
  · rw [handleSpdmMeasurementRecordResponse_of_decode crypto codecs errorHandler hhdr hread] at h
    simpa using handleMeasurements_error_contentChanged h
  · rcases handleSpdmMeasurementRecordResponse_eq_error h with ⟨rfl, -⟩ | ⟨reader, hr⟩ |
      ⟨reader, P, r', hhdr, hread, -⟩
    · rfl
    · exact absurd hr (hR reader)
    · exact absurd ⟨reader, P, r', hhdr, hread⟩ hnd

theorem handleSpdmMeasurementRecordResponse_error_contentChanged_changedResponse :
    (∀ reader, SpdmMessageHeader.read (Reader.init changedMeasurementsResponse) ≠
      some (⟨measurementContext12.negotiateInfo.spdmVersionSel, .spdmResponseError⟩, reader)) ∧
    ∃ s', handleSpdmMeasurementRecordResponse rejectingCrypto spdmFieldCodecs ignoreErrorResponse
        none 0 signatureRequested .spdmMeasurementRequestAll signedMeasurementsRequest
        changedMeasurementsResponse ⟨measurementContext12, ()⟩ =
        (.error (.status .verifFail), s') ∧
      s'.common.runtimeInfo.contentChanged = .detectedChange := by
  have hR : ∀ reader, SpdmMessageHeader.read (Reader.init changedMeasurementsResponse) ≠
      some (⟨measurementContext12.negotiateInfo.spdmVersionSel, .spdmResponseError⟩, reader) :=
    fun _ h => by cases h
  obtain ⟨s', h⟩ : ∃ s', handleSpdmMeasurementRecordResponse rejectingCrypto spdmFieldCodecs
      ignoreErrorResponse none 0 signatureRequested .spdmMeasurementRequestAll
      signedMeasurementsRequest changedMeasurementsResponse ⟨measurementContext12, ()⟩ =
      (.error (.status .verifFail), s') := ⟨_, rfl⟩
  exact ⟨hR, s', h,
    ((handleSpdmMeasurementRecordResponse_error_contentChanged hR h).1 _ _ _ rfl rfl).trans rfl⟩

/-- The length of the signature that trails a MEASUREMENTS response: the negotiated signature
size when one was requested, none otherwise. -/
def signatureLength (ctx : SpdmContext cfg) (attrs : SpdmMeasurementAttributes) : Nat :=
  if attrs.contains signatureRequested then ctx.negotiateInfo.baseAsymSel.getSize.toNat else 0

/-- What the handler did when it accepted the response `R` to `S`: `R` decoded as `P` with the
reader `used` bytes in, the signature fits in those bytes, the transcript of `sid` alone was
extended by `S` and `R` up to the signature, and a requested signature verified on it. -/
structure MeasurementsAccepted (crypto : SpdmCrypto) (codecs : SpdmFieldCodecs cfg)
    (sid : Option UInt32) (slotId : UInt8) (attrs : SpdmMeasurementAttributes) (S R : List UInt8)
    (s s' : RequesterContext cfg σ) (P : SpdmMeasurementsResponsePayload) (used : Nat) : Prop where
  decode : ∃ reader r', SpdmMessageHeader.read (Reader.init R) =
      some (⟨s.common.negotiateInfo.spdmVersionSel, .spdmResponseMeasurements⟩, reader) ∧
    SpdmMeasurementsResponsePayload.spdmRead codecs
      (s.common.setNeedMeasurementSignature (attrs.contains signatureRequested)) reader =
        some (P, r') ∧ r'.used = used
  signatureLength_le : signatureLength s.common attrs ≤ used
  transcript : ∃ m m', s.common.messageM sid = some m ∧
    m.appendMessage (S ++ R.take (used - signatureLength s.common attrs)) = some m' ∧
    let ctx := ((s.common.setNeedMeasurementSignature
      (attrs.contains signatureRequested)).updateContentChanged P.contentChanged).setMessageM sid m'
    if attrs.contains signatureRequested then
      verifyMeasurementSignature crypto ctx slotId sid P.signature = .ok () ∧
        s'.common = ctx.setMessageM sid m'.resetMessage
    else s'.common = ctx
  device_eq : s'.device = s.device

theorem handleSpdmMeasurementRecordResponse_accepted {sid : Option UInt32}
    {slotId : UInt8} {attrs : SpdmMeasurementAttributes} {op : SpdmMeasurementOperation}
    {S R : List UInt8} {s s' : RequesterContext cfg σ} {n : UInt8}
    {record : SpdmMeasurementRecordStructure}
    (h : handleSpdmMeasurementRecordResponse crypto codecs errorHandler sid slotId attrs op S R s =
      (.ok (n, record), s')) :
    ∃ P used, MeasurementsAccepted crypto codecs sid slotId attrs S R s s' P used ∧
      n = measurementCount op P ∧ record = P.measurementRecord := by
  obtain ⟨reader, P, r', hhdr, hread, hm⟩ := handleSpdmMeasurementRecordResponse_eq_ok h
  obtain ⟨hk, -, m, m', hm₀, happ, hcheck, hx⟩ := handleMeasurements_eq_ok hm
  obtain ⟨rfl, rfl⟩ := Prod.mk.inj hx
  have hneed : (s.common.setNeedMeasurementSignature
      (attrs.contains signatureRequested)).runtimeInfo.needMeasurementSignature =
      attrs.contains signatureRequested := rfl
  simp only [hneed, SpdmContext.setNeedMeasurementSignature_negotiateInfo,
    SpdmContext.messageM_setNeedMeasurementSignature] at hk hm₀ happ
  have hcheck' := checkMeasurementSignature_eq_ok hcheck
  refine ⟨P, r'.used, ⟨⟨reader, r', hhdr, hread, rfl⟩, hk, ⟨m, m', hm₀, happ, ?_⟩, ?_⟩, rfl,
    rfl⟩
  · have hm' := @SpdmContext.messageM_setMessageM _ _ _ _ m'
      (show ((s.common.setNeedMeasurementSignature
        (attrs.contains signatureRequested)).updateContentChanged P.contentChanged).messageM sid =
        some m by simpa using hm₀)
    by_cases hc : attrs.contains signatureRequested = true <;>
      simp only [hc, if_true, if_false, Bool.false_eq_true] at hcheck' ⊢
    · obtain ⟨hv, rfl⟩ := hcheck'
      exact ⟨hv, SpdmContext.resetMessageM_of_messageM (hc ▸ hm')⟩
    · rw [hcheck']
  · split at hcheck'
    · obtain ⟨-, rfl⟩ := hcheck'; rfl
    · rw [hcheck']

/-- With a signature decoder that consumes exactly the negotiated signature size, the bytes an
accepted response cut off the transcript are those its signature was decoded from. -/
theorem MeasurementsAccepted.signature_read {sid : Option UInt32} {slotId : UInt8}
    {attrs : SpdmMeasurementAttributes} {S R : List UInt8} {s s' : RequesterContext cfg σ}
    {P : SpdmMeasurementsResponsePayload} {used : Nat}
    (hsig : ∀ ctx left (d : Decoded SpdmSignatureStruct left),
      codecs.signature.read ctx left = some d →
      d.consumed = ctx.negotiateInfo.baseAsymSel.getSize.toNat)
    (h : MeasurementsAccepted crypto codecs sid slotId attrs S R s s' P used)
    (hc : attrs.contains signatureRequested = true) :
    (codecs.signature.read (s.common.setNeedMeasurementSignature true)
      (R.drop (used - signatureLength s.common attrs))).map (fun d => (d.value, d.consumed)) =
      some (P.signature, signatureLength s.common attrs) := by
  obtain ⟨reader, r', hhdr, hread, rfl⟩ := h.decode
  obtain ⟨rs, d, hbuf, -, hd, hval, rfl⟩ :=
    SpdmMeasurementsResponsePayload.spdmRead_signature codecs hc hread
  have hsize := hsig _ _ d hd
  simp only [SpdmContext.setNeedMeasurementSignature_negotiateInfo] at hsize
  have hR : reader.buf = R := by obtain ⟨-, rfl⟩ := SpdmMessageHeader.moved_of_read hhdr; rfl
  have hk' : signatureLength s.common attrs = d.consumed := by simp [signatureLength, hc, hsize]
  rw [hk', Reader.advance_used d.consumed_le, Nat.add_sub_cancel, ← hR, ← hbuf]
  rw [hc] at hd
  show (codecs.signature.read _ rs.left).map _ = _
  rw [hd, Option.map_some', hval]

/-- An accepted response, with a signature decoder that consumes exactly the negotiated size:
`MeasurementsAccepted`, with the signature decoded from exactly the bytes cut off the transcript. -/
theorem handleSpdmMeasurementRecordResponse_ok_accepted {sid : Option UInt32}
    {slotId : UInt8} {attrs : SpdmMeasurementAttributes} {op : SpdmMeasurementOperation}
    {S R : List UInt8} {s s' : RequesterContext cfg σ} {n : UInt8}
    {record : SpdmMeasurementRecordStructure}
    (hsig : ∀ ctx left (d : Decoded SpdmSignatureStruct left),
      codecs.signature.read ctx left = some d →
      d.consumed = ctx.negotiateInfo.baseAsymSel.getSize.toNat)
    (h : handleSpdmMeasurementRecordResponse crypto codecs errorHandler sid slotId attrs op S R s =
      (.ok (n, record), s')) :
    ∃ P used, MeasurementsAccepted crypto codecs sid slotId attrs S R s s' P used ∧
      (attrs.contains signatureRequested →
        (codecs.signature.read (s.common.setNeedMeasurementSignature true)
          (R.drop (used - signatureLength s.common attrs))).map (fun d => (d.value, d.consumed)) =
          some (P.signature, signatureLength s.common attrs)) ∧
      n = measurementCount op P ∧ record = P.measurementRecord := by
  obtain ⟨P, used, hacc, rfl, rfl⟩ := handleSpdmMeasurementRecordResponse_accepted h
  exact ⟨P, used, hacc, hacc.signature_read hsig, rfl, rfl⟩

/-- The transcript contract of the handler, with a signature decoder that consumes exactly the
negotiated size: an `Ok` did what `MeasurementsAccepted` says, and a `VerifFail` on a response other
than an ERROR message leaves the transcript empty. -/
theorem handleSpdmMeasurementRecordResponse_transcript_contract {sid : Option UInt32}
    {slotId : UInt8} {attrs : SpdmMeasurementAttributes} {op : SpdmMeasurementOperation}
    {S R : List UInt8} {s : RequesterContext cfg σ}
    (hsig : ∀ ctx left (d : Decoded SpdmSignatureStruct left), codecs.signature.read ctx left = some d →
      d.consumed = ctx.negotiateInfo.baseAsymSel.getSize.toNat) :
    (∀ n record s', handleSpdmMeasurementRecordResponse crypto codecs errorHandler sid slotId attrs op
        S R s = (.ok (n, record), s') →
      ∃ P used, MeasurementsAccepted crypto codecs sid slotId attrs S R s s' P used ∧
        (attrs.contains signatureRequested →
          (codecs.signature.read (s.common.setNeedMeasurementSignature true)
            (R.drop (used - signatureLength s.common attrs))).map (fun d => (d.value, d.consumed)) =
            some (P.signature, signatureLength s.common attrs)) ∧
        n = measurementCount op P ∧ record = P.measurementRecord) ∧
    (∀ s', (∀ reader, SpdmMessageHeader.read (Reader.init R) ≠
        some (⟨s.common.negotiateInfo.spdmVersionSel, .spdmResponseError⟩, reader)) →
      handleSpdmMeasurementRecordResponse crypto codecs errorHandler sid slotId attrs op S R s =
        (.error (.status .verifFail), s') →
      (s'.common.messageM sid).map ManagedBuffer.data = some []) :=
  ⟨fun _ _ _ h => handleSpdmMeasurementRecordResponse_ok_accepted hsig h,
    fun _ hR h => handleSpdmMeasurementRecordResponse_verifFail_transcript hR h⟩

/-- An SPDM 1.1 MEASUREMENTS response: one measurement, slot 0, an empty record, the zero
nonce, no opaque data and a 64-byte signature. -/
def signedMeasurementsResponse : List UInt8 :=
  [0x11, 0x60, 1, 0, 0, 0, 0, 0] ++ List.replicate 32 0 ++ [0, 0] ++ List.replicate 64 7

/-- The handler on that exchange, with a provider that accepts every signature. -/
def signedMeasurementsRun : Except Fault (UInt8 × SpdmMeasurementRecordStructure) ×
    RequesterContext smallConfig Unit :=
  handleSpdmMeasurementRecordResponse acceptingCrypto spdmFieldCodecs (fun _ _ => pure ()) none 0
    signatureRequested .spdmMeasurementRequestAll signedMeasurementsRequest
    signedMeasurementsResponse ⟨measurementContext, ()⟩

theorem handleSpdmMeasurementRecordResponse_accepts_signedMeasurements :
    (∀ ctx left (d : Decoded SpdmSignatureStruct left),
      (spdmFieldCodecs : SpdmFieldCodecs smallConfig).signature.read ctx left = some d →
        d.consumed = ctx.negotiateInfo.baseAsymSel.getSize.toNat) ∧
    signedMeasurementsRun = (.ok (0, ⟨0, 0, []⟩), signedMeasurementsRun.2) ∧
    ∃ P used, MeasurementsAccepted acceptingCrypto spdmFieldCodecs none 0 signatureRequested
        signedMeasurementsRequest signedMeasurementsResponse ⟨measurementContext, ()⟩
        signedMeasurementsRun.2 P used ∧
      (signatureRequested.contains signatureRequested →
        (spdmFieldCodecs.signature.read (measurementContext.setNeedMeasurementSignature true)
          (signedMeasurementsResponse.drop
            (used - signatureLength measurementContext signatureRequested))).map
          (fun d => (d.value, d.consumed)) =
          some (P.signature, signatureLength measurementContext signatureRequested)) ∧
      0 = measurementCount .spdmMeasurementRequestAll P ∧ ⟨0, 0, []⟩ = P.measurementRecord := by
  have hsig : ∀ ctx left (d : Decoded SpdmSignatureStruct left),
      (spdmFieldCodecs : SpdmFieldCodecs smallConfig).signature.read ctx left = some d →
        d.consumed = ctx.negotiateInfo.baseAsymSel.getSize.toNat :=
    fun _ _ _ => signatureCodec_consumed
  have hrun : signedMeasurementsRun = (.ok (0, ⟨0, 0, []⟩), signedMeasurementsRun.2) := rfl
  exact ⟨hsig, hrun, (handleSpdmMeasurementRecordResponse_transcript_contract hsig).1 _ _ _ hrun⟩

/-- With a signature decoder that consumes exactly the negotiated size, an error handler that
does not panic and the DER part of the chain in the slot in range, the handler does not
panic. -/
theorem noPanic_handleSpdmMeasurementRecordResponse {sid : Option UInt32} {slotId : UInt8}
    {attrs : SpdmMeasurementAttributes} {op : SpdmMeasurementOperation} {S R : List UInt8}
    {s : RequesterContext cfg σ}
    (hsig : ∀ ctx left (d : Decoded SpdmSignatureStruct left),
      codecs.signature.read ctx left = some d →
      d.consumed = ctx.negotiateInfo.baseAsymSel.getSize.toNat)
    (herr : ∀ s, SpdmM.NoPanic (errorHandler sid R) s)
    (hder : peerCertChainDer s.common slotId ≠ .error .panic) :
    SpdmM.NoPanic
      (handleSpdmMeasurementRecordResponse crypto codecs errorHandler sid slotId attrs op S R)
      s := by
  unfold handleSpdmMeasurementRecordResponse
  refine SpdmM.NoPanic.modify_bind (SpdmM.NoPanic.get_bind ?_)
  rcases hhdr : SpdmMessageHeader.read (Reader.init R) with _ | ⟨⟨version, code⟩, reader⟩
  · exact SpdmM.noPanic_throw_status _ _
  dsimp only
  split
  · exact SpdmM.noPanic_throw_status _ _
  cases code with
  | spdmResponseMeasurements =>
    rcases hread : SpdmMeasurementsResponsePayload.spdmRead codecs
        (s.common.setNeedMeasurementSignature (attrs.contains signatureRequested)) reader with
      _ | ⟨P, r'⟩
    · exact SpdmM.noPanic_throw_status _ _
    have hbuf : r'.buf = R := by
      obtain ⟨n, -, rfl⟩ := SpdmMeasurementsResponsePayload.moved_of_spdmRead codecs hread
      obtain ⟨-, rfl⟩ := SpdmMessageHeader.moved_of_read hhdr
      rfl
    refine noPanic_handleMeasurements ?_ (hbuf ▸ r'.used_le) (by simpa using hder)
    split
    · next hc =>
      obtain ⟨rs, d, -, -, hd, -, rfl⟩ :=
        SpdmMeasurementsResponsePayload.spdmRead_signature codecs hc hread
      rw [Reader.advance_used d.consumed_le, hsig _ _ d hd]
      simp
    · exact Nat.zero_le _
  | spdmResponseError =>
    exact SpdmM.NoPanic.bind (herr _) fun _ _ _ => SpdmM.noPanic_throw_status _ _
  | spdmResponseCertificate | spdmRequestGetCertificate | spdmRequestGetMeasurements | unknown _ =>
    exact SpdmM.noPanic_throw_status _ _

theorem noPanic_sendReceiveSpdmMeasurementRecord {sid : Option UInt32} {slotId : UInt8}
    {attrs : SpdmMeasurementAttributes} {op : SpdmMeasurementOperation}
    {s : RequesterContext cfg σ}
    (hsig : ∀ ctx left (d : Decoded SpdmSignatureStruct left),
      codecs.signature.read ctx left = some d →
      d.consumed = ctx.negotiateInfo.baseAsymSel.getSize.toNat)
    (herr : ∀ R s, SpdmM.NoPanic (errorHandler sid R) s)
    (hchain : ∀ i, SlotChainInRange s.common i) :
    SpdmM.NoPanic
      (sendReceiveSpdmMeasurementRecord crypto codecs errorHandler io sid attrs op slotId) s := by
  unfold sendReceiveSpdmMeasurementRecord
  split
  · exact SpdmM.noPanic_throw_status _ _
  · next hslot =>
    refine SpdmM.NoPanic.bind (noPanic_encodeSpdmMeasurementRecord crypto _ _ _ _) fun _ _ h₁ => ?_
    obtain rfl := encodeSpdmMeasurementRecord_eq_ok h₁
    refine SpdmM.NoPanic.bind (noPanic_sendMessage io _ _ _) fun _ _ h₂ => ?_
    obtain ⟨_, -, rfl⟩ := (sendMessage_eq_ok io).mp h₂
    refine SpdmM.NoPanic.bind (noPanic_receiveMessage io _ _) fun _ _ h₃ => ?_
    obtain ⟨_, -, rfl⟩ := (receiveMessage_eq_ok io).mp h₃
    exact noPanic_handleSpdmMeasurementRecordResponse hsig (herr _)
      (peerCertChainDer_ne_panic (by omega) (hchain _))

/-- With a signature decoder that consumes exactly the negotiated size and an error handler
that does not panic, a GET_MEASUREMENTS exchange does not panic on any device as long as every
peer chain slot is in range. -/
theorem noPanic_sendReceiveSpdmMeasurement {sid : Option UInt32} {slotId : UInt8}
    {attrs : SpdmMeasurementAttributes} {op : SpdmMeasurementOperation}
    {s : RequesterContext cfg σ}
    (hsig : ∀ ctx left (d : Decoded SpdmSignatureStruct left),
      codecs.signature.read ctx left = some d →
      d.consumed = ctx.negotiateInfo.baseAsymSel.getSize.toNat)
    (herr : ∀ sid R s, SpdmM.NoPanic (errorHandler sid R) s)
    (hchain : ∀ i, SlotChainInRange s.common i) :
    SpdmM.NoPanic (sendReceiveSpdmMeasurement crypto codecs errorHandler io sid slotId attrs op)
      s :=
  SpdmM.NoPanic.bind (noPanic_sendReceiveSpdmMeasurementRecord hsig (herr sid) hchain)
    fun _ _ _ => SpdmM.noPanic_pure _ _

theorem sendReceiveSpdmMeasurement_noPanic_measurementContext :
    (∀ ctx left (d : Decoded SpdmSignatureStruct left),
      (spdmFieldCodecs : SpdmFieldCodecs smallConfig).signature.read ctx left = some d →
        d.consumed = ctx.negotiateInfo.baseAsymSel.getSize.toNat) ∧
    (∀ sid R (s : RequesterContext smallConfig (List (List UInt8))),
      SpdmM.NoPanic (ignoreErrorResponse sid R) s) ∧
    (∀ i, SlotChainInRange measurementContext i) ∧
    SpdmM.NoPanic (sendReceiveSpdmMeasurement acceptingCrypto spdmFieldCodecs ignoreErrorResponse
        SpdmDeviceIo.scripted none 0 signatureRequested .spdmMeasurementRequestAll)
      ⟨measurementContext, [signedMeasurementsResponse]⟩ := by
  have hsig : ∀ ctx left (d : Decoded SpdmSignatureStruct left),
      (spdmFieldCodecs : SpdmFieldCodecs smallConfig).signature.read ctx left = some d →
        d.consumed = ctx.negotiateInfo.baseAsymSel.getSize.toNat :=
    fun _ _ _ => signatureCodec_consumed
  have herr : ∀ sid R (s : RequesterContext smallConfig (List (List UInt8))),
      SpdmM.NoPanic (ignoreErrorResponse sid R) s := fun _ _ _ => SpdmM.noPanic_pure _ _
  have hchain : ∀ i, SlotChainInRange measurementContext i := fun _ _ h => by cases h; decide
  exact ⟨hsig, herr, hchain, noPanic_sendReceiveSpdmMeasurement hsig herr hchain⟩

/-- `measurementContext` with a chain of `data_size = 2` in every slot, shorter than its
`4 + H` byte header, in a buffer of `4 + SPDM_MAX_HASH_SIZE + MAX_SPDM_CERT_CHAIN_DATA_SIZE`
bytes. -/
def shortChainContext : SpdmContext smallConfig :=
  { measurementContext with
    peerInfo := { measurementContext.peerInfo with
      peerCertChain := fun _ => some ⟨2, List.replicate (4 + 64 + 8) 0⟩ } }

/-- With a chain in slot 0 shorter than its header, a signed GET_MEASUREMENTS exchange whose
response decodes panics in the verifier's slice `data[4 + H..data_size]`. -/
theorem sendReceiveSpdmMeasurement_panics_on_short_chain :
    (shortChainContext.peerInfo.peerCertChain ⟨0, by decide⟩).map (·.dataSize) = some 2 ∧
    (sendReceiveSpdmMeasurement acceptingCrypto spdmFieldCodecs (fun _ _ => pure ())
        SpdmDeviceIo.scripted none 0 signatureRequested .spdmMeasurementRequestAll
        ⟨shortChainContext, [signedMeasurementsResponse]⟩).1 = .error .panic :=
  ⟨rfl, rfl⟩

/-- With the chain `[5, 0, 0, 0, 0x30]` in the slot the same exchange succeeds. -/
example :
    (sendReceiveSpdmMeasurement acceptingCrypto spdmFieldCodecs (fun _ _ => pure ())
        SpdmDeviceIo.scripted none 0 signatureRequested .spdmMeasurementRequestAll
        ⟨measurementContext, [signedMeasurementsResponse]⟩).1 = .ok (0, ⟨0, 0, []⟩) := rfl

section Frame

/-- What a GET_MEASUREMENTS exchange on `sid` leaves alone, however it ends: the provisioned,
negotiated and peer state, `message_a`, `message_b`, the digest of the connection and every other
transcript. -/
structure MeasurementFrame (sid : Option UInt32) (s s' : RequesterContext cfg σ) : Prop where
  provisionInfo_eq : s'.common.provisionInfo = s.common.provisionInfo
  negotiateInfo_eq : s'.common.negotiateInfo = s.common.negotiateInfo
  peerInfo_eq : s'.common.peerInfo = s.common.peerInfo
  messageA_eq : s'.common.runtimeInfo.messageA = s.common.runtimeInfo.messageA
  messageB_eq : s'.common.runtimeInfo.messageB = s.common.runtimeInfo.messageB
  digest_eq : s'.common.runtimeInfo.digestContextL1l2 = s.common.runtimeInfo.digestContextL1l2
  messageM_ne : ∀ sid', sid' ≠ sid → s'.common.messageM sid' = s.common.messageM sid'

namespace MeasurementFrame

variable {sid : Option UInt32}

theorem of_common_eq {s s' : RequesterContext cfg σ} (h : s'.common = s.common) :
    MeasurementFrame sid s s' :=
  ⟨by rw [h], by rw [h], by rw [h], by rw [h], by rw [h], by rw [h], fun _ _ => by rw [h]⟩

theorem trans {s₁ s₂ s₃ : RequesterContext cfg σ} (h₁ : MeasurementFrame sid s₁ s₂)
    (h₂ : MeasurementFrame sid s₂ s₃) : MeasurementFrame sid s₁ s₃ :=
  ⟨h₂.provisionInfo_eq.trans h₁.provisionInfo_eq, h₂.negotiateInfo_eq.trans h₁.negotiateInfo_eq,
    h₂.peerInfo_eq.trans h₁.peerInfo_eq, h₂.messageA_eq.trans h₁.messageA_eq,
    h₂.messageB_eq.trans h₁.messageB_eq, h₂.digest_eq.trans h₁.digest_eq,
    fun sid' h => (h₂.messageM_ne sid' h).trans (h₁.messageM_ne sid' h)⟩

theorem setMessageM (s : RequesterContext cfg σ) (m : ManagedBuffer) :
    MeasurementFrame sid s { s with common := s.common.setMessageM sid m } := by
  refine ⟨?_, ?_, ?_, ?_, ?_, ?_, fun _ h => SpdmContext.messageM_setMessageM_ne m h⟩ <;>
    cases sid <;> rfl

theorem setNeedMeasurementSignature (s : RequesterContext cfg σ) (b : Bool) :
    MeasurementFrame sid s { s with common := s.common.setNeedMeasurementSignature b } :=
  ⟨rfl, rfl, rfl, rfl, rfl, rfl, fun _ _ => rfl⟩

theorem updateContentChanged (s : RequesterContext cfg σ) (c : SpdmMeasurementContentChanged) :
    MeasurementFrame sid s { s with common := s.common.updateContentChanged c } := by
  unfold SpdmContext.updateContentChanged
  split
  · exact ⟨rfl, rfl, rfl, rfl, rfl, rfl, fun _ _ => rfl⟩
  · exact of_common_eq rfl

end MeasurementFrame

instance instIsReflMeasurementFrame (sid : Option UInt32) :
    IsRefl (RequesterContext cfg σ) (MeasurementFrame sid) :=
  ⟨fun _ => .of_common_eq rfl⟩

instance instIsTransMeasurementFrame (sid : Option UInt32) :
    IsTrans (RequesterContext cfg σ) (MeasurementFrame sid) :=
  ⟨fun _ _ _ => MeasurementFrame.trans⟩

variable {sid : Option UInt32}

end Frame

end Spdm
