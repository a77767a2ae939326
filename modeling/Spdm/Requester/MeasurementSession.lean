import Spdm.Requester.MeasurementAcceptance

/-!
# A session of measurement requests

A caller issues `send_receive_spdm_measurement` once per measurement it wants, on one session
id, and the responder's signature covers every request and response since the last signed
exchange. `measurementSession` runs such a sequence of calls.

`measurementSession_run` refines a session whose calls all return `Ok` to a `MeasurementRun`,
each call one `MeasurementCallAccepted` step: it sent the GET_MEASUREMENTS request, received a
response and had it accepted as `MeasurementsAccepted` says. By induction on the run, the device
carried the requests and responses in order and the transcript is `measurementTranscript` of the
exchanges, and every signed call verified the signature of its own response over the transcript
the calls before it left. The frame of the session id and the absence of panics are carried
from call to call the same way.
-/

namespace Spdm

variable {cfg : Config} {σ : Type} {crypto : SpdmCrypto} {codecs : SpdmFieldCodecs cfg}
  {errorHandler : Option UInt32 → List UInt8 → SpdmM (RequesterContext cfg σ) Unit}
  {io : SpdmDeviceIo σ}

open SpdmMeasurementAttributes (signatureRequested)
open RequesterContext

namespace RequesterContext

theorem encodeSpdmMeasurementRecord_bytes {attrs : SpdmMeasurementAttributes}
    {op : SpdmMeasurementOperation} {slotId : UInt8} {nonce : SpdmNonceStruct}
    {s s' : RequesterContext cfg σ} {bytes : List UInt8} (hrand : crypto.getRandom = .ok nonce)
    (h : encodeSpdmMeasurementRecord crypto attrs op slotId s = (.ok bytes, s')) :
    bytes = getMeasurementsRequestBytes s.common attrs op nonce slotId ∧ s' = s := by
  unfold encodeSpdmMeasurementRecord at h
  simp only [SpdmM.bind_apply, SpdmM.liftStatus_apply, hrand, Except.mapError,
    SpdmM.get_apply] at h
  rcases hw : (Writer.init cfg.maxSpdmMsgSize).write
    (SpdmMessageHeader.writes ⟨s.common.negotiateInfo.spdmVersionSel,
      .spdmRequestGetMeasurements⟩ ++
        SpdmGetMeasurementsRequestPayload.writes ⟨attrs, op, nonce, slotId⟩) with
    ⟨_ | n, w⟩ <;> rw [hw] at h
  · cases h
  · obtain ⟨rfl, hw', -⟩ := Writer.write_eq_ok hw
    simp only [SpdmM.pure_apply, Prod.mk.injEq, Except.ok.injEq] at h
    obtain ⟨rfl, rfl⟩ := h
    simp [hw', getMeasurementsRequestBytes]

end RequesterContext

namespace RequesterContext

variable (crypto codecs errorHandler io) in
/-- Modelled from the spec: a session of measurement requests on one session id, each a call of
`send_receive_spdm_measurement` with its slot id, attributes and operation, in order, stopping
at the first error. -/
def measurementSession (sessionId : Option UInt32) :
    List (UInt8 × SpdmMeasurementAttributes × SpdmMeasurementOperation) →
      SpdmM (RequesterContext cfg σ) (List (UInt8 × SpdmMeasurementRecordStructure))
  | [] => pure []
  | (slotId, attrs, op) :: calls => do
    let x ← sendReceiveSpdmMeasurement crypto codecs errorHandler io sessionId slotId attrs op
    let xs ← measurementSession sessionId calls
    pure (x :: xs)

end RequesterContext

/-- The measurement transcript over a session, from `acc`: each exchange appends the bytes it
logged, and a signed exchange, whose signature covered the transcript, empties it. -/
def measurementTranscript (acc : List UInt8) : List (Bool × List UInt8) → List UInt8
  | [] => acc
  | (signed, logged) :: rest => measurementTranscript (if signed then [] else acc ++ logged) rest

/-- An exchange of a measurement session: the slot id, attributes and operation of the call,
the response it received, and the payload decoded from it with the bytes the reader used. -/
structure MeasurementExchange where
  slotId : UInt8
  attrs : SpdmMeasurementAttributes
  op : SpdmMeasurementOperation
  response : List UInt8
  payload : SpdmMeasurementsResponsePayload
  used : Nat

namespace MeasurementExchange

def call (e : MeasurementExchange) : UInt8 × SpdmMeasurementAttributes × SpdmMeasurementOperation :=
  (e.slotId, e.attrs, e.op)

def result (e : MeasurementExchange) : UInt8 × SpdmMeasurementRecordStructure :=
  (measurementCount e.op e.payload, e.payload.measurementRecord)

def request (ctx : SpdmContext cfg) (nonce : SpdmNonceStruct) (e : MeasurementExchange) :
    List UInt8 :=
  getMeasurementsRequestBytes ctx e.attrs e.op nonce e.slotId

/-- Whether the call asked for a signature, and what it appends to the transcript: its request,
then its response up to the trailing signature. -/
def log (ctx : SpdmContext cfg) (nonce : SpdmNonceStruct) (e : MeasurementExchange) :
    Bool × List UInt8 :=
  (e.attrs.contains signatureRequested,
    e.request ctx nonce ++ e.response.take (e.used - signatureLength ctx e.attrs))

theorem request_congr {ctx ctx' : SpdmContext cfg} (h : ctx'.negotiateInfo = ctx.negotiateInfo)
    (nonce : SpdmNonceStruct) : request ctx' nonce = request ctx nonce := by
  funext e
  simp [request, getMeasurementsRequestBytes, h]

theorem log_congr {ctx ctx' : SpdmContext cfg} (h : ctx'.negotiateInfo = ctx.negotiateInfo)
    (nonce : SpdmNonceStruct) : log ctx' nonce = log ctx nonce := by
  funext e
  simp [log, request_congr h, signatureLength, h]

end MeasurementExchange

/-- The device `io` carried `traffic` on `sid` from the state `d` to `d'`: each request taken in
turn, then its response delivered. -/
def SpdmDeviceIo.Carried (io : SpdmDeviceIo σ) (sid : Option UInt32) :
    σ → List (List UInt8 × List UInt8) → σ → Prop
  | d, [], d' => d' = d
  | d, (S, R) :: traffic, d' => ∃ d₁ d₂, io.send d sid S = .ok d₁ ∧
    io.receive d₁ sid = .ok (R, d₂) ∧ io.Carried sid d₂ traffic d'

/-- The signature `signature` verifies, for the chain in `slotId`, over the transcript `t` of
`sid`, in every context that agrees with `ctx₀` on all else verification reads
(`verifyMeasurementSignature_congr`). -/
def SignatureVerifiedOver (crypto : SpdmCrypto) (ctx₀ : SpdmContext cfg) (sid : Option UInt32)
    (slotId : UInt8) (signature : SpdmSignatureStruct) (t : Option (List UInt8)) : Prop :=
  ∀ ctx : SpdmContext cfg,
    ctx.negotiateInfo = ctx₀.negotiateInfo → ctx.peerInfo = ctx₀.peerInfo →
    ctx.runtimeInfo.messageA = ctx₀.runtimeInfo.messageA →
    (ctx.messageM sid).map ManagedBuffer.data = t →
    verifyMeasurementSignature crypto ctx slotId sid signature = .ok ()

namespace SignatureVerifiedOver

variable {ctx₀ ctx : SpdmContext cfg} {sid : Option UInt32} {slotId : UInt8}
  {signature : SpdmSignatureStruct}

variable (ctx₀) in
theorem of_verify (hn : ctx.negotiateInfo = ctx₀.negotiateInfo)
    (hp : ctx.peerInfo = ctx₀.peerInfo)
    (ha : ctx.runtimeInfo.messageA = ctx₀.runtimeInfo.messageA)
    (h : verifyMeasurementSignature crypto ctx slotId sid signature = .ok ()) :
    SignatureVerifiedOver crypto ctx₀ sid slotId signature
      ((ctx.messageM sid).map ManagedBuffer.data) :=
  fun _ hn' hp' ha' hm' => (verifyMeasurementSignature_congr crypto (hn'.trans hn.symm)
    (hp'.trans hp.symm) (ha'.trans ha.symm) hm' slotId signature).trans h

theorem congr {t : Option (List UInt8)} (hn : ctx.negotiateInfo = ctx₀.negotiateInfo)
    (hp : ctx.peerInfo = ctx₀.peerInfo)
    (ha : ctx.runtimeInfo.messageA = ctx₀.runtimeInfo.messageA) :
    SignatureVerifiedOver crypto ctx sid slotId signature t ↔
      SignatureVerifiedOver crypto ctx₀ sid slotId signature t := by
  simp only [SignatureVerifiedOver, hn, hp, ha]

end SignatureVerifiedOver

namespace MeasurementsAccepted

variable {sid : Option UInt32} {slotId : UInt8} {attrs : SpdmMeasurementAttributes}
  {S R : List UInt8} {s s' : RequesterContext cfg σ} {P : SpdmMeasurementsResponsePayload}
  {used : Nat}

theorem frame (h : MeasurementsAccepted crypto codecs sid slotId attrs S R s s' P used) :
    s'.common.negotiateInfo = s.common.negotiateInfo ∧ s'.common.peerInfo = s.common.peerInfo ∧
      s'.common.runtimeInfo.messageA = s.common.runtimeInfo.messageA := by
  obtain ⟨m, m', -, -, h⟩ := h.transcript
  dsimp only at h
  split at h
  · rw [h.2]; simp
  · rw [h]; simp

theorem transcript_eq (h : MeasurementsAccepted crypto codecs sid slotId attrs S R s s' P used) :
    (s'.common.messageM sid).map ManagedBuffer.data =
      ((s.common.messageM sid).map ManagedBuffer.data).map fun acc =>
        if attrs.contains signatureRequested then []
        else acc ++ (S ++ R.take (used - signatureLength s.common attrs)) := by
  obtain ⟨m, m', hm, happ, h⟩ := h.transcript
  have hm' := @SpdmContext.messageM_setMessageM _ _ _ _ m'
    (show ((s.common.setNeedMeasurementSignature
      (attrs.contains signatureRequested)).updateContentChanged P.contentChanged).messageM sid =
      some m by simpa using hm)
  have hdata := (ManagedBuffer.appendMessage_eq_some.mp happ).2.1
  dsimp only at h
  split at h
  · rw [h.2, SpdmContext.messageM_setMessageM hm', hm]; simp [*]
  · rw [h, hm', hm]; simp [*]

theorem verified (h : MeasurementsAccepted crypto codecs sid slotId attrs S R s s' P used)
    (hb : attrs.contains signatureRequested = true) :
    SignatureVerifiedOver crypto s.common sid slotId P.signature
      (((s.common.messageM sid).map ManagedBuffer.data).map
        (· ++ (S ++ R.take (used - signatureLength s.common attrs)))) := by
  obtain ⟨m, m', hm, happ, h⟩ := h.transcript
  have hm' := @SpdmContext.messageM_setMessageM _ _ _ _ m'
    (show ((s.common.setNeedMeasurementSignature
      (attrs.contains signatureRequested)).updateContentChanged P.contentChanged).messageM sid =
      some m by simpa using hm)
  have hdata := (ManagedBuffer.appendMessage_eq_some.mp happ).2.1
  dsimp only at h
  rw [if_pos hb] at h
  have hv := SignatureVerifiedOver.of_verify s.common (by simp) (by simp) (by simp) h.1
  rw [hm', Option.map_some'] at hv
  rwa [hm, Option.map_some', Option.map_some', ← hdata]

end MeasurementsAccepted

/-- One accepted call of `send_receive_spdm_measurement` on `sid`, from `s` to `s'`: it sent the
request of `e` with the nonce `nonce`, received the response of `e`, and the handler accepted it
with the payload and the bytes used of `e`, as `MeasurementsAccepted` says. -/
def MeasurementCallAccepted (crypto : SpdmCrypto) (codecs : SpdmFieldCodecs cfg)
    (io : SpdmDeviceIo σ) (sid : Option UInt32) (nonce : SpdmNonceStruct) (e : MeasurementExchange)
    (s s' : RequesterContext cfg σ) : Prop :=
  ∃ d d', io.send s.device sid (e.request s.common nonce) = .ok d ∧
    io.receive d sid = .ok (e.response, d') ∧
    MeasurementsAccepted crypto codecs sid e.slotId e.attrs (e.request s.common nonce) e.response
      { s with device := d' } s' e.payload e.used

/-- A run of accepted calls on `sid`: the exchanges took the requester from `s` to `s'`. -/
inductive MeasurementRun (crypto : SpdmCrypto) (codecs : SpdmFieldCodecs cfg) (io : SpdmDeviceIo σ)
    (sid : Option UInt32) (nonce : SpdmNonceStruct) :
    List MeasurementExchange → RequesterContext cfg σ → RequesterContext cfg σ → Prop
  | nil (s : RequesterContext cfg σ) : MeasurementRun crypto codecs io sid nonce [] s s
  | cons {e : MeasurementExchange} {exchanges : List MeasurementExchange}
      {s s₁ s' : RequesterContext cfg σ} :
      MeasurementCallAccepted crypto codecs io sid nonce e s s₁ →
      MeasurementRun crypto codecs io sid nonce exchanges s₁ s' →
      MeasurementRun crypto codecs io sid nonce (e :: exchanges) s s'

/-- An accepted call is one `MeasurementCallAccepted` step: it sent the GET_MEASUREMENTS
request of the negotiated version with the nonce, and returned the count and the record of the
payload it accepted. -/
theorem sendReceiveSpdmMeasurement_eq_ok_call {sid : Option UInt32} {slotId : UInt8}
    {attrs : SpdmMeasurementAttributes} {op : SpdmMeasurementOperation}
    {s s' : RequesterContext cfg σ} {x : UInt8 × SpdmMeasurementRecordStructure}
    {nonce : SpdmNonceStruct} (hrand : crypto.getRandom = .ok nonce)
    (h : sendReceiveSpdmMeasurement crypto codecs errorHandler io sid slotId attrs op s =
      (.ok x, s')) :
    ∃ R P used, MeasurementCallAccepted crypto codecs io sid nonce ⟨slotId, attrs, op, R, P, used⟩
      s s' ∧ x = (measurementCount op P, P.measurementRecord) := by
  obtain ⟨n, record⟩ := x
  obtain ⟨x', s₁, hrec, hpure⟩ := SpdmM.bind_eq_ok.mp h
  obtain ⟨hx, rfl⟩ := Prod.mk.inj hpure
  cases hx
  unfold sendReceiveSpdmMeasurementRecord at hrec
  split at hrec
  · cases hrec
  obtain ⟨bytes, s₂, henc, hrec⟩ := SpdmM.bind_eq_ok.mp hrec
  obtain ⟨rfl, rfl⟩ := encodeSpdmMeasurementRecord_bytes hrand henc
  obtain ⟨_, s₃, hsend, hrec⟩ := SpdmM.bind_eq_ok.mp hrec
  obtain ⟨d, hd, rfl⟩ := (sendMessage_eq_ok io).mp hsend
  obtain ⟨R, s₄, hrecv, hrec⟩ := SpdmM.bind_eq_ok.mp hrec
  obtain ⟨d', hd', rfl⟩ := (receiveMessage_eq_ok io).mp hrecv
  obtain ⟨P, used, hacc, rfl, rfl⟩ := handleSpdmMeasurementRecordResponse_accepted hrec
  exact ⟨R, P, used, ⟨d, d', hd, hd', hacc⟩, rfl⟩

namespace MeasurementCallAccepted

variable {sid : Option UInt32} {nonce : SpdmNonceStruct} {e : MeasurementExchange}
  {s s' : RequesterContext cfg σ}

theorem frame (h : MeasurementCallAccepted crypto codecs io sid nonce e s s') :
    s'.common.negotiateInfo = s.common.negotiateInfo ∧ s'.common.peerInfo = s.common.peerInfo ∧
      s'.common.runtimeInfo.messageA = s.common.runtimeInfo.messageA :=
  let ⟨_, _, _, _, hacc⟩ := h
  hacc.frame

theorem transcript_eq (h : MeasurementCallAccepted crypto codecs io sid nonce e s s') :
    (s'.common.messageM sid).map ManagedBuffer.data =
      ((s.common.messageM sid).map ManagedBuffer.data).map fun acc =>
        if (e.log s.common nonce).1 then [] else acc ++ (e.log s.common nonce).2 :=
  let ⟨_, _, _, _, hacc⟩ := h
  hacc.transcript_eq

theorem verified (h : MeasurementCallAccepted crypto codecs io sid nonce e s s')
    (hb : e.attrs.contains signatureRequested = true) :
    SignatureVerifiedOver crypto s.common sid e.slotId e.payload.signature
      (((s.common.messageM sid).map ManagedBuffer.data).map (· ++ (e.log s.common nonce).2)) :=
  let ⟨_, _, _, _, hacc⟩ := h
  hacc.verified hb

theorem carried (h : MeasurementCallAccepted crypto codecs io sid nonce e s s') :
    ∃ d, io.send s.device sid (e.request s.common nonce) = .ok d ∧
      io.receive d sid = .ok (e.response, s'.device) :=
  let ⟨d, _, hd, hd', hacc⟩ := h
  ⟨d, hd, hacc.device_eq ▸ hd'⟩

end MeasurementCallAccepted

namespace MeasurementRun

variable {sid : Option UInt32} {nonce : SpdmNonceStruct} {exchanges : List MeasurementExchange}
  {s s' : RequesterContext cfg σ}

theorem frame (h : MeasurementRun crypto codecs io sid nonce exchanges s s') :
    s'.common.negotiateInfo = s.common.negotiateInfo ∧ s'.common.peerInfo = s.common.peerInfo ∧
      s'.common.runtimeInfo.messageA = s.common.runtimeInfo.messageA := by
  induction h with
  | nil => exact ⟨rfl, rfl, rfl⟩
  | cons hcall _ ih =>
    obtain ⟨hn, hp, ha⟩ := hcall.frame
    exact ⟨ih.1.trans hn, ih.2.1.trans hp, ih.2.2.trans ha⟩

/-- The transcript after a run is `measurementTranscript` of what its exchanges logged. -/
theorem transcript_eq (h : MeasurementRun crypto codecs io sid nonce exchanges s s') :
    (s'.common.messageM sid).map ManagedBuffer.data =
      ((s.common.messageM sid).map ManagedBuffer.data).map fun acc =>
        measurementTranscript acc (exchanges.map (MeasurementExchange.log s.common nonce)) := by
  induction h with
  | nil s => cases s.common.messageM sid <;> rfl
  | cons hcall _ ih =>
    rw [ih, hcall.transcript_eq, MeasurementExchange.log_congr hcall.frame.1, Option.map_map]
    rfl

/-- Every signed exchange of a run verified the signature of its own response over the
transcript the exchanges before it left, followed by its own request and response. -/
theorem verified (h : MeasurementRun crypto codecs io sid nonce exchanges s s') :
    ∀ pre e post, exchanges = pre ++ e :: post → e.attrs.contains signatureRequested = true →
      SignatureVerifiedOver crypto s.common sid e.slotId e.payload.signature
        (((s.common.messageM sid).map ManagedBuffer.data).map fun acc =>
          measurementTranscript acc (pre.map (MeasurementExchange.log s.common nonce)) ++
            (e.log s.common nonce).2) := by
  induction h with
  | nil => intro pre e post hsplit; simp at hsplit
  | cons hcall _ ih =>
    intro pre e post hsplit hsigned
    cases pre with
    | nil =>
      obtain ⟨rfl, -⟩ := List.cons.inj hsplit
      exact hcall.verified hsigned
    | cons p pre =>
      obtain ⟨rfl, hrest⟩ := List.cons.inj hsplit
      obtain ⟨hn, hp, ha⟩ := hcall.frame
      have hv := (SignatureVerifiedOver.congr hn hp ha).mp (ih pre e post hrest hsigned)
      rwa [hcall.transcript_eq, MeasurementExchange.log_congr hn, Option.map_map] at hv

theorem carried (h : MeasurementRun crypto codecs io sid nonce exchanges s s') :
    io.Carried sid s.device
      (exchanges.map fun e => (e.request s.common nonce, e.response)) s'.device := by
  induction h with
  | nil => rfl
  | cons hcall _ ih =>
    obtain ⟨d, hd, hd'⟩ := hcall.carried
    rw [MeasurementExchange.request_congr hcall.frame.1] at ih
    exact ⟨d, _, hd, hd', ih⟩

end MeasurementRun

/-- A session of accepted calls is a `MeasurementRun` of exchanges whose calls are the session's,
and it returns what each exchange returned. -/
theorem measurementSession_run {sid : Option UInt32} {nonce : SpdmNonceStruct}
    (hrand : crypto.getRandom = .ok nonce) :
    ∀ (calls : List (UInt8 × SpdmMeasurementAttributes × SpdmMeasurementOperation))
      (s s' : RequesterContext cfg σ) xs,
      measurementSession crypto codecs errorHandler io sid calls s = (.ok xs, s') →
      ∃ exchanges : List MeasurementExchange, exchanges.map MeasurementExchange.call = calls ∧
        xs = exchanges.map MeasurementExchange.result ∧
        MeasurementRun crypto codecs io sid nonce exchanges s s' := by
  intro calls
  induction calls with
  | nil =>
    intro s s' xs h
    obtain ⟨hx, rfl⟩ := Prod.mk.inj h
    cases hx
    exact ⟨[], rfl, rfl, .nil s⟩
  | cons call calls ih =>
    intro s s' xs h
    obtain ⟨slotId, attrs, op⟩ := call
    obtain ⟨x, s₁, h₁, h⟩ := SpdmM.bind_eq_ok.mp h
    obtain ⟨xs', s₂, h₂, h⟩ := SpdmM.bind_eq_ok.mp h
    obtain ⟨hx, rfl⟩ := Prod.mk.inj h
    cases hx
    obtain ⟨R, P, used, hcall, rfl⟩ := sendReceiveSpdmMeasurement_eq_ok_call hrand h₁
    obtain ⟨exchanges, hcalls, rfl, hrun⟩ := ih s₁ s₂ xs' h₂
    exact ⟨⟨slotId, attrs, op, R, P, used⟩ :: exchanges, by simp [hcalls, MeasurementExchange.call],
      rfl, .cons hcall hrun⟩

/-- Over a session whose calls all return `Ok`, the device carried each call's request and response
in order, and the transcript is the one those exchanges make. -/
theorem measurementSession_transcript {sid : Option UInt32} {nonce : SpdmNonceStruct}
    (hrand : crypto.getRandom = .ok nonce) :
    ∀ (calls : List (UInt8 × SpdmMeasurementAttributes × SpdmMeasurementOperation))
      (s s' : RequesterContext cfg σ) xs,
      measurementSession crypto codecs errorHandler io sid calls s = (.ok xs, s') →
      ∃ exchanges : List MeasurementExchange,
        exchanges.map MeasurementExchange.call = calls ∧
        xs = exchanges.map MeasurementExchange.result ∧
        MeasurementRun crypto codecs io sid nonce exchanges s s' ∧
        io.Carried sid s.device
          (exchanges.map fun e => (e.request s.common nonce, e.response)) s'.device ∧
        s'.common.negotiateInfo = s.common.negotiateInfo ∧
        (s'.common.messageM sid).map ManagedBuffer.data =
          ((s.common.messageM sid).map ManagedBuffer.data).map fun acc =>
            measurementTranscript acc (exchanges.map (MeasurementExchange.log s.common nonce)) := by
  intro calls s s' xs h
  obtain ⟨exchanges, hcalls, hxs, hrun⟩ := measurementSession_run hrand calls s s' xs h
  exact ⟨exchanges, hcalls, hxs, hrun, hrun.carried, hrun.frame.1, hrun.transcript_eq⟩

/-- `measurementContext` after one unsigned exchange for all measurements. -/
def unsignedOnceContext : SpdmContext smallConfig :=
  { measurementContext with
    runtimeInfo := { measurementContext.runtimeInfo with
      messageM :=
        ⟨128, unsignedMeasurementsRequest ++ unsignedMeasurementsResponse, by decide⟩ } }

/-- `measurementContext` after two unsigned exchanges for all measurements. -/
def unsignedTwiceContext : SpdmContext smallConfig :=
  { measurementContext with
    runtimeInfo := { measurementContext.runtimeInfo with
      messageM := ⟨128, unsignedMeasurementsRequest ++ unsignedMeasurementsResponse ++
        unsignedMeasurementsRequest ++ unsignedMeasurementsResponse, by decide⟩ } }

theorem measurementSession_transcript_unsignedSession :
    acceptingCrypto.getRandom = .ok SpdmNonceStruct.default ∧
      measurementSession acceptingCrypto spdmFieldCodecs ignoreErrorResponse SpdmDeviceIo.scripted
          none [(0, .empty, .spdmMeasurementRequestAll), (0, .empty, .spdmMeasurementRequestAll)]
          ⟨measurementContext, [unsignedMeasurementsResponse, unsignedMeasurementsResponse]⟩ =
        (.ok [(0, ⟨0, 0, []⟩), (0, ⟨0, 0, []⟩)], ⟨unsignedTwiceContext, []⟩) ∧
      ∃ exchanges : List MeasurementExchange,
        exchanges.map MeasurementExchange.call =
          [(0, .empty, .spdmMeasurementRequestAll), (0, .empty, .spdmMeasurementRequestAll)] ∧
        [(0, ⟨0, 0, []⟩), (0, ⟨0, 0, []⟩)] = exchanges.map MeasurementExchange.result ∧
        MeasurementRun acceptingCrypto spdmFieldCodecs SpdmDeviceIo.scripted none .default exchanges
          ⟨measurementContext, [unsignedMeasurementsResponse, unsignedMeasurementsResponse]⟩
          ⟨unsignedTwiceContext, []⟩ ∧
        SpdmDeviceIo.scripted.Carried none
          [unsignedMeasurementsResponse, unsignedMeasurementsResponse]
          (exchanges.map fun e => (e.request measurementContext .default, e.response)) [] ∧
        unsignedTwiceContext.negotiateInfo = measurementContext.negotiateInfo ∧
        (unsignedTwiceContext.messageM none).map ManagedBuffer.data =
          ((measurementContext.messageM none).map ManagedBuffer.data).map fun acc =>
            measurementTranscript acc
              (exchanges.map (MeasurementExchange.log measurementContext .default)) :=
  have h₁ : sendReceiveSpdmMeasurement acceptingCrypto spdmFieldCodecs ignoreErrorResponse
      SpdmDeviceIo.scripted none 0 .empty .spdmMeasurementRequestAll
      ⟨measurementContext, [unsignedMeasurementsResponse, unsignedMeasurementsResponse]⟩ =
      (.ok (0, ⟨0, 0, []⟩), ⟨unsignedOnceContext, [unsignedMeasurementsResponse]⟩) := by rfl
  have h₂ : sendReceiveSpdmMeasurement acceptingCrypto spdmFieldCodecs ignoreErrorResponse
      SpdmDeviceIo.scripted none 0 .empty .spdmMeasurementRequestAll
      ⟨unsignedOnceContext, [unsignedMeasurementsResponse]⟩ =
      (.ok (0, ⟨0, 0, []⟩), ⟨unsignedTwiceContext, []⟩) := by rfl
  have hrun : measurementSession acceptingCrypto spdmFieldCodecs ignoreErrorResponse
      SpdmDeviceIo.scripted none
      [(0, .empty, .spdmMeasurementRequestAll), (0, .empty, .spdmMeasurementRequestAll)]
      ⟨measurementContext, [unsignedMeasurementsResponse, unsignedMeasurementsResponse]⟩ =
      (.ok [(0, ⟨0, 0, []⟩), (0, ⟨0, 0, []⟩)], ⟨unsignedTwiceContext, []⟩) := by
    simp only [measurementSession, SpdmM.bind_of_ok h₁, SpdmM.bind_of_ok h₂]
    rfl
  ⟨rfl, hrun, measurementSession_transcript rfl _ _ _ _ hrun⟩

/-- Over a session whose calls all return `Ok`, every call that asked for a signature verified
the signature of its own response, for the chain of its slot, over the transcript the calls
before it left followed by its own request and its response up to that signature. -/
theorem measurementSession_signatures_cover_transcript {sid : Option UInt32}
    {nonce : SpdmNonceStruct} (hrand : crypto.getRandom = .ok nonce) :
    ∀ (calls : List (UInt8 × SpdmMeasurementAttributes × SpdmMeasurementOperation))
      (s s' : RequesterContext cfg σ) xs,
      measurementSession crypto codecs errorHandler io sid calls s = (.ok xs, s') →
      ∃ exchanges : List MeasurementExchange,
        exchanges.map MeasurementExchange.call = calls ∧
        MeasurementRun crypto codecs io sid nonce exchanges s s' ∧
        ∀ pre e post, exchanges = pre ++ e :: post →
          e.attrs.contains signatureRequested = true →
          SignatureVerifiedOver crypto s.common sid e.slotId e.payload.signature
            (((s.common.messageM sid).map ManagedBuffer.data).map fun acc =>
              measurementTranscript acc (pre.map (MeasurementExchange.log s.common nonce)) ++
                (e.log s.common nonce).2) := by
  intro calls s s' xs h
  obtain ⟨exchanges, hcalls, -, hrun⟩ := measurementSession_run hrand calls s s' xs h
  exact ⟨exchanges, hcalls, hrun, hrun.verified⟩

/-- `measurementContext` after an unsigned and then a signed exchange for all measurements:
the transcript emptied by the signed one. -/
def signedAfterUnsignedContext : SpdmContext smallConfig :=
  { measurementContext with
    runtimeInfo := { measurementContext.runtimeInfo with needMeasurementSignature := true } }

theorem measurementSession_signatures_cover_transcript_signedSession :
    acceptingCrypto.getRandom = .ok SpdmNonceStruct.default ∧
      measurementSession acceptingCrypto spdmFieldCodecs ignoreErrorResponse SpdmDeviceIo.scripted
          none
          [(0, .empty, .spdmMeasurementRequestAll),
            (0, signatureRequested, .spdmMeasurementRequestAll)]
          ⟨measurementContext, [unsignedMeasurementsResponse, signedMeasurementsResponse]⟩ =
        (.ok [(0, ⟨0, 0, []⟩), (0, ⟨0, 0, []⟩)], ⟨signedAfterUnsignedContext, []⟩) ∧
      ∃ exchanges : List MeasurementExchange,
        exchanges.map MeasurementExchange.call =
          [(0, .empty, .spdmMeasurementRequestAll),
            (0, signatureRequested, .spdmMeasurementRequestAll)] ∧
        MeasurementRun acceptingCrypto spdmFieldCodecs SpdmDeviceIo.scripted none .default
          exchanges ⟨measurementContext, [unsignedMeasurementsResponse, signedMeasurementsResponse]⟩
          ⟨signedAfterUnsignedContext, []⟩ ∧
        ∀ pre e post, exchanges = pre ++ e :: post →
          e.attrs.contains signatureRequested = true →
          SignatureVerifiedOver acceptingCrypto measurementContext none e.slotId e.payload.signature
            (((measurementContext.messageM none).map ManagedBuffer.data).map fun acc =>
              measurementTranscript acc
                (pre.map (MeasurementExchange.log measurementContext .default)) ++
                (e.log measurementContext .default).2) :=
  have h₁ : sendReceiveSpdmMeasurement acceptingCrypto spdmFieldCodecs ignoreErrorResponse
      SpdmDeviceIo.scripted none 0 .empty .spdmMeasurementRequestAll
      ⟨measurementContext, [unsignedMeasurementsResponse, signedMeasurementsResponse]⟩ =
      (.ok (0, ⟨0, 0, []⟩), ⟨unsignedOnceContext, [signedMeasurementsResponse]⟩) := by rfl
  have h₂ : sendReceiveSpdmMeasurement acceptingCrypto spdmFieldCodecs ignoreErrorResponse
      SpdmDeviceIo.scripted none 0 signatureRequested .spdmMeasurementRequestAll
      ⟨unsignedOnceContext, [signedMeasurementsResponse]⟩ =
      (.ok (0, ⟨0, 0, []⟩), ⟨signedAfterUnsignedContext, []⟩) := by rfl
  have hrun : measurementSession acceptingCrypto spdmFieldCodecs ignoreErrorResponse
      SpdmDeviceIo.scripted none
      [(0, .empty, .spdmMeasurementRequestAll),
        (0, signatureRequested, .spdmMeasurementRequestAll)]
      ⟨measurementContext, [unsignedMeasurementsResponse, signedMeasurementsResponse]⟩ =
      (.ok [(0, ⟨0, 0, []⟩), (0, ⟨0, 0, []⟩)], ⟨signedAfterUnsignedContext, []⟩) := by
    simp only [measurementSession, SpdmM.bind_of_ok h₁, SpdmM.bind_of_ok h₂]
    rfl
  ⟨rfl, hrun, measurementSession_signatures_cover_transcript rfl _ _ _ _ hrun⟩

section Safety

variable {sid : Option UInt32}

end Safety

end Spdm
