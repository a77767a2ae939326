import Spdm.Context

/-!
# `verify_measurement_signature`, in both builds

The measurement signature is checked against the peer chain in `slot_id`, stripped of its
`4 + H` byte header. The message it signs is built from the measurement transcript in one of
two ways, chosen when the crate is built. The raw build (`not(feature =
"hashed-transcript-data")`) gathers `message_a` (from SPDM 1.2 on) and `message_m` in an
L1/L2 buffer and hashes them; the hashed build finalises the running digest of the
transcript. From SPDM 1.2 on both sign the SPDM 1.2 signing context followed by that digest.

Before 1.2 the two builds part: the raw build verifies the raw transcript itself, as the spec
says, while the hashed build verifies an empty message. Both are evaluated below at such an
input. From 1.2 on they agree whenever the hashed build's digest has absorbed what the raw build
hashes.
-/

namespace Spdm

variable {cfg : Config}

/-- `buffer.append_message(bytes).ok_or(SPDM_STATUS_BUFFER_FULL)?`. -/
def appendOrFull (b : ManagedBuffer) (bytes : List UInt8) : Except Fault ManagedBuffer :=
  match b.appendMessage bytes with
  | some b => .ok b
  | none => .error (.status .bufferFull)

/-- `spdm_version_sel.get_u8() >= SpdmVersion::SpdmVersion12.get_u8()`. -/
def SpdmVersion.atLeast12 (v : SpdmVersion) : Bool :=
  decide (v.getU8 ≥ SpdmVersion.spdmVersion12.getU8)

/-- The SPDM 1.2 message to verify, built in an empty buffer of `capacity`: the signing
prefix, the zero pad, the measurements context and the digest. -/
def signingMessage12 (cfg : Config) (capacity : Nat) (digest : SpdmDigestStruct) :
    Except Fault (List UInt8) := do
  let m ← appendOrFull (.empty capacity) cfg.spdmVersion12SigningPrefixContext
  let m ← appendOrFull m cfg.spdmVersion12SigningContextZeropad6
  let m ← appendOrFull m cfg.spdmMeasurementsSignContext
  let m ← appendOrFull m digest.data
  pure m.asRef

theorem appendOrFull_bind (b : ManagedBuffer) (x y : List UInt8) :
    (appendOrFull b x >>= fun m => appendOrFull m y) = appendOrFull b (x ++ y) := by
  simp only [appendOrFull, ManagedBuffer.appendMessage_append]
  cases b.appendMessage x with
  | none => rfl
  | some m => cases m.appendMessage y <;> rfl

theorem signingMessage12_eq (cfg : Config) (capacity : Nat) (digest : SpdmDigestStruct) :
    signingMessage12 cfg capacity digest =
      (appendOrFull (.empty capacity) (cfg.spdmVersion12SigningPrefixContext ++
        cfg.spdmVersion12SigningContextZeropad6 ++ cfg.spdmMeasurementsSignContext ++
        digest.data)).map (·.asRef) := by
  simp only [signingMessage12, ← bind_assoc, appendOrFull_bind, List.append_assoc]
  cases appendOrFull (.empty capacity) _ <;> rfl

/-- The DER part of the chain in `slot_id`: `peer_cert_chain[slot_id].data[4 + H..data_size]`.
Indexing past the eight slots panics, an empty slot is `InvalidParameter`, and the slice panics
on a chain shorter than its header. -/
def peerCertChainDer (ctx : SpdmContext cfg) (slotId : UInt8) : Except Fault (List UInt8) :=
  if h : slotId.toNat < spdmMaxSlotNumber then
    match ctx.peerInfo.peerCertChain ⟨slotId.toNat, h⟩ with
    | none => .error (.status .invalidParameter)
    | some chain =>
      slice chain.data (4 + ctx.negotiateInfo.baseHashSel.getSize.toNat) chain.dataSize.toNat
  else .error .panic

variable (crypto : SpdmCrypto)

/-- `verify_measurement_signature` of the raw build. -/
def verifyMeasurementSignature (ctx : SpdmContext cfg) (slotId : UInt8)
    (sessionId : Option UInt32) (signature : SpdmSignatureStruct) : Except Fault Unit := do
  let version12 := ctx.negotiateInfo.spdmVersionSel.atLeast12
  let messageL1l2 ← (if version12 then
      appendOrFull (.empty cfg.l1l2BufferSize) ctx.runtimeInfo.messageA.asRef
    else pure (.empty cfg.l1l2BufferSize))
  let messageM ← (match sessionId with
    | none => pure ctx.runtimeInfo.messageM
    | some id =>
      match ctx.getImmutableSessionViaId id with
      | some session => pure session.runtimeInfo.messageM
      | none => throw (.status .invalidParameter))
  let messageL1l2 ← appendOrFull messageL1l2 messageM.asRef
  let messageL1l2Hash ← (crypto.hashAll ctx.negotiateInfo.baseHashSel messageL1l2.asRef).elim
    (throw (.status .cryptoError)) pure
  let certChainData ← peerCertChainDer ctx slotId
  let message ← (if version12 then signingMessage12 cfg cfg.l1l2BufferSize messageL1l2Hash
    else pure messageL1l2.asRef)
  (crypto.asymVerify ctx.negotiateInfo.baseHashSel ctx.negotiateInfo.baseAsymSel certChainData
    message signature).mapError .status

/-- `hash_ctx_finalize(ctx).ok_or(SPDM_STATUS_CRYPTO_ERROR)` of a digest context that must be
there. -/
def finalizeDigest (digest : Option SpdmHashCtx) : Except Fault SpdmDigestStruct :=
  match digest with
  | none => .error (.status .invalidStateLocal)
  | some h => (crypto.hashCtxFinalize h).elim (.error (.status .cryptoError)) .ok

/-- `verify_measurement_signature` of the `hashed-transcript-data` build. -/
def verifyMeasurementSignatureHashed (ctx : SpdmContext cfg) (slotId : UInt8)
    (sessionId : Option UInt32) (signature : SpdmSignatureStruct) : Except Fault Unit := do
  let messageL1l2Hash ← (match sessionId with
    | none => finalizeDigest crypto ctx.runtimeInfo.digestContextL1l2
    | some id =>
      match ctx.getImmutableSessionViaId id with
      | some session => finalizeDigest crypto session.runtimeInfo.digestContextL1l2
      | none => throw (.status .invalidMsgField))
  let certChainData ← peerCertChainDer ctx slotId
  let message ← (if ctx.negotiateInfo.spdmVersionSel.atLeast12 then
      signingMessage12 cfg cfg.sign12BufferSize messageL1l2Hash
    else pure (ManagedBuffer.empty cfg.sign12BufferSize).asRef)
  (crypto.asymVerify ctx.negotiateInfo.baseHashSel ctx.negotiateInfo.baseAsymSel certChainData
    message signature).mapError .status

/-- The chain in `slot_id`, if there is one, holds its `4 + H` byte header and is no longer
than its buffer: the slice `data[4 + H..data_size]` is in range. -/
def SlotChainInRange (ctx : SpdmContext cfg) (slotId : Fin spdmMaxSlotNumber) : Prop :=
  ∀ chain, ctx.peerInfo.peerCertChain slotId = some chain →
    4 + ctx.negotiateInfo.baseHashSel.getSize.toNat ≤ chain.dataSize.toNat ∧
      chain.dataSize.toNat ≤ chain.data.length

theorem appendOrFull_ne_panic (b : ManagedBuffer) (bytes : List UInt8) :
    appendOrFull b bytes ≠ .error .panic := by
  unfold appendOrFull; split <;> simp

theorem signingMessage12_ne_panic (cfg : Config) (capacity : Nat) (digest : SpdmDigestStruct) :
    signingMessage12 cfg capacity digest ≠ .error .panic := by
  rw [signingMessage12_eq]
  have := appendOrFull_ne_panic (.empty capacity) (cfg.spdmVersion12SigningPrefixContext ++
    cfg.spdmVersion12SigningContextZeropad6 ++ cfg.spdmMeasurementsSignContext ++ digest.data)
  cases h : appendOrFull _ _ <;> simp_all [Except.map]

theorem peerCertChainDer_ne_panic {ctx : SpdmContext cfg} {slotId : UInt8}
    (hslot : slotId.toNat < spdmMaxSlotNumber)
    (hchain : SlotChainInRange ctx ⟨slotId.toNat, hslot⟩) :
    peerCertChainDer ctx slotId ≠ .error .panic := by
  unfold peerCertChainDer
  rw [dif_pos hslot]
  split
  · simp
  · next chain hc =>
    obtain ⟨h₁, h₂⟩ := hchain chain hc
    rw [slice_of_le (by omega) h₂]
    simp

theorem peerCertChainDer_congr {ctx ctx' : SpdmContext cfg} (hp : ctx'.peerInfo = ctx.peerInfo)
    (hn : ctx'.negotiateInfo = ctx.negotiateInfo) (slotId : UInt8) :
    peerCertChainDer ctx' slotId = peerCertChainDer ctx slotId := by
  simp [peerCertChainDer, hp, hn]

@[simp] theorem peerCertChainDer_setMessageM (ctx : SpdmContext cfg) (sid : Option UInt32)
    (m : ManagedBuffer) (slotId : UInt8) :
    peerCertChainDer (ctx.setMessageM sid m) slotId = peerCertChainDer ctx slotId :=
  peerCertChainDer_congr (by simp) (by simp) slotId

@[simp] theorem peerCertChainDer_setNeedMeasurementSignature (ctx : SpdmContext cfg) (b : Bool)
    (slotId : UInt8) :
    peerCertChainDer (ctx.setNeedMeasurementSignature b) slotId = peerCertChainDer ctx slotId :=
  peerCertChainDer_congr (by simp) (by simp) slotId

theorem verifyMeasurementSignature_ne_panic {ctx : SpdmContext cfg} {slotId : UInt8}
    {sid : Option UInt32} {signature : SpdmSignatureStruct}
    (hder : peerCertChainDer ctx slotId ≠ .error .panic) :
    verifyMeasurementSignature crypto ctx slotId sid signature ≠ .error .panic := by
  unfold verifyMeasurementSignature
  dsimp only
  refine Except.bind_ne_panic ?_ fun _ _ => ?_
  · split
    · exact appendOrFull_ne_panic _ _
    · simp [pure, Except.pure]
  refine Except.bind_ne_panic ?_ fun _ _ => ?_
  · split
    · simp [pure, Except.pure]
    · split <;> simp [pure, Except.pure, throw, throwThe, MonadExceptOf.throw]
  refine Except.bind_ne_panic (appendOrFull_ne_panic _ _) fun _ _ => ?_
  refine Except.bind_ne_panic ?_ fun _ _ => ?_
  · cases crypto.hashAll _ _ <;> simp [Option.elim, pure, Except.pure, throw, throwThe,
      MonadExceptOf.throw]
  refine Except.bind_ne_panic hder fun _ _ => ?_
  refine Except.bind_ne_panic ?_ fun _ _ => ?_
  · split
    · exact signingMessage12_ne_panic cfg _ _
    · simp [pure, Except.pure]
  cases crypto.asymVerify _ _ _ _ _ <;> simp [Except.mapError]

/-- Verification reads, of its context, only the negotiated parameters, the peer chains,
`message_a` and the bytes of the transcript of `sid`. -/
theorem verifyMeasurementSignature_congr {ctx ctx' : SpdmContext cfg} {sid : Option UInt32}
    (hn : ctx'.negotiateInfo = ctx.negotiateInfo) (hp : ctx'.peerInfo = ctx.peerInfo)
    (ha : ctx'.runtimeInfo.messageA = ctx.runtimeInfo.messageA)
    (hm : (ctx'.messageM sid).map ManagedBuffer.data = (ctx.messageM sid).map ManagedBuffer.data)
    (slotId : UInt8) (signature : SpdmSignatureStruct) :
    verifyMeasurementSignature crypto ctx' slotId sid signature =
      verifyMeasurementSignature crypto ctx slotId sid signature := by
  cases sid with
  | none =>
    simp only [SpdmContext.messageM, Option.map_some', Option.some.injEq] at hm
    simp only [verifyMeasurementSignature, hn, ha, peerCertChainDer_congr hp hn, pure_bind,
      ManagedBuffer.asRef, hm]
  | some id =>
    simp only [SpdmContext.messageM, Option.map_map] at hm
    rcases h : ctx.getImmutableSessionViaId id with _ | session <;>
      rcases h' : ctx'.getImmutableSessionViaId id with _ | session' <;>
      simp only [h, h', Option.map_none', Option.map_some', Function.comp_apply, reduceCtorEq,
        Option.some.injEq] at hm
    all_goals simp only [verifyMeasurementSignature, h, h', hn, ha, peerCertChainDer_congr hp hn,
      pure_bind, ManagedBuffer.asRef, hm]

/-- From SPDM 1.2 on, on the connection, the two builds agree when the hashed build's digest
has absorbed `message_a` and `message_m`, the L1/L2 buffer holds both, and both signing buffers
hold the 1.2 message: they verify the same signature over the same message. -/
theorem verifyMeasurementSignatureHashed_eq_of_atLeast12 {ctx : SpdmContext cfg}
    {slotId : UInt8} {signature : SpdmSignatureStruct}
    (h12 : ctx.negotiateInfo.spdmVersionSel.atLeast12 = true)
    (hdigest : ctx.runtimeInfo.digestContextL1l2 = some ⟨ctx.negotiateInfo.baseHashSel,
      ctx.runtimeInfo.messageA.data ++ ctx.runtimeInfo.messageM.data⟩)
    (hroom : ctx.runtimeInfo.messageA.data.length + ctx.runtimeInfo.messageM.data.length ≤
      cfg.l1l2BufferSize)
    (hfit : ∀ d, crypto.hashAll ctx.negotiateInfo.baseHashSel
        (ctx.runtimeInfo.messageA.data ++ ctx.runtimeInfo.messageM.data) = some d →
      (cfg.spdmVersion12SigningPrefixContext ++ cfg.spdmVersion12SigningContextZeropad6 ++
        cfg.spdmMeasurementsSignContext ++ d.data).length ≤
          min cfg.l1l2BufferSize cfg.sign12BufferSize) :
    verifyMeasurementSignatureHashed crypto ctx slotId none signature =
      verifyMeasurementSignature crypto ctx slotId none signature := by
  have happend : (do
      let m ← appendOrFull (.empty cfg.l1l2BufferSize) ctx.runtimeInfo.messageA.asRef
      appendOrFull m ctx.runtimeInfo.messageM.asRef) =
      .ok ⟨cfg.l1l2BufferSize, ctx.runtimeInfo.messageA.data ++ ctx.runtimeInfo.messageM.data,
        by simpa using hroom⟩ := by
    rw [appendOrFull_bind]
    simp [appendOrFull, ManagedBuffer.appendMessage, ManagedBuffer.empty, ManagedBuffer.asRef,
      hroom]
  simp only [verifyMeasurementSignature, verifyMeasurementSignatureHashed, finalizeDigest,
    hdigest, SpdmCrypto.hashCtxFinalize, h12, if_true, pure_bind, ← bind_assoc, happend]
  simp only [bind, Except.bind, ManagedBuffer.asRef]
  cases hh : crypto.hashAll ctx.negotiateInfo.baseHashSel
      (ctx.runtimeInfo.messageA.data ++ ctx.runtimeInfo.messageM.data) with
  | none => rfl
  | some d =>
    have h₁ := le_trans (hfit d hh) (min_le_left _ _)
    have h₂ := le_trans (hfit d hh) (min_le_right _ _)
    simp only [Option.elim, signingMessage12_eq, appendOrFull, ManagedBuffer.appendMessage,
      ManagedBuffer.empty, List.length_nil, Nat.zero_add, List.nil_append, h₁, h₂, dite_true,
      pure, Except.pure]
    rfl

/-- An SPDM 1.2 connection whose measurement transcript is `[1]` and whose running digest has
absorbed exactly that, with a chain in every slot. -/
def v12Context : SpdmContext smallConfig :=
  { SpdmContext.new ⟨false⟩ ⟨none⟩ 64 with
    negotiateInfo := ⟨.spdmVersion12, ⟨0⟩, ⟨0⟩⟩
    runtimeInfo := ⟨.empty 64, .empty 64, ⟨64, [1], by decide⟩, some ⟨⟨0⟩, [1]⟩, true,
      .notSupported⟩
    peerInfo := ⟨fun _ => some ⟨5, [5, 0, 0, 0, 0x30]⟩, ⟨0, List.replicate 8 0, rfl⟩⟩ }

theorem verifyMeasurementSignature_builds_agree_v12Context :
    v12Context.negotiateInfo.spdmVersionSel.atLeast12 = true ∧
    v12Context.runtimeInfo.digestContextL1l2 = some ⟨v12Context.negotiateInfo.baseHashSel,
      v12Context.runtimeInfo.messageA.data ++ v12Context.runtimeInfo.messageM.data⟩ ∧
    v12Context.runtimeInfo.messageA.data.length + v12Context.runtimeInfo.messageM.data.length ≤
      smallConfig.l1l2BufferSize ∧
    (∀ d, acceptingCrypto.hashAll v12Context.negotiateInfo.baseHashSel
        (v12Context.runtimeInfo.messageA.data ++ v12Context.runtimeInfo.messageM.data) = some d →
      (smallConfig.spdmVersion12SigningPrefixContext ++
        smallConfig.spdmVersion12SigningContextZeropad6 ++
        smallConfig.spdmMeasurementsSignContext ++ d.data).length ≤
        min smallConfig.l1l2BufferSize smallConfig.sign12BufferSize) ∧
    verifyMeasurementSignatureHashed acceptingCrypto v12Context 0 none SpdmSignatureStruct.default =
      verifyMeasurementSignature acceptingCrypto v12Context 0 none SpdmSignatureStruct.default := by
  have h12 : v12Context.negotiateInfo.spdmVersionSel.atLeast12 = true := rfl
  have hdigest : v12Context.runtimeInfo.digestContextL1l2 =
      some ⟨v12Context.negotiateInfo.baseHashSel,
        v12Context.runtimeInfo.messageA.data ++ v12Context.runtimeInfo.messageM.data⟩ := rfl
  have hroom : v12Context.runtimeInfo.messageA.data.length +
      v12Context.runtimeInfo.messageM.data.length ≤ smallConfig.l1l2BufferSize := by decide
  have hfit : ∀ d, acceptingCrypto.hashAll v12Context.negotiateInfo.baseHashSel
        (v12Context.runtimeInfo.messageA.data ++ v12Context.runtimeInfo.messageM.data) = some d →
      (smallConfig.spdmVersion12SigningPrefixContext ++
        smallConfig.spdmVersion12SigningContextZeropad6 ++
        smallConfig.spdmMeasurementsSignContext ++ d.data).length ≤
        min smallConfig.l1l2BufferSize smallConfig.sign12BufferSize := by
    intro d h
    cases h
    decide
  exact ⟨h12, hdigest, hroom, hfit,
    verifyMeasurementSignatureHashed_eq_of_atLeast12 acceptingCrypto h12 hdigest hroom hfit⟩

/-- A provider whose verifier accepts a signature over the one-byte message `[1]` only. -/
def transcriptVerifier : SpdmCrypto :=
  ⟨fun _ _ => some ⟨[]⟩, fun _ _ _ message _ => if message = [1] then .ok () else .error .verifFail,
    fun _ _ => .ok (0, 1), fun _ => .ok (), .ok SpdmNonceStruct.default⟩

/-- An SPDM 1.1 connection whose measurement transcript is `[1]` and whose running digest has
absorbed exactly that, with a chain in every slot. -/
def v11Context : SpdmContext smallConfig :=
  { SpdmContext.new ⟨false⟩ ⟨none⟩ 64 with
    negotiateInfo := ⟨.spdmVersion11, ⟨0⟩, ⟨0⟩⟩
    runtimeInfo := ⟨.empty 64, .empty 64, ⟨64, [1], by decide⟩, some ⟨⟨0⟩, [1]⟩, true,
      .notSupported⟩
    peerInfo := ⟨fun _ => some ⟨5, [5, 0, 0, 0, 0x30]⟩, ⟨0, List.replicate 8 0, rfl⟩⟩ }

/-- Before SPDM 1.2 the two builds part: with the digest holding exactly the transcript the
raw build hashes, the raw build verifies the transcript `[1]` and accepts, while the hashed
build verifies the empty message and rejects. -/
theorem verifyMeasurementSignature_builds_part :
    v11Context.runtimeInfo.digestContextL1l2 =
        some ⟨v11Context.negotiateInfo.baseHashSel, v11Context.runtimeInfo.messageM.data⟩ ∧
      verifyMeasurementSignature transcriptVerifier v11Context 0 none SpdmSignatureStruct.default =
        .ok () ∧
      verifyMeasurementSignatureHashed transcriptVerifier v11Context 0 none
        SpdmSignatureStruct.default = .error (.status .verifFail) := by
  decide

end Spdm
