import Spdm.Requester.GetCertificate

/-!
# Whole runs of the GET_CERTIFICATE flow

`Spdm.Requester.GetCertificate` describes one accepted round (`AcceptedRound`). This module
follows whole runs of `send_receive_spdm_certificate`, against any responder:

* the transcript: `logCertificateRound` is the abstract view of a round, the cursor
  `(offset, length)` and the `message_b` log as the response alone determines them, and the
  loop refines it: when it ends, its cursor and `message_b` are the view folded over the
  responses received;
* the frame: however the flow ends, it replaced at most the chain buffer and appended to
  `message_b`;
* the failures: every early return of the loop is `EIO`, whatever status the round returned.
-/

namespace Spdm

variable {cfg : Config} {σ : Type}

namespace SpdmContext

/-- `ctx` with the `message_b` and the chain buffer of `other`. -/
def withCertificateState (ctx other : SpdmContext cfg) : SpdmContext cfg :=
  { ctx with
    runtimeInfo := { ctx.runtimeInfo with messageB := other.runtimeInfo.messageB }
    peerInfo := { ctx.peerInfo with certChain := other.peerInfo.certChain } }

@[simp] theorem withCertificateState_self (ctx : SpdmContext cfg) :
    ctx.withCertificateState ctx = ctx := rfl

theorem withCertificateState_withCertificateState (ctx a b : SpdmContext cfg) :
    (ctx.withCertificateState a).withCertificateState b = ctx.withCertificateState b := rfl

end SpdmContext

section Frame

/-- All a GET_CERTIFICATE exchange may do to the requester's context, however it ends: append to
`message_b` and replace the chain buffer `peer_cert_chain.cert_chain`. Everything else of the
context is as it was; the device may have moved on. -/
structure CertificateFrame (s s' : RequesterContext cfg σ) : Prop where
  messageB_prefix : s.common.runtimeInfo.messageB.data <+: s'.common.runtimeInfo.messageB.data
  messageB_capacity :
    s'.common.runtimeInfo.messageB.capacity = s.common.runtimeInfo.messageB.capacity
  rest_eq : s'.common.withCertificateState s.common = s.common

theorem CertificateFrame.of_common_eq {s s' : RequesterContext cfg σ} (h : s'.common = s.common) :
    CertificateFrame s s' :=
  ⟨by rw [h], by rw [h], by rw [h]; rfl⟩

theorem CertificateFrame.trans {s₁ s₂ s₃ : RequesterContext cfg σ} (h₁ : CertificateFrame s₁ s₂)
    (h₂ : CertificateFrame s₂ s₃) : CertificateFrame s₁ s₃ := by
  refine ⟨h₁.messageB_prefix.trans h₂.messageB_prefix,
    h₂.messageB_capacity.trans h₁.messageB_capacity, ?_⟩
  rw [← SpdmContext.withCertificateState_withCertificateState _ s₂.common, h₂.rest_eq,
    h₁.rest_eq]

instance instIsReflCertificateFrame : IsRefl (RequesterContext cfg σ) CertificateFrame :=
  ⟨fun _ => .of_common_eq rfl⟩

instance instIsTransCertificateFrame : IsTrans (RequesterContext cfg σ) CertificateFrame :=
  ⟨fun _ _ _ => CertificateFrame.trans⟩

namespace RequesterContext

variable (io : SpdmDeviceIo σ)

theorem keeps_appendMessageB (bytes : List UInt8) :
    SpdmM.Keeps CertificateFrame (appendMessageB bytes : SpdmM (RequesterContext cfg σ) _) := by
  intro s
  cases hc : s.common.appendMessageB bytes with
  | none =>
    simp only [appendMessageB, hc]
    exact refl_of CertificateFrame s
  | some c =>
    obtain ⟨b, hb, rfl⟩ := SpdmContext.appendMessageB_eq_some.mp hc
    obtain ⟨-, hd, hcap⟩ := ManagedBuffer.appendMessage_eq_some.mp hb
    simp only [appendMessageB, hc]
    exact ⟨⟨bytes, hd.symm⟩, hcap, rfl⟩

theorem keeps_setCertChain (c : SpdmCertChainData cfg.maxSpdmCertChainDataSize) :
    SpdmM.Keeps CertificateFrame (setCertChain c : SpdmM (RequesterContext cfg σ) _) :=
  fun _ => ⟨List.prefix_refl _, rfl, rfl⟩

theorem keeps_sendReceiveSpdmCertificatePartial (slotId : UInt8) (offset length : UInt16) :
    SpdmM.Keeps CertificateFrame
      (sendReceiveSpdmCertificatePartial io slotId offset length :
        SpdmM (RequesterContext cfg σ) _) := by
  unfold sendReceiveSpdmCertificatePartial
  refine (keeps_sendMessage io (fun _ _ => .of_common_eq) _ _).bind fun _ =>
    (keeps_appendMessageB _).bind fun _ =>
    (keeps_receiveMessage io (fun _ _ => .of_common_eq) _).bind fun R => ?_
  split
  · exact SpdmM.keeps_throw _
  split
  · split
    · exact SpdmM.keeps_throw _
    split
    · exact SpdmM.keeps_throw _
    refine (SpdmM.keeps_lift _).bind fun _ => ?_
    split
    · exact SpdmM.keeps_throw _
    exact (SpdmM.keeps_lift _).bind fun _ => SpdmM.Keeps.get_bind fun _ =>
      (SpdmM.keeps_lift _).bind fun _ => (SpdmM.keeps_lift _).bind fun _ =>
      (keeps_setCertChain _).bind fun _ => (SpdmM.keeps_lift _).bind fun _ =>
      (keeps_appendMessageB _).bind fun _ => SpdmM.keeps_pure _
  all_goals exact SpdmM.keeps_throw _

end RequesterContext

/-- The requester where the loop stands. -/
def CertificateLoop.state : CertificateLoop cfg σ → RequesterContext cfg σ
  | .running _ _ s => s
  | .done _ s => s
  | .failed _ s => s

variable (io : SpdmDeviceIo σ) (slotId : UInt8)

theorem certificateLoop_keeps_frame :
    ∀ fuel offset length (s : RequesterContext cfg σ),
      CertificateFrame s (certificateLoop io slotId fuel offset length s).state := by
  intro fuel
  induction fuel with
  | zero =>
    intro offset length s
    by_cases hl : length = 0
    · subst hl; rw [certificateLoop_length_zero]; exact refl_of CertificateFrame s
    · rw [certificateLoop_zero io slotId hl]; exact refl_of CertificateFrame s
  | succ n ih =>
    intro offset length s
    by_cases hl : length = 0
    · subst hl; rw [certificateLoop_length_zero]; exact refl_of CertificateFrame s
    rw [certificateLoop_succ io slotId hl]
    have hround := RequesterContext.keeps_sendReceiveSpdmCertificatePartial io slotId offset
      length s
    rcases hp : RequesterContext.sendReceiveSpdmCertificatePartial io slotId offset length s
      with ⟨_ | ⟨p, rem⟩, s₁⟩ <;> rw [hp] at hround
    · rename_i e; cases e <;> exact hround
    · dsimp only at hround ⊢
      rcases u16Add offset p with _ | offset'
      · exact hround
      · exact hround.trans (ih offset' _ s₁)

/-- However the flow ends, against any responder and after any number of rounds, it kept to
the frame: it replaced at most the chain buffer and only appended to `message_b`. The check
after the loop writes nothing. -/
theorem sendReceiveSpdmCertificate_keeps_frame (crypto : SpdmCrypto) {io : SpdmDeviceIo σ}
    {fuel : Nat} {slotId : UInt8} {s s' : RequesterContext cfg σ} {r : Except Fault Unit}
    (h : sendReceiveSpdmCertificate crypto io fuel slotId s = some (r, s')) :
    CertificateFrame s s' := by
  have hframe := certificateLoop_keeps_frame io slotId fuel 0 (maxPortionU16 cfg) s
  unfold sendReceiveSpdmCertificate at h
  split at h
  · cases h
  all_goals
    rename_i heq
    rw [heq] at hframe
    obtain ⟨-, rfl⟩ := Prod.mk.inj (Option.some.inj h)
    exact hframe

/-- A requester with no chain pinned, before the exchange. -/
def unpinnedContext : SpdmContext smallConfig := SpdmContext.new ⟨false⟩ ⟨none⟩ 64

/-- `unpinnedContext` after the rounds against a responder that sends the whole chain
`[5, 0, 0, 0, 0x30]`: the chain assembled, request and response logged. -/
def unpinnedAssembled : SpdmContext smallConfig :=
  { unpinnedContext with
    runtimeInfo := { unpinnedContext.runtimeInfo with
      messageB := ⟨64, [0x11, 0x82, 0, 0, 0, 0, 8, 0] ++ wholeChainResponse, by decide⟩ }
    peerInfo := { unpinnedContext.peerInfo with
      certChain := ⟨5, [5, 0, 0, 0, 0x30, 0, 0, 0], rfl⟩ } }

theorem sendReceiveSpdmCertificate_frames_wholeChainResponse :
    sendReceiveSpdmCertificate acceptingCrypto SpdmDeviceIo.scripted 2 0
        ⟨unpinnedContext, [wholeChainResponse]⟩ = some (.ok (), ⟨unpinnedAssembled, []⟩) ∧
      CertificateFrame ⟨unpinnedContext, [wholeChainResponse]⟩ ⟨unpinnedAssembled, []⟩ := by
  have h : sendReceiveSpdmCertificate acceptingCrypto SpdmDeviceIo.scripted 2 0
      ⟨unpinnedContext, [wholeChainResponse]⟩ = some (.ok (), ⟨unpinnedAssembled, []⟩) := rfl
  exact ⟨h, sendReceiveSpdmCertificate_keeps_frame acceptingCrypto h⟩

end Frame

section Failures

variable (io : SpdmDeviceIo σ) (slotId : UInt8)

/-- An early return of the loop is a panic, of a round or of the `u16` sum of the offsets, or
`EIO`, into which the loop turns every `Err` of a round. -/
theorem certificateLoop_failed_cases :
    ∀ fuel offset length (s : RequesterContext cfg σ) e s',
      certificateLoop io slotId fuel offset length s = .failed e s' →
        e = .panic ∨ e = .status .eio := by
  intro fuel
  induction fuel with
  | zero =>
    intro offset length s e s' h
    unfold certificateLoop at h
    split at h <;> cases h
  | succ n ih =>
    intro offset length s e s' h
    by_cases hl : length = 0
    · subst hl; simp at h
    rw [certificateLoop_succ io slotId hl] at h
    rcases hp : RequesterContext.sendReceiveSpdmCertificatePartial io slotId offset length s
      with ⟨_ | ⟨p, rem⟩, s₁⟩ <;> rw [hp] at h
    · rename_i e₁
      cases e₁ <;> cases h <;> simp
    · dsimp only at h
      split at h
      · exact ih _ _ _ _ _ h
      · next e₂ hu => cases h; exact .inl (u16Add_error hu)

/-- From an offset inside the chain buffer, when the two limits fit in a `u16`, every early
return of the loop is `EIO`, whatever status the failing round returned. -/
theorem certificateLoop_failed_eio
    (hmax : cfg.maxSpdmCertChainDataSize + cfg.maxSpdmCertPortionLen ≤ 65535)
    {fuel : Nat} {offset length : UInt16} {s s' : RequesterContext cfg σ} {e : Fault}
    (hoff : offset.toNat ≤ cfg.maxSpdmCertChainDataSize)
    (h : certificateLoop io slotId fuel offset length s = .failed e s') : e = .status .eio :=
  (certificateLoop_failed_cases io slotId fuel offset length s e s' h).resolve_left
    (certificateLoop_failed_ne_panic io slotId hmax fuel offset length s e s' hoff h)

/-- An ERROR response, `Busy`, to the first request. -/
def busyResponse : List UInt8 := [0x12, 0x7F, 0x03, 0]

/-- `unpinnedContext` after a first request that was answered with `busyResponse`. -/
def firstRequestLogged : SpdmContext smallConfig :=
  { unpinnedContext with
    runtimeInfo := { unpinnedContext.runtimeInfo with
      messageB := ⟨64, [0x11, 0x82, 0, 0, 0, 0, 8, 0], by decide⟩ } }

theorem certificateLoop_busyResponse_eio :
    smallConfig.maxSpdmCertChainDataSize + smallConfig.maxSpdmCertPortionLen ≤ 65535 ∧
      (0 : UInt16).toNat ≤ smallConfig.maxSpdmCertChainDataSize ∧
      (RequesterContext.sendReceiveSpdmCertificatePartial SpdmDeviceIo.scripted 0 0
        (maxPortionU16 smallConfig) ⟨unpinnedContext, [busyResponse]⟩).1 =
        .error (.status .einval) ∧
      certificateLoop SpdmDeviceIo.scripted 0 2 0 (maxPortionU16 smallConfig)
        ⟨unpinnedContext, [busyResponse]⟩ = .failed (.status .eio) ⟨firstRequestLogged, []⟩ ∧
      (.status .eio : Fault) = .status .eio := by
  have hmax : smallConfig.maxSpdmCertChainDataSize + smallConfig.maxSpdmCertPortionLen ≤
      65535 := by decide
  have hoff : (0 : UInt16).toNat ≤ smallConfig.maxSpdmCertChainDataSize := by decide
  have h : certificateLoop SpdmDeviceIo.scripted 0 2 0 (maxPortionU16 smallConfig)
      ⟨unpinnedContext, [busyResponse]⟩ = .failed (.status .eio) ⟨firstRequestLogged, []⟩ := rfl
  exact ⟨hmax, hoff, rfl, h, certificateLoop_failed_eio SpdmDeviceIo.scripted 0 hmax hoff h⟩

end Failures

section Transcript

/-- The abstract view of a round that received `response`, on the cursor `(offset, length)` and the
`message_b` log: it logs the request and the response up to its portion, and asks next at the end of
the portion for the capped remainder. -/
def logCertificateRound (cfg : Config) (slotId : UInt8) (view : UInt16 × UInt16 × List UInt8)
    (response : List UInt8) : UInt16 × UInt16 × List UInt8 :=
  match decodeCertificateResponse cfg response with
  | some c => (view.1 + c.portionLength, nextLength cfg c.remainderLength,
      view.2.2 ++ RequesterContext.getCertificateRequestBytes cfg slotId view.1 view.2.1 ++
        response.take (8 + c.portionLength.toNat))
  | none => view

variable {io : SpdmDeviceIo σ} {slotId : UInt8}

/-- An accepted round, on a device that logs its responses, moves the loop's cursor and
`message_b` as the view of its response says. -/
theorem logCertificateRound_step {offset length offset' : UInt16}
    {s s' : RequesterContext cfg (σ × List (List UInt8))} {response : List UInt8}
    {certificate : SpdmCertificateResponsePayload cfg} {view : UInt16 × UInt16 × List UInt8}
    (h : AcceptedRound io.recording slotId offset length s s' response certificate)
    (hu : u16Add offset certificate.portionLength = .ok offset')
    (hv : s.device.2.foldl (logCertificateRound cfg slotId) view =
      (offset, length, s.common.runtimeInfo.messageB.data)) :
    s'.device.2.foldl (logCertificateRound cfg slotId) view =
      (offset', nextLength cfg certificate.remainderLength,
        s'.common.runtimeInfo.messageB.data) := by
  obtain ⟨d, hs, hr⟩ := h.exchange
  rw [SpdmDeviceIo.recording_log hs hr, List.foldl_append, hv, List.foldl_cons, List.foldl_nil,
    logCertificateRound, h.decode, h.messageB_eq, eq_add_of_u16Add_eq_ok hu]

/-- Against any responder, when the loop is over its cursor and `message_b` are
`logCertificateRound` folded over the responses received, and the last response announced nothing
remaining. -/
theorem certificateLoop_logs_rounds {common : SpdmContext cfg} {d : σ} {fuel : Nat}
    {o : UInt16} {s' : RequesterContext cfg (σ × List (List UInt8))}
    (h : certificateLoop io.recording slotId fuel 0 (maxPortionU16 cfg) ⟨common, (d, [])⟩ =
      .done o s') :
    s'.device.2.foldl (logCertificateRound cfg slotId)
        (0, maxPortionU16 cfg, common.runtimeInfo.messageB.data) =
      (o, 0, s'.common.runtimeInfo.messageB.data) :=
  (certificateLoop_invariant io.recording slotId
    (fun offset length s => s.device.2.foldl (logCertificateRound cfg slotId)
      (0, maxPortionU16 cfg, common.runtimeInfo.messageB.data) =
        (offset, length, s.common.runtimeInfo.messageB.data))
    (fun _ _ _ _ _ _ _ _ hr hu hv => logCertificateRound_step hr hu hv) fuel 0 _
    ⟨common, (d, [])⟩ rfl).2 o s' h

theorem certificateLoop_logs_wholeChainResponse :
    certificateLoop SpdmDeviceIo.scripted.recording 0 2 0 (maxPortionU16 smallConfig)
        ⟨unpinnedContext, ([wholeChainResponse], [])⟩ =
      .done 5 ⟨unpinnedAssembled, ([], [wholeChainResponse])⟩ ∧
    [wholeChainResponse].foldl (logCertificateRound smallConfig 0)
        (0, maxPortionU16 smallConfig, []) =
      (5, 0, unpinnedAssembled.runtimeInfo.messageB.data) := by
  have h : certificateLoop SpdmDeviceIo.scripted.recording 0 2 0 (maxPortionU16 smallConfig)
      ⟨unpinnedContext, ([wholeChainResponse], [])⟩ =
      .done 5 ⟨unpinnedAssembled, ([], [wholeChainResponse])⟩ := rfl
  exact ⟨h, certificateLoop_logs_rounds h⟩

end Transcript

end Spdm
