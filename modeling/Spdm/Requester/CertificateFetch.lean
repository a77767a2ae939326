import Spdm.Requester.CertificateRuns

/-!
# Fetching a whole chain from a responder that serves it

The loop of `send_receive_spdm_certificate` asks for `MAX_SPDM_CERT_PORTION_LEN` bytes at a
time, at the offset the portions received so far add up to, and stops once the responder
reports nothing left. The responder here is modelled from the spec: it answers each
GET_CERTIFICATE with the bytes of one chain at the offset and length asked for, and with how
much of the chain remains.

Against it every round is accepted. `FetchCursor` says where the fetch stands; one round moves
the cursor on and takes one round off `fetchRounds`, so with fuel and room in `message_b` the
loop ends at the end of the chain, and the flow reaches its check with the whole chain in the
buffer. This is the progress half of the loop's contract.
-/

namespace Spdm

variable {cfg : Config} {σ : Type}

namespace RequesterContext

variable (io : SpdmDeviceIo σ)

theorem sendReceiveSpdmCertificatePartial_of_response {slotId : UInt8} {offset length : UInt16}
    {s : RequesterContext cfg σ} {d d' : σ} {response : List UInt8}
    {header : SpdmMessageHeader} {r₀ r₁ : Reader}
    {certificate : SpdmCertificateResponsePayload cfg}
    (hsend : io.send s.device none (getCertificateRequestBytes cfg slotId offset length) = .ok d)
    (hrecv : io.receive d none = .ok (response, d'))
    (hhdr : SpdmMessageHeader.read (Reader.init response) = some (header, r₀))
    (hcode : header.requestResponseCode = .spdmResponseCertificate)
    (hcert : SpdmCertificateResponsePayload.spdmRead cfg r₀ = some (certificate, r₁))
    (hp : certificate.portionLength.toNat ≤ cfg.maxSpdmCertPortionLen)
    (hend : offset.toNat + certificate.portionLength.toNat ≤ cfg.maxSpdmCertChainDataSize)
    (hmax : cfg.maxSpdmCertChainDataSize < 65536)
    (hroom : s.common.runtimeInfo.messageB.data.length +
      (getCertificateRequestBytes cfg slotId offset length).length + r₁.used ≤
        s.common.runtimeInfo.messageB.capacity) :
    ∃ s', sendReceiveSpdmCertificatePartial io slotId offset length s =
      (.ok (certificate.portionLength, certificate.remainderLength), s') := by
  have hused : r₁.used ≤ response.length := by
    have h := (SpdmMessageHeader.moved_of_read hhdr).trans
      (SpdmCertificateResponsePayload.moved_of_spdmRead hcert)
    simpa [h.used_eq.2] using r₁.used_le
  have hlen : certificate.portionLength.toNat ≤ certificate.certChain.length := by
    rw [certificate.length_certChain]; exact hp
  obtain ⟨chainEnd, hu, hv⟩ :=
    u16Add_of_lt (a := offset) (b := certificate.portionLength) (by omega)
  simp only [sendReceiveSpdmCertificatePartial, SpdmM.bind_apply, sendMessage, hsend,
    appendMessageB, SpdmContext.appendMessageB,
    ManagedBuffer.appendMessage_of_le (by omega : s.common.runtimeInfo.messageB.data.length +
      (getCertificateRequestBytes cfg slotId offset length).length ≤
        s.common.runtimeInfo.messageB.capacity),
    Option.map_some', receiveMessage, hrecv, hhdr, hcode, hcert]
  rw [if_neg (by omega)]
  have hcopy := SpdmCertChainData.copyFromSlice_of_le s.common.peerInfo.certChain
    (Nat.le_add_right offset.toNat certificate.portionLength.toNat) hend
    (show (certificate.certChain.take certificate.portionLength.toNat).length =
      offset.toNat + certificate.portionLength.toNat - offset.toNat by simp; omega)
  simp only [SpdmM.bind_apply, SpdmM.lift_apply, hu, hv, gt_iff_lt, not_lt.mpr hend, if_false,
    slice_zero hlen, SpdmM.get_apply, hcopy, setCertChain, slice_zero hused, appendMessageB,
    SpdmContext.appendMessageB, SpdmContext.setCertChain, ManagedBuffer.appendMessage]
  rw [dif_pos (by simp only [List.length_append, List.length_take]; omega)]
  exact ⟨_, rfl⟩

theorem getCertificateRequestBytes_of_le {slotId : UInt8} {offset length : UInt16}
    (h : 8 ≤ cfg.maxSpdmTransportSize) :
    getCertificateRequestBytes cfg slotId offset length =
      [0x11, 0x82, slotId, 0] ++ u16Bytes offset ++ u16Bytes length := by
  obtain ⟨w, hw⟩ := Writer.write_of_le (w := Writer.init cfg.maxSpdmTransportSize)
    (show (Writer.init cfg.maxSpdmTransportSize).written.length +
      (getCertificateRequestWrites ⟨slotId, offset, length⟩).flatten.length ≤
        (Writer.init cfg.maxSpdmTransportSize).capacity by simpa using h)
  rw [getCertificateRequestBytes, hw, (Writer.write_eq_ok hw).2.1]
  rfl

end RequesterContext

theorem toNat_u16Bytes (v : UInt16) :
    (UInt8.ofNat v.toNat).toNat + 256 * (UInt8.ofNat (v.toNat / 256)).toNat = v.toNat := by
  have : v.toNat < 65536 := v.toNat_lt_size
  rw [UInt8.toNat_ofNat', UInt8.toNat_ofNat']
  omega

/-! ### The responder -/

/-- Modelled from the spec: the CERTIFICATE response of a responder holding `chain` to a request for
`length` bytes at `offset`, whose portion is at most `length` bytes of the chain from `offset`. -/
def certificateResponse (chain : List UInt8) (slotId : UInt8) (offset length : Nat) :
    List UInt8 :=
  let portion := (chain.drop offset).take length
  [0x11, 0x02, slotId, 0] ++ u16Bytes (UInt16.ofNat portion.length) ++
    u16Bytes (UInt16.ofNat (chain.length - offset - portion.length)) ++ portion

/-- What the requester decodes `certificateResponse` to: the portion is zero-padded to the
array of `MAX_SPDM_CERT_PORTION_LEN` bytes the payload holds. -/
def certificatePayload (cfg : Config) (chain : List UInt8) (slotId : UInt8) (offset length : Nat) :
    SpdmCertificateResponsePayload cfg :=
  let portion := (chain.drop offset).take length
  ⟨slotId, UInt16.ofNat portion.length, UInt16.ofNat (chain.length - offset - portion.length),
    (portion ++ List.replicate cfg.maxSpdmCertPortionLen 0).take cfg.maxSpdmCertPortionLen,
    by simp⟩

/-- Modelled from the spec: a responder that serves `chain`. It answers a GET_CERTIFICATE
request with the `certificateResponse` for the offset and length it reads from it, keeps the
answer until it is received, and rejects a request of any other size. -/
def SpdmDeviceIo.certificateResponder (chain : List UInt8) : SpdmDeviceIo (Option (List UInt8))
    where
  send _ _ request :=
    match request with
    | [_, _, slotId, _, o₀, o₁, l₀, l₁] =>
      .ok (some (certificateResponse chain slotId (o₀.toNat + 256 * o₁.toNat)
        (l₀.toNat + 256 * l₁.toNat)))
    | _ => .error .invalidParameter
  receive d _ :=
    match d with
    | some response => .ok (response, none)
    | none => .error .eio

theorem certificateResponder_send (chain : List UInt8) (h : 8 ≤ cfg.maxSpdmTransportSize)
    (d : Option (List UInt8)) (sid : Option UInt32) (slotId : UInt8) (offset length : UInt16) :
    (SpdmDeviceIo.certificateResponder chain).send d sid
        (RequesterContext.getCertificateRequestBytes cfg slotId offset length) =
      .ok (some (certificateResponse chain slotId offset.toNat length.toNat)) := by
  rw [RequesterContext.getCertificateRequestBytes_of_le h]
  simp only [SpdmDeviceIo.certificateResponder, u16Bytes, List.cons_append, List.nil_append,
    toNat_u16Bytes]

theorem length_certificateResponse (chain : List UInt8) (slotId : UInt8) (offset length : Nat) :
    (certificateResponse chain slotId offset length).length =
      8 + ((chain.drop offset).take length).length := by
  simp [certificateResponse]
  omega

theorem toNat_portionLength_certificatePayload (cfg : Config) (chain : List UInt8) (slotId : UInt8)
    (offset length : Nat) (hrem : chain.length < 65536) :
    (certificatePayload cfg chain slotId offset length).portionLength.toNat =
      ((chain.drop offset).take length).length := by
  have : ((chain.drop offset).take length).length ≤ chain.length := by simp
  rw [certificatePayload, UInt16.toNat_ofNat']
  exact Nat.mod_eq_of_lt (by omega)

section Payload

variable {chain : List UInt8} (slotId : UInt8) {offset length : Nat}
  (hp : ((chain.drop offset).take length).length ≤ cfg.maxSpdmCertPortionLen)
  (hrem : chain.length < 65536)
include hp hrem

theorem certificateResponse_reads :
    let r := Reader.init (certificateResponse chain slotId offset length)
    SpdmMessageHeader.read r =
      some (⟨.spdmVersion11, .spdmResponseCertificate⟩, r.advance 2) ∧
    SpdmCertificateResponsePayload.spdmRead cfg (r.advance 2) =
      some (certificatePayload cfg chain slotId offset length,
        r.advance (8 + ((chain.drop offset).take length).length)) := by
  intro r
  generalize hportion : (chain.drop offset).take length = portion at hp
  have hlen : portion.length ≤ chain.length := by simp [← hportion]
  have hl : r.left = 0x11 :: 0x02 :: slotId :: 0 :: (u16Bytes (UInt16.ofNat portion.length) ++
      u16Bytes (UInt16.ofNat (chain.length - offset - portion.length)) ++ portion) := by
    simp [r, certificateResponse, hportion]
  refine ⟨SpdmMessageHeader.read_of_left hl, ?_⟩
  have hp16 : (UInt16.ofNat portion.length).toNat = portion.length := by
    rw [UInt16.toNat_ofNat']; omega
  have h₀ : (r.advance 2).left = slotId :: 0 :: (u16Bytes (UInt16.ofNat portion.length) ++
      u16Bytes (UInt16.ofNat (chain.length - offset - portion.length)) ++ portion) := by
    simp [hl]
  have h₁ : (r.advance 3).left = 0 :: (u16Bytes (UInt16.ofNat portion.length) ++
      u16Bytes (UInt16.ofNat (chain.length - offset - portion.length)) ++ portion) := by
    simp [hl]
  have h₂ : (r.advance 4).left = u16Bytes (UInt16.ofNat portion.length) ++
      (u16Bytes (UInt16.ofNat (chain.length - offset - portion.length)) ++ portion) := by
    simp [hl]
  have h₃ : (r.advance 6).left =
      u16Bytes (UInt16.ofNat (chain.length - offset - portion.length)) ++ portion := by
    simp [hl, u16Bytes]
  have h₄ : (r.advance 8).left = portion ++ [] := by simp [hl, u16Bytes]
  simp only [SpdmCertificateResponsePayload.spdmRead, Option.bind_eq_bind,
    Reader.readU8_of_left h₀, Option.some_bind, Reader.advance_advance,
    Reader.readU8_of_left h₁,
    Reader.readU16_of_left h₂, Reader.readU16_of_left h₃, hp16, Nat.min_eq_left hp,
    Reader.take_of_left h₄, Option.pure_def, Nat.add_comm 8, certificatePayload, hportion]

theorem portion_certificatePayload :
    (certificatePayload cfg chain slotId offset length).portion = (chain.drop offset).take length :=
  by rw [SpdmCertificateResponsePayload.portion,
    toNat_portionLength_certificatePayload cfg chain slotId offset length hrem, certificatePayload,
    List.take_take, Nat.min_eq_left hp, List.take_left' rfl]

end Payload

/-! ### The rounds a fetch takes -/

/-- The rounds a fetch takes for `rest` bytes: one a portion of at most
`MAX_SPDM_CERT_PORTION_LEN` bytes, and at least one. -/
def certificateRounds (cfg : Config) (rest : Nat) : Nat :=
  max 1 ((rest + cfg.maxSpdmCertPortionLen - 1) / cfg.maxSpdmCertPortionLen)

theorem certificateRounds_sub {rest : Nat} (hpos : 0 < cfg.maxSpdmCertPortionLen)
    (h : cfg.maxSpdmCertPortionLen < rest) :
    certificateRounds cfg (rest - cfg.maxSpdmCertPortionLen) + 1 = certificateRounds cfg rest := by
  unfold certificateRounds
  have h₁ : rest + cfg.maxSpdmCertPortionLen - 1 = rest - 1 + cfg.maxSpdmCertPortionLen := by
    omega
  have h₂ : rest - cfg.maxSpdmCertPortionLen + cfg.maxSpdmCertPortionLen - 1 = rest - 1 := by
    omega
  have h₃ : 1 ≤ (rest - 1) / cfg.maxSpdmCertPortionLen :=
    (Nat.le_div_iff_mul_le hpos).mpr (by omega)
  rw [h₁, h₂, Nat.add_div_right _ hpos]
  omega

/-- The rounds still to come from `offset` asking for `length`, for a chain of `n` bytes. -/
def fetchRounds (cfg : Config) (n : Nat) (offset length : UInt16) : Nat :=
  if length = 0 then 0 else certificateRounds cfg (n - offset.toNat)

theorem toNat_nextLength (hP : cfg.maxSpdmCertPortionLen < 65536) (r : UInt16) :
    (nextLength cfg r).toNat = min r.toNat cfg.maxSpdmCertPortionLen := by
  have hm := toNat_maxPortionU16 hP
  unfold nextLength
  split
  · next h => have : (maxPortionU16 cfg).toNat < r.toNat := h; omega
  · next h => have : ¬(maxPortionU16 cfg).toNat < r.toNat := h; omega

/-- Where a fetch of `chain` from `certificateResponder chain` stands at `offset` asking for
`length`: the buffer starts with the chain up to `offset`, the next portion is full or the rest, and
`message_b` has room for the rounds to come. -/
structure FetchCursor (chain : List UInt8) (offset length : UInt16)
    (s : RequesterContext cfg (Option (List UInt8))) : Prop where
  device_eq : s.device = none
  offset_le : offset.toNat ≤ chain.length
  length_le : length.toNat ≤ cfg.maxSpdmCertPortionLen
  portion_eq : min length.toNat (chain.length - offset.toNat) =
    min cfg.maxSpdmCertPortionLen (chain.length - offset.toNat)
  done : length = 0 →
    offset.toNat = chain.length ∧ s.common.peerInfo.certChain.dataSize = offset
  data_prefix : s.common.peerInfo.certChain.data.take offset.toNat = chain.take offset.toNat
  room : s.common.runtimeInfo.messageB.data.length +
      16 * fetchRounds cfg chain.length offset length + (chain.length - offset.toNat) ≤
    s.common.runtimeInfo.messageB.capacity

section Fetch

variable {chain : List UInt8} (slotId : UInt8)
  (hmax : cfg.maxSpdmCertChainDataSize + cfg.maxSpdmCertPortionLen ≤ 65535)
  (hpos : 0 < cfg.maxSpdmCertPortionLen) (htransport : 8 ≤ cfg.maxSpdmTransportSize)
  (hchain : chain.length ≤ cfg.maxSpdmCertChainDataSize)
include hmax hpos htransport hchain

theorem FetchCursor.round {offset length : UInt16}
    {s : RequesterContext cfg (Option (List UInt8))} (hc : FetchCursor chain offset length s)
    (hl : length ≠ 0) :
    ∃ s', RequesterContext.sendReceiveSpdmCertificatePartial
        (SpdmDeviceIo.certificateResponder chain) slotId offset length s =
      (.ok ((certificatePayload cfg chain slotId offset.toNat length.toNat).portionLength,
        (certificatePayload cfg chain slotId offset.toNat length.toNat).remainderLength), s') := by
  have hoff := hc.offset_le
  have hpP : ((chain.drop offset.toNat).take length.toNat).length ≤
      cfg.maxSpdmCertPortionLen := by have := hc.length_le; simp; omega
  have hplen : ((chain.drop offset.toNat).take length.toNat).length =
      min length.toNat (chain.length - offset.toNat) := by simp
  have hpu :=
    toNat_portionLength_certificatePayload cfg chain slotId offset.toNat length.toNat (by omega)
  obtain ⟨hhdr, hread⟩ := certificateResponse_reads slotId hpP (by omega)
  have hreq :
      (RequesterContext.getCertificateRequestBytes cfg slotId offset length).length = 8 := by
    simp [RequesterContext.getCertificateRequestBytes_of_le htransport]
  have hresp := length_certificateResponse chain slotId offset.toNat length.toNat
  have hrounds : 1 ≤ fetchRounds cfg chain.length offset length := by
    simp only [fetchRounds, hl, if_false, certificateRounds]; omega
  have hroom := hc.room
  exact RequesterContext.sendReceiveSpdmCertificatePartial_of_response _
    (certificateResponder_send chain htransport s.device none slotId offset length) rfl hhdr rfl
    hread (by omega) (by omega) (by omega)
    (by rw [hreq, Reader.advance_used (by simp; omega)]; simp only [Reader.init_used]; omega)

omit htransport in
theorem fetchRounds_lt {offset length offset' : UInt16}
    {s : RequesterContext cfg (Option (List UInt8))} (hc : FetchCursor chain offset length s)
    (hl : length ≠ 0)
    (hv : offset'.toNat = offset.toNat + min length.toNat (chain.length - offset.toNat)) :
    fetchRounds cfg chain.length offset'
        (nextLength cfg (UInt16.ofNat (chain.length - offset'.toNat))) <
      fetchRounds cfg chain.length offset length := by
  have hnext := toNat_nextLength (by omega : cfg.maxSpdmCertPortionLen < 65536)
    (UInt16.ofNat (chain.length - offset'.toNat))
  rw [UInt16.toNat_ofNat', Nat.mod_eq_of_lt (by omega)] at hnext
  have hportion := hc.portion_eq
  unfold fetchRounds
  rw [if_neg hl]
  split
  · unfold certificateRounds; omega
  · next h0 =>
    have h0' : (nextLength cfg (UInt16.ofNat (chain.length - offset'.toNat))).toNat ≠ 0 :=
      fun h => h0 (UInt16.toNat.inj h)
    rw [← certificateRounds_sub hpos (show cfg.maxSpdmCertPortionLen <
      chain.length - offset.toNat by omega), show chain.length - offset'.toNat =
        chain.length - offset.toNat - cfg.maxSpdmCertPortionLen by omega]
    omega

theorem FetchCursor.advance {offset length offset' : UInt16}
    {s s' : RequesterContext cfg (Option (List UInt8))} (hc : FetchCursor chain offset length s)
    (hl : length ≠ 0)
    (hacc : AcceptedRound (SpdmDeviceIo.certificateResponder chain) slotId offset length s s'
      (certificateResponse chain slotId offset.toNat length.toNat)
      (certificatePayload cfg chain slotId offset.toNat length.toNat))
    (hu : u16Add offset
      (certificatePayload cfg chain slotId offset.toNat length.toNat).portionLength = .ok offset') :
    let length' := nextLength cfg
      (certificatePayload cfg chain slotId offset.toNat length.toNat).remainderLength
    FetchCursor chain offset' length' s' ∧
      fetchRounds cfg chain.length offset' length' <
        fetchRounds cfg chain.length offset length := by
  have hoff := hc.offset_le
  have hplen : ((chain.drop offset.toNat).take length.toNat).length =
      min length.toNat (chain.length - offset.toNat) := by simp
  have hpP : ((chain.drop offset.toNat).take length.toNat).length ≤
      cfg.maxSpdmCertPortionLen := by have := hc.length_le; omega
  have hpu :=
    toNat_portionLength_certificatePayload cfg chain slotId offset.toNat length.toNat (by omega)
  obtain ⟨-, hv⟩ := u16Add_eq_ok.mp hu
  rw [hpu, hplen] at hv
  have hrem : (certificatePayload cfg chain slotId offset.toNat length.toNat).remainderLength =
      UInt16.ofNat (chain.length - offset'.toNat) := by
    simp only [certificatePayload, hplen]
    congr 1
    omega
  have hnext := toNat_nextLength (by omega : cfg.maxSpdmCertPortionLen < 65536)
    (UInt16.ofNat (chain.length - offset'.toNat))
  rw [UInt16.toNat_ofNat', Nat.mod_eq_of_lt (by omega)] at hnext
  have hlt := fetchRounds_lt hmax hpos hchain hc hl hv
  rw [hrem]
  obtain ⟨d, hs, hr⟩ := hacc.exchange
  rw [certificateResponder_send chain htransport] at hs
  cases hs
  have hroom := hc.room
  refine ⟨⟨(Prod.mk.inj (Except.ok.inj hr)).2.symm, by omega, by omega, by omega,
    fun h => ?_, ?_, ?_⟩, hlt⟩
  · have h0 : (nextLength cfg (UInt16.ofNat (chain.length - offset'.toNat))).toNat = 0 := by
      rw [h]; rfl
    exact ⟨by omega, UInt16.toNat.inj (by rw [hacc.dataSize_eq, hpu, hv, hplen])⟩
  · have hdata := s.common.peerInfo.certChain.length_data
    rw [hacc.data_eq, portion_certificatePayload slotId hpP (by omega), hpu, hc.data_prefix,
      List.append_assoc,
      List.take_append_eq_append_take, List.take_of_length_le (by simp; omega),
      List.length_take_of_le hoff, hv, Nat.add_sub_cancel_left, ← hplen, List.take_left' rfl,
      List.take_add]
    simp
  · have hB : s'.common.runtimeInfo.messageB.data.length =
        s.common.runtimeInfo.messageB.data.length + 16 +
          ((chain.drop offset.toNat).take length.toNat).length := by
      rw [hacc.messageB_eq, List.length_append, List.length_append,
        RequesterContext.getCertificateRequestBytes_of_le htransport, hpu,
        List.take_of_length_le (by rw [length_certificateResponse]),
        length_certificateResponse]
      simp
      omega
    rw [hB, hacc.messageB_capacity]
    omega

theorem FetchCursor.step {offset length : UInt16} {s : RequesterContext cfg (Option (List UInt8))}
    (hc : FetchCursor chain offset length s) (hl : length ≠ 0) :
    ∃ portionLength remainderLength offset' s',
      RequesterContext.sendReceiveSpdmCertificatePartial
          (SpdmDeviceIo.certificateResponder chain) slotId offset length s =
        (.ok (portionLength, remainderLength), s') ∧
      u16Add offset portionLength = .ok offset' ∧
      FetchCursor chain offset' (nextLength cfg remainderLength) s' ∧
      fetchRounds cfg chain.length offset' (nextLength cfg remainderLength) <
        fetchRounds cfg chain.length offset length := by
  have hoff := hc.offset_le
  have hpP : ((chain.drop offset.toNat).take length.toNat).length ≤
      cfg.maxSpdmCertPortionLen := by have := hc.length_le; simp; omega
  obtain ⟨s', hround⟩ := FetchCursor.round slotId hmax hpos htransport hchain hc hl
  obtain ⟨response, certificate, hacc, -, -⟩ :=
    RequesterContext.sendReceiveSpdmCertificatePartial_eq_ok _ hround
  obtain ⟨hhdr, hread⟩ := certificateResponse_reads slotId hpP (by omega)
  obtain ⟨d, hs, hr⟩ := hacc.exchange
  rw [certificateResponder_send chain htransport] at hs
  cases hs
  obtain ⟨rfl, -⟩ := Prod.mk.inj (Except.ok.inj hr)
  have hcert := hacc.decode
  simp only [decodeCertificateResponse, hhdr, hread, if_true, Option.map_some'] at hcert
  obtain rfl := Option.some.inj hcert
  have hpu :=
    toNat_portionLength_certificatePayload cfg chain slotId offset.toNat length.toNat (by omega)
  obtain ⟨offset', hu, -⟩ := u16Add_of_lt (a := offset)
    (b := (certificatePayload cfg chain slotId offset.toNat length.toNat).portionLength)
    (by rw [hpu]; omega)
  exact ⟨_, _, offset', s', hround, hu,
    FetchCursor.advance slotId hmax hpos htransport hchain hc hl hacc hu⟩

/-- From any cursor, with fuel for the rounds to come, the loop ends at the end of the chain. -/
theorem FetchCursor.run (fuel : Nat) :
    ∀ {offset length : UInt16} {s : RequesterContext cfg (Option (List UInt8))},
      FetchCursor chain offset length s → fetchRounds cfg chain.length offset length ≤ fuel →
        ∃ offset' s', certificateLoop (SpdmDeviceIo.certificateResponder chain) slotId fuel
            offset length s = .done offset' s' ∧ FetchCursor chain offset' 0 s' := by
  induction fuel with
  | zero =>
    intro offset length s hc hf
    have hl : length = 0 := by
      by_contra hl
      simp only [fetchRounds, hl, if_false, certificateRounds] at hf
      omega
    subst hl
    exact ⟨offset, s, by simp [certificateLoop], hc⟩
  | succ fuel ih =>
    intro offset length s hc hf
    by_cases hl : length = 0
    · subst hl
      exact ⟨offset, s, by simp [certificateLoop], hc⟩
    obtain ⟨_, _, _, _, hround, hu, hc', hlt⟩ :=
      FetchCursor.step slotId hmax hpos htransport hchain hc hl
    obtain ⟨offset', s', hrun, hc''⟩ := ih hc' (by omega)
    refine ⟨offset', s', ?_, hc''⟩
    rw [certificateLoop, if_neg hl, hround]
    dsimp only
    rw [hu]
    exact hrun

/-- From the start of the flow, with room in `message_b` for the rounds and fuel for them, the
loop ends at the end of the chain. -/
theorem certificateLoop_fetches_chain (common : SpdmContext cfg) (fuel : Nat)
    (hroom : common.runtimeInfo.messageB.data.length + 16 * certificateRounds cfg chain.length +
      chain.length ≤ common.runtimeInfo.messageB.capacity)
    (hfuel : certificateRounds cfg chain.length ≤ fuel) :
    ∃ offset s', certificateLoop (SpdmDeviceIo.certificateResponder chain) slotId fuel 0
        (maxPortionU16 cfg) ⟨common, none⟩ = .done offset s' ∧ FetchCursor chain offset 0 s' := by
  have hP := toNat_maxPortionU16 (show cfg.maxSpdmCertPortionLen < 65536 by omega)
  have hl := maxPortionU16_ne_zero hmax hpos
  have hstart : FetchCursor chain 0 (maxPortionU16 cfg) ⟨common, none⟩ :=
    ⟨rfl, by simp, by omega, by rw [hP], fun h => absurd h hl, by simp,
      by simpa [fetchRounds, hl] using hroom⟩
  exact FetchCursor.run slotId hmax hpos htransport hchain fuel hstart
    (by simpa [fetchRounds, hl] using hfuel)

/-- Against a responder that serves `chain`, with room in `message_b` for the rounds (sixteen
bytes each besides the chain) and fuel for them, the flow gets past the loop to its check with
the whole chain assembled. -/
theorem sendReceiveSpdmCertificate_fetches_chain (crypto : SpdmCrypto) (common : SpdmContext cfg)
    (fuel : Nat)
    (hroom : common.runtimeInfo.messageB.data.length + 16 * certificateRounds cfg chain.length +
      chain.length ≤ common.runtimeInfo.messageB.capacity)
    (hfuel : certificateRounds cfg chain.length ≤ fuel) :
    ∃ s', sendReceiveSpdmCertificate crypto (SpdmDeviceIo.certificateResponder chain) fuel slotId
        ⟨common, none⟩ = some (verifyAssembledCertChain crypto s'.common, s') ∧
      s'.common.peerInfo.certChain.dataSize.toNat = chain.length ∧
      s'.common.peerInfo.certChain.data.take chain.length = chain := by
  obtain ⟨offset, s', hrun, hc⟩ :=
    certificateLoop_fetches_chain slotId hmax hpos htransport hchain common fuel hroom hfuel
  obtain ⟨hoff, hsize⟩ := hc.done rfl
  refine ⟨s', by rw [sendReceiveSpdmCertificate, hrun], by rw [hsize, hoff], ?_⟩
  rw [← hoff, hc.data_prefix, hoff, List.take_length]

end Fetch

theorem sendReceiveSpdmCertificate_fetches_unpinned_chain :
    smallConfig.maxSpdmCertChainDataSize + smallConfig.maxSpdmCertPortionLen ≤ 65535 ∧
      0 < smallConfig.maxSpdmCertPortionLen ∧ 8 ≤ smallConfig.maxSpdmTransportSize ∧
      [5, 0, 0, 0, 0x30].length ≤ smallConfig.maxSpdmCertChainDataSize ∧
      unpinnedContext.runtimeInfo.messageB.data.length +
          16 * certificateRounds smallConfig [5, 0, 0, 0, 0x30].length + 5 ≤
        unpinnedContext.runtimeInfo.messageB.capacity ∧
      certificateRounds smallConfig [5, 0, 0, 0, 0x30].length ≤ 2 ∧
      ∃ s', sendReceiveSpdmCertificate acceptingCrypto
          (SpdmDeviceIo.certificateResponder [5, 0, 0, 0, 0x30]) 2 0 ⟨unpinnedContext, none⟩ =
          some (verifyAssembledCertChain acceptingCrypto s'.common, s') ∧
        s'.common.peerInfo.certChain.dataSize.toNat = 5 ∧
        s'.common.peerInfo.certChain.data.take 5 = [5, 0, 0, 0, 0x30] :=
  ⟨by decide, by decide, by decide, by decide, by decide, by decide,
    sendReceiveSpdmCertificate_fetches_chain 0 (by decide) (by decide) (by decide) (by decide)
      acceptingCrypto unpinnedContext 2 (by decide) (by decide)⟩

end Spdm
