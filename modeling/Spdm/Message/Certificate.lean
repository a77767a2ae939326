import Spdm.Context

/-!
# GET_CERTIFICATE and CERTIFICATE messages

`get_certificate_req.rs` writes a GET_CERTIFICATE request and reads a CERTIFICATE response
through the codecs of `crate::message::certificate`, which the fragment does not contain; both
are modelled here from the spec's layouts (§4.2, §6). A request is the header, the slot as
Param1, a reserved Param2 and the `u16` offset and length. A response is the header, the slot,
a reserved byte, the `u16` portion and remainder lengths and the portion.

The response keeps its portion in a `[u8; MAX_SPDM_CERT_PORTION_LEN]` array, which
`SpdmCertificateResponsePayload` carries with its length: the decoder fills it from the front
with as many of the announced bytes as it holds and leaves the rest zero. It reads the header
and the four fixed fields in any case, so every decoded response consumes at least eight
bytes.
-/

namespace Spdm

/-- `SpdmGetCertificateRequestPayload`. -/
structure SpdmGetCertificateRequestPayload where
  slotId : UInt8
  offset : UInt16
  length : UInt16
  deriving DecidableEq, Repr

/-- Modelled from the spec: the encoder of `SpdmGetCertificateRequestPayload`. -/
def SpdmGetCertificateRequestPayload.writes (p : SpdmGetCertificateRequestPayload) : Writes :=
  [[p.slotId], [0], u16Bytes p.offset, u16Bytes p.length]

/-- The `SpdmMessage` a GET_CERTIFICATE round sends: an SPDM 1.1 header and the payload. -/
def getCertificateRequestWrites (p : SpdmGetCertificateRequestPayload) : Writes :=
  SpdmMessageHeader.writes ⟨.spdmVersion11, .spdmRequestGetCertificate⟩ ++ p.writes

@[simp] theorem length_flatten_getCertificateRequestWrites (p : SpdmGetCertificateRequestPayload) :
    (getCertificateRequestWrites p).flatten.length = 8 := by
  simp [getCertificateRequestWrites, SpdmMessageHeader.writes,
    SpdmGetCertificateRequestPayload.writes, length_u16Bytes]

/-- `SpdmCertificateResponsePayload`: the portion sits in an array of
`MAX_SPDM_CERT_PORTION_LEN` bytes. -/
structure SpdmCertificateResponsePayload (cfg : Config) where
  slotId : UInt8
  portionLength : UInt16
  remainderLength : UInt16
  certChain : List UInt8
  length_certChain : certChain.length = cfg.maxSpdmCertPortionLen

namespace SpdmCertificateResponsePayload

/-- Modelled from the spec: `SpdmCertificateResponsePayload::spdm_read`. -/
def spdmRead (cfg : Config) (r : Reader) : Option (SpdmCertificateResponsePayload cfg × Reader) := do
  let (slotId, r) ← r.readU8
  let (_, r) ← r.readU8
  let (portionLength, r) ← r.readU16
  let (remainderLength, r) ← r.readU16
  let (portion, r) ← r.take (min portionLength.toNat cfg.maxSpdmCertPortionLen)
  pure (⟨slotId, portionLength, remainderLength,
    (portion ++ List.replicate cfg.maxSpdmCertPortionLen 0).take cfg.maxSpdmCertPortionLen,
    by simp⟩, r)

theorem moved_of_spdmRead {cfg : Config} {r r' : Reader} {c : SpdmCertificateResponsePayload cfg}
    (h : spdmRead cfg r = some (c, r')) :
    Reader.Moved r r' (6 + min c.portionLength.toNat cfg.maxSpdmCertPortionLen) := by
  simp only [spdmRead, Option.bind_eq_bind, Option.bind_eq_some] at h
  obtain ⟨⟨_, r₁⟩, h₁, ⟨_, r₂⟩, h₂, ⟨p, r₃⟩, h₃, ⟨_, r₄⟩, h₄, ⟨_, r₅⟩, h₅, h⟩ := h
  obtain ⟨rfl, rfl⟩ := Prod.mk.inj (Option.some.inj h)
  exact ((((Reader.moved_of_readU8 h₁).trans (Reader.moved_of_readU8 h₂)).trans
    (Reader.moved_of_readU16 h₃)).trans (Reader.moved_of_readU16 h₄)).trans
    (Reader.moved_of_take h₅)

end SpdmCertificateResponsePayload

end Spdm
