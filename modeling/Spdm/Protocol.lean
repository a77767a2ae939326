import Spdm.Codec

/-!
# Protocol types the requester flows read and write

`crate::protocol` is not part of the fragment; its types are modelled here from the spec, as
far as `measurement.rs`, `get_measurements_req.rs` and `get_certificate_req.rs` use them. An
`enum_builder!` enumeration keeps every byte: the named values, and `Unknown` for the rest,
so that reading never fails on a well-sized input and an unknown value survives a round trip.
A `bitflags!` type can hold only its declared bits; `from_bits` rejects any other.

The sizes of the negotiated algorithms are the SPDM ones (DSP0274, `BaseHashAlgo` and
`BaseAsymAlgo`), and zero for a selection that names none of them. Fixed arrays whose length
the modelled code never reads (signature, digest, opaque data) are kept as their meaningful
bytes; the certificate chain, whose length the loop of `get_certificate_req.rs` relies on,
carries it in its type.
-/

namespace Spdm

/-- `SPDM_NONCE_SIZE`. -/
def spdmNonceSize : Nat := 32

/-- `SPDM_MAX_SLOT_NUMBER`: eight certificate slots. -/
def spdmMaxSlotNumber : Nat := 8

/-- `SpdmVersion`, an `enum_builder!` byte. -/
inductive SpdmVersion where
  | spdmVersion10 | spdmVersion11 | spdmVersion12
  | unknown (b : UInt8)
  deriving DecidableEq, Repr

namespace SpdmVersion

/-- `SpdmVersion::get_u8`. -/
def getU8 : SpdmVersion → UInt8
  | spdmVersion10 => 0x10
  | spdmVersion11 => 0x11
  | spdmVersion12 => 0x12
  | unknown b => b

/-- `From<u8> for SpdmVersion`. -/
def fromU8 (b : UInt8) : SpdmVersion :=
  if b = 0x10 then spdmVersion10 else if b = 0x11 then spdmVersion11
  else if b = 0x12 then spdmVersion12 else unknown b

/-- The values `fromU8` produces: an `Unknown` never carries a named value. -/
def Canonical : SpdmVersion → Prop
  | unknown b => b ≠ 0x10 ∧ b ≠ 0x11 ∧ b ≠ 0x12
  | _ => True

theorem fromU8_getU8 {v : SpdmVersion} (h : v.Canonical) : fromU8 v.getU8 = v := by
  cases v <;> simp_all [fromU8, getU8, Canonical]

end SpdmVersion

/-- `SpdmRequestResponseCode`, an `enum_builder!` byte. Only the codes the modelled flows
distinguish are named; every other code is `unknown`, as no modelled function tells them
apart. -/
inductive SpdmRequestResponseCode where
  | spdmResponseCertificate | spdmResponseMeasurements | spdmResponseError
  | spdmRequestGetCertificate | spdmRequestGetMeasurements
  | unknown (b : UInt8)
  deriving DecidableEq, Repr

namespace SpdmRequestResponseCode

/-- `SpdmRequestResponseCode::get_u8`. -/
def getU8 : SpdmRequestResponseCode → UInt8
  | spdmResponseCertificate => 0x02
  | spdmResponseMeasurements => 0x60
  | spdmResponseError => 0x7F
  | spdmRequestGetCertificate => 0x82
  | spdmRequestGetMeasurements => 0xE0
  | unknown b => b

/-- `From<u8> for SpdmRequestResponseCode`. -/
def fromU8 (b : UInt8) : SpdmRequestResponseCode :=
  if b = 0x02 then spdmResponseCertificate else if b = 0x60 then spdmResponseMeasurements
  else if b = 0x7F then spdmResponseError else if b = 0x82 then spdmRequestGetCertificate
  else if b = 0xE0 then spdmRequestGetMeasurements else unknown b

end SpdmRequestResponseCode

/-- `SpdmMessageHeader`: the version and code bytes that open every message. -/
structure SpdmMessageHeader where
  version : SpdmVersion
  requestResponseCode : SpdmRequestResponseCode
  deriving DecidableEq, Repr

namespace SpdmMessageHeader

/-- `SpdmMessageHeader::encode`. -/
def writes (h : SpdmMessageHeader) : Writes := [[h.version.getU8], [h.requestResponseCode.getU8]]

/-- `SpdmMessageHeader::read`: two bytes; it fails only when fewer are left. -/
def read (r : Reader) : Option (SpdmMessageHeader × Reader) := do
  let (version, r) ← r.readU8
  let (code, r) ← r.readU8
  pure (⟨SpdmVersion.fromU8 version, SpdmRequestResponseCode.fromU8 code⟩, r)

theorem read_of_left {r : Reader} {b₀ b₁ : UInt8} {rest : List UInt8}
    (h : r.left = b₀ :: b₁ :: rest) :
    read r = some (⟨SpdmVersion.fromU8 b₀, SpdmRequestResponseCode.fromU8 b₁⟩, r.advance 2) := by
  have h₁ : (r.advance 1).left = b₁ :: rest := by simp [h]
  simp [read, Reader.readU8_of_left h, Reader.readU8_of_left h₁, Reader.advance_advance]

theorem moved_of_read {r r' : Reader} {h : SpdmMessageHeader} (hread : read r = some (h, r')) :
    Reader.Moved r r' 2 := by
  simp only [read, Option.bind_eq_bind, Option.bind_eq_some] at hread
  obtain ⟨⟨_, r₁⟩, h₁, ⟨_, r₂⟩, h₂, h⟩ := hread
  obtain ⟨rfl, rfl⟩ := Prod.mk.inj (Option.some.inj h)
  exact (Reader.moved_of_readU8 h₁).trans (Reader.moved_of_readU8 h₂)

theorem read_eq_some {r r' : Reader} {h : SpdmMessageHeader} (hread : read r = some (h, r')) :
    ∃ b₀ b₁ rest, r.left = b₀ :: b₁ :: rest ∧
      h = ⟨SpdmVersion.fromU8 b₀, SpdmRequestResponseCode.fromU8 b₁⟩ ∧ r' = r.advance 2 := by
  match hl : r.left with
  | b₀ :: b₁ :: rest =>
    rw [read_of_left hl] at hread
    obtain ⟨rfl, rfl⟩ := Prod.mk.inj (Option.some.inj hread)
    exact ⟨b₀, b₁, rest, rfl, rfl, rfl⟩
  | [] => simp [read, Reader.readU8_none hl] at hread
  | [b₀] =>
    have h₁ : (r.advance 1).left = [] := by simp [hl]
    simp [read, Reader.readU8_of_left hl, Reader.readU8_none h₁] at hread

end SpdmMessageHeader

/-- `SpdmBaseHashAlgo`, a `bitflags!` word of the negotiated base hash. -/
structure SpdmBaseHashAlgo where
  bits : UInt32
  deriving DecidableEq, Repr

/-- `SpdmBaseHashAlgo::get_size`: the digest size in bytes. -/
def SpdmBaseHashAlgo.getSize (a : SpdmBaseHashAlgo) : UInt16 :=
  if a.bits = 0x1 then 32 else if a.bits = 0x2 then 48 else if a.bits = 0x4 then 64 else 0

theorem SpdmBaseHashAlgo.getSize_le (a : SpdmBaseHashAlgo) : a.getSize.toNat ≤ 64 := by
  unfold SpdmBaseHashAlgo.getSize
  split_ifs <;> decide

/-- `SpdmBaseAsymAlgo`, a `bitflags!` word of the negotiated signature algorithm. -/
structure SpdmBaseAsymAlgo where
  bits : UInt32
  deriving DecidableEq, Repr

/-- `SpdmBaseAsymAlgo::get_size`: the signature size in bytes. -/
def SpdmBaseAsymAlgo.getSize (a : SpdmBaseAsymAlgo) : UInt16 :=
  if a.bits = 0x1 ∨ a.bits = 0x2 then 256 else if a.bits = 0x4 ∨ a.bits = 0x8 then 384
  else if a.bits = 0x10 then 64 else if a.bits = 0x20 ∨ a.bits = 0x40 then 512
  else if a.bits = 0x80 then 96 else if a.bits = 0x100 then 132 else 0

/-- `SpdmNonceStruct`: 32 random bytes. -/
structure SpdmNonceStruct where
  data : List UInt8
  length_data : data.length = spdmNonceSize
  deriving DecidableEq

namespace SpdmNonceStruct

/-- `SpdmNonceStruct::default`: all zero. -/
def default : SpdmNonceStruct := ⟨List.replicate spdmNonceSize 0, List.length_replicate _ _⟩

/-- `SpdmNonceStruct::encode`. -/
def writes (n : SpdmNonceStruct) : Writes := [n.data]

/-- `SpdmNonceStruct::read`: the next 32 bytes. -/
def read (r : Reader) : Option (SpdmNonceStruct × Reader) :=
  match h : r.take spdmNonceSize with
  | some (data, r') => some (⟨data, by
      obtain ⟨hn, rfl, -⟩ := Reader.take_eq_some.mp h
      exact List.length_take_of_le hn⟩, r')
  | none => none

theorem read_of_left {r : Reader} {n : SpdmNonceStruct} {rest : List UInt8}
    (h : r.left = n.data ++ rest) : read r = some (n, r.advance spdmNonceSize) := by
  have htake := Reader.take_of_left h
  rw [n.length_data] at htake
  unfold read
  split
  · next data r' heq =>
    rw [htake] at heq
    obtain ⟨rfl, rfl⟩ := Prod.mk.inj (Option.some.inj heq)
    rfl
  · next heq => rw [htake] at heq; cases heq

theorem read_eq_some {r r' : Reader} {n : SpdmNonceStruct} :
    read r = some (n, r') → r.take spdmNonceSize = some (n.data, r') := by
  unfold read
  split
  · next data r'' heq =>
    intro h
    obtain ⟨rfl, rfl⟩ := Prod.mk.inj (Option.some.inj h)
    exact heq
  · intro h; cases h

end SpdmNonceStruct

/-- `SpdmDigestStruct`, by its `as_ref` bytes. -/
structure SpdmDigestStruct where
  data : List UInt8
  deriving DecidableEq, Repr

/-- `SpdmSignatureStruct`: a signature of `data_size` bytes. -/
structure SpdmSignatureStruct where
  dataSize : UInt16
  data : List UInt8
  deriving DecidableEq, Repr

/-- `SpdmSignatureStruct::default`: the empty signature. -/
def SpdmSignatureStruct.default : SpdmSignatureStruct := ⟨0, []⟩

/-- `SpdmOpaqueStruct`: opaque data of `data_size` bytes. -/
structure SpdmOpaqueStruct where
  dataSize : UInt16
  data : List UInt8
  deriving DecidableEq, Repr

/-- `SpdmMeasurementRecordStructure`: the measurement blocks and their total length, a
`u24` on the wire. -/
structure SpdmMeasurementRecordStructure where
  numberOfBlocks : UInt8
  measurementRecordLength : UInt32
  measurementRecordData : List UInt8
  deriving DecidableEq, Repr

/-- `SpdmMeasurementContentChanged`, a `bitflags!` byte: only bits 4 and 5 can be set. -/
structure SpdmMeasurementContentChanged where
  bits : UInt8
  bits_valid : bits &&& 0xCF = 0
  deriving DecidableEq

namespace SpdmMeasurementContentChanged

/-- `NOT_SUPPORTED`. -/
def notSupported : SpdmMeasurementContentChanged := ⟨0x00, by decide⟩

/-- `DETECTED_CHANGE`. -/
def detectedChange : SpdmMeasurementContentChanged := ⟨0x10, by decide⟩

/-- `NO_CHANGE`. -/
def noChange : SpdmMeasurementContentChanged := ⟨0x20, by decide⟩

/-- `SpdmMeasurementContentChanged::from_bits`. -/
def fromBits (b : UInt8) : Option SpdmMeasurementContentChanged :=
  if h : b &&& 0xCF = 0 then some ⟨b, h⟩ else none

theorem ext' {c c' : SpdmMeasurementContentChanged} (h : c.bits = c'.bits) : c = c' := by
  cases c; cases c'; simp_all

theorem bits_of_fromBits {b : UInt8} {c : SpdmMeasurementContentChanged}
    (h : fromBits b = some c) : c.bits = b := by
  unfold fromBits at h
  split at h
  · cases h; rfl
  · cases h

end SpdmMeasurementContentChanged

/-- `SpdmCertChainData`: a chain of `data_size` bytes in a buffer of `size`, the
`MAX_SPDM_CERT_CHAIN_DATA_SIZE` of the build. -/
structure SpdmCertChainData (size : Nat) where
  dataSize : UInt16
  data : List UInt8
  length_data : data.length = size

namespace SpdmCertChainData

variable {size : Nat}

theorem ext' {c c' : SpdmCertChainData size} (hs : c.dataSize = c'.dataSize)
    (hd : c.data = c'.data) : c = c' := by
  cases c; cases c'; simp_all

/-- `data[lo..hi].copy_from_slice(src)` on the chain's buffer, which keeps its length. -/
def copyFromSlice (c : SpdmCertChainData size) (lo hi : Nat) (src : List UInt8) :
    Except Fault (SpdmCertChainData size) :=
  match h : Spdm.copyFromSlice c.data lo hi src with
  | .ok data => .ok ⟨c.dataSize, data, (length_of_copyFromSlice h).trans c.length_data⟩
  | .error e => .error e

theorem copyFromSlice_eq_ok {c c' : SpdmCertChainData size} {lo hi : Nat} {src : List UInt8} :
    c.copyFromSlice lo hi src = .ok c' ↔
      lo ≤ hi ∧ hi ≤ size ∧ src.length = hi - lo ∧ c'.dataSize = c.dataSize ∧
        c'.data = c.data.take lo ++ src ++ c.data.drop hi := by
  unfold copyFromSlice
  split
  · next data h =>
    rw [Spdm.copyFromSlice_eq_ok, c.length_data] at h
    obtain ⟨hlo, hhi, hsrc, rfl⟩ := h
    constructor
    · rintro ⟨⟩; exact ⟨hlo, hhi, hsrc, rfl, rfl⟩
    · rintro ⟨-, -, -, hs, hd⟩; exact congrArg Except.ok (ext' hs.symm hd.symm)
  · next e h =>
    simp only [Spdm.copyFromSlice, c.length_data] at h
    split at h
    · cases h
    · next hn =>
      simp only [reduceCtorEq, false_iff]
      exact fun ⟨a, b, d, _⟩ => hn ⟨a, b, d⟩

theorem length_splice (c : SpdmCertChainData size) {lo hi : Nat} {src : List UInt8}
    (hlo : lo ≤ hi) (hhi : hi ≤ size) (hsrc : src.length = hi - lo) :
    (c.data.take lo ++ src ++ c.data.drop hi).length = size := by
  simp only [List.length_append, List.length_take, List.length_drop, c.length_data, hsrc]
  omega

theorem copyFromSlice_of_le (c : SpdmCertChainData size) {lo hi : Nat} {src : List UInt8}
    (hlo : lo ≤ hi) (hhi : hi ≤ size) (hsrc : src.length = hi - lo) :
    c.copyFromSlice lo hi src =
      .ok ⟨c.dataSize, c.data.take lo ++ src ++ c.data.drop hi, c.length_splice hlo hhi hsrc⟩ :=
  copyFromSlice_eq_ok.mpr ⟨hlo, hhi, hsrc, rfl, rfl⟩

theorem copyFromSlice_error {c : SpdmCertChainData size} {lo hi : Nat} {src : List UInt8}
    {e : Fault} (h : c.copyFromSlice lo hi src = .error e) : e = .panic := by
  unfold copyFromSlice at h
  split at h
  · cases h
  · next e' h' =>
    cases h
    simp only [Spdm.copyFromSlice] at h'
    split at h' <;> simp_all

end SpdmCertChainData

/-- `SpdmCertChainBuffer`: a peer chain, header included, as a slot holds it. -/
structure SpdmCertChainBuffer where
  dataSize : UInt16
  data : List UInt8
  deriving DecidableEq, Repr

end Spdm
