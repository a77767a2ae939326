import Spdm.Message.FieldCodecs

/-!
# The GET_MEASUREMENTS and MEASUREMENTS payload codecs of `measurement.rs`

The request carries the measurement attributes and operation in its two parameter bytes and,
only when `SIGNATURE_REQUESTED` is set, a nonce and a slot id. Its codec is exact: encoding
writes 35 or 2 bytes and reads back, and every byte string that reads re-encodes to the bytes
it consumed.

The response packs the slot id and the content-changed flags into Param2 only under SPDM 1.2
with `runtime_content_change_support`; reading always splits Param2 at the two masks. One
measurement is written as zero, and the signature is present only when the context expects one.
The record, opaque data and signature codecs are not in the fragment: they are parameters, and
the round trips assume only that each reads back what it writes and writes back what it reads.
-/

namespace Spdm

/-- `SpdmMeasurementAttributes`, a `bitflags!` byte of two flags. -/
structure SpdmMeasurementAttributes where
  bits : UInt8
  bits_valid : bits &&& 0xFC = 0
  deriving DecidableEq

namespace SpdmMeasurementAttributes

/-- `SIGNATURE_REQUESTED`. -/
def signatureRequested : SpdmMeasurementAttributes := ⟨0x01, by decide⟩

/-- `RAW_BIT_STREAM_REQUESTED`. -/
def rawBitStreamRequested : SpdmMeasurementAttributes := ⟨0x02, by decide⟩

/-- `SpdmMeasurementAttributes::empty`. -/
def empty : SpdmMeasurementAttributes := ⟨0, by decide⟩

/-- `contains`: every flag of `other` is set. -/
def contains (a other : SpdmMeasurementAttributes) : Bool := a.bits &&& other.bits = other.bits

/-- `SpdmMeasurementAttributes::from_bits`. -/
def fromBits (b : UInt8) : Option SpdmMeasurementAttributes :=
  if h : b &&& 0xFC = 0 then some ⟨b, h⟩ else none

/-- `Codec::encode`: the bits. -/
def writes (a : SpdmMeasurementAttributes) : Writes := [[a.bits]]

/-- `Codec::read`: a byte, rejected when it has a bit outside the two flags. -/
def read (r : Reader) : Option (SpdmMeasurementAttributes × Reader) := do
  let (bits, r) ← r.readU8
  let a ← fromBits bits
  pure (a, r)

theorem ext' {a a' : SpdmMeasurementAttributes} (h : a.bits = a'.bits) : a = a' := by
  cases a; cases a'; simp_all

theorem fromBits_bits (a : SpdmMeasurementAttributes) : fromBits a.bits = some a := by
  simp [fromBits, a.bits_valid]

theorem read_of_left {r : Reader} {a : SpdmMeasurementAttributes} {rest : List UInt8}
    (h : r.left = a.bits :: rest) : read r = some (a, r.advance 1) := by
  simp [read, Reader.readU8_of_left h, fromBits_bits]

theorem read_eq_some {r r' : Reader} {a : SpdmMeasurementAttributes} (h : read r = some (a, r')) :
    ∃ rest, r.left = a.bits :: rest ∧ r' = r.advance 1 := by
  match hl : r.left with
  | [] => simp [read, Reader.readU8_none hl] at h
  | b :: rest =>
    simp only [read, Reader.readU8_of_left hl, fromBits, Option.bind_eq_bind, Option.some_bind] at h
    split at h
    · next hb =>
      obtain ⟨rfl, rfl⟩ := Prod.mk.inj (Option.some.inj h)
      exact ⟨rest, rfl, rfl⟩
    · cases h

theorem read_none {r : Reader} {b : UInt8} {rest : List UInt8} (h : r.left = b :: rest)
    (hb : b &&& 0xFC ≠ 0) : read r = none := by
  simp [read, Reader.readU8_of_left h, fromBits, hb]

end SpdmMeasurementAttributes

/-- `SpdmMeasurementOperation`, an `enum_builder!` byte. -/
inductive SpdmMeasurementOperation where
  | spdmMeasurementQueryTotalNumber
  | spdmMeasurementRequestAll
  | unknown (b : UInt8)
  deriving DecidableEq, Repr

namespace SpdmMeasurementOperation

/-- `SpdmMeasurementOperation::get_u8`. -/
def getU8 : SpdmMeasurementOperation → UInt8
  | spdmMeasurementQueryTotalNumber => 0x0
  | spdmMeasurementRequestAll => 0xFF
  | unknown b => b

/-- `From<u8> for SpdmMeasurementOperation`. -/
def fromU8 (b : UInt8) : SpdmMeasurementOperation :=
  if b = 0x0 then spdmMeasurementQueryTotalNumber
  else if b = 0xFF then spdmMeasurementRequestAll else unknown b

/-- The values `fromU8` produces: neither `Unknown(0x00)` nor `Unknown(0xFF)`. -/
def Canonical : SpdmMeasurementOperation → Prop
  | unknown b => b ≠ 0x0 ∧ b ≠ 0xFF
  | _ => True

/-- `Codec::encode`. -/
def writes (op : SpdmMeasurementOperation) : Writes := [[op.getU8]]

/-- `Codec::read`: any byte. -/
def read (r : Reader) : Option (SpdmMeasurementOperation × Reader) :=
  (r.readU8).map fun (b, r) => (fromU8 b, r)

theorem fromU8_getU8 {op : SpdmMeasurementOperation} (h : op.Canonical) : fromU8 op.getU8 = op := by
  cases op <;> simp_all [fromU8, getU8, Canonical]

@[simp] theorem getU8_fromU8 (b : UInt8) : (fromU8 b).getU8 = b := by
  unfold fromU8
  split
  · next h => exact h.symm
  · split
    · next h => exact h.symm
    · rfl

theorem canonical_fromU8 (b : UInt8) : (fromU8 b).Canonical := by
  unfold fromU8
  split
  · trivial
  · split
    · trivial
    · exact ⟨‹_›, ‹_›⟩

theorem read_of_left {r : Reader} {b : UInt8} {rest : List UInt8} (h : r.left = b :: rest) :
    read r = some (fromU8 b, r.advance 1) := by
  simp [read, Reader.readU8_of_left h]

theorem read_eq_some {r r' : Reader} {op : SpdmMeasurementOperation} (h : read r = some (op, r')) :
    ∃ rest, r.left = op.getU8 :: rest ∧ r' = r.advance 1 := by
  simp only [read, Option.map_eq_some', Prod.exists, Prod.mk.injEq] at h
  obtain ⟨b, r'', hb, rfl, rfl⟩ := h
  obtain ⟨rest, hl, rfl⟩ := Reader.readU8_eq_some.mp hb
  exact ⟨rest, by rw [getU8_fromU8, hl], rfl⟩

end SpdmMeasurementOperation

/-- `SpdmGetMeasurementsRequestPayload`. -/
structure SpdmGetMeasurementsRequestPayload where
  measurementAttributes : SpdmMeasurementAttributes
  measurementOperation : SpdmMeasurementOperation
  nonce : SpdmNonceStruct
  slotId : UInt8
  deriving DecidableEq

namespace SpdmGetMeasurementsRequestPayload

open SpdmMeasurementAttributes (signatureRequested)

/-- What `spdm_encode` writes: Param1 and Param2, then nonce and slot id only when a
signature is requested. -/
def writes (p : SpdmGetMeasurementsRequestPayload) : Writes :=
  p.measurementAttributes.writes ++ p.measurementOperation.writes ++
    if p.measurementAttributes.contains signatureRequested then p.nonce.writes ++ [[p.slotId]]
    else []

/-- `SpdmGetMeasurementsRequestPayload::spdm_encode`. -/
def spdmEncode (p : SpdmGetMeasurementsRequestPayload) (w : Writer) :
    Except SpdmStatus Nat × Writer :=
  w.write p.writes

/-- `SpdmGetMeasurementsRequestPayload::spdm_read`. -/
def spdmRead (r : Reader) : Option (SpdmGetMeasurementsRequestPayload × Reader) := do
  let (measurementAttributes, r) ← SpdmMeasurementAttributes.read r
  let (measurementOperation, r) ← SpdmMeasurementOperation.read r
  let (nonce, r) ← if measurementAttributes.contains signatureRequested then
      SpdmNonceStruct.read r else some (SpdmNonceStruct.default, r)
  let (slotId, r) ← if measurementAttributes.contains signatureRequested then
      r.readU8 else some (0, r)
  pure (⟨measurementAttributes, measurementOperation, nonce, slotId⟩, r)

/-- The length of the payload on the wire. -/
def wireLength (a : SpdmMeasurementAttributes) : Nat :=
  if a.contains signatureRequested then 35 else 2

/-- What reading the encoding of `p` gives back: `p`, with nonce and slot zeroed when they
were not written. -/
def readBack (p : SpdmGetMeasurementsRequestPayload) : SpdmGetMeasurementsRequestPayload :=
  if p.measurementAttributes.contains signatureRequested then p
  else { p with nonce := SpdmNonceStruct.default, slotId := 0 }

@[simp] theorem length_flatten_writes (p : SpdmGetMeasurementsRequestPayload) :
    p.writes.flatten.length = wireLength p.measurementAttributes := by
  unfold writes wireLength
  split <;> simp [SpdmMeasurementAttributes.writes, SpdmMeasurementOperation.writes,
    SpdmNonceStruct.writes, p.nonce.length_data, spdmNonceSize]

/-- Reading the encoding of a payload, followed by any bytes, gives `readBack p` and
consumes exactly the encoding. -/
theorem spdmRead_writes {p : SpdmGetMeasurementsRequestPayload}
    (hop : p.measurementOperation.Canonical) {r : Reader} {rest : List UInt8}
    (h : r.left = p.writes.flatten ++ rest) :
    spdmRead r = some (p.readBack, r.advance (wireLength p.measurementAttributes)) := by
  have h₁ : r.left = p.measurementAttributes.bits :: p.measurementOperation.getU8 ::
      ((if p.measurementAttributes.contains signatureRequested then
        p.nonce.data ++ [p.slotId] else []) ++ rest) := by
    rw [h]; unfold writes; split <;> simp [SpdmMeasurementAttributes.writes,
      SpdmMeasurementOperation.writes, SpdmNonceStruct.writes]
  have h₃ := SpdmMeasurementOperation.read_of_left (show (r.advance 1).left =
    p.measurementOperation.getU8 :: ((if p.measurementAttributes.contains signatureRequested
      then p.nonce.data ++ [p.slotId] else []) ++ rest) by simp [h₁])
  simp only [spdmRead, SpdmMeasurementAttributes.read_of_left h₁, Option.bind_eq_bind,
    Option.some_bind, h₃, SpdmMeasurementOperation.fromU8_getU8 hop, Reader.advance_advance]
  unfold readBack wireLength
  split
  · next hsig =>
    have h₄ : (r.advance 2).left = p.nonce.data ++ (p.slotId :: rest) := by simp [h₁, hsig]
    have h₅ : (r.advance 34).left = p.slotId :: rest := by
      rw [show 34 = 2 + 32 from rfl, ← Reader.advance_advance, Reader.advance_left, h₄,
        List.drop_left' (n := 32) p.nonce.length_data]
    simp [SpdmNonceStruct.read_of_left h₄, Reader.readU8_of_left h₅, Reader.advance_advance,
      spdmNonceSize]
  · simp

theorem spdmRead_eq_some {r r' : Reader} {p : SpdmGetMeasurementsRequestPayload}
    (h : spdmRead r = some (p, r')) :
    ∃ rest, r.left = p.writes.flatten ++ rest ∧
      r' = r.advance (wireLength p.measurementAttributes) := by
  simp only [spdmRead, Option.bind_eq_bind, Option.bind_eq_some] at h
  obtain ⟨⟨a, r₁⟩, ha, ⟨op, r₂⟩, hop, h⟩ := h
  obtain ⟨rest₁, hl₁, rfl⟩ := SpdmMeasurementAttributes.read_eq_some ha
  obtain ⟨rest₂, hl₂, rfl⟩ := SpdmMeasurementOperation.read_eq_some hop
  simp only [Reader.advance_left, hl₁, List.drop_succ_cons, List.drop_zero] at hl₂
  subst hl₂
  by_cases hs : a.contains signatureRequested
  · simp only [hs, if_true, Option.bind_eq_some] at h
    obtain ⟨⟨n, r₃⟩, hn, ⟨slot, r₄⟩, hslot, h⟩ := h
    obtain ⟨hlen, hdata, rfl⟩ := Reader.take_eq_some.mp (SpdmNonceStruct.read_eq_some hn)
    obtain ⟨rest₄, hl₄, rfl⟩ := Reader.readU8_eq_some.mp hslot
    simp only [Option.pure_def, Option.some.injEq, Prod.mk.injEq] at h
    obtain ⟨rfl, rfl⟩ := h
    simp only [Reader.advance_left, hl₁, spdmNonceSize, List.drop_succ_cons,
      List.drop_zero] at hdata hl₄
    refine ⟨rest₄, ?_, by simp [wireLength, hs, Reader.advance_advance, spdmNonceSize]⟩
    simp only [writes, hs, if_true, SpdmMeasurementAttributes.writes,
      SpdmMeasurementOperation.writes, SpdmNonceStruct.writes, hl₁, hdata, spdmNonceSize]
    simp [← hl₄]
  · simp only [hs, Bool.false_eq_true, if_false, Option.some_bind, Option.pure_def,
      Option.some.injEq, Prod.mk.injEq] at h
    obtain ⟨rfl, rfl⟩ := h
    exact ⟨rest₂, by simp [writes, hs, hl₁, SpdmMeasurementAttributes.writes,
      SpdmMeasurementOperation.writes], by simp [wireLength, hs, Reader.advance_advance]⟩

theorem contains_SIGNATURE_REQUESTED (a : SpdmMeasurementAttributes) :
    a.contains signatureRequested = decide (a.bits &&& 0x01 = 0x01) := rfl

theorem spdmRead_isSome_of_valid {r : Reader} {b₀ : UInt8} {rest : List UInt8}
    (hl : r.left = b₀ :: rest) (hb : b₀ &&& 0xFC = 0)
    (hlen : (if b₀ &&& 0x01 = 0x01 then 35 else 2) ≤ r.left.length) :
    (spdmRead r).isSome := by
  let a : SpdmMeasurementAttributes := ⟨b₀, hb⟩
  match rest, hl with
  | [], hl => simp only [hl, List.length_singleton] at hlen; split at hlen <;> omega
  | b₁ :: rest, hl =>
    by_cases hs : a.contains signatureRequested
    · have hsig : b₀ &&& 0x01 = 0x01 := by simpa [contains_SIGNATURE_REQUESTED, a] using hs
      simp only [hl, hsig, if_true, List.length_cons] at hlen
      match hd : rest.drop 32 with
      | [] => have := List.length_drop 32 rest; simp only [hd, List.length_nil] at this; omega
      | slot :: rest' =>
        let p : SpdmGetMeasurementsRequestPayload :=
          ⟨a, SpdmMeasurementOperation.fromU8 b₁, ⟨rest.take 32, by simp [spdmNonceSize]; omega⟩,
            slot⟩
        have hw : r.left = p.writes.flatten ++ rest' := by
          simp [p, writes, hs, hl, SpdmMeasurementAttributes.writes, a,
            SpdmMeasurementOperation.writes, SpdmNonceStruct.writes, ← hd]
        rw [spdmRead_writes (SpdmMeasurementOperation.canonical_fromU8 b₁) hw]
        rfl
    · let p : SpdmGetMeasurementsRequestPayload :=
        ⟨a, SpdmMeasurementOperation.fromU8 b₁, SpdmNonceStruct.default, 0⟩
      have hw : r.left = p.writes.flatten ++ rest := by
        simp [p, writes, hs, hl, SpdmMeasurementAttributes.writes, a,
          SpdmMeasurementOperation.writes]
      rw [spdmRead_writes (SpdmMeasurementOperation.canonical_fromU8 b₁) hw]
      rfl

theorem spdmEncode_of_room (p : SpdmGetMeasurementsRequestPayload) {w : Writer}
    (hroom : w.used + wireLength p.measurementAttributes ≤ w.capacity) :
    ∃ w', p.spdmEncode w = (.ok (wireLength p.measurementAttributes), w') ∧
      w'.written = w.written ++ p.writes.flatten := by
  obtain ⟨w', hw'⟩ : ∃ w', w.write p.writes = (.ok p.writes.flatten.length, w') :=
    Writer.write_of_le (by rw [length_flatten_writes]; exact hroom)
  rw [length_flatten_writes] at hw'
  exact ⟨w', hw', (Writer.write_eq_ok hw').2.1⟩

/-- The GET_MEASUREMENTS request codec is exact: (a) every payload with a named operation encodes to
its 35 or 2 bytes, which read back as `readBack`; (b) a byte string reads iff it is long enough and
Param1 has no bit outside the two flags, and re-encodes to the bytes it consumed. -/
theorem spdmGetMeasurementsRequest_codec_exact :
    (∀ p : SpdmGetMeasurementsRequestPayload, p.measurementOperation.Canonical →
      ∀ w : Writer, w.used + wireLength p.measurementAttributes ≤ w.capacity →
        ∃ w', p.spdmEncode w = (.ok (wireLength p.measurementAttributes), w') ∧
          w'.written = w.written ++ p.writes.flatten ∧
          ∀ rest, spdmRead (Reader.init (p.writes.flatten ++ rest)) =
            some (p.readBack,
              (Reader.init (p.writes.flatten ++ rest)).advance (wireLength p.measurementAttributes))) ∧
    (∀ b : List UInt8,
      ((spdmRead (Reader.init b)).isSome ↔ ∃ b₀ rest, b = b₀ :: rest ∧ b₀ &&& 0xFC = 0 ∧
        (if b₀ &&& 0x01 = 0x01 then 35 else 2) ≤ b.length) ∧
      ∀ p r', spdmRead (Reader.init b) = some (p, r') →
        ∀ w : Writer, w.used + r'.used ≤ w.capacity →
          ∃ w', p.spdmEncode w = (.ok r'.used, w') ∧ w'.written = w.written ++ b.take r'.used) := by
  refine ⟨fun p hop w hroom => ?_, fun b => ⟨⟨fun hsome => ?_, ?_⟩, ?_⟩⟩
  · obtain ⟨w', henc, hw'⟩ := spdmEncode_of_room p hroom
    exact ⟨w', henc, hw', fun rest => spdmRead_writes hop
      (show (Reader.init (p.writes.flatten ++ rest)).left = p.writes.flatten ++ rest from rfl)⟩
  · obtain ⟨⟨p, r'⟩, hread⟩ := Option.isSome_iff_exists.mp hsome
    obtain ⟨rest, hl, -⟩ := spdmRead_eq_some hread
    have hlen := congrArg List.length hl
    simp only [Reader.init_left, List.length_append, length_flatten_writes] at hl hlen
    refine ⟨p.measurementAttributes.bits, (p.writes.flatten ++ rest).tail, ?_,
      p.measurementAttributes.bits_valid, ?_⟩
    · rw [hl]
      simp [writes, SpdmMeasurementAttributes.writes]
    · rw [hlen]
      simp only [wireLength, contains_SIGNATURE_REQUESTED, decide_eq_true_eq]
      split <;> omega
  · rintro ⟨b₀, rest, rfl, hb, hlen⟩
    exact spdmRead_isSome_of_valid rfl hb hlen
  · intro p r' hread w hroom
    obtain ⟨rest, hl, rfl⟩ := spdmRead_eq_some hread
    simp only [Reader.init_left] at hl
    have hle : wireLength p.measurementAttributes ≤ (Reader.init b).left.length := by
      simp only [Reader.init_left, hl, List.length_append, length_flatten_writes]
      omega
    have hused : ((Reader.init b).advance (wireLength p.measurementAttributes)).used =
        wireLength p.measurementAttributes := by
      rw [Reader.advance_used hle, Reader.init_used, Nat.zero_add]
    rw [hused] at hroom ⊢
    obtain ⟨w', henc, hw'⟩ := spdmEncode_of_room p hroom
    refine ⟨w', henc, ?_⟩
    rw [hw', hl, ← length_flatten_writes, List.take_left]

end SpdmGetMeasurementsRequestPayload

/-- `MEASUREMENT_RESPONDER_PARAM2_SLOT_ID_MASK`: bits [3:0] of Param2. -/
def measurementResponderParam2SlotIdMask : UInt8 := 0x0F

/-- `MEASUREMENT_RESPONDER_PARAM2_CONTENT_CHANGED_MASK`: bits [5:4] of Param2. -/
def measurementResponderParam2ContentChangedMask : UInt8 := 0x30

theorem UInt8.toNat_or' (a b : UInt8) : (a ||| b).toNat = a.toNat ||| b.toNat :=
  BitVec.toNat_or _ _

private theorem Nat.slot_and_masks {s : Nat} (hs : s < 16) : s &&& 0x0F = s ∧ s &&& 0x30 = 0 := by
  have h15 : s &&& 15 = s := Nat.and_pow_two_sub_one_of_lt_two_pow (n := 4) hs
  refine ⟨h15, ?_⟩
  rw [← h15, Nat.and_assoc, show (15 &&& 48 : Nat) = 0 from rfl, Nat.and_zero]

private theorem Nat.flags_and_masks {c : Nat} (hc : c &&& 0xCF = 0) (hlt : c < 256) :
    c &&& 0x0F = 0 ∧ c &&& 0x30 = c := by
  have h255 : c &&& 255 = c := Nat.and_pow_two_sub_one_of_lt_two_pow (n := 8) hlt
  constructor
  · rw [show (0x0F : Nat) = 0xCF &&& 0x0F from rfl, ← Nat.and_assoc, hc, Nat.zero_and]
  · conv_rhs => rw [← h255, show (255 : Nat) = 0xCF ||| 0x30 from rfl,
      Nat.and_or_distrib_left, hc, Nat.zero_or]

theorem param2_masks {slot : UInt8} (hs : slot < 16) (c : SpdmMeasurementContentChanged) :
    (slot ||| c.bits) &&& measurementResponderParam2SlotIdMask = slot ∧
    (slot ||| c.bits) &&& measurementResponderParam2ContentChangedMask = c.bits ∧
    slot &&& measurementResponderParam2SlotIdMask = slot ∧
    slot &&& measurementResponderParam2ContentChangedMask = 0 := by
  have hs' : slot.toNat < 16 := hs
  have hc : c.bits.toNat &&& 0xCF = 0 := by
    simpa using congrArg UInt8.toNat c.bits_valid
  obtain ⟨hs₁, hs₂⟩ := Nat.slot_and_masks hs'
  obtain ⟨hc₁, hc₂⟩ := Nat.flags_and_masks hc c.bits.toNat_lt_size
  have hor : ∀ m : Nat, (slot.toNat ||| c.bits.toNat) &&& m =
      (slot.toNat &&& m) ||| (c.bits.toNat &&& m) := fun m => by
    rw [Nat.and_comm, Nat.and_or_distrib_left, Nat.and_comm m, Nat.and_comm m]
  refine ⟨UInt8.toNat.inj ?_, UInt8.toNat.inj ?_, UInt8.toNat.inj ?_, UInt8.toNat.inj ?_⟩ <;>
    simp only [UInt8.and_toNat, UInt8.toNat_or', measurementResponderParam2SlotIdMask,
      measurementResponderParam2ContentChangedMask] <;>
    first
    | exact (hor 15).trans (by rw [hs₁, hc₁, Nat.or_zero])
    | exact (hor 48).trans (by rw [hs₂, hc₂, Nat.zero_or])
    | exact hs₁
    | exact hs₂

/-- `SpdmMeasurementsResponsePayload`. -/
structure SpdmMeasurementsResponsePayload where
  numberOfMeasurement : UInt8
  contentChanged : SpdmMeasurementContentChanged
  slotId : UInt8
  measurementRecord : SpdmMeasurementRecordStructure
  nonce : SpdmNonceStruct
  /-- `opaque`, a Lean keyword. -/
  opaqueData : SpdmOpaqueStruct
  signature : SpdmSignatureStruct
  deriving DecidableEq

namespace SpdmMeasurementsResponsePayload

variable {cfg : Config} (codecs : SpdmFieldCodecs cfg)

/-- What `spdm_encode` writes. Param1 is zero for one measurement; Param2 carries the
content-changed flags only under SPDM 1.2 with runtime content change support; the signature
follows only when the context expects one. -/
def writes (ctx : SpdmContext cfg) (p : SpdmMeasurementsResponsePayload) : Writes :=
  [[if p.numberOfMeasurement = 1 then 0 else p.numberOfMeasurement],
    [if ctx.negotiateInfo.spdmVersionSel = .spdmVersion12 ∧
        ctx.configInfo.runtimeContentChangeSupport then p.slotId ||| p.contentChanged.bits
      else p.slotId]] ++
  codecs.measurementRecord.writes ctx p.measurementRecord ++ p.nonce.writes ++
  codecs.opaqueData.writes ctx p.opaqueData ++
  if ctx.runtimeInfo.needMeasurementSignature then codecs.signature.writes ctx p.signature else []

/-- `SpdmMeasurementsResponsePayload::spdm_encode`. -/
def spdmEncode (ctx : SpdmContext cfg) (p : SpdmMeasurementsResponsePayload) (w : Writer) :
    Except SpdmStatus Nat × Writer :=
  w.write (writes codecs ctx p)

/-- `SpdmMeasurementsResponsePayload::spdm_read`. -/
def spdmRead (ctx : SpdmContext cfg) (r : Reader) :
    Option (SpdmMeasurementsResponsePayload × Reader) := do
  let (numberOfMeasurement, r) ← r.readU8
  let (param2, r) ← r.readU8
  let slotId := param2 &&& measurementResponderParam2SlotIdMask
  let contentChanged := param2 &&& measurementResponderParam2ContentChangedMask
  let contentChanged ← SpdmMeasurementContentChanged.fromBits contentChanged
  let (measurementRecord, r) ← r.readWith (codecs.measurementRecord.read ctx)
  let (nonce, r) ← SpdmNonceStruct.read r
  let (opaqueData, r) ← r.readWith (codecs.opaqueData.read ctx)
  let (signature, r) ← if ctx.runtimeInfo.needMeasurementSignature then
      r.readWith (codecs.signature.read ctx) else some (SpdmSignatureStruct.default, r)
  pure (⟨numberOfMeasurement, contentChanged, slotId, measurementRecord, nonce, opaqueData,
    signature⟩, r)

/-- A decoded response read its fields up to the opaque data over some stretch of its buffer,
and then the signature: decoded there when the context expects one, the default otherwise. -/
theorem spdmRead_steps {ctx : SpdmContext cfg} {r r' : Reader}
    {P : SpdmMeasurementsResponsePayload} (h : spdmRead codecs ctx r = some (P, r')) :
    ∃ r₅ n, r.Moved r₅ n ∧
      (if ctx.runtimeInfo.needMeasurementSignature then r₅.readWith (codecs.signature.read ctx)
        else some (SpdmSignatureStruct.default, r₅)) = some (P.signature, r') := by
  cases hn : ctx.runtimeInfo.needMeasurementSignature <;>
    simp only [spdmRead, hn, Option.bind_eq_bind, Option.bind_eq_some, if_true,
      Bool.false_eq_true, if_false, Option.some_bind] at h ⊢ <;>
    obtain ⟨⟨_, r₁⟩, h₁, ⟨_, r₂⟩, h₂, _, -, ⟨_, r₃⟩, h₃, ⟨_, r₄⟩, h₄, ⟨_, r₅⟩, h₅, h⟩ := h <;>
    obtain ⟨n₃, m₃⟩ := Reader.moved_of_readWith h₃ <;>
    obtain ⟨n₅, m₅⟩ := Reader.moved_of_readWith h₅ <;>
    refine ⟨r₅, _, ((((Reader.moved_of_readU8 h₁).trans (Reader.moved_of_readU8 h₂)).trans
      m₃).trans (Reader.moved_of_take (SpdmNonceStruct.read_eq_some h₄))).trans m₅, ?_⟩
  · obtain ⟨rfl, rfl⟩ := Prod.mk.inj (Option.some.inj h); rfl
  · obtain ⟨⟨_, r₆⟩, h₆, h⟩ := h
    obtain ⟨rfl, rfl⟩ := Prod.mk.inj (Option.some.inj h); exact h₆

theorem moved_of_spdmRead {ctx : SpdmContext cfg} {r r' : Reader}
    {P : SpdmMeasurementsResponsePayload} (h : spdmRead codecs ctx r = some (P, r')) :
    ∃ n, r.Moved r' n := by
  obtain ⟨r₅, n, hm, hsig⟩ := spdmRead_steps codecs h
  split at hsig
  · obtain ⟨k, hk⟩ := Reader.moved_of_readWith hsig
    exact ⟨_, hm.trans hk⟩
  · obtain ⟨-, rfl⟩ := Prod.mk.inj (Option.some.inj hsig)
    exact ⟨n, hm⟩

/-- When the context expects a signature it is the last field read: the signature decoder ran
at a cursor `rs` past the start, and the read stops where the decoder stopped. -/
theorem spdmRead_signature {ctx : SpdmContext cfg} {r r' : Reader}
    {P : SpdmMeasurementsResponsePayload} (hneed : ctx.runtimeInfo.needMeasurementSignature = true)
    (h : spdmRead codecs ctx r = some (P, r')) :
    ∃ (rs : Reader) (d : Decoded SpdmSignatureStruct rs.left), rs.buf = r.buf ∧
      r.used ≤ rs.used ∧ codecs.signature.read ctx rs.left = some d ∧
      d.value = P.signature ∧ r' = rs.advance d.consumed := by
  obtain ⟨r₅, n, hm, hsig⟩ := spdmRead_steps codecs h
  rw [if_pos hneed] at hsig
  obtain ⟨x, hx, hv, rfl⟩ := Reader.readWith_eq_some.mp hsig
  have hused := hm.used_eq
  exact ⟨r₅, x, hused.2, by omega, hx, hv, rfl⟩

/-- What reading the encoding of `p` in `ctx` gives back: `p`, except that one measurement
comes back as zero, the flags as `NOT_SUPPORTED` when Param2 did not carry them, and the
signature as the default when none was written. -/
def readBack (ctx : SpdmContext cfg) (p : SpdmMeasurementsResponsePayload) :
    SpdmMeasurementsResponsePayload :=
  { p with
    numberOfMeasurement := if p.numberOfMeasurement = 1 then 0 else p.numberOfMeasurement
    contentChanged := if ctx.negotiateInfo.spdmVersionSel = .spdmVersion12 ∧
        ctx.configInfo.runtimeContentChangeSupport then p.contentChanged
      else SpdmMeasurementContentChanged.notSupported
    signature := if ctx.runtimeInfo.needMeasurementSignature then p.signature
      else SpdmSignatureStruct.default }

theorem readBack_param2 (ctx : SpdmContext cfg) (p : SpdmMeasurementsResponsePayload)
    (hs : p.slotId < 16) (param2 : UInt8)
    (h2 : param2 = if ctx.negotiateInfo.spdmVersionSel = .spdmVersion12 ∧
        ctx.configInfo.runtimeContentChangeSupport then p.slotId ||| p.contentChanged.bits
      else p.slotId) :
    param2 &&& measurementResponderParam2SlotIdMask = p.slotId ∧
    SpdmMeasurementContentChanged.fromBits
        (param2 &&& measurementResponderParam2ContentChangedMask) =
      some (readBack ctx p).contentChanged := by
  obtain ⟨h₁, h₂, h₃, h₄⟩ := param2_masks hs p.contentChanged
  subst h2
  simp only [readBack]
  split
  · refine ⟨h₁, ?_⟩
    rw [h₂]; simp [SpdmMeasurementContentChanged.fromBits, p.contentChanged.bits_valid]
  · refine ⟨h₃, ?_⟩
    rw [h₄]; rfl

/-- The MEASUREMENTS payload codec reads back what it writes, in any context and for any slot id
below 16, when the field codecs read back what they write: reading the `n` encoded bytes consumes
exactly them and returns `readBack ctx p`. -/
theorem spdmRead_spdmEncode {ctx : SpdmContext cfg} {p : SpdmMeasurementsResponsePayload}
    (hslot : p.slotId < 16)
    (hrecord : codecs.measurementRecord.ReadsBack ctx p.measurementRecord)
    (hOpaque : codecs.opaqueData.ReadsBack ctx p.opaqueData)
    (hsignature : ctx.runtimeInfo.needMeasurementSignature = true →
      codecs.signature.ReadsBack ctx p.signature)
    {w w' : Writer} {n : Nat} (henc : spdmEncode codecs ctx p w = (.ok n, w')) :
    ∃ bytes, w'.written = w.written ++ bytes ∧ n = bytes.length ∧
      ∀ r rest, r.left = bytes ++ rest →
        spdmRead codecs ctx r = some (readBack ctx p, r.advance n) := by
  obtain ⟨rfl, hw, -⟩ := Writer.write_eq_ok henc
  refine ⟨_, hw, rfl, fun r rest hl => ?_⟩
  obtain ⟨hp₁, hp₂⟩ := readBack_param2 ctx p hslot _ rfl
  set param1 : UInt8 := if p.numberOfMeasurement = 1 then 0 else p.numberOfMeasurement
  set param2 : UInt8 := if ctx.negotiateInfo.spdmVersionSel = .spdmVersion12 ∧
        ctx.configInfo.runtimeContentChangeSupport then p.slotId ||| p.contentChanged.bits
      else p.slotId
  set recB := (codecs.measurementRecord.writes ctx p.measurementRecord).flatten
  set opqB := (codecs.opaqueData.writes ctx p.opaqueData).flatten
  set sigB := (if ctx.runtimeInfo.needMeasurementSignature then
    codecs.signature.writes ctx p.signature else []).flatten
  have h₁ : r.left = param1 :: param2 :: (recB ++ (p.nonce.data ++ (opqB ++ (sigB ++ rest)))) := by
    rw [hl]; simp [writes, SpdmNonceStruct.writes, recB, opqB, sigB, param1, param2]
  have h₂ : (r.advance 1).left =
      param2 :: (recB ++ (p.nonce.data ++ (opqB ++ (sigB ++ rest)))) := by
    simp [h₁]
  have h₃ : ((r.advance 1).advance 1).left =
      recB ++ (p.nonce.data ++ (opqB ++ (sigB ++ rest))) := by
    simp [h₂]
  have h₄ : (((r.advance 1).advance 1).advance recB.length).left =
      p.nonce.data ++ (opqB ++ (sigB ++ rest)) := by
    simp [h₃]
  have h₅ : ((((r.advance 1).advance 1).advance recB.length).advance spdmNonceSize).left =
      opqB ++ (sigB ++ rest) := by
    rw [Reader.advance_left, h₄, List.drop_left' p.nonce.length_data]
  have h₆ : (((((r.advance 1).advance 1).advance recB.length).advance spdmNonceSize).advance
      opqB.length).left = sigB ++ rest := by
    simp [h₅]
  simp only [spdmRead, Option.bind_eq_bind, Reader.readU8_of_left h₁, Reader.readU8_of_left h₂,
    Option.some_bind, hp₁, hp₂, Reader.readWith_of_readsBack hrecord h₃,
    SpdmNonceStruct.read_of_left h₄, Reader.readWith_of_readsBack hOpaque h₅]
  have hlen : (writes codecs ctx p).flatten.length =
      1 + 1 + recB.length + spdmNonceSize + opqB.length + sigB.length := by
    simp only [writes, List.flatten_append, List.length_append, SpdmNonceStruct.writes,
      p.nonce.length_data, recB, opqB, sigB]
    simp
    have := p.nonce.length_data
    omega
  by_cases hs : ctx.runtimeInfo.needMeasurementSignature
  · have h₇ : (((((r.advance 1).advance 1).advance recB.length).advance spdmNonceSize).advance
        opqB.length).left = (codecs.signature.writes ctx p.signature).flatten ++ rest := by
      simpa [sigB, hs] using h₆
    simp only [hs, if_true, Reader.readWith_of_readsBack (hsignature hs) h₇, Option.some_bind,
      Option.pure_def, Option.some.injEq, Prod.mk.injEq]
    refine ⟨by simp [readBack, hs, param1], ?_⟩
    simp only [Reader.advance_advance, hlen, sigB, hs, if_true, opqB]
  · simp only [hs, Bool.false_eq_true, if_false, Option.pure_def, Option.some.injEq,
      Prod.mk.injEq]
    refine ⟨by simp [readBack, hs, param1], ?_⟩
    simp only [Reader.advance_advance, hlen, sigB, hs, Bool.false_eq_true, if_false, opqB,
      List.flatten_nil, List.length_nil, Nat.add_zero]

/-- An SPDM 1.2 context with runtime content change support that expects 64-byte signatures. -/
def signingContext12 : SpdmContext smallConfig :=
  { SpdmContext.new ⟨true⟩ ⟨none⟩ 64 with
    negotiateInfo := ⟨.spdmVersion12, ⟨0⟩, ⟨0x10⟩⟩
    runtimeInfo := ⟨.empty 64, .empty 64, .empty 64, none, true, .notSupported⟩ }

/-- Two measurements from slot 5 that announce a change, with a two-byte record and a 64-byte
signature. -/
def changedPayload : SpdmMeasurementsResponsePayload :=
  ⟨2, .detectedChange, 5, ⟨1, 2, [7, 8]⟩, .default, ⟨0, []⟩, ⟨64, List.replicate 64 9⟩⟩

theorem spdmRead_spdmEncode_changedPayload :
    changedPayload.slotId < 16 ∧
    spdmFieldCodecs.measurementRecord.ReadsBack signingContext12 changedPayload.measurementRecord ∧
    spdmFieldCodecs.opaqueData.ReadsBack signingContext12 changedPayload.opaqueData ∧
    (signingContext12.runtimeInfo.needMeasurementSignature = true →
      spdmFieldCodecs.signature.ReadsBack signingContext12 changedPayload.signature) ∧
    spdmEncode spdmFieldCodecs signingContext12 changedPayload (Writer.init 256) =
      (.ok 106, (spdmEncode spdmFieldCodecs signingContext12 changedPayload (Writer.init 256)).2) ∧
    ∃ bytes, (spdmEncode spdmFieldCodecs signingContext12 changedPayload (Writer.init 256)).2.written =
        (Writer.init 256).written ++ bytes ∧ 106 = bytes.length ∧
      ∀ r rest, r.left = bytes ++ rest →
        spdmRead spdmFieldCodecs signingContext12 r =
          some (readBack signingContext12 changedPayload, r.advance 106) := by
  have hslot : changedPayload.slotId < 16 := by decide
  have hrecord : spdmFieldCodecs.measurementRecord.ReadsBack signingContext12
      changedPayload.measurementRecord := measurementRecordCodec_readsBack (by decide) rfl
  have hOpaque : spdmFieldCodecs.opaqueData.ReadsBack signingContext12 changedPayload.opaqueData :=
    opaqueCodec_readsBack (by decide) rfl
  have hsignature : signingContext12.runtimeInfo.needMeasurementSignature = true →
      spdmFieldCodecs.signature.ReadsBack signingContext12 changedPayload.signature :=
    fun _ => signatureCodec_readsBack rfl rfl
  have henc : spdmEncode spdmFieldCodecs signingContext12 changedPayload (Writer.init 256) =
      (.ok 106, (spdmEncode spdmFieldCodecs signingContext12 changedPayload (Writer.init 256)).2) :=
    rfl
  exact ⟨hslot, hrecord, hOpaque, hsignature, henc,
    spdmRead_spdmEncode spdmFieldCodecs hslot hrecord hOpaque hsignature henc⟩

/-- What `spdm_read` accepts is an encoding: re-encoding a decoded payload gives back the bytes
read, except that a Param1 of one is written as zero and Param2 keeps only the bits the context
writes. -/
theorem writes_of_spdmRead {ctx : SpdmContext cfg} {r r' : Reader}
    {P : SpdmMeasurementsResponsePayload}
    (hrecord : codecs.measurementRecord.WritesBack ctx)
    (hOpaque : codecs.opaqueData.WritesBack ctx)
    (hsignature : ctx.runtimeInfo.needMeasurementSignature = true →
      codecs.signature.WritesBack ctx)
    (h : spdmRead codecs ctx r = some (P, r')) :
    ∃ param1 param2 body, r.left = param1 :: param2 :: (body ++ r'.left) ∧
      (writes codecs ctx P).flatten = (if param1 = 1 then 0 else param1) ::
        (if ctx.negotiateInfo.spdmVersionSel = .spdmVersion12 ∧
            ctx.configInfo.runtimeContentChangeSupport then
          param2 &&& measurementResponderParam2SlotIdMask |||
            param2 &&& measurementResponderParam2ContentChangedMask
        else param2 &&& measurementResponderParam2SlotIdMask) :: body := by
  cases hn : ctx.runtimeInfo.needMeasurementSignature <;>
    simp only [spdmRead, hn, Option.bind_eq_bind, Option.bind_eq_some, if_true,
      Bool.false_eq_true, if_false, Option.some_bind, Option.pure_def] at h <;>
    obtain ⟨⟨p1, r₁⟩, h₁, ⟨p2, r₂⟩, h₂, cc, hcc, ⟨rec, r₃⟩, h₃, ⟨n, r₄⟩, h₄, ⟨o, r₅⟩, h₅,
      h⟩ := h
  all_goals
    have hl₁ := Reader.left_of_readU8 h₁
    have hl₂ := Reader.left_of_readU8 h₂
    have hl₃ := Reader.left_of_readWith_writesBack hrecord h₃
    have hl₄ := Reader.left_of_take (SpdmNonceStruct.read_eq_some h₄)
    have hl₅ := Reader.left_of_readWith_writesBack hOpaque h₅
    have hcc' := SpdmMeasurementContentChanged.bits_of_fromBits hcc
  · obtain ⟨rfl, rfl⟩ := Prod.mk.inj (Option.some.inj h)
    exact ⟨p1, p2, (codecs.measurementRecord.writes ctx rec).flatten ++ n.data ++
      (codecs.opaqueData.writes ctx o).flatten, by rw [hl₁, hl₂, hl₃, hl₄, hl₅]; simp,
      by simp [writes, hn, SpdmNonceStruct.writes, hcc']⟩
  · obtain ⟨⟨sig, r₆⟩, h₆, h⟩ := h
    obtain ⟨rfl, rfl⟩ := Prod.mk.inj (Option.some.inj h)
    have hl₆ := Reader.left_of_readWith_writesBack (hsignature hn) h₆
    exact ⟨p1, p2, (codecs.measurementRecord.writes ctx rec).flatten ++ n.data ++
      (codecs.opaqueData.writes ctx o).flatten ++ (codecs.signature.writes ctx sig).flatten,
      by rw [hl₁, hl₂, hl₃, hl₄, hl₅, hl₆]; simp,
      by simp [writes, hn, SpdmNonceStruct.writes, hcc']⟩

/-- A MEASUREMENTS payload for `signingContext12` that re-encodes differently: one measurement
in Param1, and slot 5 in a Param2 with both top bits set; an empty record, the zero nonce, no
opaque data and a 64-byte signature. -/
def oneMeasurementPayload : List UInt8 :=
  [1, 0xC5, 0, 0, 0, 0] ++ List.replicate 32 0 ++ [0, 0] ++ List.replicate 64 7

theorem writes_of_spdmRead_oneMeasurementPayload :
    spdmFieldCodecs.measurementRecord.WritesBack signingContext12 ∧
    spdmFieldCodecs.opaqueData.WritesBack signingContext12 ∧
    (signingContext12.runtimeInfo.needMeasurementSignature = true →
      spdmFieldCodecs.signature.WritesBack signingContext12) ∧
    ∃ P r', spdmRead spdmFieldCodecs signingContext12 (Reader.init oneMeasurementPayload) =
        some (P, r') ∧
      ∃ param1 param2 body,
        (Reader.init oneMeasurementPayload).left = param1 :: param2 :: (body ++ r'.left) ∧
        (writes spdmFieldCodecs signingContext12 P).flatten = (if param1 = 1 then 0 else param1) ::
          (if signingContext12.negotiateInfo.spdmVersionSel = .spdmVersion12 ∧
              signingContext12.configInfo.runtimeContentChangeSupport then
            param2 &&& measurementResponderParam2SlotIdMask |||
              param2 &&& measurementResponderParam2ContentChangedMask
          else param2 &&& measurementResponderParam2SlotIdMask) :: body := by
  have hrecord : spdmFieldCodecs.measurementRecord.WritesBack signingContext12 :=
    measurementRecordCodec_writesBack signingContext12
  have hOpaque : spdmFieldCodecs.opaqueData.WritesBack signingContext12 :=
    opaqueCodec_writesBack signingContext12
  have hsignature : signingContext12.runtimeInfo.needMeasurementSignature = true →
      spdmFieldCodecs.signature.WritesBack signingContext12 :=
    fun _ => signatureCodec_writesBack signingContext12
  obtain ⟨P, r', h⟩ : ∃ P r', spdmRead spdmFieldCodecs signingContext12
      (Reader.init oneMeasurementPayload) = some (P, r') := ⟨_, _, rfl⟩
  exact ⟨hrecord, hOpaque, hsignature, P, r', h,
    writes_of_spdmRead spdmFieldCodecs hrecord hOpaque hsignature h⟩

end SpdmMeasurementsResponsePayload

end Spdm
