import Spdm.Context

/-!
# Field codecs of the MEASUREMENTS response

`measurement.rs` reads and writes the measurement record, the opaque data and the signature
through codecs of `crate::protocol`, which the fragment does not contain. `SpdmCodec` is such
a codec by what its encoder writes and by its decoder; the payload codec takes them as
parameters, and its round trip assumes of each only `ReadsBack`: the decoder returns what the
encoder wrote and consumes exactly those bytes.

The three codecs below are modelled from the spec's layouts (a record of a block count, a
`u24` length and the blocks; opaque data of a `u16` size and the bytes, up to
`MAX_SPDM_OPAQUE_SIZE`; a signature of the negotiated algorithm's size) and satisfy
`ReadsBack` on every well-sized value. They make the payload codec and the requester flows
runnable on concrete messages.
-/

namespace Spdm

/-- An `SpdmCodec` implementation the fragment calls but does not define: what its
`spdm_encode` writes, and its `spdm_read`, both in a context. -/
structure SpdmCodec (cfg : Config) (α : Type) where
  writes : SpdmContext cfg → α → Writes
  read : SpdmContext cfg → FieldDecoder α

/-- The codec reads back `x` in `ctx`: from the bytes it writes for `x`, followed by
anything, it reads `x` and consumes exactly those bytes. -/
def SpdmCodec.ReadsBack {cfg : Config} {α : Type} (c : SpdmCodec cfg α) (ctx : SpdmContext cfg)
    (x : α) : Prop :=
  ∀ rest, ∃ d, c.read ctx ((c.writes ctx x).flatten ++ rest) = some d ∧ d.value = x ∧
    d.consumed = (c.writes ctx x).flatten.length

/-- The codec writes back what it reads in `ctx`: re-encoding a decoded value gives exactly
the bytes its decoder consumed. -/
def SpdmCodec.WritesBack {cfg : Config} {α : Type} (c : SpdmCodec cfg α)
    (ctx : SpdmContext cfg) : Prop :=
  ∀ left (d : Decoded α left), c.read ctx left = some d →
    (c.writes ctx d.value).flatten = left.take d.consumed

theorem Reader.readWith_of_readsBack {cfg : Config} {α : Type} {c : SpdmCodec cfg α}
    {ctx : SpdmContext cfg} {x : α} (hc : c.ReadsBack ctx x) {r : Reader} {rest : List UInt8}
    (h : r.left = (c.writes ctx x).flatten ++ rest) :
    r.readWith (c.read ctx) = some (x, r.advance (c.writes ctx x).flatten.length) := by
  obtain ⟨d, hd, hv, hn⟩ := hc rest
  unfold Reader.readWith
  generalize r.left = left at h ⊢
  subst h
  rw [hd, Option.map_some', hv, hn]

theorem Reader.left_of_readWith_writesBack {cfg : Config} {α : Type} {c : SpdmCodec cfg α}
    {ctx : SpdmContext cfg} (hc : c.WritesBack ctx) {r r' : Reader} {x : α}
    (h : r.readWith (c.read ctx) = some (x, r')) :
    r.left = (c.writes ctx x).flatten ++ r'.left := by
  obtain ⟨d, hd, rfl, rfl⟩ := Reader.readWith_eq_some.mp h
  rw [hc _ d hd, Reader.advance_left, List.take_append_drop]

/-- The codecs of the response fields that `measurement.rs` reads but does not define. -/
structure SpdmFieldCodecs (cfg : Config) where
  measurementRecord : SpdmCodec cfg SpdmMeasurementRecordStructure
  /-- `SpdmOpaqueStruct`'s codec; `opaque` is a Lean keyword. -/
  opaqueData : SpdmCodec cfg SpdmOpaqueStruct
  signature : SpdmCodec cfg SpdmSignatureStruct


variable {cfg : Config}

/-- The three little-endian bytes of a `u24`. -/
def u24Bytes (v : UInt32) : List UInt8 :=
  [UInt8.ofNat v.toNat, UInt8.ofNat (v.toNat / 256), UInt8.ofNat (v.toNat / 65536)]

/-- Modelled from the spec: the codec of `SpdmMeasurementRecordStructure`, absent from the
fragment: the number of blocks, the record length as a `u24`, and that many bytes. -/
def measurementRecordCodec : SpdmCodec cfg SpdmMeasurementRecordStructure where
  writes _ m := [[m.numberOfBlocks], u24Bytes m.measurementRecordLength, m.measurementRecordData]
  read _ left :=
    match left with
    | b :: l₀ :: l₁ :: l₂ :: rest =>
      let n := l₀.toNat + 256 * l₁.toNat + 65536 * l₂.toNat
      if h : n ≤ rest.length then
        some ⟨⟨b, UInt32.ofNat n, rest.take n⟩, 4 + n, by simp only [List.length_cons]; omega⟩
      else none
    | _ => none

/-- Modelled from the spec: the codec of `SpdmOpaqueStruct`, absent from the fragment: a
`u16` size, at most `MAX_SPDM_OPAQUE_SIZE`, and that many bytes. -/
def opaqueCodec : SpdmCodec cfg SpdmOpaqueStruct where
  writes _ o := [u16Bytes o.dataSize, o.data]
  read _ left :=
    match left with
    | b₀ :: b₁ :: rest =>
      let n := b₀.toNat + 256 * b₁.toNat
      if h : n ≤ cfg.maxSpdmOpaqueSize ∧ n ≤ rest.length then
        some ⟨⟨UInt16.ofNat n, rest.take n⟩, 2 + n, by simp only [List.length_cons]; omega⟩
      else none
    | _ => none

/-- Modelled from the spec: the codec of `SpdmSignatureStruct`, absent from the fragment: as
many bytes as the negotiated asymmetric algorithm's signatures have. -/
def signatureCodec : SpdmCodec cfg SpdmSignatureStruct where
  writes _ s := [s.data]
  read ctx left :=
    let k := ctx.negotiateInfo.baseAsymSel.getSize
    if h : k.toNat ≤ left.length then some ⟨⟨k, left.take k.toNat⟩, k.toNat, h⟩ else none

/-- The field codecs as the spec describes them. -/
def spdmFieldCodecs : SpdmFieldCodecs cfg := ⟨measurementRecordCodec, opaqueCodec, signatureCodec⟩

theorem measurementRecordCodec_readsBack {ctx : SpdmContext cfg}
    {m : SpdmMeasurementRecordStructure} (hlt : m.measurementRecordLength.toNat < 2 ^ 24)
    (hlen : m.measurementRecordData.length = m.measurementRecordLength.toNat) :
    (@measurementRecordCodec cfg).ReadsBack ctx m := by
  intro rest
  have hn : (UInt8.ofNat m.measurementRecordLength.toNat).toNat +
      256 * (UInt8.ofNat (m.measurementRecordLength.toNat / 256)).toNat +
      65536 * (UInt8.ofNat (m.measurementRecordLength.toNat / 65536)).toNat =
      m.measurementRecordLength.toNat := by
    simp only [UInt8.toNat_ofNat']
    omega
  simp only [measurementRecordCodec, u24Bytes, List.flatten, List.cons_append, List.nil_append,
    List.append_nil, hn]
  rw [dif_pos (by simp [hlen])]
  exact ⟨_, rfl, by simp [List.take_left' hlen, UInt32.ofNat_toNat], by simp [hlen]; omega⟩

theorem opaqueCodec_readsBack {ctx : SpdmContext cfg} {o : SpdmOpaqueStruct}
    (hmax : o.dataSize.toNat ≤ cfg.maxSpdmOpaqueSize) (hlen : o.data.length = o.dataSize.toNat) :
    (@opaqueCodec cfg).ReadsBack ctx o := by
  intro rest
  have hn : (UInt8.ofNat o.dataSize.toNat).toNat +
      256 * (UInt8.ofNat (o.dataSize.toNat / 256)).toNat = o.dataSize.toNat := by
    have : o.dataSize.toNat < 65536 := o.dataSize.toNat_lt_size
    simp only [UInt8.toNat_ofNat']
    omega
  simp only [opaqueCodec, u16Bytes, List.flatten, List.cons_append, List.nil_append,
    List.append_nil, hn]
  rw [dif_pos ⟨hmax, by simp [hlen]⟩]
  exact ⟨_, rfl, by simp [List.take_left' hlen, UInt16.ofNat_toNat], by simp [hlen]; omega⟩

theorem signatureCodec_readsBack {ctx : SpdmContext cfg} {s : SpdmSignatureStruct}
    (hsize : s.dataSize = ctx.negotiateInfo.baseAsymSel.getSize)
    (hlen : s.data.length = s.dataSize.toNat) :
    (@signatureCodec cfg).ReadsBack ctx s := by
  intro rest
  simp [signatureCodec, ← hsize, hlen]

theorem signatureCodec_consumed {ctx : SpdmContext cfg} {left : List UInt8}
    {d : Decoded SpdmSignatureStruct left} (h : (@signatureCodec cfg).read ctx left = some d) :
    d.consumed = ctx.negotiateInfo.baseAsymSel.getSize.toNat := by
  simp only [signatureCodec] at h
  split at h
  · cases h; rfl
  · cases h

theorem measurementRecordCodec_writesBack (ctx : SpdmContext cfg) :
    (@measurementRecordCodec cfg).WritesBack ctx := by
  intro left d h
  simp only [measurementRecordCodec] at h
  split at h
  · next b l₀ l₁ l₂ rest =>
    split at h
    · obtain rfl := Option.some.inj h
      have h₀ : l₀.toNat < 256 := l₀.toNat_lt_size
      have h₁ : l₁.toNat < 256 := l₁.toNat_lt_size
      have h₂ : l₂.toNat < 256 := l₂.toNat_lt_size
      simp only [u24Bytes, UInt32.toNat_ofNat', List.flatten, List.cons_append, List.nil_append,
        List.append_nil, Nat.add_comm 4, List.take_succ_cons, List.cons.injEq, true_and, and_true]
      refine ⟨UInt8.toNat.inj ?_, UInt8.toNat.inj ?_, UInt8.toNat.inj ?_⟩ <;>
        simp only [UInt8.toNat_ofNat'] <;> omega
    · cases h
  · cases h

theorem opaqueCodec_writesBack (ctx : SpdmContext cfg) : (@opaqueCodec cfg).WritesBack ctx := by
  intro left d h
  simp only [opaqueCodec] at h
  split at h
  · next b₀ b₁ rest =>
    split at h
    · obtain rfl := Option.some.inj h
      have h₀ : b₀.toNat < 256 := b₀.toNat_lt_size
      have h₁ : b₁.toNat < 256 := b₁.toNat_lt_size
      simp only [u16Bytes, UInt16.toNat_ofNat', List.flatten, List.cons_append, List.nil_append,
        List.append_nil, Nat.add_comm 2, List.take_succ_cons, List.cons.injEq, and_true]
      refine ⟨UInt8.toNat.inj ?_, UInt8.toNat.inj ?_⟩ <;>
        simp only [UInt8.toNat_ofNat'] <;> omega
    · cases h
  · cases h

theorem signatureCodec_writesBack (ctx : SpdmContext cfg) :
    (@signatureCodec cfg).WritesBack ctx := by
  intro left d h
  simp only [signatureCodec] at h
  split at h
  · obtain rfl := Option.some.inj h
    simp [signatureCodec]
  · cases h

end Spdm
