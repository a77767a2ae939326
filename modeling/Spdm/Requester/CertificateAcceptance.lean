import Spdm.Requester.CertificateFetch

/-!
# The chains the pinned-chain check accepts

`Spdm.Requester.GetCertificate` reads off what an `Ok` of the check after the loop means when a
chain is pinned (`PinnedChainAccepted`). This module proves the converse for a pinned chain
stored zero-padded, as provisioning copies it: the check accepts every assembled chain
`PinnedChainAccepted` describes, reading nothing of the buffer past `data_size`. With
`Spdm.Requester.CertificateFetch` this closes the loop of the flow: a responder that serves a
chain the pinned chain matches gets `send_receive_spdm_certificate` to return `Ok`.

Against any responder, the flow panics only through the provider: the loop's bounds checks
keep `data_size` within the chain buffer, and the check then panics only where
`get_cert_from_cert_chain` bounds the root certificate outside the chain or `hash_all` returns
nothing.
-/

namespace Spdm

variable {cfg : Config}

/-- The buffer of `size` bytes holding `chain`: the chain zero-padded, and its length as
`data_size`. -/
def SpdmCertChainData.ofChain (size : Nat) (chain : List UInt8) : SpdmCertChainData size :=
  ⟨UInt16.ofNat chain.length, (chain ++ List.replicate size 0).take size, by simp⟩

/-- The chain buffer holds its `data_size` bytes followed by zeros to its end, as a copy into a
zeroed buffer leaves it. -/
def SpdmCertChainData.ZeroPadded {size : Nat} (c : SpdmCertChainData size) : Prop :=
  c.dataSize.toNat ≤ size ∧
    c.data = c.data.take c.dataSize.toNat ++ List.replicate (size - c.dataSize.toNat) 0

instance SpdmCertChainData.instDecidableZeroPadded {size : Nat} (c : SpdmCertChainData size) :
    Decidable c.ZeroPadded :=
  inferInstanceAs (Decidable (_ ∧ _))

variable (crypto : SpdmCrypto)

theorem PinnedChainAccepted.of_prefix {hashAlgo : SpdmBaseHashAlgo}
    {P c c' : SpdmCertChainData cfg.maxSpdmCertChainDataSize} (hsize : c'.dataSize = c.dataSize)
    (hfront : c'.data.take c.dataSize.toNat = c.data.take c.dataSize.toNat)
    (h : PinnedChainAccepted crypto hashAlgo P c) : PinnedChainAccepted crypto hashAlgo P c' := by
  obtain ⟨hlt, der, hder, hrest⟩ := h
  have hn : c.dataSize.toNat ≤ c.data.length := (slice_eq_ok.mp hder).2.1
  have hn' : c.dataSize.toNat ≤ c'.data.length := by
    have := c.length_data; have := c'.length_data; omega
  have hslice : ∀ lo hi, hi ≤ c.dataSize.toNat → slice c'.data lo hi = slice c.data lo hi :=
    fun lo hi hhi => by
      rw [← slice_take_of_le hn' hhi, hfront, slice_take_of_le hn hhi]
  refine ⟨hsize ▸ hlt, der, by rw [hsize, hslice _ _ le_rfl, hder], ?_⟩
  obtain ⟨hderP, hverify, b, e, rootCert, rootHash, hcert, hroot, hhash, hheader⟩ := hrest
  exact ⟨hderP, hverify, b, e, rootCert, rootHash, hcert, hroot, hhash,
    by rw [hslice _ _ hlt.le, hheader]⟩

theorem verifyAssembledCertChain_accepts {ctx : SpdmContext cfg}
    {P : SpdmCertChainData cfg.maxSpdmCertChainDataSize}
    (hP : ctx.provisionInfo.peerCertChainData = some P)
    (hacc : PinnedChainAccepted crypto ctx.negotiateInfo.baseHashSel P ctx.peerInfo.certChain)
    (hpad : P.ZeroPadded) :
    verifyAssembledCertChain crypto ctx = .ok () := by
  obtain ⟨hlt, der, hder, rfl, hverify, b, e, rootCert, rootHash, hcert, hroot, hhash,
    hheader⟩ := hacc
  obtain ⟨hsize, hdata⟩ := hpad
  obtain ⟨-, hend, hderEq⟩ := slice_eq_ok.mp hder
  have hdataLen := ctx.peerInfo.certChain.length_data
  have hPlen := P.length_data
  have hderLen : (P.data.take P.dataSize.toNat).length = P.dataSize.toNat := by simp; omega
  obtain ⟨header, hheaderSum, hheaderVal⟩ :=
    u16Add_of_lt (a := 4) (b := ctx.negotiateInfo.baseHashSel.getSize) (by
      have : ctx.peerInfo.certChain.dataSize.toNat < 65536 :=
        ctx.peerInfo.certChain.dataSize.toNat_lt_size
      show 4 + _ < 65536
      omega)
  change header.toNat = 4 + _ at hheaderVal
  obtain ⟨sub4, hsub4, hsub4Val⟩ := u16Sub_of_le (a := ctx.peerInfo.certChain.dataSize) (b := 4)
    (show 4 ≤ _ by omega)
  change sub4.toNat = _ - 4 at hsub4Val
  obtain ⟨dataSize, hsub, hsubVal⟩ := u16Sub_of_le (a := sub4)
    (b := ctx.negotiateInfo.baseHashSel.getSize) (by omega)
  have hds : dataSize.toNat = P.dataSize.toNat := by
    have := congrArg List.length hderEq
    simp only [List.length_take, List.length_drop, hderLen] at this
    omega
  obtain rfl : dataSize = P.dataSize := UInt16.toNat.inj hds
  have hfits : ¬ctx.peerInfo.certChain.dataSize ≤ header := fun h => by
    have : ctx.peerInfo.certChain.dataSize.toNat ≤ header.toNat := h
    omega
  have hcopy : copyFromSlice (List.replicate cfg.maxSpdmCertChainDataSize 0) 0
      P.dataSize.toNat (P.data.take P.dataSize.toNat) = .ok P.data := by
    refine copyFromSlice_eq_ok.mpr ⟨Nat.zero_le _, by simpa using hsize, by omega, ?_⟩
    simp only [List.take_zero, List.nil_append, List.drop_replicate]
    exact hdata
  have hroot' : slice P.data b e = .ok rootCert := by
    rw [hderLen, ← hdata] at hroot
    exact hroot
  unfold verifyAssembledCertChain
  simp only [hP, bind, Except.bind, hheaderSum, failIf, hfits, if_false, hsub4, hsub, hder, hcopy,
    slice_zero (show P.dataSize.toNat ≤ P.data.length by omega), Except.mapError, hcert, hroot',
    hhash, Option.elim, pure, Except.pure, hheader, ne_eq, not_true_eq_false, hverify]

/-- The converse of `verifyAssembledCertChain_eq_ok`: with a pinned chain stored zero-padded,
the check accepts every chain `PinnedChainAccepted` describes. -/
theorem verifyAssembledCertChain_of_accepted {ctx : SpdmContext cfg}
    {P : SpdmCertChainData cfg.maxSpdmCertChainDataSize}
    (hP : ctx.provisionInfo.peerCertChainData = some P)
    (hacc : PinnedChainAccepted crypto ctx.negotiateInfo.baseHashSel P ctx.peerInfo.certChain)
    (hpad : P.ZeroPadded) :
    verifyAssembledCertChain crypto ctx = .ok () :=
  verifyAssembledCertChain_accepts crypto hP hacc hpad

theorem verifyAssembledCertChain_accepts_pinnedEnd :
    pinnedEnd.common.provisionInfo.peerCertChainData = some pinnedChain ∧
      PinnedChainAccepted acceptingCrypto pinnedEnd.common.negotiateInfo.baseHashSel pinnedChain
        pinnedEnd.common.peerInfo.certChain ∧ pinnedChain.ZeroPadded ∧
      verifyAssembledCertChain acceptingCrypto pinnedEnd.common = .ok () :=
  have hacc : PinnedChainAccepted acceptingCrypto pinnedEnd.common.negotiateInfo.baseHashSel
      pinnedChain pinnedEnd.common.peerInfo.certChain :=
    ⟨by decide, [0x30], rfl, rfl, rfl, 0, 1, [0x30], ⟨[]⟩, rfl, rfl, rfl, rfl⟩
  ⟨rfl, hacc, by decide,
    verifyAssembledCertChain_of_accepted acceptingCrypto rfl hacc (by decide)⟩

section Served

variable {chain : List UInt8} (slotId : UInt8)
  (hmax : cfg.maxSpdmCertChainDataSize + cfg.maxSpdmCertPortionLen ≤ 65535)
  (hpos : 0 < cfg.maxSpdmCertPortionLen) (htransport : 8 ≤ cfg.maxSpdmTransportSize)
  (hchain : chain.length ≤ cfg.maxSpdmCertChainDataSize)
include hmax hpos htransport hchain

/-- Against a responder that serves `chain`, with a pinned chain stored zero-padded that the
chain matches, and room and fuel for the rounds, the flow returns `Ok` with the whole chain
assembled. -/
theorem sendReceiveSpdmCertificate_accepts_served_chain (common : SpdmContext cfg) (fuel : Nat)
    {P : SpdmCertChainData cfg.maxSpdmCertChainDataSize}
    (hP : common.provisionInfo.peerCertChainData = some P) (hpad : P.ZeroPadded)
    (hmatch : PinnedChainAccepted crypto common.negotiateInfo.baseHashSel P
      (SpdmCertChainData.ofChain cfg.maxSpdmCertChainDataSize chain))
    (hroom : common.runtimeInfo.messageB.data.length + 16 * certificateRounds cfg chain.length +
      chain.length ≤ common.runtimeInfo.messageB.capacity)
    (hfuel : certificateRounds cfg chain.length ≤ fuel) :
    ∃ s', sendReceiveSpdmCertificate crypto (SpdmDeviceIo.certificateResponder chain) fuel slotId
        ⟨common, none⟩ = some (.ok (), s') ∧
      s'.common.peerInfo.certChain.dataSize.toNat = chain.length ∧
      s'.common.peerInfo.certChain.data.take chain.length = chain := by
  obtain ⟨offset, s', hrun, hc⟩ :=
    certificateLoop_fetches_chain slotId hmax hpos htransport hchain common fuel hroom hfuel
  obtain ⟨hoff, hsize⟩ := hc.done rfl
  have hframe := certificateLoop_keeps_frame (SpdmDeviceIo.certificateResponder chain) slotId
    fuel 0 (maxPortionU16 cfg) ⟨common, none⟩
  rw [hrun] at hframe
  have hprov := congrArg SpdmContext.provisionInfo hframe.rest_eq
  have hneg := congrArg SpdmContext.negotiateInfo hframe.rest_eq
  dsimp only [CertificateLoop.state, SpdmContext.withCertificateState] at hprov hneg
  have htake : s'.common.peerInfo.certChain.data.take chain.length = chain := by
    rw [← hoff, hc.data_prefix, hoff, List.take_length]
  have hlen : (UInt16.ofNat chain.length).toNat = chain.length := by
    rw [UInt16.toNat_ofNat']; omega
  have hacc : PinnedChainAccepted crypto s'.common.negotiateInfo.baseHashSel P
      s'.common.peerInfo.certChain := by
    rw [hneg]
    refine PinnedChainAccepted.of_prefix crypto ?_ ?_ hmatch
    · rw [hsize, ← UInt16.ofNat_toNat offset, hoff]; rfl
    · dsimp only [SpdmCertChainData.ofChain]
      rw [hlen, htake, List.take_take, Nat.min_eq_left hchain, List.take_left' rfl]
  refine ⟨s', ?_, by rw [hsize, hoff], htake⟩
  rw [sendReceiveSpdmCertificate, hrun]
  dsimp only
  rw [verifyAssembledCertChain_accepts crypto (by rw [hprov]; exact hP) hacc hpad]

end Served

section Safety

variable {σ : Type}

/-- The pinned-chain check panics only through the provider: with a `data_size` within the
chain buffer, a `get_cert_from_cert_chain` that bounds the root certificate within a non-empty
chain and a `hash_all` that returns a digest, it ends with `Ok` or a status. -/
theorem verifyAssembledCertChain_ne_panic {ctx : SpdmContext cfg}
    (hcert : ∀ der b e, 0 < der.length → crypto.getCertFromCertChain der 0 = .ok (b, e) →
      b ≤ e ∧ e ≤ der.length)
    (hhash : ∀ a x, crypto.hashAll a x ≠ none)
    (hds : ctx.peerInfo.certChain.dataSize.toNat ≤ cfg.maxSpdmCertChainDataSize) :
    verifyAssembledCertChain crypto ctx ≠ .error .panic := by
  have hlen := ctx.peerInfo.certChain.length_data
  have hH := ctx.negotiateInfo.baseHashSel.getSize_le
  unfold verifyAssembledCertChain
  split
  · simp
  obtain ⟨header, hheader, hheaderVal⟩ := u16Add_of_lt (a := 4)
    (b := ctx.negotiateInfo.baseHashSel.getSize) (by show 4 + _ < 65536; omega)
  change header.toNat = 4 + _ at hheaderVal
  by_cases hfits : ctx.peerInfo.certChain.dataSize ≤ header
  · simp [hheader, bind, Except.bind, failIf, hfits]
  have hfits' : 4 + ctx.negotiateInfo.baseHashSel.getSize.toNat <
      ctx.peerInfo.certChain.dataSize.toNat := by
    have : ¬ctx.peerInfo.certChain.dataSize.toNat ≤ header.toNat := hfits
    omega
  obtain ⟨sub4, hsub4, hsub4Val⟩ := u16Sub_of_le (a := ctx.peerInfo.certChain.dataSize) (b := 4)
    (show 4 ≤ _ by omega)
  change sub4.toNat = _ - 4 at hsub4Val
  obtain ⟨dataSize, hsub, hdsVal⟩ := u16Sub_of_le (a := sub4)
    (b := ctx.negotiateInfo.baseHashSel.getSize) (by omega)
  simp only [hheader, bind, Except.bind, failIf, hfits, if_false, hsub4, hsub,
    slice_of_le (show 4 + ctx.negotiateInfo.baseHashSel.getSize.toNat ≤
      ctx.peerInfo.certChain.dataSize.toNat by omega)
      (show ctx.peerInfo.certChain.dataSize.toNat ≤ ctx.peerInfo.certChain.data.length by omega)]
  have hderLen : (List.take (ctx.peerInfo.certChain.dataSize.toNat -
      (4 + ctx.negotiateInfo.baseHashSel.getSize.toNat)) (List.drop (4 +
        ctx.negotiateInfo.baseHashSel.getSize.toNat) ctx.peerInfo.certChain.data)).length =
      dataSize.toNat := by
    simp only [List.length_take, List.length_drop]
    omega
  generalize List.take _ (List.drop _ ctx.peerInfo.certChain.data) = der at hderLen ⊢
  rw [(copyFromSlice_eq_ok.mpr ⟨Nat.zero_le _, by simp only [List.length_replicate]; omega,
    by omega, rfl⟩ : copyFromSlice _ 0 dataSize.toNat der = .ok _)]
  have hdataLen : (List.take 0 (List.replicate cfg.maxSpdmCertChainDataSize (0 : UInt8)) ++ der ++
      List.drop dataSize.toNat (List.replicate cfg.maxSpdmCertChainDataSize 0)).length =
      cfg.maxSpdmCertChainDataSize := by
    simp only [List.take_zero, List.nil_append, List.length_append, List.length_drop,
      List.length_replicate, hderLen]
    omega
  generalize List.take 0 _ ++ der ++ _ = data at hdataLen ⊢
  dsimp only
  rw [slice_zero (by omega)]
  dsimp only
  rcases hc : crypto.getCertFromCertChain _ 0 with st | ⟨b, e⟩
  · simp [Except.mapError]
  obtain ⟨hbe, he⟩ := hcert _ b e (by rw [List.length_take]; omega) hc
  rw [List.length_take] at he
  simp only [Except.mapError]
  rw [slice_of_le hbe (by omega)]
  dsimp only
  obtain ⟨digest, hdig⟩ := Option.ne_none_iff_exists'.mp (hhash _ _)
  rw [hdig]
  dsimp only [Option.elim, pure, Except.pure]
  rw [slice_of_le (by omega) (by omega)]
  dsimp only
  split_ifs <;> try simp
  cases crypto.verifyCertChain _ <;> simp [throw, throwThe, MonadExceptOf.throw, pure, Except.pure]

/-- Against any responder, `send_receive_spdm_certificate` panics only through the provider: with a
`get_cert_from_cert_chain` that bounds the root certificate and a `hash_all` that returns a digest,
it ends with `Ok` or a status. -/
theorem sendReceiveSpdmCertificate_ne_panic
    (hmax : cfg.maxSpdmCertChainDataSize + cfg.maxSpdmCertPortionLen ≤ 65535)
    (hpos : 0 < cfg.maxSpdmCertPortionLen)
    (hcert : ∀ der b e, 0 < der.length → crypto.getCertFromCertChain der 0 = .ok (b, e) →
      b ≤ e ∧ e ≤ der.length)
    (hhash : ∀ a x, crypto.hashAll a x ≠ none) (io : SpdmDeviceIo σ) (fuel : Nat)
    (slotId : UInt8) (s : RequesterContext cfg σ)
    {r : Except Fault Unit × RequesterContext cfg σ}
    (h : sendReceiveSpdmCertificate crypto io fuel slotId s = some r) : r.1 ≠ .error .panic := by
  have hinv := certificateLoop_invariant io slotId
    (fun _ length s => length ≠ 0 ∨
      s.common.peerInfo.certChain.dataSize.toNat ≤ cfg.maxSpdmCertChainDataSize)
    (fun _ _ _ _ _ _ _ _ hr _ _ => .inr (by rw [hr.dataSize_eq]; exact hr.chainEnd_le))
    fuel 0 _ s (.inl (maxPortionU16_ne_zero hmax hpos))
  unfold sendReceiveSpdmCertificate at h
  split at h
  · cases h
  · next e s' heq =>
    obtain rfl := Option.some.inj h
    exact fun he => certificateLoop_failed_ne_panic io slotId hmax fuel 0 _ s e s'
      (Nat.zero_le _) heq (Except.error.inj he)
  · next o s' heq =>
    obtain rfl := Option.some.inj h
    exact verifyAssembledCertChain_ne_panic crypto hcert hhash
      ((hinv.2 o s' heq).resolve_left fun h0 => h0 rfl)

theorem sendReceiveSpdmCertificate_ne_panic_pinnedStart :
    smallConfig.maxSpdmCertChainDataSize + smallConfig.maxSpdmCertPortionLen ≤ 65535 ∧
      0 < smallConfig.maxSpdmCertPortionLen ∧
      (∀ der b e, 0 < der.length → acceptingCrypto.getCertFromCertChain der 0 = .ok (b, e) →
        b ≤ e ∧ e ≤ der.length) ∧
      (∀ a x, acceptingCrypto.hashAll a x ≠ none) ∧
      sendReceiveSpdmCertificate acceptingCrypto SpdmDeviceIo.scripted 2 0 pinnedStart =
        some (.ok (), pinnedEnd) ∧
      (Except.ok () : Except Fault Unit) ≠ .error .panic := by
  have hmax : smallConfig.maxSpdmCertChainDataSize + smallConfig.maxSpdmCertPortionLen ≤ 65535 :=
    by decide
  have hpos : 0 < smallConfig.maxSpdmCertPortionLen := by decide
  have hcert : ∀ der b e, 0 < der.length →
      acceptingCrypto.getCertFromCertChain der 0 = .ok (b, e) → b ≤ e ∧ e ≤ der.length := by
    intro der b e hlen h
    obtain ⟨rfl, rfl⟩ := Prod.mk.inj (Except.ok.inj h).symm
    exact ⟨Nat.zero_le 1, hlen⟩
  have hhash : ∀ a x, acceptingCrypto.hashAll a x ≠ none := fun _ _ => Option.some_ne_none _
  have hrun : sendReceiveSpdmCertificate acceptingCrypto SpdmDeviceIo.scripted 2 0 pinnedStart =
      some (.ok (), pinnedEnd) := rfl
  exact ⟨hmax, hpos, hcert, hhash, hrun, sendReceiveSpdmCertificate_ne_panic acceptingCrypto
    hmax hpos hcert hhash SpdmDeviceIo.scripted 2 0 pinnedStart hrun⟩

end Safety

theorem sendReceiveSpdmCertificate_accepts_served_pinnedChain :
    smallConfig.maxSpdmCertChainDataSize + smallConfig.maxSpdmCertPortionLen ≤ 65535 ∧
      0 < smallConfig.maxSpdmCertPortionLen ∧ 8 ≤ smallConfig.maxSpdmTransportSize ∧
      [5, 0, 0, 0, 0x30].length ≤ smallConfig.maxSpdmCertChainDataSize ∧
      pinnedStart.common.provisionInfo.peerCertChainData = some pinnedChain ∧
      pinnedChain.ZeroPadded ∧
      PinnedChainAccepted acceptingCrypto pinnedStart.common.negotiateInfo.baseHashSel
        pinnedChain (SpdmCertChainData.ofChain smallConfig.maxSpdmCertChainDataSize
          [5, 0, 0, 0, 0x30]) ∧
      ∃ s', sendReceiveSpdmCertificate acceptingCrypto
          (SpdmDeviceIo.certificateResponder [5, 0, 0, 0, 0x30]) 2 0
          ⟨pinnedStart.common, none⟩ = some (.ok (), s') ∧
        s'.common.peerInfo.certChain.dataSize.toNat = 5 ∧
        s'.common.peerInfo.certChain.data.take 5 = [5, 0, 0, 0, 0x30] :=
  have hmatch : PinnedChainAccepted acceptingCrypto pinnedStart.common.negotiateInfo.baseHashSel
      pinnedChain (SpdmCertChainData.ofChain smallConfig.maxSpdmCertChainDataSize
        [5, 0, 0, 0, 0x30]) :=
    ⟨by decide, [0x30], rfl, rfl, rfl, 0, 1, [0x30], ⟨[]⟩, rfl, rfl, rfl, rfl⟩
  ⟨by decide, by decide, by decide, by decide, rfl, by decide, hmatch,
    sendReceiveSpdmCertificate_accepts_served_chain acceptingCrypto 0 (by decide) (by decide)
      (by decide) (by decide) pinnedStart.common 2 rfl (by decide) hmatch (by decide)
      (by decide)⟩

end Spdm
