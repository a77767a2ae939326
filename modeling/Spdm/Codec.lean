import Mathlib

/-!
# Byte readers and writers of the `codec` crate

Every SPDM message is read through a `Reader`, a byte buffer with a cursor, and written through
a `Writer`, a buffer of fixed capacity filled from the front. A read fails with `None` when too
few bytes are left; a write appends all the bytes of one call or, when they do not fit, none.

An encoder is modelled by what it writes: `Writes` lists the byte strings of its calls, and
`Writer.write` performs them, stopping with `BufferFull` at the first that does not fit, as the
Rust `?` does. A decoder the fragment calls but does not define is a `FieldDecoder`: it sees
only the bytes at the cursor, so a reader never changes its buffer and never moves back.

`SpdmStatus` and `Fault` are the ways the modelled functions end other than `Ok`; `slice`
panics, as Rust does, unless its range lies inside the buffer.
-/

namespace Spdm

/-- The `SpdmStatus` codes the modelled functions return. The last four are the
`spdm_result_err!` codes of `get_certificate_req.rs`. -/
inductive SpdmStatus where
  | bufferFull | invalidMsgField | invalidParameter | invalidStateLocal
  | cryptoError | verifFail | errorPeer
  | enomem | eio | einval | efault
  deriving DecidableEq, Repr

/-- How a call that does not return `Ok` ends: with an `Err` status, or with a panic (a
slice out of range, an arithmetic overflow, `unwrap` of `None`). -/
inductive Fault where
  | status (s : SpdmStatus)
  | panic
  deriving DecidableEq, Repr

/-- Results are compared by `decide` in the runs of the model on fixed inputs. -/
instance instDecidableEqExcept {ε α : Type} [DecidableEq ε] [DecidableEq α] :
    DecidableEq (Except ε α)
  | .ok a, .ok b => decidable_of_iff (a = b) ⟨congrArg _, Except.ok.inj⟩
  | .error a, .error b => decidable_of_iff (a = b) ⟨congrArg _, Except.error.inj⟩
  | .ok _, .error _ => isFalse nofun
  | .error _, .ok _ => isFalse nofun

theorem Except.bind_eq_ok' {ε α β : Type} {x : Except ε α} {f : α → Except ε β} {b : β} :
    (x >>= f) = .ok b ↔ ∃ a, x = .ok a ∧ f a = .ok b := by
  cases x <;> simp [bind, Except.bind]

theorem Except.bind_ne_panic {α β : Type} {x : Except Fault α} {f : α → Except Fault β}
    (hx : x ≠ .error .panic) (hf : ∀ a, x = .ok a → f a ≠ .error .panic) :
    (x >>= f) ≠ .error .panic := by
  cases x with
  | error e => simpa [bind, Except.bind] using hx
  | ok a => exact hf a rfl

/-- `if cond { return Err(e) }`. -/
def failIf (cond : Prop) [Decidable cond] (e : Fault) : Except Fault Unit :=
  if cond then .error e else .ok ()

@[simp] theorem failIf_eq_ok {cond : Prop} [Decidable cond] {e : Fault} {u : Unit} :
    failIf cond e = .ok u ↔ ¬cond := by
  unfold failIf
  split <;> simp_all

/-- `&xs[lo..hi]`, which panics unless `lo ≤ hi ≤ xs.len()`. -/
def slice {α : Type} (xs : List α) (lo hi : Nat) : Except Fault (List α) :=
  if lo ≤ hi ∧ hi ≤ xs.length then .ok ((xs.drop lo).take (hi - lo)) else .error .panic

theorem slice_of_le {α : Type} {xs : List α} {lo hi : Nat} (hlo : lo ≤ hi)
    (hhi : hi ≤ xs.length) : slice xs lo hi = .ok ((xs.drop lo).take (hi - lo)) := by
  simp [slice, hlo, hhi]

theorem slice_eq_ok {α : Type} {xs ys : List α} {lo hi : Nat} :
    slice xs lo hi = .ok ys ↔ lo ≤ hi ∧ hi ≤ xs.length ∧ ys = (xs.drop lo).take (hi - lo) := by
  unfold slice
  split <;> simp_all [eq_comm]

theorem slice_error {α : Type} {xs : List α} {lo hi : Nat} {e : Fault}
    (h : slice xs lo hi = .error e) : e = .panic := by
  unfold slice at h
  split at h <;> cases h
  rfl

theorem slice_zero {α : Type} {xs : List α} {hi : Nat} (hhi : hi ≤ xs.length) :
    slice xs 0 hi = .ok (xs.take hi) := by
  simp [slice, hhi]

theorem slice_take_of_le {α : Type} {xs : List α} {n lo hi : Nat} (hn : n ≤ xs.length)
    (hhi : hi ≤ n) : slice (xs.take n) lo hi = slice xs lo hi := by
  by_cases hlo : lo ≤ hi
  · rw [slice_of_le hlo (by simp; omega), slice_of_le hlo (by omega), List.drop_take,
      List.take_take, Nat.min_eq_left (by omega)]
  · simp [slice, hlo]

/-- `dst[lo..hi].copy_from_slice(src)`, which panics unless `lo ≤ hi ≤ dst.len()` and `src`
has `hi - lo` elements. -/
def copyFromSlice {α : Type} (dst : List α) (lo hi : Nat) (src : List α) : Except Fault (List α) :=
  if lo ≤ hi ∧ hi ≤ dst.length ∧ src.length = hi - lo then .ok (dst.take lo ++ src ++ dst.drop hi)
  else .error .panic

theorem copyFromSlice_eq_ok {α : Type} {dst src ys : List α} {lo hi : Nat} :
    copyFromSlice dst lo hi src = .ok ys ↔
      lo ≤ hi ∧ hi ≤ dst.length ∧ src.length = hi - lo ∧
        ys = dst.take lo ++ src ++ dst.drop hi := by
  unfold copyFromSlice
  split <;> simp_all [eq_comm]

theorem length_of_copyFromSlice {α : Type} {dst src ys : List α} {lo hi : Nat}
    (h : copyFromSlice dst lo hi src = .ok ys) : ys.length = dst.length := by
  obtain ⟨hlo, hhi, hsrc, rfl⟩ := copyFromSlice_eq_ok.mp h
  simp only [List.length_append, List.length_take, List.length_drop, hsrc]
  omega

/-- `a - b` on `usize`, which panics where it would go below zero, as a debug build does. -/
def usizeSub (a b : Nat) : Except Fault Nat := if b ≤ a then .ok (a - b) else .error .panic

theorem usizeSub_of_le {a b : Nat} (h : b ≤ a) : usizeSub a b = .ok (a - b) := by
  simp [usizeSub, h]

theorem usizeSub_error {a b : Nat} {e : Fault} (h : usizeSub a b = .error e) : e = .panic := by
  unfold usizeSub at h
  split at h <;> cases h
  rfl

theorem usizeSub_eq_ok {a b c : Nat} : usizeSub a b = .ok c ↔ b ≤ a ∧ c = a - b := by
  unfold usizeSub
  split <;> simp_all [eq_comm]

/-- `codec::Reader`: a byte buffer and the cursor `offs` into it. -/
structure Reader where
  buf : List UInt8
  offs : Nat
  offs_le : offs ≤ buf.length

namespace Reader

def init (buf : List UInt8) : Reader := ⟨buf, 0, Nat.zero_le _⟩

/-- The bytes after the cursor. -/
def left (r : Reader) : List UInt8 := r.buf.drop r.offs

def used (r : Reader) : Nat := r.offs

/-- The cursor moved `n` bytes on, never past the end. -/
def advance (r : Reader) (n : Nat) : Reader :=
  ⟨r.buf, min (r.offs + n) r.buf.length, Nat.min_le_right _ _⟩

/-- `Reader::take`: the next `n` bytes, or `None` when fewer are left. -/
def take (r : Reader) (n : Nat) : Option (List UInt8 × Reader) :=
  if n ≤ r.left.length then some (r.left.take n, r.advance n) else none

@[simp] theorem init_left (buf : List UInt8) : (init buf).left = buf := rfl

@[simp] theorem init_used (buf : List UInt8) : (init buf).used = 0 := rfl

@[simp] theorem init_buf (buf : List UInt8) : (init buf).buf = buf := rfl

@[simp] theorem advance_buf (r : Reader) (n : Nat) : (r.advance n).buf = r.buf := rfl

@[simp] theorem length_left (r : Reader) : r.left.length = r.buf.length - r.used := by
  simp [left, used]

theorem used_le (r : Reader) : r.used ≤ r.buf.length := r.offs_le

@[simp] theorem advance_left (r : Reader) (n : Nat) : (r.advance n).left = r.left.drop n := by
  simp only [left, advance, List.drop_drop]
  by_cases h : r.offs + n ≤ r.buf.length
  · rw [Nat.min_eq_left h]
  · rw [Nat.min_eq_right (by omega), List.drop_eq_nil_of_le (by omega),
      List.drop_eq_nil_of_le (by omega)]

theorem advance_used {r : Reader} {n : Nat} (h : n ≤ r.left.length) :
    (r.advance n).used = r.used + n := by
  simp only [length_left] at h
  simp only [advance, used]
  have := r.used_le
  simp only [used] at *
  omega

@[simp] theorem advance_zero (r : Reader) : r.advance 0 = r := by
  cases r
  simp only [advance, Nat.add_zero, Reader.mk.injEq, true_and]
  omega

theorem advance_advance (r : Reader) (m n : Nat) :
    (r.advance m).advance n = r.advance (m + n) := by
  simp only [advance, Reader.mk.injEq, true_and]
  omega

theorem ext' {r r' : Reader} (hbuf : r.buf = r'.buf) (hused : r.used = r'.used) : r = r' := by
  cases r; cases r'
  simp_all [used]

theorem take_of_left {r : Reader} {bs rest : List UInt8} (h : r.left = bs ++ rest) :
    r.take bs.length = some (bs, r.advance bs.length) := by
  simp [take, h]

theorem take_eq_some {r r' : Reader} {n : Nat} {bs : List UInt8} :
    r.take n = some (bs, r') ↔ n ≤ r.left.length ∧ bs = r.left.take n ∧ r' = r.advance n := by
  unfold take
  split <;> simp_all [eq_comm]

theorem left_of_take {r r' : Reader} {n : Nat} {bs : List UInt8} (h : r.take n = some (bs, r')) :
    r.left = bs ++ r'.left := by
  obtain ⟨-, rfl, rfl⟩ := take_eq_some.mp h
  rw [advance_left, List.take_append_drop]

/-- `u8::read`. -/
def readU8 (r : Reader) : Option (UInt8 × Reader) :=
  match r.take 1 with
  | some ([b], r) => some (b, r)
  | _ => none

/-- `u16::read`: two bytes, little-endian. -/
def readU16 (r : Reader) : Option (UInt16 × Reader) :=
  match r.take 2 with
  | some ([b₀, b₁], r) => some (UInt16.ofNat (b₀.toNat + 256 * b₁.toNat), r)
  | _ => none

theorem readU8_of_left {r : Reader} {b : UInt8} {rest : List UInt8} (h : r.left = b :: rest) :
    r.readU8 = some (b, r.advance 1) := by
  have htake : r.take 1 = some ([b], r.advance 1) :=
    take_of_left (show r.left = [b] ++ rest from h)
  simp [readU8, htake]

theorem readU8_eq_some {r r' : Reader} {b : UInt8} :
    r.readU8 = some (b, r') ↔ ∃ rest, r.left = b :: rest ∧ r' = r.advance 1 := by
  constructor
  · intro h
    cases hl : r.left with
    | nil => simp [readU8, take, hl] at h
    | cons c rest =>
      rw [readU8_of_left hl] at h
      obtain ⟨rfl, rfl⟩ := Prod.mk.inj (Option.some.inj h)
      exact ⟨rest, rfl, rfl⟩
  · rintro ⟨rest, hl, rfl⟩
    exact readU8_of_left hl

theorem left_of_readU8 {r r' : Reader} {b : UInt8} (h : r.readU8 = some (b, r')) :
    r.left = b :: r'.left := by
  obtain ⟨rest, hl, rfl⟩ := readU8_eq_some.mp h
  simp [hl]

theorem readU8_none {r : Reader} (h : r.left = []) : r.readU8 = none := by
  simp [readU8, take, h]

theorem readU16_eq_some {r r' : Reader} {v : UInt16} (h : r.readU16 = some (v, r')) :
    ∃ b₀ b₁ rest, r.left = b₀ :: b₁ :: rest ∧ v = UInt16.ofNat (b₀.toNat + 256 * b₁.toNat) ∧
      r' = r.advance 2 := by
  unfold readU16 at h
  split at h
  · next b₀ b₁ r₀ ht =>
    obtain ⟨-, hbs, rfl⟩ := take_eq_some.mp ht
    obtain ⟨rfl, rfl⟩ := Prod.mk.inj (Option.some.inj h)
    have hl : r.left = [b₀, b₁] ++ r.left.drop 2 := by rw [hbs, List.take_append_drop]
    exact ⟨b₀, b₁, _, hl, rfl, rfl⟩
  · cases h

/-- `r'` is `r` moved `n` bytes on, over bytes that were there. -/
def Moved (r r' : Reader) (n : Nat) : Prop := n ≤ r.left.length ∧ r' = r.advance n

theorem Moved.trans {r r₁ r₂ : Reader} {m n : Nat} (h₁ : Moved r r₁ m) (h₂ : Moved r₁ r₂ n) :
    Moved r r₂ (m + n) := by
  obtain ⟨hm, rfl⟩ := h₁
  obtain ⟨hn, rfl⟩ := h₂
  simp only [advance_left, List.length_drop] at hn
  exact ⟨by omega, advance_advance r m n⟩

theorem Moved.used_eq {r r' : Reader} {n : Nat} (h : Moved r r' n) :
    r'.used = r.used + n ∧ r'.buf = r.buf := by
  obtain ⟨hn, rfl⟩ := h
  exact ⟨advance_used hn, rfl⟩

theorem moved_of_take {r r' : Reader} {n : Nat} {bs : List UInt8} (h : r.take n = some (bs, r')) :
    Moved r r' n := by
  obtain ⟨hn, -, rfl⟩ := take_eq_some.mp h
  exact ⟨hn, rfl⟩

theorem moved_of_readU8 {r r' : Reader} {b : UInt8} (h : r.readU8 = some (b, r')) :
    Moved r r' 1 := by
  obtain ⟨rest, hl, rfl⟩ := readU8_eq_some.mp h
  exact ⟨by simp [hl], rfl⟩

theorem moved_of_readU16 {r r' : Reader} {v : UInt16} (h : r.readU16 = some (v, r')) :
    Moved r r' 2 := by
  obtain ⟨b₀, b₁, rest, hl, -, rfl⟩ := readU16_eq_some h
  exact ⟨by simp [hl], rfl⟩

end Reader

/-- A decoded field: the value, and how many of the bytes `left` it consumed. -/
structure Decoded (α : Type) (left : List UInt8) where
  value : α
  consumed : Nat
  consumed_le : consumed ≤ left.length

/-- A decoder of a field that the fragment reads but does not define. It is given the bytes
at the cursor, and can neither see those before it nor consume more than there are. -/
def FieldDecoder (α : Type) : Type := (left : List UInt8) → Option (Decoded α left)

/-- Run a field decoder at the cursor of `r`. -/
def Reader.readWith {α : Type} (r : Reader) (d : FieldDecoder α) : Option (α × Reader) :=
  (d r.left).map fun x => (x.value, r.advance x.consumed)

theorem Reader.readWith_eq_some {α : Type} {r r' : Reader} {d : FieldDecoder α} {a : α} :
    r.readWith d = some (a, r') ↔
      ∃ x, d r.left = some x ∧ x.value = a ∧ r' = r.advance x.consumed := by
  simp only [readWith, Option.map_eq_some', Prod.mk.injEq, eq_comm (b := r')]

theorem Reader.moved_of_readWith {α : Type} {r r' : Reader} {d : FieldDecoder α} {a : α}
    (h : r.readWith d = some (a, r')) : ∃ n, r.Moved r' n := by
  obtain ⟨x, -, -, rfl⟩ := readWith_eq_some.mp h
  exact ⟨x.consumed, x.consumed_le, rfl⟩

/-- `codec::Writer`: a buffer of `capacity` bytes, the first `written` of them used. -/
structure Writer where
  capacity : Nat
  written : List UInt8
  written_le : written.length ≤ capacity

/-- What an encoder writes: the bytes of each of its `Writer` calls, in order. -/
abbrev Writes := List (List UInt8)

namespace Writer

def init (capacity : Nat) : Writer := ⟨capacity, [], Nat.zero_le _⟩

def used (w : Writer) : Nat := w.written.length

/-- `Writer::extend_from_slice`: all of `bs`, or nothing when they do not fit. -/
def extendFromSlice (w : Writer) (bs : List UInt8) : Option Writer :=
  if h : w.written.length + bs.length ≤ w.capacity then
    some ⟨w.capacity, w.written ++ bs, by simpa using h⟩
  else none

/-- Perform the calls of an encoder. All of them fit: `Ok` with the total count. Otherwise
`BufferFull`, with the calls before the failing one written. -/
def write (w : Writer) : Writes → Except SpdmStatus Nat × Writer
  | [] => (.ok 0, w)
  | bs :: ws =>
    match w.extendFromSlice bs with
    | none => (.error .bufferFull, w)
    | some w' =>
      match w'.write ws with
      | (.ok n, w'') => (.ok (bs.length + n), w'')
      | (.error e, w'') => (.error e, w'')

@[simp] theorem init_written (capacity : Nat) : (init capacity).written = [] := rfl

@[simp] theorem init_capacity (capacity : Nat) : (init capacity).capacity = capacity := rfl

theorem extendFromSlice_eq_some {w w' : Writer} {bs : List UInt8}
    (h : w.extendFromSlice bs = some w') :
    w'.written = w.written ++ bs ∧ w'.capacity = w.capacity := by
  simp only [extendFromSlice] at h
  split at h
  · cases h
    exact ⟨rfl, rfl⟩
  · cases h

theorem write_eq_ok {w w' : Writer} {ws : Writes} {n : Nat} (h : w.write ws = (.ok n, w')) :
    n = ws.flatten.length ∧ w'.written = w.written ++ ws.flatten ∧ w'.capacity = w.capacity := by
  induction ws generalizing w n with
  | nil =>
    simp only [write, Prod.mk.injEq, Except.ok.injEq] at h
    obtain ⟨rfl, rfl⟩ := h
    simp
  | cons bs ws ih =>
    unfold write at h
    cases hx : w.extendFromSlice bs with
    | none => simp [hx] at h
    | some w₁ =>
      obtain ⟨hw₁, hc₁⟩ := extendFromSlice_eq_some hx
      cases hw : w₁.write ws with
      | mk res w₂ =>
        cases res with
        | error e => simp [hx, hw] at h
        | ok m =>
          simp only [hx, hw, Prod.mk.injEq, Except.ok.injEq] at h
          obtain ⟨rfl, rfl⟩ := h
          obtain ⟨rfl, hw₂, hc₂⟩ := ih hw
          simp [hw₂, hw₁, hc₂, hc₁]

theorem write_of_le {w : Writer} {ws : Writes}
    (h : w.written.length + ws.flatten.length ≤ w.capacity) :
    ∃ w', w.write ws = (.ok ws.flatten.length, w') := by
  induction ws generalizing w with
  | nil => exact ⟨w, rfl⟩
  | cons bs ws ih =>
    simp only [List.flatten_cons, List.length_append] at h
    obtain ⟨w', hw'⟩ := ih (w := ⟨w.capacity, w.written ++ bs, by
      simp only [List.length_append]; omega⟩) (by simp only [List.length_append]; omega)
    refine ⟨w', ?_⟩
    simp [write, extendFromSlice, show w.written.length + bs.length ≤ w.capacity by omega, hw']

end Writer

/-- The two little-endian bytes of `u16::encode`. -/
def u16Bytes (v : UInt16) : List UInt8 := [UInt8.ofNat v.toNat, UInt8.ofNat (v.toNat / 256)]

@[simp] theorem length_u16Bytes (v : UInt16) : (u16Bytes v).length = 2 := rfl

theorem UInt8.toNat_ofNat' (n : Nat) : (UInt8.ofNat n).toNat = n % 256 := BitVec.toNat_ofNat _ _

theorem UInt16.toNat_ofNat' (n : Nat) : (UInt16.ofNat n).toNat = n % 65536 :=
  BitVec.toNat_ofNat _ _

theorem UInt16.ofNat_toNat (v : UInt16) : UInt16.ofNat v.toNat = v :=
  UInt16.toNat.inj (by rw [UInt16.toNat_ofNat']; exact Nat.mod_eq_of_lt v.toNat_lt_size)

theorem UInt32.toNat_ofNat' (n : Nat) : (UInt32.ofNat n).toNat = n % 2 ^ 32 :=
  BitVec.toNat_ofNat _ _

theorem UInt32.ofNat_toNat (v : UInt32) : UInt32.ofNat v.toNat = v :=
  UInt32.toNat.inj (by rw [UInt32.toNat_ofNat']; exact Nat.mod_eq_of_lt v.toNat_lt_size)

/-- `a + b` on `u16`, which panics where it would wrap, as a debug build does. -/
def u16Add (a b : UInt16) : Except Fault UInt16 :=
  if a.toNat + b.toNat < 65536 then .ok (a + b) else .error .panic

/-- `a - b` on `u16`, which panics where it would go below zero. -/
def u16Sub (a b : UInt16) : Except Fault UInt16 :=
  if b.toNat ≤ a.toNat then .ok (a - b) else .error .panic

theorem u16Add_eq_ok {a b c : UInt16} :
    u16Add a b = .ok c ↔ a.toNat + b.toNat < 65536 ∧ c.toNat = a.toNat + b.toNat := by
  unfold u16Add
  split
  · next h =>
    simp only [Except.ok.injEq, h, true_and]
    constructor
    · rintro rfl; exact (UInt16.toNat_add a b).trans (Nat.mod_eq_of_lt h)
    · intro hc; apply UInt16.toNat.inj; rw [hc, UInt16.toNat_add, Nat.mod_eq_of_lt h]
  · simp_all

theorem eq_add_of_u16Add_eq_ok {a b c : UInt16} (h : u16Add a b = .ok c) : c = a + b := by
  unfold u16Add at h
  split at h
  · exact (Except.ok.inj h).symm
  · cases h

theorem u16Add_error {a b : UInt16} {e : Fault} (h : u16Add a b = .error e) : e = .panic := by
  unfold u16Add at h
  split at h
  · cases h
  · exact (Except.error.inj h).symm

theorem u16Add_of_lt {a b : UInt16} (h : a.toNat + b.toNat < 65536) :
    ∃ c, u16Add a b = .ok c ∧ c.toNat = a.toNat + b.toNat :=
  ⟨a + b, by simp [u16Add, h], (UInt16.toNat_add a b).trans (Nat.mod_eq_of_lt h)⟩

theorem u16Sub_eq_ok {a b c : UInt16} :
    u16Sub a b = .ok c ↔ b.toNat ≤ a.toNat ∧ c.toNat = a.toNat - b.toNat := by
  unfold u16Sub
  split
  · next h =>
    simp only [Except.ok.injEq, h, true_and]
    constructor
    · rintro rfl; exact UInt16.toNat_sub_of_le a b h
    · intro hc; apply UInt16.toNat.inj; rw [hc, UInt16.toNat_sub_of_le a b h]
  · simp_all

theorem u16Sub_of_le {a b : UInt16} (h : b.toNat ≤ a.toNat) :
    ∃ c, u16Sub a b = .ok c ∧ c.toNat = a.toNat - b.toNat := by
  have hc : (a - b).toNat = a.toNat - b.toNat := UInt16.toNat_sub_of_le a b h
  exact ⟨a - b, u16Sub_eq_ok.mpr ⟨h, hc⟩, hc⟩

theorem Reader.readU16_of_left {r : Reader} {v : UInt16} {rest : List UInt8}
    (h : r.left = u16Bytes v ++ rest) : r.readU16 = some (v, r.advance 2) := by
  have hv : v.toNat % 256 + 256 * (v.toNat / 256 % 256) = v.toNat := by
    have : v.toNat < 65536 := v.toNat_lt_size
    omega
  have htake : r.take 2 = some (u16Bytes v, r.advance 2) := take_of_left h
  simp only [readU16, htake, u16Bytes, UInt8.toNat_ofNat', Nat.mod_mod, hv,
    UInt16.ofNat_toNat]

end Spdm
