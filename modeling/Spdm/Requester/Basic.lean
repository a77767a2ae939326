import Spdm.Context

/-!
# Requester operations

A requester operation reads and changes the requester's state and ends with a value, an `Err`
status or a panic. `SpdmM S α` is such an operation on a state `S`: it returns its outcome with
the state it leaves, on every outcome, because Rust keeps each mutation made before an early `?`
return. Its `do` blocks read as the Rust bodies do: `←` is `?`.

`RequesterContext` is the SPDM context together with the state of the device on the other end;
`send_message` and `receive_message` return the device's error as it is.

The bind lemmas below are the only place where the monad is unfolded: every later inversion
lemma peels an operation apart with `bind_eq_ok` and `bind_eq_error`.
-/

namespace Spdm

/-- An operation on the state `S` that ends with a value or a fault, and the state it leaves. -/
def SpdmM (S α : Type) : Type := S → Except Fault α × S

namespace SpdmM

variable {S α β : Type}

instance : Monad (SpdmM S) where
  pure a s := (.ok a, s)
  bind x f s :=
    match x s with
    | (.ok a, s') => f a s'
    | (.error e, s') => (.error e, s')

/-- `return Err(e)`, or a panic. -/
def throw (e : Fault) : SpdmM S α := fun s => (.error e, s)

/-- The current state. -/
def get : SpdmM S S := fun s => (.ok s, s)

/-- Change the state by `f`. -/
def modify (f : S → S) : SpdmM S Unit := fun s => (.ok (), f s)

/-- `?` on a result that does not touch the state. -/
def lift (x : Except Fault α) : SpdmM S α := fun s => (x, s)

/-- `?` on an `SpdmResult`. -/
def liftStatus (x : Except SpdmStatus α) : SpdmM S α := fun s => (x.mapError .status, s)

@[simp] theorem pure_apply (a : α) (s : S) : (pure a : SpdmM S α) s = (.ok a, s) := rfl

theorem bind_apply (x : SpdmM S α) (f : α → SpdmM S β) (s : S) :
    (x >>= f) s = match x s with
      | (.ok a, s') => f a s'
      | (.error e, s') => (.error e, s') := rfl

@[simp] theorem throw_apply (e : Fault) (s : S) : (throw e : SpdmM S α) s = (.error e, s) := rfl

@[simp] theorem get_apply (s : S) : (get : SpdmM S S) s = (.ok s, s) := rfl

@[simp] theorem modify_apply (f : S → S) (s : S) : modify f s = (.ok (), f s) := rfl

@[simp] theorem lift_apply (x : Except Fault α) (s : S) : (lift x : SpdmM S α) s = (x, s) := rfl

@[simp] theorem liftStatus_apply (x : Except SpdmStatus α) (s : S) :
    (liftStatus x : SpdmM S α) s = (x.mapError .status, s) := rfl

theorem bind_eq_ok {x : SpdmM S α} {f : α → SpdmM S β} {s s'' : S} {b : β} :
    (x >>= f) s = (.ok b, s'') ↔ ∃ a s', x s = (.ok a, s') ∧ f a s' = (.ok b, s'') := by
  rw [bind_apply]
  constructor
  · intro h
    split at h
    · next a s' hx => exact ⟨a, s', hx, h⟩
    · cases h
  · rintro ⟨a, s', hx, h⟩
    rw [hx]
    exact h

theorem bind_eq_error {x : SpdmM S α} {f : α → SpdmM S β} {s s'' : S} {e : Fault} :
    (x >>= f) s = (.error e, s'') ↔
      x s = (.error e, s'') ∨ ∃ a s', x s = (.ok a, s') ∧ f a s' = (.error e, s'') := by
  rw [bind_apply]
  constructor
  · intro h
    split at h
    · next a s' hx => exact .inr ⟨a, s', hx, h⟩
    · next e' s' hx =>
      simp only [Prod.mk.injEq, Except.error.injEq] at h
      obtain ⟨rfl, rfl⟩ := h
      exact .inl hx
  · rintro (hx | ⟨a, s', hx, h⟩) <;> rw [hx]
    exact h

theorem liftStatus_eq_ok {x : Except SpdmStatus α} {s s' : S} {a : α} :
    (liftStatus x : SpdmM S α) s = (.ok a, s') ↔ x = .ok a ∧ s' = s := by
  cases x <;> simp [Except.mapError, eq_comm]

theorem lift_bind_eq_ok {x : Except Fault α} {f : α → SpdmM S β} {s s' : S} {b : β} :
    (lift x >>= f) s = (.ok b, s') ↔ ∃ a, x = .ok a ∧ f a s = (.ok b, s') := by
  cases x <;> simp [bind_apply]

theorem lift_bind_eq_error {x : Except Fault α} {f : α → SpdmM S β} {s s' : S} {e : Fault} :
    (lift x >>= f) s = (.error e, s') ↔
      x = .error e ∧ s' = s ∨ ∃ a, x = .ok a ∧ f a s = (.error e, s') := by
  cases x <;> simp [bind_apply, eq_comm]

theorem get_bind (f : S → SpdmM S β) (s : S) : (get >>= f) s = f s s := rfl

theorem bind_of_ok {x : SpdmM S α} {f : α → SpdmM S β} {s s' : S} {a : α}
    (h : x s = (.ok a, s')) : (x >>= f) s = f a s' := by
  rw [bind_apply, h]

theorem lift_bind_of_ok {x : Except Fault α} {f : α → SpdmM S β} {a : α} (h : x = .ok a)
    (s : S) : (lift x >>= f) s = f a s := by
  subst h; rfl

theorem modify_bind (g : S → S) (f : Unit → SpdmM S β) (s : S) :
    (modify g >>= f) s = f () (g s) := rfl

/-- The operation does not panic when run from `s`. -/
def NoPanic (x : SpdmM S α) (s : S) : Prop := (x s).1 ≠ .error .panic

theorem NoPanic.bind {x : SpdmM S α} {f : α → SpdmM S β} {s : S} (hx : NoPanic x s)
    (hf : ∀ a s', x s = (.ok a, s') → NoPanic (f a) s') : NoPanic (x >>= f) s := by
  unfold NoPanic at *
  rw [bind_apply]
  split
  · next a s' h => exact hf a s' h
  · next e s' h =>
    rw [h] at hx
    simp only [ne_eq, Except.error.injEq] at hx ⊢
    exact hx

theorem noPanic_pure (a : α) (s : S) : NoPanic (pure a : SpdmM S α) s := by
  simp [NoPanic]

theorem noPanic_throw_status (st : SpdmStatus) (s : S) :
    NoPanic (throw (.status st) : SpdmM S α) s := by
  simp [NoPanic]

theorem NoPanic.lift_bind {x : Except Fault α} {f : α → SpdmM S β} {a : α} {s : S}
    (hx : x = .ok a) (hf : NoPanic (f a) s) : NoPanic (lift x >>= f) s := by
  subst hx; exact hf

theorem NoPanic.get_bind {f : S → SpdmM S β} {s : S} (hf : NoPanic (f s) s) :
    NoPanic (get >>= f) s := hf

theorem NoPanic.modify_bind {g : S → S} {f : Unit → SpdmM S β} {s : S}
    (hf : NoPanic (f ()) (g s)) : NoPanic (modify g >>= f) s := hf

theorem noPanic_liftStatus (x : Except SpdmStatus α) (s : S) :
    NoPanic (liftStatus x : SpdmM S α) s := by
  cases x <;> simp [NoPanic, Except.mapError]

/-- Whatever it returns, `x` moves the state only along `R`: the frame of an operation. With
`R` a preorder, the frame of a `do` block is assembled from the frames of its statements. -/
def Keeps (R : S → S → Prop) (x : SpdmM S α) : Prop := ∀ s, R s (x s).2

section Keeps

variable {R : S → S → Prop}

theorem Keeps.bind [IsTrans S R] {x : SpdmM S α} {f : α → SpdmM S β} (hx : Keeps R x)
    (hf : ∀ a, Keeps R (f a)) : Keeps R (x >>= f) := by
  intro s
  have hs := hx s
  rw [bind_apply]
  split
  · next a s' h => rw [h] at hs; exact trans_of R hs (hf a s')
  · next e s' h => rw [h] at hs; exact hs

theorem Keeps.get_bind {f : S → SpdmM S β} (hf : ∀ s, Keeps R (f s)) : Keeps R (get >>= f) :=
  fun s => hf s s

variable [IsRefl S R]

theorem keeps_pure (a : α) : Keeps R (pure a : SpdmM S α) := fun s => refl_of R s

theorem keeps_throw (e : Fault) : Keeps R (throw e : SpdmM S α) := fun s => refl_of R s

theorem keeps_lift (x : Except Fault α) : Keeps R (lift x : SpdmM S α) := fun s => refl_of R s

end Keeps

end SpdmM

/-- `RequesterContext`: the SPDM context, `common`, and the state of the device. -/
structure RequesterContext (cfg : Config) (σ : Type) where
  common : SpdmContext cfg
  device : σ

namespace RequesterContext

variable {cfg : Config} {σ α : Type}

/-- An operation on the SPDM context alone, run on the requester. -/
def onCommon (x : SpdmM (SpdmContext cfg) α) : SpdmM (RequesterContext cfg σ) α := fun s =>
  ((x s.common).1, { s with common := (x s.common).2 })

@[simp] theorem onCommon_apply (x : SpdmM (SpdmContext cfg) α) (s : RequesterContext cfg σ) :
    onCommon x s = ((x s.common).1, { s with common := (x s.common).2 }) := rfl

variable (io : SpdmDeviceIo σ)

/-- `send_message`, or `send_secured_message` on a session. -/
def sendMessage (sessionId : Option UInt32) (bytes : List UInt8) :
    SpdmM (RequesterContext cfg σ) Unit := fun s =>
  match io.send s.device sessionId bytes with
  | .ok d => (.ok (), { s with device := d })
  | .error e => (.error (.status e), s)

/-- `receive_message`, or `receive_secured_message` on a session: the bytes the device
delivered. -/
def receiveMessage (sessionId : Option UInt32) : SpdmM (RequesterContext cfg σ) (List UInt8) :=
  fun s =>
    match io.receive s.device sessionId with
    | .ok (bytes, d) => (.ok bytes, { s with device := d })
    | .error e => (.error (.status e), s)

theorem sendMessage_eq_ok {sid : Option UInt32} {bytes : List UInt8}
    {s s' : RequesterContext cfg σ} {u : Unit} :
    sendMessage io sid bytes s = (.ok u, s') ↔
      ∃ d, io.send s.device sid bytes = .ok d ∧ s' = { s with device := d } := by
  cases h : io.send s.device sid bytes <;> simp [sendMessage, h, eq_comm]

theorem receiveMessage_eq_ok {sid : Option UInt32} {bytes : List UInt8}
    {s s' : RequesterContext cfg σ} :
    receiveMessage io sid s = (.ok bytes, s') ↔
      ∃ d, io.receive s.device sid = .ok (bytes, d) ∧ s' = { s with device := d } := by
  cases h : io.receive s.device sid with
  | error e => simp [receiveMessage, h]
  | ok r =>
    obtain ⟨b, d⟩ := r
    simp only [receiveMessage, h, Prod.mk.injEq, Except.ok.injEq]
    exact ⟨fun ⟨hb, hs⟩ => ⟨d, ⟨hb, rfl⟩, hs.symm⟩, fun ⟨_, ⟨hb, rfl⟩, hs⟩ => ⟨hb, hs.symm⟩⟩

theorem sendMessage_error {sid : Option UInt32} {bytes : List UInt8}
    {s s' : RequesterContext cfg σ} {e : Fault} (h : sendMessage io sid bytes s = (.error e, s')) :
    s' = s ∧ e ≠ .panic := by
  cases hs : io.send s.device sid bytes <;> simp_all [sendMessage, eq_comm]

theorem receiveMessage_error {sid : Option UInt32} {s s' : RequesterContext cfg σ} {e : Fault}
    (h : receiveMessage io sid s = (.error e, s')) : s' = s ∧ e ≠ .panic := by
  cases hs : io.receive s.device sid <;> simp_all [receiveMessage, eq_comm]

theorem noPanic_sendMessage (sid : Option UInt32) (bytes : List UInt8)
    (s : RequesterContext cfg σ) : SpdmM.NoPanic (sendMessage io sid bytes) s := by
  cases h : io.send s.device sid bytes <;> simp [SpdmM.NoPanic, sendMessage, h]

theorem noPanic_receiveMessage (sid : Option UInt32) (s : RequesterContext cfg σ) :
    SpdmM.NoPanic (receiveMessage io sid) s := by
  cases h : io.receive s.device sid <;> simp [SpdmM.NoPanic, receiveMessage, h]

@[simp] theorem sendMessage_common (sid : Option UInt32) (bytes : List UInt8)
    (s : RequesterContext cfg σ) : (sendMessage io sid bytes s).2.common = s.common := by
  unfold sendMessage; split <;> rfl

@[simp] theorem receiveMessage_common (sid : Option UInt32) (s : RequesterContext cfg σ) :
    (receiveMessage io sid s).2.common = s.common := by
  unfold receiveMessage; split <;> rfl

section Keeps

variable {R : RequesterContext cfg σ → RequesterContext cfg σ → Prop}
  (hR : ∀ s s' : RequesterContext cfg σ, s'.common = s.common → R s s')
include hR

theorem keeps_sendMessage (sid : Option UInt32) (bytes : List UInt8) :
    SpdmM.Keeps R (sendMessage io sid bytes) :=
  fun s => hR _ _ (sendMessage_common io sid bytes s)

theorem keeps_receiveMessage (sid : Option UInt32) : SpdmM.Keeps R (receiveMessage io sid) :=
  fun s => hR _ _ (receiveMessage_common io sid s)

end Keeps

end RequesterContext

end Spdm
