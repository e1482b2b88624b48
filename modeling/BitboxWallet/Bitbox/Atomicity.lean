import BitboxWallet.Bitbox.Session

/-! # What a failed call leaves of the session

The round trips change only the communication layer's history. `SetPassword`, `CreateWallet`,
`RestoreBackup` and `Reset` change the session flags only once nothing can fail any more.
`Login` adopts the password and the seeded flag before it locks an unlocked bootloader, so a
failed lock returns an error from a logged-in session.
-/

namespace BitboxWallet.Bitbox

open DeviceM

variable {α β : Type}

/-- `x` never changes the session flags. -/
def KeepsSession (x : DeviceM α) : Prop := ∀ d, (x d).2.session = d.session

/-- `x` leaves the session flags as they were whenever it does not return a value. -/
def AtomicOnFailure (x : DeviceM α) : Prop :=
  ∀ d f, (x d).1 = .error f → (x d).2.session = d.session

/-- `x` leaves the session flags as they were unless it returns `true`. -/
def AtomicUnlessTrue (x : DeviceM Bool) : Prop := ∀ d, (x d).1 ≠ .ok true → (x d).2.session = d.session

namespace KeepsSession

theorem pure (a : α) : KeepsSession (Pure.pure a : DeviceM α) := fun _ => rfl

theorem fail (e : Err) : KeepsSession (DeviceM.fail e : DeviceM α) := fun _ => rfl

theorem get : KeepsSession DeviceM.get := fun _ => rfl

theorem call (req : Request) : KeepsSession (Bitbox.call req) := by
  intro d
  simp only [Bitbox.call]
  split <;> rfl

theorem bind {x : DeviceM α} {f : α → DeviceM β} (hx : KeepsSession x)
    (hf : ∀ a, KeepsSession (f a)) : KeepsSession (x >>= f) := by
  intro d
  rw [DeviceM.bind_apply]
  split <;> rename_i h
  · rw [hf, ← hx d, h]
  · rw [← hx d, h]

theorem ite {c : Prop} [Decidable c] {x y : DeviceM α} (hx : KeepsSession x) (hy : KeepsSession y) :
    KeepsSession (if c then x else y) := by
  split
  · exact hx
  · exact hy

theorem withMessage {x : DeviceM α} (hx : KeepsSession x) (m : String) :
    KeepsSession (x.withMessage m) := by
  intro d
  simp only [DeviceM.withMessage]
  split <;> rename_i h
  · rw [← hx d, h]
  · exact hx d

theorem attempt {x : DeviceM α} (hx : KeepsSession x) : KeepsSession (DeviceM.attempt x) := by
  intro d
  simp only [DeviceM.attempt]
  split <;> rename_i h <;> rw [← hx d, h]

theorem atomicOnFailure {x : DeviceM α} (hx : KeepsSession x) : AtomicOnFailure x :=
  fun d _ _ => hx d

end KeepsSession

theorem AtomicOnFailure.bind {x : DeviceM α} {f : α → DeviceM β} (hx : KeepsSession x)
    (hf : ∀ a, AtomicOnFailure (f a)) : AtomicOnFailure (x >>= f) := by
  intro d e h
  rw [DeviceM.bind_apply] at h ⊢
  rcases hxd : x d with ⟨_ | a, d'⟩ <;> simp only [hxd] at h ⊢
  · rw [← hx d, hxd]
  · rw [hf a d' e h, ← hx d, hxd]

theorem AtomicUnlessTrue.bind {x : DeviceM α} {f : α → DeviceM Bool} (hx : KeepsSession x)
    (hf : ∀ a, AtomicUnlessTrue (f a)) : AtomicUnlessTrue (x >>= f) := by
  intro d h
  rw [DeviceM.bind_apply] at h ⊢
  rcases hxd : x d with ⟨_ | a, d'⟩ <;> simp only [hxd] at h ⊢
  · rw [← hx d, hxd]
  · rw [hf a d' h, ← hx d, hxd]

theorem KeepsSession.atomicUnlessTrue {x : DeviceM Bool} (hx : KeepsSession x) : AtomicUnlessTrue x :=
  fun d _ => hx d

theorem AtomicUnlessTrue.modify_true (g : Device → Device) :
    AtomicUnlessTrue (DeviceM.modify g >>= fun _ => pure true) :=
  fun _ h => absurd rfl h

theorem AtomicOnFailure.modify (g : Device → Device) : AtomicOnFailure (DeviceM.modify g) :=
  fun _ _ h => by cases h

/-! ## The round trips -/

theorem keepsSession_sendPlain (key val : String) : KeepsSession (sendPlain key val) :=
  KeepsSession.call _

theorem keepsSession_sendKV (key value password : String) : KeepsSession (sendKV key value password) :=
  KeepsSession.call _

theorem keepsSession_deviceInfo (password : String) : KeepsSession (deviceInfo password) := by
  unfold deviceInfo
  refine KeepsSession.bind (keepsSession_sendKV _ _ _) fun _ => ?_
  repeat' (first | exact KeepsSession.fail _ | exact KeepsSession.pure _ | split)

theorem keepsSession_bootloaderCommand (value failMessage replyMessage : String) :
    KeepsSession (bootloaderCommand value failMessage replyMessage) :=
  .bind .get fun _ => .bind ((keepsSession_sendKV _ _ _).withMessage _) fun _ =>
    .ite (.fail _) (.pure _)

theorem keepsSession_seed (stretchKey : String → String)
    (devicePassword backupPassword source filename : String) :
    KeepsSession (seed stretchKey devicePassword backupPassword source filename) := by
  unfold seed
  exact .ite (fun _ => rfl) (.bind ((KeepsSession.call _).withMessage _) fun _ => .ite (.fail _) (.pure _))

theorem keepsSession_lockBootloader : KeepsSession lockBootloader :=
  keepsSession_bootloaderCommand _ _ _

/-! ## The calls that change the session -/

theorem atomicOnFailure_setPassword (password : String) : AtomicOnFailure (setPassword password) := by
  unfold setPassword
  refine .bind ((keepsSession_sendPlain _ _).withMessage _) fun _ => ?_
  split
  · exact (KeepsSession.fail _).atomicOnFailure
  · exact .modify _

theorem atomicOnFailure_createWallet (stretchKey : String → String) (now walletName : String) :
    AtomicOnFailure (createWallet stretchKey now walletName) := by
  unfold createWallet
  split
  · exact (KeepsSession.fail _).atomicOnFailure
  · exact .bind .get fun _ => .bind ((keepsSession_seed _ _ _ _ _).withMessage _) fun _ => .modify _

theorem atomicUnlessTrue_restoreBackup (codes : ErrorCodes) (stretchKey : String → String)
    (backupPassword filename : String) :
    AtomicUnlessTrue (restoreBackup codes stretchKey backupPassword filename) := by
  unfold restoreBackup
  refine .bind .get fun _ => .bind (keepsSession_seed _ _ _ _ _).attempt fun r => ?_
  rcases r with err | ⟨⟩
  · exact KeepsSession.atomicUnlessTrue (.ite (.pure _) (.fail _))
  · exact .modify_true _

theorem atomicUnlessTrue_reset (codes : ErrorCodes) : AtomicUnlessTrue (reset codes) := by
  unfold reset
  refine .bind .get fun _ => .bind (keepsSession_sendKV _ _ _).attempt fun r => ?_
  rcases r with err | reply
  · exact KeepsSession.atomicUnlessTrue (.ite (.pure _) (.fail _))
  · dsimp only
    split
    · exact KeepsSession.atomicUnlessTrue (.fail _)
    · exact .modify_true _

theorem login_session (password : String) (d : Device) :
    (login password d).2.session = d.session ∨
    ∃ info d₁, deviceInfo password d = (.ok info, d₁) ∧
      (login password d).2.session = (d.initialized, password, info.seeded) ∧
      (info.bootlock = true → (login password d).1 = .ok (false, "", none)) := by
  have hk := keepsSession_deviceInfo password d
  rcases hd : deviceInfo password d with ⟨(e | p) | info, d₁⟩ <;> rw [hd] at hk
  · left
    simp only [login, DeviceM.bind_apply, DeviceM.attempt, hd]
    generalize e.cause = c
    cases c <;> exact hk
  · exact .inl (by simpa [login, DeviceM.bind_apply, DeviceM.attempt, hd] using hk)
  · right
    refine ⟨info, d₁, rfl, ?_⟩
    simp only [Device.session, Prod.mk.injEq] at hk
    cases hb : info.bootlock
    · have hl := keepsSession_lockBootloader { d₁ with password, seeded := info.seeded }
      rcases hlk : lockBootloader { d₁ with password, seeded := info.seeded } with
        ⟨(e | p) | u, d₃⟩ <;> rw [hlk] at hl <;>
        simp only [login, DeviceM.bind_apply, DeviceM.attempt, DeviceM.modify, DeviceM.pure_apply, hd,
          hb, hlk, Bool.not_false, ite_true] <;>
        simpa [Device.session, hk.1] using hl
    · simp [login, DeviceM.bind_apply, DeviceM.attempt, DeviceM.modify, DeviceM.pure_apply, hd, hb,
        Device.session, hk.1]

/-- `Login` did not log in: it returned an error, or panicked. -/
def LoginFailed (r : Except Failure (Bool × String × Option Err)) : Prop :=
  (∃ needsLongTouch remainingAttempts e, r = .ok (needsLongTouch, remainingAttempts, some e)) ∨
    ∃ f, r = .error f

/-- A failed `SetPassword` or `CreateWallet`, and a `RestoreBackup` or `Reset` that did not
complete, leave the session flags as they were. A failed `Login` leaves them too, unless its
device-info call succeeded and reported an unlocked bootloader: then the lock failed, and the
password and seeded flag had already been adopted. -/
theorem session_flags_on_failure (codes : ErrorCodes) (stretchKey : String → String)
    (now : String) :
    (∀ password, AtomicOnFailure (setPassword password)) ∧
    (∀ walletName, AtomicOnFailure (createWallet stretchKey now walletName)) ∧
    (∀ backupPassword filename,
      AtomicUnlessTrue (restoreBackup codes stretchKey backupPassword filename)) ∧
    AtomicUnlessTrue (reset codes) ∧
    ∀ password d, LoginFailed (login password d).1 →
      (login password d).2.session = d.session ∨
      ∃ info d₁, deviceInfo password d = (.ok info, d₁) ∧ info.bootlock = false ∧
        (login password d).2.session = (d.initialized, password, info.seeded) := by
  refine ⟨atomicOnFailure_setPassword, atomicOnFailure_createWallet stretchKey now,
    atomicUnlessTrue_restoreBackup codes stretchKey, atomicUnlessTrue_reset codes,
    fun password d hf => ?_⟩
  rcases login_session password d with h | ⟨info, d₁, hd, hs, hlock⟩
  · exact .inl h
  · refine .inr ⟨info, d₁, hd, ?_, hs⟩
    cases hb : info.bootlock
    · rfl
    · rw [hlock hb] at hf
      rcases hf with ⟨_, _, _, h⟩ | ⟨_, h⟩ <;> cases h

def unlockedInfoReply : JsonMap :=
  [("device", .obj [("serial", .str "s"), ("id", .str "i"), ("TFA", .str ""),
    ("bootlock", .bool false), ("name", .str "n"), ("sdcard", .bool true), ("lock", .bool false),
    ("U2F", .bool true), ("U2F_hijack", .bool true), ("version", .str "v3.0.0"),
    ("seeded", .bool true)])]

/-- A device that answers the device-info request and then fails. -/
def unlockedDevice : Device :=
  { communication := { sent := [], reply := fun sent =>
      if sent.length = 1 then .ok unlockedInfoReply else .error (.new "read failed") },
    bootloader := false, initialized := true, password := "", seeded := false }

/-- `Login` returns the lock's error, logged in and seeded. -/
theorem login_error_changes_session :
    (∃ e, (login "pw" unlockedDevice).1 = .ok (false, "", some e)) ∧
    (login "pw" unlockedDevice).2.session ≠ unlockedDevice.session :=
  ⟨⟨_, rfl⟩, by decide⟩

end BitboxWallet.Bitbox
