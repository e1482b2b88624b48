import BitboxWallet.Bitbox.Probe
import BitboxWallet.Bitbox.Calls
import BitboxWallet.Bitbox.Batches

/-! # A client's calls on a `Device`

The app calls the methods of a `Device` in any order; each returns its value or an error, and the
session goes on. On the session flags `(initialized, password, seeded)` every method is a step of
a small machine: most keep them, `SetPassword` and `Login` adopt a password, `CreateWallet` and
`RestoreBackup` set `seeded`, `Login` adopts the device's `seeded`, and `Reset` clears all three.
No method sets `initialized`: only `NewDevice` does.

A panic ends the program, and with it the run.
-/

namespace BitboxWallet.Bitbox

open DeviceM

/-- The parameters of the calls: the device error codes, the key stretching, and the key parsing
and printing of `hdkeychain`. -/
structure Env (Key : Type) where
  codes : ErrorCodes
  stretchKey : String → String
  newKeyFromString : String → Except Err Key
  keyString : Key → String

/-- The public methods of `Device`, with their arguments; `now` is the formatted time the method
reads. -/
inductive Call where
  | deviceInfo
  | ping
  | setPassword (password : String)
  | login (password : String)
  | createWallet (now walletName : String)
  | restoreBackup (backupPassword filename : String)
  | createBackup (now backupName : String)
  | setName (name : String)
  | blink
  | reset
  | xpub (path : String)
  | random (typ : String)
  | backupList
  | eraseBackup (filename : String)
  | unlockBootloader
  | lockBootloader
  | sign (signatureHashes : List (List UInt8)) (keyPaths : List String)

/-- A call whose value the client does not need here. -/
def ignore {α : Type} (x : DeviceM α) : DeviceM Unit := do
  let _ ← x
  pure ()

/-- What each method runs. -/
def Call.run {Key : Type} (env : Env Key) : Call → DeviceM Unit
  | .deviceInfo => ignore do
    let d ← get
    Bitbox.deviceInfo d.password
  | .ping => ignore Bitbox.ping
  | .setPassword password => Bitbox.setPassword password
  | .login password => ignore (Bitbox.login password)
  | .createWallet now walletName => Bitbox.createWallet env.stretchKey now walletName
  | .restoreBackup backupPassword filename =>
    ignore (Bitbox.restoreBackup env.codes env.stretchKey backupPassword filename)
  | .createBackup now backupName => Bitbox.createBackup env.stretchKey now backupName
  | .setName name => Bitbox.setName name
  | .blink => Bitbox.blink
  | .reset => ignore (Bitbox.reset env.codes)
  | .xpub path => ignore (Bitbox.xpub env.newKeyFromString env.keyString path)
  | .random typ => ignore (Bitbox.random typ)
  | .backupList => ignore Bitbox.backupList
  | .eraseBackup filename => Bitbox.eraseBackup filename
  | .unlockBootloader => Bitbox.unlockBootloader
  | .lockBootloader => Bitbox.lockBootloader
  | .sign signatureHashes keyPaths => ignore (Bitbox.sign signatureHashes keyPaths)

/-- The client's calls in order. An error is returned to the client and the next call runs; a
panic stops the run. -/
def runCalls {Key : Type} (env : Env Key) : List Call → DeviceM Unit
  | [] => pure ()
  | c :: cs => do
    let _ ← attempt (c.run env)
    runCalls env cs

/-! ## The session machine -/

inductive SessionStep : Call → Bool × String × Bool → Bool × String × Bool → Prop
  | keep {c : Call} {s : Bool × String × Bool} : SessionStep c s s
  | setPassword {password : String} {i : Bool} {p : String} {seeded : Bool} :
      SessionStep (.setPassword password) (i, p, seeded) (i, password, seeded)
  | login {password : String} {i : Bool} {p : String} {seeded seeded' : Bool} :
      SessionStep (.login password) (i, p, seeded) (i, password, seeded')
  | createWallet {now walletName : String} {i : Bool} {p : String} {seeded : Bool} :
      SessionStep (.createWallet now walletName) (i, p, seeded) (i, p, true)
  | restoreBackup {backupPassword filename : String} {i : Bool} {p : String} {seeded : Bool} :
      SessionStep (.restoreBackup backupPassword filename) (i, p, seeded) (i, p, true)
  | reset {s : Bool × String × Bool} : SessionStep .reset s (false, "", false)

inductive SessionRun : List Call → Bool × String × Bool → Bool × String × Bool → Prop
  | nil {s : Bool × String × Bool} : SessionRun [] s s
  | step {c : Call} {cs : List Call} {s s₁ s₂ : Bool × String × Bool} :
      SessionStep c s s₁ → SessionRun cs s₁ s₂ → SessionRun (c :: cs) s s₂
  | halt {c : Call} {cs : List Call} {s s₁ : Bool × String × Bool} :
      SessionStep c s s₁ → SessionRun (c :: cs) s s₁

/-- The calls that may move the session flags. -/
def Call.changesSession : Call → Bool
  | .setPassword _ | .login _ | .createWallet _ _ | .restoreBackup _ _ | .reset => true
  | _ => false

/-- The calls that may set `seeded`. -/
def Call.seeds : Call → Bool
  | .login _ | .createWallet _ _ | .restoreBackup _ _ => true
  | _ => false

/-- The password a call may adopt. -/
def Call.adopts : Call → Option String
  | .setPassword password | .login password => some password
  | _ => none

namespace SessionStep

variable {c : Call} {s s' : Bool × String × Bool}

theorem initialized (h : SessionStep c s s') : s'.1 = true → s.1 = true := by
  cases h <;> simp

theorem password (h : SessionStep c s s') :
    s'.2.1 = s.2.1 ∨ s'.2.1 = "" ∨ c.adopts = some s'.2.1 := by
  cases h <;> simp [Call.adopts]

theorem seeded (h : SessionStep c s s') : s'.2.2 = true → s.2.2 = true ∨ c.seeds = true := by
  cases h <;> first | exact .inl | exact fun _ => .inr rfl | simp

theorem eq_of_changesSession (h : SessionStep c s s') (hc : c.changesSession = false) : s' = s := by
  cases h <;> first | rfl | cases hc

end SessionStep

namespace SessionRun

variable {cs : List Call} {s s' : Bool × String × Bool}

theorem initialized (h : SessionRun cs s s') : s'.1 = true → s.1 = true := by
  induction h with
  | nil => exact id
  | step hc _ ih => exact hc.initialized ∘ ih
  | halt hc => exact hc.initialized

theorem password (h : SessionRun cs s s') :
    s'.2.1 = s.2.1 ∨ s'.2.1 = "" ∨ ∃ c ∈ cs, c.adopts = some s'.2.1 := by
  induction h with
  | nil => exact .inl rfl
  | @step c cs s s₁ s₂ hc _ ih =>
    rcases ih with h | h | ⟨c', hc', h⟩
    · rcases hc.password with h' | h' | h' <;> rw [← h] at h'
      · exact .inl h'
      · exact .inr (.inl h')
      · exact .inr (.inr ⟨c, List.mem_cons_self _ _, h'⟩)
    · exact .inr (.inl h)
    · exact .inr (.inr ⟨c', List.mem_cons_of_mem _ hc', h⟩)
  | @halt c cs s s₁ hc =>
    rcases hc.password with h | h | h
    · exact .inl h
    · exact .inr (.inl h)
    · exact .inr (.inr ⟨c, List.mem_cons_self _ _, h⟩)

theorem seeded (h : SessionRun cs s s') : s'.2.2 = true → s.2.2 = true ∨ ∃ c ∈ cs, c.seeds = true := by
  induction h with
  | nil => exact .inl
  | @step c cs s s₁ s₂ hc _ ih =>
    intro hs
    rcases ih hs with h | ⟨c', hc', h⟩
    · exact (hc.seeded h).imp_right fun h => ⟨c, List.mem_cons_self _ _, h⟩
    · exact .inr ⟨c', List.mem_cons_of_mem _ hc', h⟩
  | @halt c cs s s₁ hc => exact fun hs => (hc.seeded hs).imp_right fun h => ⟨c, List.mem_cons_self _ _, h⟩

theorem eq_of_changesSession (h : SessionRun cs s s') (hcs : ∀ c ∈ cs, c.changesSession = false) :
    s' = s := by
  induction h with
  | nil => rfl
  | step hc _ ih =>
    rw [ih fun c' h' => hcs c' (List.mem_cons_of_mem _ h'),
      hc.eq_of_changesSession (hcs _ (List.mem_cons_self _ _))]
  | halt hc => exact hc.eq_of_changesSession (hcs _ (List.mem_cons_self _ _))

end SessionRun

/-! ## The calls refine the machine -/

def MovesSession (c : Call) {α : Type} (x : DeviceM α) : Prop :=
  ∀ d, SessionStep c d.session (x d).2.session

namespace MovesSession

variable {c : Call} {α β : Type} {x : DeviceM α} {f : α → DeviceM β}

theorem of_keeps (hx : KeepsSession x) : MovesSession c x := fun d => hx d ▸ .keep

theorem bind (hx : KeepsSession x) (hf : ∀ a, MovesSession c (f a)) : MovesSession c (x >>= f) := by
  intro d
  rw [DeviceM.bind_apply, ← hx d]
  rcases x d with ⟨_ | a, d'⟩
  · exact .keep
  · exact hf a d'

theorem bind_keep (hx : MovesSession c x) (hf : ∀ a, KeepsSession (f a)) :
    MovesSession c (x >>= f) := by
  intro d
  have hxd := hx d
  rw [DeviceM.bind_apply]
  generalize x d = r at hxd ⊢
  rcases r with ⟨_ | a, d'⟩
  · exact hxd
  · exact hf a d' ▸ hxd

theorem ite {p : Prop} [Decidable p] {y : DeviceM α} (hx : MovesSession c x)
    (hy : MovesSession c y) : MovesSession c (if p then x else y) := by
  split
  · exact hx
  · exact hy

theorem modify {g : Device → Device} (hg : ∀ d, SessionStep c d.session (g d).session) :
    MovesSession c (DeviceM.modify g) := hg

theorem ignore (hx : MovesSession c x) : MovesSession c (Bitbox.ignore x) :=
  hx.bind_keep fun _ => .pure _

end MovesSession

theorem movesSession_setPassword (password : String) :
    MovesSession (.setPassword password) (setPassword password) :=
  .bind ((keepsSession_sendPlain _ _).withMessage _) fun _ =>
    .ite (.of_keeps (.fail _)) (.modify fun _ => .setPassword)

theorem movesSession_login (password : String) : MovesSession (.login password) (login password) := by
  intro d
  rcases login_session password d with h | ⟨info, _, _, h, _⟩ <;> rw [h]
  · exact .keep
  · exact .login

theorem movesSession_createWallet (stretchKey : String → String) (now walletName : String) :
    MovesSession (.createWallet now walletName) (createWallet stretchKey now walletName) := by
  unfold createWallet
  exact .ite (.of_keeps (.fail _)) (.bind .get fun _ =>
    .bind ((keepsSession_seed _ _ _ _ _).withMessage _) fun _ => .modify fun _ => .createWallet)

theorem movesSession_restoreBackup (codes : ErrorCodes) (stretchKey : String → String)
    (backupPassword filename : String) :
    MovesSession (.restoreBackup backupPassword filename)
      (restoreBackup codes stretchKey backupPassword filename) := by
  unfold restoreBackup
  refine .bind .get fun _ => .bind (keepsSession_seed _ _ _ _ _).attempt fun r => ?_
  rcases r with err | ⟨⟩
  · exact .of_keeps (.ite (.pure _) (.fail _))
  · exact .bind_keep (.modify fun _ => .restoreBackup) fun _ => .pure _

theorem movesSession_reset (codes : ErrorCodes) : MovesSession .reset (reset codes) := by
  unfold reset
  refine .bind .get fun _ => .bind (keepsSession_sendKV _ _ _).attempt fun r => ?_
  rcases r with err | reply
  · exact .of_keeps (.ite (.pure _) (.fail _))
  · exact .ite (.of_keeps (.fail _)) (.bind_keep (.modify fun _ => .reset) fun _ => .pure _)

theorem movesSession_run {Key : Type} (env : Env Key) : (c : Call) → MovesSession c (c.run env)
  | .deviceInfo => .ignore (.of_keeps (.bind .get fun _ => keepsSession_deviceInfo _))
  | .ping => .ignore (.of_keeps (.bind (keepsSession_sendPlain _ _) fun _ => .pure _))
  | .setPassword password => movesSession_setPassword password
  | .login password => .ignore (movesSession_login password)
  | .createWallet now walletName => movesSession_createWallet env.stretchKey now walletName
  | .restoreBackup backupPassword filename =>
    .ignore (movesSession_restoreBackup env.codes env.stretchKey backupPassword filename)
  | .createBackup now backupName => .of_keeps (keepsSession_createBackup _ now backupName)
  | .setName name => .of_keeps (keepsSession_setName name)
  | .blink => .of_keeps keepsSession_blink
  | .reset => .ignore (movesSession_reset env.codes)
  | .xpub path => .ignore (.of_keeps (keepsSession_xpub _ _ path))
  | .random typ => .ignore (.of_keeps (keepsSession_random typ))
  | .backupList => .ignore (.of_keeps keepsSession_backupList)
  | .eraseBackup filename => .of_keeps (keepsSession_eraseBackup filename)
  | .unlockBootloader => .of_keeps (keepsSession_bootloaderCommand _ _ _)
  | .lockBootloader => .of_keeps keepsSession_lockBootloader
  | .sign signatureHashes keyPaths => .ignore (.of_keeps fun d => by
    obtain ⟨sent, h⟩ := sign_record signatureHashes keyPaths d
    rw [h]
    rfl)

theorem attempt_snd {α : Type} (x : DeviceM α) (d : Device) : (attempt x d).2 = (x d).2 := by
  simp only [attempt]
  split <;> rename_i h <;> rw [h]

theorem runCalls_refines {Key : Type} (env : Env Key) (cs : List Call) (d : Device) :
    SessionRun cs d.session (runCalls env cs d).2.session := by
  induction cs generalizing d with
  | nil => exact .nil
  | cons c cs ih =>
    have hstep := movesSession_run env c d
    rw [← attempt_snd] at hstep
    rw [runCalls, DeviceM.bind_apply]
    generalize attempt (c.run env) d = r at hstep ⊢
    rcases r with ⟨_ | _, d'⟩
    · exact .halt hstep
    · exact .step hstep (ih d')

theorem initialized_of_status {d : Device} (h : status d = .initialized) : d.initialized = true := by
  unfold status at h
  split_ifs at h
  assumption

/-- Over every run of calls, whatever the device replies. No call turns `initialized` on, so a
session that is not initialized (after a `Reset`, say) never reports the status `initialized`
again. The password ends as it was, empty, or one a `SetPassword` or `Login` of the run was given.
The device ends seeded only if it was, or a `Login`, `CreateWallet` or `RestoreBackup` ran. Calls
that do not change the session keep all three flags. -/
theorem runCalls_session {Key : Type} (env : Env Key) (cs : List Call) (d : Device) :
    ((runCalls env cs d).2.initialized = true → d.initialized = true) ∧
    (status (runCalls env cs d).2 = .initialized → d.initialized = true) ∧
    ((runCalls env cs d).2.password = d.password ∨ (runCalls env cs d).2.password = "" ∨
      ∃ c ∈ cs, c.adopts = some (runCalls env cs d).2.password) ∧
    ((runCalls env cs d).2.seeded = true → d.seeded = true ∨ ∃ c ∈ cs, c.seeds = true) ∧
    ((∀ c ∈ cs, c.changesSession = false) → (runCalls env cs d).2.session = d.session) := by
  have hrun := runCalls_refines env cs d
  exact ⟨hrun.initialized, fun hs => hrun.initialized (initialized_of_status hs), hrun.password,
    hrun.seeded, hrun.eq_of_changesSession⟩

end BitboxWallet.Bitbox
