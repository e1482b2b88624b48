import BitboxWallet.Bitbox.Basic

/-! # The session calls of `Device`

`SetPassword`, `Login`, `CreateWallet`, `RestoreBackup` and `Reset` change the session flags;
`deviceInfo`, `seed` and the bootloader lock are the round trips they are built from.

The device error codes live in `error.go`, and the key stretching is PBKDF2; both are
parameters.
-/

namespace BitboxWallet.Bitbox

open DeviceM

/-- The device error codes the session tests for. -/
structure ErrorCodes where
  touchAbort : Int
  touchTimeout : Int
  sdCard : Int
  initializing : Int

/-- `DeviceInfo`, as `deviceInfo` fills it in. -/
structure DeviceInfo where
  version : String
  serial : String
  id : String
  tfa : String
  bootlock : Bool
  name : String
  sdCard : Bool
  lock : Bool
  u2f : Bool
  u2fHijack : Bool
  seeded : Bool

inductive Status where
  | bootloader
  | seeded
  | loggedIn
  | initialized
  | uninitialized
  deriving DecidableEq

/-- `Status()`: bootloader, then seeded, then logged in, then initialized. -/
def status (d : Device) : Status :=
  if d.bootloader then .bootloader
  else if d.seeded then .seeded
  else if d.password ≠ "" then .loggedIn
  else if d.initialized then .initialized
  else .uninitialized

def deviceInfo (password : String) : DeviceM DeviceInfo := do
  let reply ← sendKV "device" "info" password
  let some device := reply.map? "device" | fail (.new "unexpected reply")
  let some serial := device.string? "serial" | fail (.new "no serial")
  let some id := device.string? "id" | fail (.new "no id")
  let some tfa := device.string? "TFA" | fail (.new "no TFA")
  let some bootlock := device.bool? "bootlock" | fail (.new "no bootlock")
  let some name := device.string? "name" | fail (.new "device name")
  let some sdCard := device.bool? "sdcard" | fail (.new "SD card")
  let some lock := device.bool? "lock" | fail (.new "lock")
  let some u2f := device.bool? "U2F" | fail (.new "U2F")
  let some u2fHijack := device.bool? "U2F_hijack" | fail (.new "U2F_hijack")
  let some version := device.string? "version" | fail (.new "version")
  let some seeded := device.bool? "seeded" | fail (.new "version")
  pure { version, serial, id, tfa, bootlock, name, sdCard, lock, u2f, u2fHijack, seeded }

/-- `SetPassword`. -/
def setPassword (password : String) : DeviceM Unit := do
  let reply ← (sendPlain "password" password).withMessage "Failed to set password"
  if reply.string? "password" ≠ some "success" then fail (.new "Unexpected reply")
  else modify fun d => { d with password }

/-- `LockBootloader` and `UnlockBootloader`: send `{"bootloader": value}`, expect it echoed. -/
def bootloaderCommand (value failMessage replyMessage : String) : DeviceM Unit := do
  let d ← get
  let reply ← (sendKV "bootloader" value d.password).withMessage failMessage
  if reply.string? "bootloader" ≠ some value then fail (.new replyMessage) else pure ()

def lockBootloader : DeviceM Unit :=
  bootloaderCommand "lock" "Failed to lock bootloader" "Unexpected reply: field 'bootloader' is missing"

def unlockBootloader : DeviceM Unit :=
  bootloaderCommand "unlock" "Failed to unlock bootloader" "unexpected reply"

/-- `strings.Contains`. -/
def containsText (s sub : String) : Bool := s.toList.tails.any (sub.toList.isPrefixOf ·)

/-- The digits a match of `(\d+) attempts remain before` starting here captures. -/
def attemptsAt (s : List Char) : Option (List Char) :=
  let digits := s.takeWhile Char.isDigit
  if digits ≠ [] ∧ " attempts remain before".toList.isPrefixOf (s.drop digits.length) then
    some digits
  else none

/-- `FindStringSubmatch` of `(\d+) attempts remain before`, group 1: the leftmost match. -/
def findAttempts : List Char → Option (List Char)
  | [] => none
  | c :: cs =>
    match attemptsAt (c :: cs) with
    | some digits => some digits
    | none => findAttempts cs

/-- `Login`: whether the next attempt needs a long touch, the attempts left, and the error. A
failed device-info call is parsed for both when it is a device error. -/
def login (password : String) : DeviceM (Bool × String × Option Err) := do
  match ← attempt (deviceInfo password) with
  | .error err =>
    match err.cause with
    | .dbb code message =>
      let text := (Err.dbb code message).error
      pure (containsText text "next", String.mk ((findAttempts text.toList).getD []), some err)
    | _ => pure (false, "", some err)
  | .ok info =>
    modify fun d => { d with password, seeded := info.seeded }
    if !info.bootlock then
      match ← attempt lockBootloader with
      | .error err => pure (false, "", some err)
      | .ok () => pure (false, "", none)
    else pure (false, "", none)

/-- `seed`, with `stretchKey` the PBKDF2 stretching of the backup password. -/
def seed (stretchKey : String → String) (devicePassword backupPassword source filename : String) :
    DeviceM Unit :=
  if source ≠ "create" ∧ source ≠ "backup" ∧ source ≠ "U2F_create" ∧ source ≠ "U2F_load" then
    DeviceM.panic "source must be \"create\", \"backup\", \"U2F_create\" or \"U2F_load\""
  else do
    let key := stretchKey backupPassword
    let reply ← (send (.obj [("seed", .obj [("filename", .str filename), ("key", .str key),
      ("source", .str source)])]) devicePassword).withMessage "Failed to create or backup wallet (seed)"
    if reply.string? "seed" ≠ some "success" then fail (.new "Unexpected result") else pure ()

/-- `backupFilename`, with `now` the formatted current time. -/
def backupFilename (backupName now : String) : String := backupName ++ "-" ++ now ++ ".pdf"

/-- A name matching `^[0-9a-zA-Z-_ ]{1,31}$`. -/
def validName (name : String) : Bool :=
  1 ≤ name.length && name.length ≤ 31 &&
    name.all fun c => c.isDigit || c.isAlpha || c = '-' || c = '_' || c = ' '

/-- `CreateWallet`. -/
def createWallet (stretchKey : String → String) (now walletName : String) : DeviceM Unit :=
  if !validName walletName then fail (.new "invalid wallet name")
  else do
    let d ← get
    (seed stretchKey d.password d.password "create" (backupFilename walletName now)).withMessage
      "Failed to create wallet"
    modify fun d => { d with seeded := true }

/-- `IsErrorAbort`: the user aborted, or the touch timed out. -/
def isErrorAbort (codes : ErrorCodes) (err : Err) : Bool :=
  match err.cause with
  | .dbb code _ => code == codes.touchAbort || code == codes.touchTimeout
  | _ => false

/-- `IsErrorSDCard`: the SD card was not inserted. -/
def isErrorSDCard (codes : ErrorCodes) (err : Err) : Bool :=
  match err.cause with
  | .dbb code _ => code == codes.sdCard
  | _ => false

/-- `RestoreBackup`: `true` if restored, `false` if the user aborted. -/
def restoreBackup (codes : ErrorCodes) (stretchKey : String → String)
    (backupPassword filename : String) : DeviceM Bool := do
  let d ← get
  match ← attempt (seed stretchKey d.password backupPassword "backup" filename) with
  | .error err => if isErrorAbort codes err then pure false else fail err
  | .ok () =>
    modify fun d => { d with seeded := true }
    pure true

/-- `Reset`: `true` if erased, `false` if the user aborted. -/
def reset (codes : ErrorCodes) : DeviceM Bool := do
  let d ← get
  match ← attempt (sendKV "reset" "__ERASE__" d.password) with
  | .error err => if isErrorAbort codes err then pure false else fail err
  | .ok reply =>
    if reply.string? "reset" ≠ some "success" then fail (.new "unexpected reply")
    else do
      modify fun d => { d with password := "", seeded := false, initialized := false }
      pure true

/-! ## What a failed `Login` reports -/

theorem attemptsAt_of_not_isDigit {c : Char} (cs : List Char) (hc : c.isDigit = false) :
    attemptsAt (c :: cs) = none := by
  simp [attemptsAt, List.takeWhile_cons, hc]

theorem findAttempts_append_of_no_digit {pre : List Char} (rest : List Char)
    (hpre : ∀ c ∈ pre, c.isDigit = false) : findAttempts (pre ++ rest) = findAttempts rest := by
  induction pre with
  | nil => rfl
  | cons c pre ih =>
    rw [List.forall_mem_cons] at hpre
    rw [List.cons_append, findAttempts, attemptsAt_of_not_isDigit _ hpre.1, ih hpre.2]

theorem findAttempts_stated {digits : List Char} (post : List Char) (hne : digits ≠ [])
    (hdigits : ∀ c ∈ digits, c.isDigit = true) :
    findAttempts (digits ++ " attempts remain before".toList ++ post) = some digits := by
  have hstop : (" attempts remain before".toList ++ post).takeWhile Char.isDigit = [] := rfl
  have htake : (digits ++ (" attempts remain before".toList ++ post)).takeWhile Char.isDigit =
      digits := by
    rw [List.takeWhile_append_of_pos hdigits, hstop, List.append_nil]
  have hat : attemptsAt (digits ++ (" attempts remain before".toList ++ post)) = some digits := by
    simp only [attemptsAt, htake, List.drop_left]
    rw [if_pos ⟨hne, List.isPrefixOf_iff_prefix.2 (List.prefix_append _ _)⟩]
  obtain ⟨c, cs, rfl⟩ := List.exists_cons_of_ne_nil hne
  rw [List.append_assoc, List.cons_append, findAttempts, ← List.cons_append, hat]

/-- The device-info request of `Login`. -/
def deviceInfoRequest (password : String) : Request :=
  .encrypt (.obj [("device", .str "info")]) password

/-- `Login` when the device answers its device-info request with a device error: the session is
left as it was, with the request recorded, and the call returns the error with what its text
says. When the text states `N attempts remain before` with no digit ahead of it, `N` is the
number of attempts left; a text without digits reports none. Whether the next attempt needs a
long touch is whether the text says `next`. -/
theorem login_reports_attempts (password : String) (d : Device) (code : Int) (message : String)
    (hreply : d.communication.reply (d.communication.sent ++ [deviceInfoRequest password]) =
      .error (.dbb code message)) :
    (login password d).2 = d.record [deviceInfoRequest password] ∧
    (∀ pre digits post, message.toList = pre ++ digits ++ " attempts remain before".toList ++ post →
      (∀ c ∈ pre, c.isDigit = false) → digits ≠ [] → (∀ c ∈ digits, c.isDigit = true) →
      (login password d).1 =
        .ok (containsText message "next", String.mk digits, some (.dbb code message))) ∧
    ((∀ c ∈ message.toList, c.isDigit = false) →
      (login password d).1 = .ok (containsText message "next", "", some (.dbb code message))) := by
  have hlogin : login password d = (.ok (containsText message "next",
      String.mk ((findAttempts message.toList).getD []), some (.dbb code message)),
      d.record [deviceInfoRequest password]) := by
    simp only [login, deviceInfo, sendKV, send, DeviceM.bind_apply, DeviceM.attempt, call_apply]
    rw [← deviceInfoRequest, hreply]
    rfl
  refine ⟨by rw [hlogin], fun pre digits post hmessage hpre hne hdigits => ?_, fun hno => ?_⟩
  · rw [hlogin, hmessage, List.append_assoc, List.append_assoc, findAttempts_append_of_no_digit _ hpre,
      ← List.append_assoc, findAttempts_stated _ hne hdigits]
    rfl
  · rw [hlogin, ← List.append_nil message.toList, findAttempts_append_of_no_digit _ hno]
    rfl

def wrongPasswordText : String := "Wrong password. 2 attempts remain before the device is reset."

def wrongPasswordDevice : Device where
  communication := { sent := [], reply := fun _ => .error (.dbb 102 wrongPasswordText) }
  bootloader := false
  initialized := true
  password := ""
  seeded := false

theorem login_reports_attempts_two :
    wrongPasswordDevice.communication.reply
        (wrongPasswordDevice.communication.sent ++ [deviceInfoRequest "pw"]) =
      .error (.dbb 102 wrongPasswordText) ∧
    ((login "pw" wrongPasswordDevice).2 = wrongPasswordDevice.record [deviceInfoRequest "pw"] ∧
    (∀ pre digits post,
      wrongPasswordText.toList = pre ++ digits ++ " attempts remain before".toList ++ post →
      (∀ c ∈ pre, c.isDigit = false) → digits ≠ [] → (∀ c ∈ digits, c.isDigit = true) →
      (login "pw" wrongPasswordDevice).1 = .ok (containsText wrongPasswordText "next",
        String.mk digits, some (.dbb 102 wrongPasswordText))) ∧
    ((∀ c ∈ wrongPasswordText.toList, c.isDigit = false) →
      (login "pw" wrongPasswordDevice).1 =
        .ok (containsText wrongPasswordText "next", "", some (.dbb 102 wrongPasswordText)))) :=
  have h : wrongPasswordDevice.communication.reply
      (wrongPasswordDevice.communication.sent ++ [deviceInfoRequest "pw"]) =
    .error (.dbb 102 wrongPasswordText) := rfl
  ⟨h, login_reports_attempts "pw" wrongPasswordDevice 102 wrongPasswordText h⟩

example : findAttempts wrongPasswordText.toList = some ['2'] ∧
    containsText wrongPasswordText "next" = false := by decide

end BitboxWallet.Bitbox
