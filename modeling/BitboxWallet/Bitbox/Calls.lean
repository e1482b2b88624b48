import BitboxWallet.Bitbox.Atomicity
import BitboxWallet.Bitbox.Sign

/-! # The other device calls

`SetName`, `CreateBackup`, `EraseBackup`, `Blink`, `XPub`, `Random` and `BackupList` are round
trips that check the reply; none of them touches the session flags. `XPub` asks the device twice
and returns the key only when both answers agree.

`hdkeychain.NewKeyFromString` and the key's `String()` are parameters.
-/

namespace BitboxWallet.Bitbox

open DeviceM

/-- A round trip whose reply must carry `field: expected`: `CreateBackup` and `EraseBackup`. -/
def sendChecked (value : Json) (failMessage field expected replyMessage : String) :
    DeviceM Unit := do
  let d ← get
  let reply ← (send value d.password).withMessage failMessage
  if reply.string? field ≠ some expected then fail (.new replyMessage) else pure ()

/-- `SetName`. It also rejects an empty name in the reply, which the comparison already does. -/
def setName (name : String) : DeviceM Unit :=
  if !validName name then fail (.new "Invalid device name")
  else do
    let d ← get
    let reply ← (send (.obj [("name", .str name)]) d.password).withMessage "Failed to set name"
    match reply.string? "name" with
    | some newName =>
      if newName = "" ∨ newName ≠ name then fail (.new "unexpected result") else pure ()
    | none => fail (.new "unexpected result")

/-- `CreateBackup`, with `stretchKey` the PBKDF2 stretching and `now` the formatted time. -/
def createBackup (stretchKey : String → String) (now backupName : String) : DeviceM Unit := do
  let d ← get
  sendChecked (.obj [("backup", .obj [("key", .str (stretchKey d.password)),
      ("filename", .str (backupFilename backupName now))])])
    "Failed to create backup" "backup" "success" "Unexpected result: backup != success"

/-- `EraseBackup`. -/
def eraseBackup (filename : String) : DeviceM Unit :=
  sendChecked (.obj [("backup", .obj [("erase", .str filename)])]) "Failed to erase backup"
    "backup" "success" "Unexpected result: field 'backup' is missing"

/-- `Blink`. -/
def blink : DeviceM Unit := do
  let d ← get
  let _ ← (sendKV "led" "abort" d.password).withMessage "Failed to blink"
  pure ()

section XPub

variable {Key : Type} (newKeyFromString : String → Except Err Key) (keyString : Key → String)

/-- The `getXPub` closure of `XPub`. -/
def getXPub (path : String) : DeviceM Key := do
  let d ← get
  let reply ← sendKV "xpub" path d.password
  match reply.string? "xpub" with
  | none => fail (.new "Unexpected reply")
  | some xpubStr =>
    match newKeyFromString xpubStr with
    | .error err => fail err
    | .ok key => pure key

/-- `XPub`: the device is asked twice, to catch a hardware error. -/
def xpub (path : String) : DeviceM Key := do
  let xpub1 ← getXPub newKeyFromString path
  let xpub2 ← getXPub newKeyFromString path
  if keyString xpub1 ≠ keyString xpub2 then
    fail (.new "Critical: the device returned inconsistent xpubs")
  else pure xpub1

end XPub

/-- `Random`. -/
def random (typ : String) : DeviceM String :=
  if typ ≠ "true" ∧ typ ≠ "pseudo" then DeviceM.panic "Type must be 'true' or 'pseudo'"
  else do
    let d ← get
    let reply ← (sendKV "random" typ d.password).withMessage "Failed to generate random"
    match reply.string? "random" with
    | none => fail (.new "unexpected reply")
    | some rand =>
      if (goBytes rand).length ≠ 32 then
        fail (.new ("unexpected length, expected 32, got " ++ toString (goBytes rand).length))
      else pure rand

/-- The loop over the `backup` array of `BackupList`: every entry must be a string. -/
def filenameStrings : List Json → Option (List String)
  | [] => some []
  | .str filename :: filenames => (filenameStrings filenames).map (filename :: ·)
  | _ :: _ => none

/-- `BackupList`. -/
def backupList : DeviceM (List String) := do
  let d ← get
  let reply ← (sendKV "backup" "list" d.password).withMessage "Failed to retrieve list of backups"
  match reply.array? "backup" with
  | none => fail (.new "unexpected reply")
  | some filenames =>
    match filenameStrings filenames with
    | none => fail (.new "unexpected reply")
    | some names => pure names

/-! ## The session -/

theorem keepsSession_send (value : Json) (password : String) : KeepsSession (send value password) :=
  KeepsSession.call _

theorem keepsSession_sendChecked (value : Json) (failMessage field expected replyMessage : String) :
    KeepsSession (sendChecked value failMessage field expected replyMessage) :=
  .bind .get fun _ => .bind ((keepsSession_send _ _).withMessage _) fun _ => .ite (.fail _) (.pure _)

theorem keepsSession_setName (name : String) : KeepsSession (setName name) := by
  unfold setName
  refine .ite (.fail _) (.bind .get fun _ => .bind ((keepsSession_send _ _).withMessage _) fun _ => ?_)
  split
  · exact .ite (.fail _) (.pure _)
  · exact .fail _

theorem keepsSession_createBackup (stretchKey : String → String) (now backupName : String) :
    KeepsSession (createBackup stretchKey now backupName) :=
  .bind .get fun _ => keepsSession_sendChecked _ _ _ _ _

theorem keepsSession_eraseBackup (filename : String) : KeepsSession (eraseBackup filename) :=
  keepsSession_sendChecked _ _ _ _ _

theorem keepsSession_blink : KeepsSession blink :=
  .bind .get fun _ => .bind ((keepsSession_sendKV _ _ _).withMessage _) fun _ => .pure _

theorem keepsSession_getXPub {Key : Type} (newKeyFromString : String → Except Err Key)
    (path : String) : KeepsSession (getXPub newKeyFromString path) := by
  refine .bind .get fun _ => .bind (keepsSession_sendKV _ _ _) fun reply => ?_
  split
  · exact .fail _
  · split
    · exact .fail _
    · exact .pure _

theorem keepsSession_xpub {Key : Type} (newKeyFromString : String → Except Err Key)
    (keyString : Key → String) (path : String) :
    KeepsSession (xpub newKeyFromString keyString path) :=
  .bind (keepsSession_getXPub _ _) fun _ => .bind (keepsSession_getXPub _ _) fun _ =>
    .ite (.fail _) (.pure _)

theorem keepsSession_random (typ : String) : KeepsSession (random typ) := by
  unfold random
  refine .ite (fun _ => rfl) (.bind .get fun _ => .bind ((keepsSession_sendKV _ _ _).withMessage _)
    fun reply => ?_)
  split
  · exact .fail _
  · exact .ite (.fail _) (.pure _)

theorem keepsSession_backupList : KeepsSession backupList := by
  refine .bind .get fun _ => .bind ((keepsSession_sendKV _ _ _).withMessage _) fun reply => ?_
  split
  · exact .fail _
  · split
    · exact .fail _
    · exact .pure _

end BitboxWallet.Bitbox
