import BitboxWallet.Usb.RoundTrip
import BitboxWallet.Usb.Censor

/-! # Plain and encrypted round trips

`SendPlain` writes a message as one frame, reads one frame back and decodes it; a reply with an
`error` object is a device error. `SendEncrypt` encrypts the message under the double SHA-256 of
the password and sends it with `SendPlain`. A reply with a `ciphertext` string is decrypted and
decoded. Any other reply is taken as it is.

JSON, the hash, AES and the trimming of the reply are parameters. The device is seen through
its `Write` answers and the stream of its `Read` results.
-/

namespace BitboxWallet.Usb

open Bitbox

/-- The libraries below the communication layer. `debug` is
`logging.Log.Level >= logrus.DebugLevel`; `trimSpace` is `bytes.TrimRightFunc` with
`unicode.IsSpace(r) || r == 0`. -/
structure Library where
  debug : Bool
  unmarshal : List UInt8 → Except String JsonMap
  marshal : JsonMap → Except String String
  trimSpace : List UInt8 → List UInt8
  doubleHashB : List UInt8 → List UInt8
  encrypt : List UInt8 → List UInt8 → Except String (List UInt8)
  decrypt : List UInt8 → String → Except String (List UInt8)

/-- `maybeDBBErr`: a reply with an `error` object is a device error. -/
def maybeDBBErr (jsonResult : JsonMap) : Option Err :=
  match jsonResult.map? "error" with
  | none => none
  | some errMap =>
    match errMap.string? "message" with
    | none => some (.new "Unexpected reply")
    | some errMsg =>
      match errMap.num? "code" with
      | none => some (.new "Unexpected reply")
      | some errCode => some (.dbb errCode errMsg)

/-- `if err != nil { return nil, err }`. -/
def failOn : Option Err → Except Err Unit
  | some err => .error err
  | none => .ok ()

section Send

variable (lib : Library)

/-- `logCensoredCmd` with the library's logger and JSON. -/
def Library.log (msg : List UInt8) (receiving : Bool) : Except Err (Option LogLine) :=
  logCensoredCmd lib.debug lib.unmarshal lib.marshal msg receiving

/-- `SendPlain`: the reply, and the reads after its frame. The first `logCensoredCmd` only picks
what is logged, so it is left out. -/
def sendPlain (write : List UInt8 → Option String) (reads : List ReadResult) (msg : List UInt8) :
    Except Err (JsonMap × List ReadResult) := do
  failOn ((sendFrame write msg).2.map .new)
  let (reply, rest) ← (readFrame reads).mapError .new
  let reply := lib.trimSpace reply
  let _ ← lib.log reply true
  let jsonResult ← (lib.unmarshal reply).mapError fun err =>
    .withMessage (.new err) "Failed to unmarshal reply"
  failOn (maybeDBBErr jsonResult)
  pure (jsonResult, rest)

/-- The `if cipherText, ok := jsonResult["ciphertext"].(string)` block of `SendEncrypt`. -/
def openReply (secret : List UInt8) (jsonResult : JsonMap) : Except Err JsonMap :=
  match jsonResult.string? "ciphertext" with
  | none => pure jsonResult
  | some cipherText => do
    let plainText ← (lib.decrypt secret cipherText).mapError fun err =>
      .withMessage (.new err) "Failed to decrypt reply"
    let _ ← lib.log plainText true
    (lib.unmarshal plainText).mapError fun err =>
      .withMessage (.new err) "Failed to unmarshal reply"

/-- `SendEncrypt`. -/
def sendEncrypt (write : List UInt8 → Option String) (reads : List ReadResult)
    (msg password : List UInt8) : Except Err (JsonMap × List ReadResult) := do
  let _ ← (lib.log msg false).mapError (.withMessage · "Invalid JSON passed. Continuing anyway")
  let secret := lib.doubleHashB password
  let cipherText ← (lib.encrypt secret msg).mapError fun err =>
    .withMessage (.new err) "Failed to encrypt command"
  let (jsonResult, rest) ← (sendPlain lib write reads cipherText).mapError
    (.withMessage · "Failed to send cipher text")
  let jsonResult ← openReply lib secret jsonResult
  failOn (maybeDBBErr jsonResult)
  pure (jsonResult, rest)

/-! ## What a successful call read -/

section Except

variable {ε ε' α β : Type}

theorem bind_eq_ok {x : Except ε α} {f : α → Except ε β} {b : β} :
    x >>= f = .ok b ↔ ∃ a, x = .ok a ∧ f a = .ok b := by
  cases x <;> simp [bind, Except.bind]

theorem mapError_eq_ok {x : Except ε α} {g : ε → ε'} {a : α} :
    x.mapError g = .ok a ↔ x = .ok a := by
  cases x <;> simp [Except.mapError]

theorem pure_eq_ok {a b : α} : (pure a : Except ε α) = .ok b ↔ a = b := by
  simp [pure, Except.pure]

end Except

theorem failOn_eq_ok {o : Option Err} {u : Unit} : failOn o = .ok u ↔ o = none := by
  cases o <;> simp [failOn]

theorem sendPlain_eq_ok {write : List UInt8 → Option String} {reads rest : List ReadResult}
    {msg : List UInt8} {jsonResult : JsonMap}
    (h : sendPlain lib write reads msg = .ok (jsonResult, rest)) :
    ∃ frame, (sendFrame write msg).2 = none ∧ readFrame reads = .ok (frame, rest) ∧
      lib.unmarshal (lib.trimSpace frame) = .ok jsonResult ∧ maybeDBBErr jsonResult = none := by
  simp only [sendPlain, bind_eq_ok, mapError_eq_ok, failOn_eq_ok, pure_eq_ok,
    Option.map_eq_none', Prod.mk.injEq] at h
  obtain ⟨-, h1, ⟨frame, _⟩, h2, -, -, _, h4, -, h5, rfl, rfl⟩ := h
  exact ⟨frame, h1, h2, h4, h5⟩

theorem openReply_eq_ok {secret : List UInt8} {jsonResult result : JsonMap}
    (h : openReply lib secret jsonResult = .ok result) :
    (∃ cipherText plainText, jsonResult.string? "ciphertext" = some cipherText ∧
        lib.decrypt secret cipherText = .ok plainText ∧ lib.unmarshal plainText = .ok result) ∨
      jsonResult.string? "ciphertext" = none ∧ result = jsonResult := by
  unfold openReply at h
  split at h
  · exact .inr ⟨‹_›, (pure_eq_ok.1 h).symm⟩
  · simp only [bind_eq_ok, mapError_eq_ok] at h
    obtain ⟨plainText, hd, -, -, hu⟩ := h
    exact .inl ⟨_, plainText, ‹_›, hd, hu⟩

/-- What a successful `SendEncrypt` returns. The message went out encrypted under
`DoubleHashB(password)` as one frame, and one frame came back that decodes to a reply with no
device error. If the reply has a `ciphertext` string, the result is the decoded decryption of
it. Otherwise the result is the plain reply itself. Either way the result carries no device
error. -/
theorem sendEncrypt_result {write : List UInt8 → Option String} {reads rest : List ReadResult}
    {msg password : List UInt8} {result : JsonMap}
    (h : sendEncrypt lib write reads msg password = .ok (result, rest)) :
    ∃ cipherText frame reply, lib.encrypt (lib.doubleHashB password) msg = .ok cipherText ∧
      (sendFrame write cipherText).2 = none ∧ readFrame reads = .ok (frame, rest) ∧
      lib.unmarshal (lib.trimSpace frame) = .ok reply ∧ maybeDBBErr reply = none ∧
      maybeDBBErr result = none ∧
      ((∃ c plainText, reply.string? "ciphertext" = some c ∧
          lib.decrypt (lib.doubleHashB password) c = .ok plainText ∧
          lib.unmarshal plainText = .ok result) ∨
        reply.string? "ciphertext" = none ∧ result = reply) := by
  simp only [sendEncrypt, bind_eq_ok, mapError_eq_ok, failOn_eq_ok, pure_eq_ok,
    Prod.mk.injEq] at h
  obtain ⟨-, -, cipherText, he, ⟨reply, _⟩, hp, _, ho, -, hr, rfl, rfl⟩ := h
  obtain ⟨frame, h1, h2, h4, h5⟩ := sendPlain_eq_ok lib hp
  exact ⟨cipherText, frame, reply, he, h1, h2, h4, h5, hr, openReply_eq_ok lib ho⟩

end Send

theorem sendFrame_writeOk_snd (m : List UInt8) : (sendFrame writeOk m).2 = none := by
  unfold sendFrame
  split <;> simp [writeReports_writeOk]

/-- The text `{"xpub":"x"}`. -/
def xpubText : List UInt8 := [0x7b, 0x22, 0x78, 0x70, 0x75, 0x62, 0x22, 0x3a, 0x22, 0x78, 0x22, 0x7d]

def unmarshalXpub (text : List UInt8) : Except String JsonMap :=
  if text = xpubText then .ok [("xpub", .str "x")] else .error "invalid character"

/-- A library that reads `{"xpub":"x"}`, does not trim it, and encrypts every message to
`cipherText`; its hash, decryption and `Marshal` are any. -/
def xpubLibrary (marshal : JsonMap → Except String String) (doubleHashB : List UInt8 → List UInt8)
    (decrypt : List UInt8 → String → Except String (List UInt8)) (cipherText : List UInt8) :
    Library where
  debug := false
  unmarshal := unmarshalXpub
  marshal := marshal
  trimSpace := id
  doubleHashB := doubleHashB
  encrypt _ _ := .ok cipherText
  decrypt := decrypt

theorem sendEncrypt_plain_reply (marshal : JsonMap → Except String String)
    (doubleHashB : List UInt8 → List UInt8)
    (decrypt : List UInt8 → String → Except String (List UInt8))
    (cipherText msg password : List UInt8) :
    sendEncrypt (xpubLibrary marshal doubleHashB decrypt cipherText) writeOk
      [.ok ([0xff, 0, 0, 0, 0xc1, 0, 12] ++ xpubText)] msg password =
      .ok ([("xpub", .str "x")], []) := by
  simp only [sendEncrypt, sendPlain, sendFrame_writeOk_snd]
  rfl

/-- The message `{}` sent under the empty password: the device answers `{"xpub":"x"}` in plain
text, and `SendEncrypt` returns it. -/
theorem sendEncrypt_accepts_plain_reply :
    sendEncrypt
        (xpubLibrary (fun _ => .ok "") id (fun _ _ => .error "cipher: message authentication failed")
          [0x41]) writeOk [.ok ([0xff, 0, 0, 0, 0xc1, 0, 12] ++ xpubText)] [0x7b, 0x7d] [] =
      .ok ([("xpub", .str "x")], []) :=
  sendEncrypt_plain_reply _ _ _ _ _ _

def cipherReplyText : List UInt8 :=
  [0x7b, 0x22, 0x63, 0x69, 0x70, 0x68, 0x65, 0x72, 0x74, 0x65, 0x78, 0x74, 0x22, 0x3a, 0x22, 0x63,
    0x22, 0x7d]

def cipherLibrary : Library where
  debug := false
  unmarshal text := if text = cipherReplyText then .ok [("ciphertext", .str "c")]
    else unmarshalXpub text
  marshal _ := .ok ""
  trimSpace := id
  doubleHashB := id
  encrypt _ msg := .ok (0x41 :: msg)
  decrypt _ c := if c = "c" then .ok xpubText else .error "cipher: message authentication failed"

theorem sendEncrypt_result_ciphertext :
    sendEncrypt cipherLibrary writeOk [.ok ([0xff, 0, 0, 0, 0xc1, 0, 18] ++ cipherReplyText)]
      [0x7b, 0x7d] [] = .ok ([("xpub", .str "x")], []) ∧
    ∃ cipherText frame reply, cipherLibrary.encrypt (cipherLibrary.doubleHashB []) [0x7b, 0x7d] =
        .ok cipherText ∧
      (sendFrame writeOk cipherText).2 = none ∧
      readFrame [.ok ([0xff, 0, 0, 0, 0xc1, 0, 18] ++ cipherReplyText)] = .ok (frame, []) ∧
      cipherLibrary.unmarshal (cipherLibrary.trimSpace frame) = .ok reply ∧
      maybeDBBErr reply = none ∧ maybeDBBErr [("xpub", .str "x")] = none ∧
      ((∃ c plainText, reply.string? "ciphertext" = some c ∧
          cipherLibrary.decrypt (cipherLibrary.doubleHashB []) c = .ok plainText ∧
          cipherLibrary.unmarshal plainText = .ok [("xpub", .str "x")]) ∨
        reply.string? "ciphertext" = none ∧ [("xpub", .str "x")] = reply) := by
  have h : sendEncrypt cipherLibrary writeOk [.ok ([0xff, 0, 0, 0, 0xc1, 0, 18] ++ cipherReplyText)]
      [0x7b, 0x7d] [] = .ok ([("xpub", .str "x")], []) := by
    simp only [sendEncrypt, sendPlain, sendFrame_writeOk_snd]
    rfl
  exact ⟨h, sendEncrypt_result cipherLibrary h⟩

/-! ## The logging level -/

section LogLevel

variable (lib : Library)

@[simp] theorem Library.log_debug_false (msg : List UInt8) (receiving : Bool) :
    ({ lib with debug := false } : Library).log msg receiving = .ok none := rfl

theorem sendPlain_debug_false {write : List UInt8 → Option String} {reads : List ReadResult}
    {msg : List UInt8} {r : JsonMap × List ReadResult} (h : sendPlain lib write reads msg = .ok r) :
    sendPlain { lib with debug := false } write reads msg = .ok r := by
  obtain ⟨json, rest⟩ := r
  obtain ⟨frame, h1, h2, h4, h5⟩ := sendPlain_eq_ok lib h
  simp only [sendPlain, h1, h2, Library.log_debug_false]
  simp [h4, h5, bind, Except.bind, failOn, Except.mapError, pure, Except.pure]

theorem openReply_debug_false {secret : List UInt8} {jsonResult result : JsonMap}
    (h : openReply lib secret jsonResult = .ok result) :
    openReply { lib with debug := false } secret jsonResult = .ok result := by
  rcases openReply_eq_ok lib h with ⟨cipherText, plainText, hc, hd, hu⟩ | ⟨hc, rfl⟩
  · simp [openReply, hc, hd, hu, bind, Except.bind, Except.mapError]
  · simp [openReply, hc, pure, Except.pure]

end LogLevel

/-- The logging level changes what `SendEncrypt` does. With debug logging on, a message that is
not JSON is rejected before it is encrypted, whatever the device would answer. Turning debug
logging off never changes a successful result. -/
theorem sendEncrypt_log_level (lib : Library) (write : List UInt8 → Option String)
    (reads : List ReadResult) (msg password : List UInt8) :
    (lib.debug = true → (∃ e, lib.unmarshal msg = .error e) →
      sendEncrypt lib write reads msg password =
        .error (.withMessage (.new "Failed to unmarshal message") "Invalid JSON passed. Continuing anyway")) ∧
    (∀ r, sendEncrypt lib write reads msg password = .ok r →
      sendEncrypt { lib with debug := false } write reads msg password = .ok r) := by
  refine ⟨fun hdebug ⟨e, he⟩ => ?_, fun ⟨result, rest⟩ h => ?_⟩
  · simp [sendEncrypt, Library.log, logCensoredCmd, hdebug, he, bind, Except.bind, Except.mapError]
  · simp only [sendEncrypt, bind_eq_ok, mapError_eq_ok, failOn_eq_ok, pure_eq_ok,
      Prod.mk.injEq] at h
    obtain ⟨-, -, cipherText, he, ⟨reply, _⟩, hp, _, ho, -, hr, rfl, rfl⟩ := h
    simp only [sendEncrypt, Library.log_debug_false]
    simp [he, sendPlain_debug_false lib hp, openReply_debug_false lib ho, hr, bind, Except.bind,
      Except.mapError, failOn, pure, Except.pure]

theorem sendEncrypt_log_level_xpub :
    sendEncrypt { xpubLibrary (fun _ => .ok "") id (fun _ _ => .error "") [0x41] with debug := true }
        writeOk [.ok ([0xff, 0, 0, 0, 0xc1, 0, 12] ++ xpubText)] [0x41] [] =
      .error (.withMessage (.new "Failed to unmarshal message") "Invalid JSON passed. Continuing anyway") ∧
    sendEncrypt { xpubLibrary (fun _ => .ok "") id (fun _ _ => .error "") [0x41] with debug := true }
        writeOk [.ok ([0xff, 0, 0, 0, 0xc1, 0, 12] ++ xpubText)] xpubText [] =
      .ok ([("xpub", .str "x")], []) ∧
    sendEncrypt { xpubLibrary (fun _ => .ok "") id (fun _ _ => .error "") [0x41] with debug := false }
        writeOk [.ok ([0xff, 0, 0, 0, 0xc1, 0, 12] ++ xpubText)] xpubText [] =
      .ok ([("xpub", .str "x")], []) := by
  have hloud := sendEncrypt_log_level
    { xpubLibrary (fun _ => .ok "") id (fun _ _ => .error "") [0x41] with debug := true } writeOk
    [.ok ([0xff, 0, 0, 0, 0xc1, 0, 12] ++ xpubText)]
  have hok : sendEncrypt { xpubLibrary (fun _ => .ok "") id (fun _ _ => .error "") [0x41] with
      debug := true } writeOk [.ok ([0xff, 0, 0, 0, 0xc1, 0, 12] ++ xpubText)] xpubText [] =
      .ok ([("xpub", .str "x")], []) := by
    simp only [sendEncrypt, sendPlain, sendFrame_writeOk_snd]
    rfl
  exact ⟨(hloud [0x41] []).1 rfl ⟨_, rfl⟩, hok, (hloud xpubText []).2 _ hok⟩

end BitboxWallet.Usb
