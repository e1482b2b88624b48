import BitboxWallet.Bitbox.Basic

/-! # Signing (`Sign`, `signBatch`)

`Sign` cuts the hashes into batches of at most 15 and sends each batch's sign command twice: the
first reply is an echo, the second holds the signatures. Each signature is the 128 hex characters
of R and S, read with `big.Int.SetString(_, 16)`.

The argument checks call `logEntry.Panic`, which panics with its own message before the `panic`
call that follows it is reached; the panics here carry the logged message.
-/

namespace BitboxWallet.Bitbox

open DeviceM

/-- The bytes of a Go string: its UTF-8 encoding. -/
def goBytes (s : String) : List UInt8 := s.toList.flatMap String.utf8EncodeChar

/-- A lowercase hex digit, as `hex.EncodeToString` writes it. -/
def hexChar (n : Nat) : Char := if n < 10 then Char.ofNat (48 + n) else Char.ofNat (87 + n)

/-- `hex.EncodeToString`. -/
def hexEncode (bytes : List UInt8) : String :=
  String.mk (bytes.flatMap fun b => [hexChar (b.toNat / 16), hexChar (b.toNat % 16)])

/-- The value of a byte as a base-16 digit in `nat.scan`: `0-9`, `a-f`, `A-F`. -/
def hexDigitValue (b : UInt8) : Option Nat :=
  if 48 ≤ b.toNat ∧ b.toNat ≤ 57 then some (b.toNat - 48)
  else if 97 ≤ b.toNat ∧ b.toNat ≤ 102 then some (b.toNat - 87)
  else if 65 ≤ b.toNat ∧ b.toNat ≤ 70 then some (b.toNat - 55)
  else none

/-- One digit of `nat.scan`: the value so far times 16 plus the digit; a non-digit ends the
scan with bytes left over, which `SetString` rejects. -/
def hexStep (acc : Option Nat) (b : UInt8) : Option Nat :=
  acc.bind fun n => (hexDigitValue b).map (n * 16 + ·)

/-- `nat.scan` in base 16 over the whole input: one digit at least, and nothing but digits. -/
def scanHex (digits : List UInt8) : Option Nat :=
  if digits = [] then none else digits.foldl hexStep (some 0)

/-- `new(big.Int).SetString(s, 16)`: `scanSign` takes an optional `-` or `+`, then the rest
must be base-16 digits. -/
def setString16 : List UInt8 → Option Int
  | [] => none
  | b :: digits =>
    if b = 45 then (scanHex digits).map fun n : Nat => -(n : Int)
    else if b = 43 then (scanHex digits).map fun n : Nat => (n : Int)
    else (scanHex (b :: digits)).map fun n : Nat => (n : Int)

/-- `btcec.Signature`. -/
structure Signature where
  r : Int
  s : Int

/-- One entry of the `sign` array. -/
def parseSig (sig : Json) : Except Err Signature :=
  match sig with
  | .obj sigMap =>
    match JsonMap.string? sigMap "sig" with
    | none => .error (.new "Unexpected reply: field 'sig' is missing in 'sign' map")
    | some hexSig =>
      if (goBytes hexSig).length ≠ 128 then
        .error (.new "Unexpected reply: field 'sig' must be 128 byte long")
      else
        match setString16 ((goBytes hexSig).take 64) with
        | none => .error (.new "Unexpected reply: R in 'sig' must be a hex value")
        | some r =>
          match setString16 ((goBytes hexSig).drop 64) with
          | none => .error (.new "Unexpected reply: S in 'sig' must be a hex value")
          | some s => .ok { r, s }
  | _ => .error (.new "Unexpected reply: 'sign' must be a map")

/-- The loop over the `sign` array: the first bad entry ends it. -/
def parseSigs : List Json → Except Err (List Signature)
  | [] => .ok []
  | sig :: sigs =>
    match parseSig sig with
    | .error e => .error e
    | .ok signature =>
      match parseSigs sigs with
      | .error e => .error e
      | .ok signatures => .ok (signature :: signatures)

def signatureBatchSize : Nat := 15

/-- The sign command of a batch: `{"sign": {"data": [{"hash": .., "keypath": ..}, ..]}}`. -/
def signCommand (signatureHashes : List (List UInt8)) (keyPaths : List String) : Json :=
  .obj [("sign", .obj [("data", .arr (List.zipWith (fun signatureHash keyPath =>
    .obj [("hash", .str (hexEncode signatureHash)), ("keypath", .str keyPath)])
    signatureHashes keyPaths))])]

def signBatch (signatureHashes : List (List UInt8)) (keyPaths : List String) : DeviceM JsonMap :=
  if signatureHashes.length ≠ keyPaths.length then
    DeviceM.panic "Length of keyPaths must match length of signatureHashes"
  else if signatureHashes.length > signatureBatchSize then
    DeviceM.panic "This amount of signature hashes cannot be signed in one batch"
  else do
    let cmd := signCommand signatureHashes keyPaths
    -- The first call returns the echo.
    let d ← get
    let _ ← (send cmd d.password).withMessage "Failed to sign batch (1)"
    -- The second call returns the signatures.
    let d ← get
    (send cmd d.password).withMessage "Failed to sign batch (2)"

/-- The batch loop of `Sign`, from index `i`, with the signatures so far. -/
def signLoop (signatureHashes : List (List UInt8)) (keyPaths : List String) (i : Nat)
    (signatures : List Signature) : DeviceM (List Signature) :=
  if _ : i < signatureHashes.length then do
    let upper := if i + signatureBatchSize > signatureHashes.length then signatureHashes.length
      else i + signatureBatchSize
    let reply ← signBatch ((signatureHashes.drop i).take (upper - i))
      ((keyPaths.drop i).take (upper - i))
    match reply.array? "sign" with
    | none => fail (.new "Unexpected reply: field 'sign' is missing")
    | some sigs =>
      match parseSigs sigs with
      | .error e => fail e
      | .ok parsed => signLoop signatureHashes keyPaths (i + signatureBatchSize) (signatures ++ parsed)
  else pure signatures
termination_by signatureHashes.length - i
decreasing_by simp_wf; simp only [signatureBatchSize]; omega

theorem signLoop_of_lt (signatureHashes : List (List UInt8)) (keyPaths : List String) {i : Nat}
    (hi : i < signatureHashes.length) (signatures : List Signature) :
    signLoop signatureHashes keyPaths i signatures =
      (signBatch ((signatureHashes.drop i).take ((if i + signatureBatchSize >
          signatureHashes.length then signatureHashes.length else i + signatureBatchSize) - i))
        ((keyPaths.drop i).take ((if i + signatureBatchSize > signatureHashes.length then
          signatureHashes.length else i + signatureBatchSize) - i)) >>= fun reply =>
      match reply.array? "sign" with
      | none => fail (.new "Unexpected reply: field 'sign' is missing")
      | some sigs =>
        match parseSigs sigs with
        | .error e => fail e
        | .ok parsed =>
          signLoop signatureHashes keyPaths (i + signatureBatchSize) (signatures ++ parsed)) := by
  rw [signLoop, dif_pos hi]

/-- `Sign`. -/
def sign (signatureHashes : List (List UInt8)) (keyPaths : List String) :
    DeviceM (List Signature) :=
  if signatureHashes.length ≠ keyPaths.length then
    DeviceM.panic "Length of keyPaths must match length of signatureHashes"
  else if signatureHashes.length = 0 then
    DeviceM.panic "Non-empty list of signature hashes and keypaths expected"
  else signLoop signatureHashes keyPaths 0 []

end BitboxWallet.Bitbox
