import BitboxWallet.Bitbox.Replies

/-! # Signing a transaction (`coins/btc/sign.go`)

`SignTransaction` computes one signature hash per input, has the key store sign them all at once,
writes each input's signature script and witness in place, and panics if the result fails
`txValidityCheck`. The signature hashes and the script engine are `txscript`'s, the BIP69 order
check is `txsort`'s, and an address's scripts come from the `addresses` package: all parameters.

With the BitBox as key store, `Sign` is `Device.Sign`, which cuts the hashes into batches of 15.
A transaction without inputs makes `Sign` panic. Otherwise, against a device that signs every hash
it is sent, input `i` is written with the signature the device made for input `i`'s hash, and the
validity check alone decides between nil and a panic.
-/

namespace BitboxWallet.Btc

open Bitbox

/-- `wire.TxIn`. -/
structure TxIn (OutPoint : Type) where
  previousOutPoint : OutPoint
  signatureScript : List UInt8
  witness : List (List UInt8)
  sequence : UInt32

/-- `wire.MsgTx`; each output is its value and its `pkScript`. -/
structure MsgTx (OutPoint : Type) where
  version : Int
  txIn : List (TxIn OutPoint)
  txOut : List (Int × List UInt8)
  lockTime : UInt32

/-- `transactions.TxOut`: an output the wallet spends, with the address it pays. -/
structure TxOut (Address : Type) where
  address : Address
  value : Int
  pkScript : List UInt8

/-- The functions of `txscript`, `txsort` and `*addresses.Address` that signing calls, with
`SigHashAll` and `StandardVerifyFlags` applied. -/
structure Library (OutPoint Address SigHashes Engine : Type) where
  newTxSigHashes : MsgTx OutPoint → SigHashes
  calcWitnessSigHash : List UInt8 → SigHashes → MsgTx OutPoint → Nat → Int → Except Err (List UInt8)
  calcSignatureHash : List UInt8 → MsgTx OutPoint → Nat → Except Err (List UInt8)
  newEngine : List UInt8 → MsgTx OutPoint → Nat → SigHashes → Int → Except Err Engine
  execute : Engine → Except Err Unit
  isSorted : MsgTx OutPoint → Bool
  /-- `SigHashData()`: whether the address is segwit, and the script to hash. -/
  sigHashData : Address → Bool × List UInt8
  /-- `InputData(signature)`: the signature script and the witness. -/
  inputData : Address → Signature → List UInt8 × List (List UInt8)
  keyPath : Address → String

variable {OutPoint Address SigHashes Engine : Type} (lib : Library OutPoint Address SigHashes Engine)
  (previousOutputs : OutPoint → Option (TxOut Address))

/-! ## The model -/

/-- The signature hash of input `index`, segwit or legacy as its address says. `errp.Wrap` adds
its message as `errp.WithMessage` does. -/
def signatureHash (transaction : MsgTx OutPoint) (sigHashes : SigHashes) (index : Nat)
    (spentOutput : TxOut Address) : Except Err (List UInt8) :=
  let (isSegwit, subScript) := lib.sigHashData spentOutput.address
  if isSegwit then
    (lib.calcWitnessSigHash subScript sigHashes transaction index spentOutput.value).mapError
      (Err.withMessage · "Failed to calculate SegWit signature hash")
  else
    (lib.calcSignatureHash subScript transaction index).mapError
      (Err.withMessage · "Failed to calculate legacy signature hash")

/-- The first loop of `SignTransaction`, from input `index`: the signature hash and key path of
each input. -/
def sigHashLoop (transaction : MsgTx OutPoint) (sigHashes : SigHashes) :
    Nat → List (TxIn OutPoint) → Except Failure (List (List UInt8) × List String)
  | _, [] => .ok ([], [])
  | index, txIn :: rest =>
    match previousOutputs txIn.previousOutPoint with
    | none => .error (.panic
        "output/input mismatch; there needs to be exactly one output being spent ber input")
    | some spentOutput =>
      match signatureHash lib transaction sigHashes index spentOutput with
      | .error e => .error (.error e)
      | .ok signatureHash =>
        match sigHashLoop transaction sigHashes (index + 1) rest with
        | .error f => .error f
        | .ok (signatureHashes, keyPaths) =>
          .ok (signatureHash :: signatureHashes, lib.keyPath spentOutput.address :: keyPaths)

/-- The second loop: each input gets `InputData` of its signature, in place. A missing output is
a nil dereference, a missing signature an index out of range; the inputs before it stay written. -/
def assignLoop : List (TxIn OutPoint) → List Signature → List (TxIn OutPoint) × Option Failure
  | [], _ => ([], none)
  | input :: rest, signatures =>
    match previousOutputs input.previousOutPoint, signatures with
    | none, _ =>
      (input :: rest, some (.panic "runtime error: invalid memory address or nil pointer dereference"))
    | some _, [] => (input :: rest, some (.panic "runtime error: index out of range"))
    | some spentOutput, signature :: signatures =>
      let data := lib.inputData spentOutput.address signature
      let written := assignLoop rest signatures
      ({ input with signatureScript := data.1, witness := data.2 } :: written.1, written.2)

/-- The loop of `txValidityCheck` over the inputs, from input `index`: each input's previous output
script must accept it. -/
def checkInputs (transaction : MsgTx OutPoint) (sigHashes : SigHashes) :
    Nat → List (TxIn OutPoint) → Except Err Unit
  | _, [] => .ok ()
  | index, txIn :: rest =>
    match previousOutputs txIn.previousOutPoint with
    | none => .error (.new
        "output/input mismatch; there needs to be exactly one output being spent per input")
    | some spentOutput =>
      match lib.newEngine spentOutput.pkScript transaction index sigHashes spentOutput.value with
      | .error e => .error e
      | .ok engine =>
        match lib.execute engine with
        | .error e => .error e
        | .ok () => checkInputs transaction sigHashes (index + 1) rest

def txValidityCheck (transaction : MsgTx OutPoint) (sigHashes : SigHashes) : Except Err Unit :=
  if !lib.isSorted transaction then .error (.new "tx not bip69 conformant")
  else checkInputs lib previousOutputs transaction sigHashes 0 transaction.txIn

/-- `SignTransaction`: how it ends, and the transaction it leaves. -/
def signTransaction
    (keyStoreSign : List (List UInt8) → List String → Except Failure (List Signature))
    (transaction : MsgTx OutPoint) : Except Failure Unit × MsgTx OutPoint :=
  let sigHashes := lib.newTxSigHashes transaction
  match sigHashLoop lib previousOutputs transaction sigHashes 0 transaction.txIn with
  | .error f => (.error f, transaction)
  | .ok (signatureHashes, keyPaths) =>
    match keyStoreSign signatureHashes keyPaths with
    | .error (.error e) => (.error (.error (.withMessage e "Failed to sign signature hash")), transaction)
    | .error (.panic p) => (.error (.panic p), transaction)
    | .ok signatures =>
      if signatures.length ≠ transaction.txIn.length then
        (.error (.panic "number of signatures doesn't match number of inputs"), transaction)
      else
        let written := assignLoop lib previousOutputs transaction.txIn signatures
        let signed := { transaction with txIn := written.1 }
        match written.2 with
        | some f => (.error f, signed)
        | none =>
          match txValidityCheck lib previousOutputs signed sigHashes with
          | .error _ => (.error (.panic "Failed to pass transaction validity check"), signed)
          | .ok () => (.ok (), signed)

/-! ## Atomicity -/

/-- `written` is `txIns` with input `i`'s signature script and witness set to `InputData` of
`signatures[i]` for the address that input spends. -/
def Written (txIns : List (TxIn OutPoint)) (signatures : List Signature)
    (written : List (TxIn OutPoint)) : Prop :=
  written.length = txIns.length ∧
  ∀ i (hi : i < txIns.length), ∃ spentOutput signature,
    previousOutputs txIns[i].previousOutPoint = some spentOutput ∧
    signatures[i]? = some signature ∧
    written[i]? = some { txIns[i] with
      signatureScript := (lib.inputData spentOutput.address signature).1,
      witness := (lib.inputData spentOutput.address signature).2 }

section Loops

variable {lib previousOutputs} {transaction : MsgTx OutPoint} {sigHashes : SigHashes}

theorem sigHashLoop_cons_eq_ok {index : Nat} {txIn : TxIn OutPoint} {rest : List (TxIn OutPoint)}
    {hashes : List (List UInt8)} {paths : List String}
    (h : sigHashLoop lib previousOutputs transaction sigHashes index (txIn :: rest) =
      .ok (hashes, paths)) :
    ∃ spentOutput hash hashes' paths', previousOutputs txIn.previousOutPoint = some spentOutput ∧
      signatureHash lib transaction sigHashes index spentOutput = .ok hash ∧
      sigHashLoop lib previousOutputs transaction sigHashes (index + 1) rest =
        .ok (hashes', paths') ∧
      hashes = hash :: hashes' ∧ paths = lib.keyPath spentOutput.address :: paths' := by
  rw [sigHashLoop] at h
  rcases hp : previousOutputs txIn.previousOutPoint with _ | spentOutput
  · simp [hp] at h
  rcases hs : signatureHash lib transaction sigHashes index spentOutput with e | hash
  · simp [hp, hs] at h
  rcases hr : sigHashLoop lib previousOutputs transaction sigHashes (index + 1) rest
    with f | ⟨hashes', paths'⟩
  · simp [hp, hs, hr] at h
  · simp only [hp, hs, hr, Except.ok.injEq, Prod.mk.injEq] at h
    exact ⟨_, _, _, _, rfl, hs, rfl, h.1.symm, h.2.symm⟩

theorem sigHashLoop_lookups {index : Nat} {txIns : List (TxIn OutPoint)}
    {r : List (List UInt8) × List String}
    (h : sigHashLoop lib previousOutputs transaction sigHashes index txIns = .ok r) :
    ∀ txIn ∈ txIns, (previousOutputs txIn.previousOutPoint).isSome := by
  induction txIns generalizing index r with
  | nil => simp
  | cons txIn rest ih =>
    obtain ⟨_, _, _, _, hp, -, hr, -, -⟩ := sigHashLoop_cons_eq_ok h
    exact List.forall_mem_cons.2 ⟨by simp [hp], ih hr⟩

/-- The first loop of `SignTransaction` asks for one signature hash and one key path per input,
in input order: input `i`'s signature hash, segwit or legacy as its address says, and the key
path of that address. -/
theorem sigHashLoop_requests {index : Nat} {txIns : List (TxIn OutPoint)}
    {hashes : List (List UInt8)} {paths : List String}
    (h : sigHashLoop lib previousOutputs transaction sigHashes index txIns = .ok (hashes, paths)) :
    hashes.length = txIns.length ∧ paths.length = txIns.length ∧
    ∀ i (hi : i < txIns.length), ∃ spentOutput hash,
      previousOutputs txIns[i].previousOutPoint = some spentOutput ∧
      signatureHash lib transaction sigHashes (index + i) spentOutput = .ok hash ∧
      hashes[i]? = some hash ∧ paths[i]? = some (lib.keyPath spentOutput.address) := by
  induction txIns generalizing index hashes paths with
  | nil =>
    cases h
    simp
  | cons txIn rest ih =>
    obtain ⟨spentOutput, hash, hashes', paths', hp, hs, hr, rfl, rfl⟩ := sigHashLoop_cons_eq_ok h
    obtain ⟨hlen, plen, hreq⟩ := ih hr
    refine ⟨by simp [hlen], by simp [plen], fun i hi => ?_⟩
    cases i with
    | zero => exact ⟨spentOutput, hash, hp, hs, by simp, by simp⟩
    | succ i =>
      obtain ⟨o, hash', h1, h2, h3, h4⟩ := hreq i (by simpa using hi)
      exact ⟨o, hash', by simpa using h1, by rwa [show index + (i + 1) = index + 1 + i by omega],
        by simpa using h3, by simpa using h4⟩

end Loops

def indexLibrary : Library Nat Nat Unit Unit where
  newTxSigHashes _ := ()
  calcWitnessSigHash _ _ _ index _ := .ok [index.toUInt8]
  calcSignatureHash _ _ index := .ok [index.toUInt8]
  newEngine _ _ _ _ _ := .ok ()
  execute _ := .ok ()
  isSorted _ := true
  sigHashData _ := (false, [])
  inputData _ _ := ([], [])
  keyPath _ := "m/0/0"

def ownOutputs (outPoint : Nat) : Option (TxOut Nat) :=
  some { address := outPoint, value := 0, pkScript := [] }

def twoInputTx : MsgTx Nat where
  version := 1
  txIn := [{ previousOutPoint := 0, signatureScript := [], witness := [], sequence := 0 },
    { previousOutPoint := 1, signatureScript := [], witness := [], sequence := 0 }]
  txOut := []
  lockTime := 0

theorem sigHashLoop_requests_two :
    sigHashLoop indexLibrary ownOutputs twoInputTx () 0 twoInputTx.txIn =
      .ok ([[0], [1]], ["m/0/0", "m/0/0"]) ∧
    (([[0], [1]] : List (List UInt8)).length = twoInputTx.txIn.length ∧
      ["m/0/0", "m/0/0"].length = twoInputTx.txIn.length ∧
      ∀ i (hi : i < twoInputTx.txIn.length), ∃ spentOutput hash,
        ownOutputs twoInputTx.txIn[i].previousOutPoint = some spentOutput ∧
        signatureHash indexLibrary twoInputTx () (0 + i) spentOutput = .ok hash ∧
        ([[0], [1]] : List (List UInt8))[i]? = some hash ∧
        ["m/0/0", "m/0/0"][i]? = some (indexLibrary.keyPath spentOutput.address)) :=
  have h : sigHashLoop indexLibrary ownOutputs twoInputTx () 0 twoInputTx.txIn =
      .ok ([[0], [1]], ["m/0/0", "m/0/0"]) := rfl
  ⟨h, sigHashLoop_requests h⟩

section Loops

variable {lib previousOutputs}

theorem assignLoop_written {txIns : List (TxIn OutPoint)} {signatures : List Signature}
    (hlookup : ∀ txIn ∈ txIns, (previousOutputs txIn.previousOutPoint).isSome)
    (hlen : signatures.length = txIns.length) :
    (assignLoop lib previousOutputs txIns signatures).2 = none ∧
    Written lib previousOutputs txIns signatures (assignLoop lib previousOutputs txIns signatures).1 := by
  induction txIns generalizing signatures with
  | nil => exact ⟨rfl, by simp [assignLoop, Written]⟩
  | cons txIn rest ih =>
    obtain ⟨spentOutput, hso⟩ := Option.isSome_iff_exists.1 (hlookup txIn (List.mem_cons_self _ _))
    obtain _ | ⟨signature, signatures⟩ := signatures
    · cases hlen
    obtain ⟨hnone, hlen', hw⟩ := ih (fun t ht => hlookup t (List.mem_cons_of_mem _ ht))
      (Nat.succ.inj hlen)
    simp only [assignLoop, hso]
    refine ⟨hnone, by simp [hlen'], fun i hi => ?_⟩
    cases i with
    | zero => exact ⟨spentOutput, signature, hso, by simp, by simp⟩
    | succ i => simpa using hw i (by simpa using hi)

end Loops

/-- Every run of `SignTransaction` ends in one of three ways. It fails and leaves the transaction
as it was; or the key store signed the inputs' hashes, every input was written with `InputData`
of its signature, and then either the validity check passed and it returns nil, or the check
failed and it panics. -/
theorem signTransaction_atomic
    (keyStoreSign : List (List UInt8) → List String → Except Failure (List Signature))
    (transaction : MsgTx OutPoint) :
    (∃ f, (signTransaction lib previousOutputs keyStoreSign transaction).1 = .error f ∧
      (signTransaction lib previousOutputs keyStoreSign transaction).2 = transaction) ∨
    ∃ signatureHashes keyPaths signatures,
      sigHashLoop lib previousOutputs transaction (lib.newTxSigHashes transaction) 0
        transaction.txIn = .ok (signatureHashes, keyPaths) ∧
      keyStoreSign signatureHashes keyPaths = .ok signatures ∧
      (signTransaction lib previousOutputs keyStoreSign transaction).2 =
        { transaction with txIn := (signTransaction lib previousOutputs keyStoreSign transaction).2.txIn } ∧
      Written lib previousOutputs transaction.txIn signatures
        (signTransaction lib previousOutputs keyStoreSign transaction).2.txIn ∧
      (((signTransaction lib previousOutputs keyStoreSign transaction).1 = .ok () ∧
        txValidityCheck lib previousOutputs (signTransaction lib previousOutputs keyStoreSign
          transaction).2 (lib.newTxSigHashes transaction) = .ok ()) ∨
      ((signTransaction lib previousOutputs keyStoreSign transaction).1 =
          .error (.panic "Failed to pass transaction validity check") ∧
        ∃ e, txValidityCheck lib previousOutputs (signTransaction lib previousOutputs keyStoreSign
          transaction).2 (lib.newTxSigHashes transaction) = .error e)) := by
  rcases hl : sigHashLoop lib previousOutputs transaction (lib.newTxSigHashes transaction) 0
    transaction.txIn with f | ⟨signatureHashes, keyPaths⟩
  · exact .inl ⟨f, by simp [signTransaction, hl]⟩
  rcases hk : keyStoreSign signatureHashes keyPaths with (e | p) | signatures
  · exact .inl (by simp [signTransaction, hl, hk])
  · exact .inl (by simp [signTransaction, hl, hk])
  by_cases hlen : signatures.length = transaction.txIn.length
  · obtain ⟨hnone, hw⟩ := assignLoop_written (sigHashLoop_lookups hl) hlen
    refine .inr ⟨signatureHashes, keyPaths, signatures, rfl, hk, ?_⟩
    simp only [signTransaction, hl, hk, hlen, ne_eq, not_true_eq_false, if_false]
    rw [hnone]
    dsimp only
    rcases hv : txValidityCheck lib previousOutputs
      { transaction with txIn := (assignLoop lib previousOutputs transaction.txIn signatures).1 }
      (lib.newTxSigHashes transaction) with e | _
    · exact ⟨rfl, hw, .inr ⟨rfl, e, hv⟩⟩
    · exact ⟨rfl, hw, .inl ⟨rfl, hv⟩⟩
  · exact .inl (by simp [signTransaction, hl, hk, hlen])

/-! ## With the BitBox -/

/-- The BitBox as `SignTransaction`'s key store: `Sign` on the session `d`. -/
def bitboxSign (d : Device) (signatureHashes : List (List UInt8)) (keyPaths : List String) :
    Except Failure (List Signature) :=
  (sign signatureHashes keyPaths d).1

/-- `SignTransaction` with the BitBox as key store. A transaction without inputs makes `Sign`
panic and is left as it was. For a transaction with inputs whose signature hashes compute, against
a device that answers every batch of these hashes and signs each, in order, with a 32-byte R and
S: `Sign` sends exactly the schedule of the hashes, input `i` is written with `InputData` of the
signature the device made for input `i`'s hash, and the call returns nil when the signed
transaction passes the validity check and panics when it does not. -/
theorem signTransaction_bitbox (transaction : MsgTx OutPoint) (d : Device) :
    (transaction.txIn = [] →
      signTransaction lib previousOutputs (bitboxSign d) transaction =
        (.error (.panic "Non-empty list of signature hashes and keypaths expected"), transaction)) ∧
    ∀ hashes paths (sigOf : Nat → List UInt8 × List UInt8),
      sigHashLoop lib previousOutputs transaction (lib.newTxSigHashes transaction) 0
        transaction.txIn = .ok (hashes, paths) →
      0 < transaction.txIn.length →
      (∀ j < hashes.length, (sigOf j).1.length = 32 ∧ (sigOf j).2.length = 32) →
      (∀ k < batchCount hashes.length, AnswersBatch hashes paths sigOf d k) →
      (sign hashes paths d).2 = d.record (signSchedule hashes paths d.password) ∧
      Written lib previousOutputs transaction.txIn
        ((List.range transaction.txIn.length).map fun j =>
          { r := beValue (sigOf j).1, s := beValue (sigOf j).2 })
        (signTransaction lib previousOutputs (bitboxSign d) transaction).2.txIn ∧
      (((signTransaction lib previousOutputs (bitboxSign d) transaction).1 = .ok () ∧
        txValidityCheck lib previousOutputs
          (signTransaction lib previousOutputs (bitboxSign d) transaction).2
          (lib.newTxSigHashes transaction) = .ok ()) ∨
      ((signTransaction lib previousOutputs (bitboxSign d) transaction).1 =
          .error (.panic "Failed to pass transaction validity check") ∧
        ∃ e, txValidityCheck lib previousOutputs
          (signTransaction lib previousOutputs (bitboxSign d) transaction).2
          (lib.newTxSigHashes transaction) = .error e)) := by
  refine ⟨fun hempty => ?_, fun hashes paths sigOf hl hn hsig hans => ?_⟩
  · simp only [signTransaction, hempty, sigHashLoop, bitboxSign, sign]
    rfl
  obtain ⟨hlen, plen, -⟩ := sigHashLoop_requests hl
  have hrun : sign hashes paths d = (.ok ((List.range hashes.length).map fun j =>
      { r := beValue (sigOf j).1, s := beValue (sigOf j).2 }), d.record (signSchedule hashes paths d.password)) := by
    rw [sign_accepted hashes paths (hlen.trans plen.symm) (by omega) d _
      fun k hk => answersBatch_accepted hashes paths sigOf hsig (hans k hk),
      range_flatMap_map_batchIndices]
  obtain ⟨hnone, hw⟩ : (assignLoop lib previousOutputs transaction.txIn _).2 = none ∧
      Written lib previousOutputs transaction.txIn _ _ :=
    assignLoop_written (sigHashLoop_lookups hl)
      (show ((List.range transaction.txIn.length).map fun j =>
        ({ r := beValue (sigOf j).1, s := beValue (sigOf j).2 } : Signature)).length =
          transaction.txIn.length by simp)
  rw [hlen] at hrun
  refine ⟨by rw [hrun], ?_⟩
  simp only [signTransaction, hl, bitboxSign, hrun, List.length_map, List.length_range, ne_eq,
    not_true_eq_false, if_false, hnone]
  rcases hv : txValidityCheck lib previousOutputs
    { transaction with txIn := (assignLoop lib previousOutputs transaction.txIn
      ((List.range transaction.txIn.length).map fun j =>
        ({ r := beValue (sigOf j).1, s := beValue (sigOf j).2 } : Signature))).1 }
    (lib.newTxSigHashes transaction) with e | _
  · exact ⟨hw, .inr ⟨rfl, e, hv⟩⟩
  · exact ⟨hw, .inl ⟨rfl, hv⟩⟩

theorem checkInputs_indexLibrary (transaction : MsgTx Nat) :
    ∀ index txIns, checkInputs indexLibrary ownOutputs transaction () index txIns = .ok ()
  | _, [] => rfl
  | index, _ :: rest => checkInputs_indexLibrary transaction (index + 1) rest

theorem signTransaction_bitbox_two :
    sigHashLoop indexLibrary ownOutputs twoInputTx (indexLibrary.newTxSigHashes twoInputTx) 0
      twoInputTx.txIn = .ok ([[0], [1]], ["m/0/0", "m/0/0"]) ∧
    (∀ k < batchCount 2, AnswersBatch [[0], [1]] ["m/0/0", "m/0/0"] (fun _ => (rBytes32, sBytes32))
      (lowSigning 2) k) ∧
    (sign [[0], [1]] ["m/0/0", "m/0/0"] (lowSigning 2)).2 =
      (lowSigning 2).record (signSchedule [[0], [1]] ["m/0/0", "m/0/0"] (lowSigning 2).password) ∧
    (signTransaction indexLibrary ownOutputs (bitboxSign (lowSigning 2)) twoInputTx).1 = .ok () := by
  have hl : sigHashLoop indexLibrary ownOutputs twoInputTx (indexLibrary.newTxSigHashes twoInputTx) 0
      twoInputTx.txIn = .ok ([[0], [1]], ["m/0/0", "m/0/0"]) := rfl
  have hans : ∀ k < batchCount 2, AnswersBatch [[0], [1]] ["m/0/0", "m/0/0"]
      (fun _ => (rBytes32, sBytes32)) (lowSigning 2) k :=
    fun _ hk => ⟨⟨_, answeringBatches_echo _ _ _ hk⟩, _, answeringBatches_second _ _ _ hk, rfl⟩
  obtain ⟨hsent, -, hv⟩ := (signTransaction_bitbox indexLibrary ownOutputs twoInputTx (lowSigning 2)).2
    _ _ (fun _ => (rBytes32, sBytes32)) hl (by decide) (fun _ _ => ⟨rfl, rfl⟩) hans
  refine ⟨hl, hans, hsent, ?_⟩
  rcases hv with ⟨hok, -⟩ | ⟨-, e, he⟩
  · exact hok
  · exact nomatch he.symm.trans (checkInputs_indexLibrary _ 0 _)

end BitboxWallet.Btc
