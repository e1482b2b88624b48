import BitboxWallet.Addresses.Chain

/-! # Every chain the code can reach

A chain starts at `NewAddressChain`; then `EnsureAddresses` calls and markings come in any order.
Every such chain has at most `gapLimit` unused addresses at its end, and holds at each position
`i` the address derived for `chainIndex/i`. `GetUnused` on such a chain returns the first address
of the unused tail, which need not be the first unused address.
-/

namespace BitboxWallet.Addresses

variable {XPub PubKey Net AddressType : Type} (kc : Keychain XPub PubKey Net)
  (xpub : XPub) (net : Net) (gapLimit : Nat) (chainIndex : UInt32) (addressType : AddressType)

/-- The chains reachable from `NewAddressChain(xpub, net, gapLimit, chainIndex, addressType)`. -/
inductive Reachable : AddressChain XPub PubKey Net AddressType → Prop
  | init {c} : newAddressChain kc xpub net gapLimit chainIndex addressType = .ok c → Reachable c
  | ensure {c c' added} : Reachable c → c.ensureAddresses kc = .ok (c', added) → Reachable c'
  | mark {c} (i : Nat) : Reachable c → Reachable (c.markUsed i)

structure ChainInv (c : AddressChain XPub PubKey Net AddressType) : Prop where
  config_eq : ∃ chainXPub, kc.child xpub chainIndex = .ok chainXPub ∧
    c.config = { xpub := chainXPub, net, gapLimit, chainIndex, addressType }
  tail_le : c.unusedTailCount ≤ gapLimit
  derived : ∀ i (h : i < c.addresses.length), c.deriveAddress kc i = .ok c.addresses[i]

variable {kc xpub net gapLimit chainIndex addressType}

theorem chainInv_init {c : AddressChain XPub PubKey Net AddressType}
    (h : newAddressChain kc xpub net gapLimit chainIndex addressType = .ok c) :
    ChainInv kc xpub net gapLimit chainIndex addressType c := by
  simp only [newAddressChain] at h
  split at h
  · cases h
  split at h
  · cases h
  split at h
  · cases h
  rename_i chainXPub hchild
  cases h
  exact ⟨⟨chainXPub, hchild, rfl⟩, by simp [AddressChain.unusedTailCount, unusedTail], by simp⟩

theorem chainInv_mark {c : AddressChain XPub PubKey Net AddressType}
    (hi : ChainInv kc xpub net gapLimit chainIndex addressType c) (i : Nat) :
    ChainInv kc xpub net gapLimit chainIndex addressType (c.markUsed i) :=
  { config_eq := by simpa using hi.config_eq
    tail_le := le_trans (c.markUsed_unusedTailCount_le i) hi.tail_le
    derived := by
      rw [AddressChain.deriveAddress_congr kc (c.markUsed_config i)]
      simpa using hi.derived }

theorem ensure_unusedTailCount {c c' : AddressChain XPub PubKey Net AddressType}
    {added : List (Address PubKey Net AddressType)}
    (hi : ChainInv kc xpub net gapLimit chainIndex addressType c)
    (h : c.ensureAddresses kc = .ok (c', added)) : c'.unusedTailCount = gapLimit := by
  obtain ⟨hlen, -, -, htail, -⟩ := c.ensureAddresses_eq_ok kc h
  obtain ⟨_, _, hcfg⟩ := hi.config_eq
  have := hi.tail_le
  rw [hcfg] at hlen
  simp only at hlen
  omega

theorem chainInv_ensure {c c' : AddressChain XPub PubKey Net AddressType}
    {added : List (Address PubKey Net AddressType)}
    (hi : ChainInv kc xpub net gapLimit chainIndex addressType c)
    (h : c.ensureAddresses kc = .ok (c', added)) :
    ChainInv kc xpub net gapLimit chainIndex addressType c' := by
  obtain ⟨-, hcfg, haddr, -, hder⟩ := c.ensureAddresses_eq_ok kc h
  refine ⟨by rw [hcfg]; exact hi.config_eq, (ensure_unusedTailCount hi h).le, fun i hi' => ?_⟩
  rw [AddressChain.deriveAddress_congr kc hcfg]
  simp only [haddr] at hi' ⊢
  by_cases hlt : i < c.addresses.length
  · rw [List.getElem_append_left hlt]
    exact hi.derived i hlt
  · have := hder (i - c.addresses.length) (by simp at hi'; omega)
    rw [List.getElem_append_right (by omega)]
    simpa [Nat.add_sub_cancel' (Nat.le_of_not_lt hlt)] using this

theorem Reachable.chainInv {c : AddressChain XPub PubKey Net AddressType}
    (hc : Reachable kc xpub net gapLimit chainIndex addressType c) :
    ChainInv kc xpub net gapLimit chainIndex addressType c := by
  induction hc with
  | init h => exact chainInv_init h
  | ensure _ h ih => exact chainInv_ensure ih h
  | mark i _ ih => exact chainInv_mark ih i

/-! ## The gap limit and the derivation order -/

/-- A keychain that numbers keys: the child of `x` at `i` is `x + i`. -/
def countingKeychain : Keychain Nat Nat Unit where
  isPrivate _ := false
  isForNet _ _ := true
  child x i := .ok (x + i.toNat)
  ecPubKey x := .ok x

def countingChain : AddressChain Nat Nat Unit Unit :=
  { config := { xpub := 0, net := (), gapLimit := 2, chainIndex := 0, addressType := () },
    addresses := [], used := [], used_length := rfl }

def markedChain : AddressChain Nat Nat Unit Unit :=
  { config := countingChain.config, addresses := [⟨0, (), "0/0", ()⟩, ⟨1, (), "0/1", ()⟩],
    used := [false, true], used_length := rfl }

/-- `markedChain` after `EnsureAddresses`. -/
def reensuredChain : AddressChain Nat Nat Unit Unit :=
  { config := countingChain.config
    addresses := [⟨0, (), "0/0", ()⟩, ⟨1, (), "0/1", ()⟩, ⟨2, (), "0/2", ()⟩, ⟨3, (), "0/3", ()⟩]
    used := [false, true, false, false]
    used_length := rfl }

theorem reachable_markedChain : Reachable countingKeychain 0 () 2 0 () markedChain := by
  have hensured : Reachable countingKeychain 0 () 2 0 () { markedChain with used := [false, false] } :=
    .ensure (.init rfl) rfl
  exact .mark 1 hensured

theorem reachable_reensuredChain : Reachable countingKeychain 0 () 2 0 () reensuredChain :=
  .ensure reachable_markedChain rfl

/-- In every reachable chain at most `gapLimit` addresses end the chain unused. When the keychain
derives every key, `EnsureAddresses` returns. When it returns, it has appended exactly the missing
addresses, returns exactly those, and leaves `gapLimit` unused at the end, so a second call appends
nothing. -/
theorem gap_limit_invariant {c : AddressChain XPub PubKey Net AddressType}
    (hc : Reachable kc xpub net gapLimit chainIndex addressType c) :
    c.unusedTailCount ≤ gapLimit ∧
    ((∀ x i, ∃ x', kc.child x i = .ok x') → (∀ x, ∃ pk, kc.ecPubKey x = .ok pk) →
      ∃ c' added, c.ensureAddresses kc = .ok (c', added)) ∧
    ∀ c' added, c.ensureAddresses kc = .ok (c', added) →
      added.length = gapLimit - c.unusedTailCount ∧ c'.addresses = c.addresses ++ added ∧
      c'.unusedTailCount = gapLimit ∧ c'.ensureAddresses kc = .ok (c', []) := by
  have hi := hc.chainInv
  refine ⟨hi.tail_le, fun hchild hpk => ?_, fun c' added h => ?_⟩
  · obtain ⟨⟨c', added⟩, h⟩ := AddressChain.ensureLoop_total hchild hpk _ c []
    exact ⟨c', added, h⟩
  obtain ⟨hlen, -, haddr, -, -⟩ := c.ensureAddresses_eq_ok kc h
  have htail := ensure_unusedTailCount hi h
  obtain ⟨_, _, hcfg⟩ := (chainInv_ensure hi h).config_eq
  obtain ⟨_, _, hcfg0⟩ := hi.config_eq
  rw [hcfg0] at hlen
  refine ⟨hlen, haddr, htail, ?_⟩
  simp [AddressChain.ensureAddresses, hcfg, htail, AddressChain.ensureLoop]

theorem gap_limit_invariant_counting :
    Reachable countingKeychain 0 () 2 0 () markedChain ∧
    markedChain.ensureAddresses countingKeychain = .ok (reensuredChain, [⟨2, (), "0/2", ()⟩, ⟨3, (), "0/3", ()⟩]) ∧
    (markedChain.unusedTailCount ≤ 2 ∧
    ((∀ x i, ∃ x', countingKeychain.child x i = .ok x') →
      (∀ x, ∃ pk, countingKeychain.ecPubKey x = .ok pk) →
      ∃ c' added, markedChain.ensureAddresses countingKeychain = .ok (c', added)) ∧
    ∀ c' added, markedChain.ensureAddresses countingKeychain = .ok (c', added) →
      added.length = 2 - markedChain.unusedTailCount ∧ c'.addresses = markedChain.addresses ++ added ∧
      c'.unusedTailCount = 2 ∧ c'.ensureAddresses countingKeychain = .ok (c', [])) ∧
    ∃ c' added, markedChain.ensureAddresses countingKeychain = .ok (c', added) :=
  have h := gap_limit_invariant reachable_markedChain
  ⟨reachable_markedChain, rfl, h, h.2.1 (fun _ _ => ⟨_, rfl⟩) fun _ => ⟨_, rfl⟩⟩

/-- In every reachable chain the address at position `i` has key path `chainIndex/i` and the
public key of `xpub.Child(chainIndex).Child(uint32(i))`. `EnsureAddresses` and marking keep the
address list as a prefix of the new one. -/
theorem derivation_invariant {c : AddressChain XPub PubKey Net AddressType}
    (hc : Reachable kc xpub net gapLimit chainIndex addressType c) :
    (∀ i (h : i < c.addresses.length),
      c.addresses[i].keyPath = toString chainIndex ++ "/" ++ toString i ∧
      (kc.child xpub chainIndex >>= fun chainXPub =>
        kc.child chainXPub i.toUInt32 >>= kc.ecPubKey) = .ok c.addresses[i].publicKey) ∧
    (∀ c' added, c.ensureAddresses kc = .ok (c', added) → c.addresses <+: c'.addresses) ∧
    ∀ j, c.addresses <+: (c.markUsed j).addresses := by
  obtain ⟨⟨chainXPub, hchild, hcfg⟩, -, hder⟩ := hc.chainInv
  refine ⟨fun i h => ?_, fun c' added h => ?_, fun j => by simp⟩
  · obtain ⟨hpath, hpk⟩ := c.deriveAddress_eq_ok kc (hder i h)
    simp only [AddressChain.getPubKey_eq_ok, hcfg] at hpath hpk
    exact ⟨hpath, by simpa [hchild, bind, Except.bind] using hpk⟩
  · obtain ⟨-, -, haddr, -, -⟩ := c.ensureAddresses_eq_ok kc h
    exact ⟨added, haddr.symm⟩

theorem derivation_invariant_counting :
    Reachable countingKeychain 0 () 2 0 () reensuredChain ∧
    ((∀ i (h : i < reensuredChain.addresses.length),
      reensuredChain.addresses[i].keyPath = toString (0 : UInt32) ++ "/" ++ toString i ∧
      (countingKeychain.child 0 0 >>= fun chainXPub =>
        countingKeychain.child chainXPub i.toUInt32 >>= countingKeychain.ecPubKey) =
          .ok reensuredChain.addresses[i].publicKey) ∧
    (∀ c' added, reensuredChain.ensureAddresses countingKeychain = .ok (c', added) →
      reensuredChain.addresses <+: c'.addresses) ∧
    ∀ j, reensuredChain.addresses <+: (reensuredChain.markUsed j).addresses) :=
  ⟨reachable_reensuredChain, derivation_invariant reachable_reensuredChain⟩

/-! ## `GetUnused` -/

/-- `GetUnused` on a reachable chain, for `gapLimit ≥ 1`: an error when the tail is not
`gapLimit` long, else the address at `len - gapLimit`, which is unused, is followed only by
unused addresses, and follows a used one (if any). -/
theorem getUnused_first_of_tail {c : AddressChain XPub PubKey Net AddressType}
    (hc : Reachable kc xpub net gapLimit chainIndex addressType c) (hg : 1 ≤ gapLimit) :
    (c.unusedTailCount ≠ gapLimit →
      c.getUnused = .error "Concurrency error: Addresses not synced correctly") ∧
    (c.unusedTailCount = gapLimit →
      ∃ h : c.addresses.length - gapLimit < c.addresses.length,
        c.getUnused = .ok c.addresses[c.addresses.length - gapLimit] ∧
        (∀ k, c.addresses.length - gapLimit ≤ k → k < c.addresses.length →
          c.used[k]? = some false) ∧
        (0 < c.addresses.length - gapLimit →
          c.used[c.addresses.length - gapLimit - 1]? = some true)) := by
  obtain ⟨⟨_, _, hcfg⟩, -, -⟩ := hc.chainInv
  have hgap : c.config.gapLimit = gapLimit := by rw [hcfg]
  refine ⟨fun h => by simp [AddressChain.getUnused, hgap, h], fun h => ?_⟩
  have hle := unusedTail_le_length c.used
  obtain ⟨hafter, hbefore⟩ := unusedTail_getElem? c.used
  simp only [AddressChain.unusedTailCount] at h
  rw [h, c.used_length] at hle hafter hbefore
  have hlt : c.addresses.length - gapLimit < c.addresses.length := by omega
  refine ⟨hlt, ?_, hafter, hbefore⟩
  simp [AddressChain.getUnused, AddressChain.unusedTailCount, hgap, h, List.getElem?_eq_getElem hlt]

theorem getUnused_first_of_tail_counting :
    Reachable countingKeychain 0 () 2 0 () reensuredChain ∧ 1 ≤ 2 ∧
    reensuredChain.unusedTailCount = 2 ∧
    ((reensuredChain.unusedTailCount ≠ 2 →
      reensuredChain.getUnused = .error "Concurrency error: Addresses not synced correctly") ∧
    (reensuredChain.unusedTailCount = 2 →
      ∃ h : reensuredChain.addresses.length - 2 < reensuredChain.addresses.length,
        reensuredChain.getUnused = .ok reensuredChain.addresses[reensuredChain.addresses.length - 2] ∧
        (∀ k, reensuredChain.addresses.length - 2 ≤ k → k < reensuredChain.addresses.length →
          reensuredChain.used[k]? = some false) ∧
        (0 < reensuredChain.addresses.length - 2 →
          reensuredChain.used[reensuredChain.addresses.length - 2 - 1]? = some true))) :=
  ⟨reachable_reensuredChain, by decide, rfl, getUnused_first_of_tail reachable_reensuredChain (by decide)⟩

/-- Ensure, mark address 1 used, ensure again: `GetUnused` returns `0/2` though `0/0` is
unused. -/
theorem getUnused_skips_unused_before_used :
    Reachable countingKeychain 0 () 2 0 () reensuredChain ∧
      reensuredChain.used = [false, true, false, false] ∧
      reensuredChain.addresses.map (·.keyPath) = ["0/0", "0/1", "0/2", "0/3"] ∧
      reensuredChain.getUnused = .ok ⟨2, (), "0/2", ()⟩ :=
  ⟨reachable_reensuredChain, rfl, rfl, rfl⟩

end BitboxWallet.Addresses
