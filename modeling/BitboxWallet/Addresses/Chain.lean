import Mathlib.Data.List.Basic

/-! # The address chain (`coins/btc/addresses`, `AddressChain`)

A chain derives addresses `chainIndex/0`, `chainIndex/1`, ... from an xpub and keeps `gapLimit`
unused ones at its end. The account marks an address used when it sees a transaction to it.

The key operations come from `hdkeychain` and are parameters here. A panic is an `Except`
error carrying the panic's text.
-/

namespace BitboxWallet.Addresses

/-- The `hdkeychain` calls the chain makes. -/
structure Keychain (XPub PubKey Net : Type) where
  isPrivate : XPub → Bool
  isForNet : XPub → Net → Bool
  child : XPub → UInt32 → Except String XPub
  ecPubKey : XPub → Except String PubKey

/-- An address as `NewAddress` makes it: the public key, net, key path and script type it is
built from. -/
structure Address (PubKey Net AddressType : Type) where
  publicKey : PubKey
  net : Net
  keyPath : String
  addressType : AddressType

/-- The fields `NewAddressChain` sets and nothing changes afterwards. -/
structure ChainConfig (XPub Net AddressType : Type) where
  xpub : XPub
  net : Net
  gapLimit : Nat
  chainIndex : UInt32
  addressType : AddressType

/-- The chain. `used` holds `isUsed()` of each address, in the same order; the account sets
these flags from the address histories. -/
structure AddressChain (XPub PubKey Net AddressType : Type) where
  config : ChainConfig XPub Net AddressType
  addresses : List (Address PubKey Net AddressType)
  used : List Bool
  used_length : used.length = addresses.length

variable {XPub PubKey Net AddressType : Type} (kc : Keychain XPub PubKey Net)

/-- `NewAddressChain`: the chain starts empty at `xpub.Child(chainIndex)`. -/
def newAddressChain (xpub : XPub) (net : Net) (gapLimit : Nat) (chainIndex : UInt32)
    (addressType : AddressType) : Except String (AddressChain XPub PubKey Net AddressType) :=
  if kc.isPrivate xpub then .error "Extended key is private! Only public keys are accepted"
  else if !kc.isForNet xpub net then .error "xpub does not match provided net"
  else
    match kc.child xpub chainIndex with
    | .error e => .error e
    | .ok chainXPub =>
      .ok { config := { xpub := chainXPub, net, gapLimit, chainIndex, addressType },
            addresses := [], used := [], used_length := rfl }

namespace AddressChain

variable (c : AddressChain XPub PubKey Net AddressType)

/-- `getPubKey`: a failed derivation ends in `logEntry.Panic`, whose message is the panic's. -/
def getPubKey (index : UInt32) : Except String PubKey :=
  match kc.child c.config.xpub index with
  | .error _ => .error "Failed to get XPub child"
  | .ok xpub =>
    match kc.ecPubKey xpub with
    | .error _ => .error "Failed to get EC pubkey"
    | .ok publicKey => .ok publicKey

theorem getPubKey_eq_ok {index : UInt32} {publicKey : PubKey} :
    c.getPubKey kc index = .ok publicKey ↔ (kc.child c.config.xpub index >>= kc.ecPubKey) = .ok publicKey := by
  unfold getPubKey
  cases kc.child c.config.xpub index with
  | error e => simp [bind, Except.bind]
  | ok xpub => cases h : kc.ecPubKey xpub <;> simp [h, bind, Except.bind]

/-- The first half of `addAddress`: the address derived for `index`. -/
def deriveAddress (index : Nat) : Except String (Address PubKey Net AddressType) := do
  let publicKey ← c.getPubKey kc index.toUInt32
  pure { publicKey, net := c.config.net,
         keyPath := toString c.config.chainIndex ++ "/" ++ toString index,
         addressType := c.config.addressType }

theorem deriveAddress_eq_ok {index : Nat} {a : Address PubKey Net AddressType}
    (h : c.deriveAddress kc index = .ok a) :
    a.keyPath = toString c.config.chainIndex ++ "/" ++ toString index ∧
      c.getPubKey kc index.toUInt32 = .ok a.publicKey := by
  simp only [deriveAddress] at h
  cases hk : c.getPubKey kc index.toUInt32 with
  | error e => simp [hk, bind, Except.bind] at h
  | ok pk =>
    simp only [hk, bind, Except.bind, pure, Except.pure, Except.ok.injEq] at h
    subst h
    exact ⟨rfl, rfl⟩

/-- The chain with `address` appended; a new address has no history, so it is unused. -/
def push (address : Address PubKey Net AddressType) : AddressChain XPub PubKey Net AddressType :=
  { c with addresses := c.addresses ++ [address], used := c.used ++ [false],
           used_length := by simp [c.used_length] }

@[simp] theorem push_config (a : Address PubKey Net AddressType) : (c.push a).config = c.config :=
  rfl

@[simp] theorem push_addresses (a : Address PubKey Net AddressType) :
    (c.push a).addresses = c.addresses ++ [a] := rfl

@[simp] theorem push_used (a : Address PubKey Net AddressType) : (c.push a).used = c.used ++ [false] :=
  rfl

theorem deriveAddress_congr {c c' : AddressChain XPub PubKey Net AddressType}
    (h : c'.config = c.config) : c'.deriveAddress kc = c.deriveAddress kc := by
  funext index
  simp [deriveAddress, getPubKey, h]

def addAddress : Except String (AddressChain XPub PubKey Net AddressType × Address PubKey Net AddressType) := do
  let address ← c.deriveAddress kc c.addresses.length
  pure (c.push address, address)

theorem addAddress_eq_ok {c' : AddressChain XPub PubKey Net AddressType}
    {a : Address PubKey Net AddressType} :
    c.addAddress kc = .ok (c', a) ↔ c.deriveAddress kc c.addresses.length = .ok a ∧ c' = c.push a := by
  simp only [addAddress]
  cases c.deriveAddress kc c.addresses.length with
  | error e => simp [bind, Except.bind]
  | ok b =>
    simp only [bind, Except.bind, pure, Except.pure, Except.ok.injEq, Prod.mk.injEq]
    constructor <;> rintro ⟨rfl, rfl⟩ <;> exact ⟨rfl, rfl⟩

end AddressChain

/-- The loop of `unusedTailCount`: from the last address back, until a used one. -/
def unusedTail (used : List Bool) : Nat := (used.reverse.takeWhile (fun u => !u)).length

theorem unusedTail_concat (l : List Bool) (a : Bool) :
    unusedTail (l ++ [a]) = if a then 0 else unusedTail l + 1 := by
  cases a <;> simp [unusedTail]

theorem unusedTail_append_replicate (l : List Bool) (n : Nat) :
    unusedTail (l ++ List.replicate n false) = unusedTail l + n := by
  induction n with
  | zero => simp
  | succ n ih =>
    rw [List.replicate_succ', ← List.append_assoc, unusedTail_concat, ih]
    rfl

theorem unusedTail_spec (l : List Bool) :
    ∃ pre, l = pre ++ List.replicate (unusedTail l) false ∧ (pre = [] ∨ pre.getLast? = some true) := by
  induction l using List.reverseRecOn with
  | nil => exact ⟨[], by simp [unusedTail]⟩
  | append_singleton l a ih =>
    rw [unusedTail_concat]
    cases a with
    | true => exact ⟨l ++ [true], by simp⟩
    | false =>
      obtain ⟨pre, hl, hpre⟩ := ih
      refine ⟨pre, ?_, hpre⟩
      conv_lhs => rw [hl]
      simp [List.replicate_succ']

theorem unusedTail_le_length (l : List Bool) : unusedTail l ≤ l.length := by
  obtain ⟨pre, hl, -⟩ := unusedTail_spec l
  conv_rhs => rw [hl]
  simp

theorem unusedTail_getElem? (l : List Bool) :
    (∀ k, l.length - unusedTail l ≤ k → k < l.length → l[k]? = some false) ∧
    (0 < l.length - unusedTail l → l[l.length - unusedTail l - 1]? = some true) := by
  obtain ⟨pre, hl, hpre⟩ := unusedTail_spec l
  generalize unusedTail l = t at hl ⊢
  subst hl
  simp only [List.length_append, List.length_replicate, Nat.add_sub_cancel]
  refine ⟨fun k hk hk' => ?_, fun h => ?_⟩
  · rw [List.getElem?_append_right hk, List.getElem?_replicate_of_lt (by omega)]
  · rw [List.getElem?_append_left (by omega), ← List.getLast?_eq_getElem?]
    exact hpre.resolve_left (List.ne_nil_of_length_pos h)

theorem unusedTail_set_le (l : List Bool) (i : Nat) : unusedTail (l.set i true) ≤ unusedTail l := by
  induction l using List.reverseRecOn generalizing i with
  | nil => simp
  | append_singleton l a ih =>
    rcases lt_trichotomy i l.length with h | rfl | h
    · rw [List.set_append_left _ _ h, unusedTail_concat, unusedTail_concat]
      have := ih i
      split <;> omega
    · rw [List.set_append_right _ _ (le_refl _), Nat.sub_self]
      simp [unusedTail_concat]
    · rw [List.set_eq_of_length_le (by simp; omega)]

namespace AddressChain

variable (c : AddressChain XPub PubKey Net AddressType)

def unusedTailCount : Nat := unusedTail c.used

@[simp] theorem push_unusedTailCount (a : Address PubKey Net AddressType) :
    (c.push a).unusedTailCount = c.unusedTailCount + 1 := by
  simp [unusedTailCount, unusedTail_concat]

/-- The loop of `EnsureAddresses`, `n` more turns. -/
def ensureLoop : Nat → AddressChain XPub PubKey Net AddressType →
    List (Address PubKey Net AddressType) →
    Except String (AddressChain XPub PubKey Net AddressType × List (Address PubKey Net AddressType))
  | 0, c, added => .ok (c, added)
  | n + 1, c, added =>
    match c.addAddress kc with
    | .error e => .error e
    | .ok (c, address) => ensureLoop n c (added ++ [address])

theorem ensureLoop_eq_ok {n : Nat} {c c' : AddressChain XPub PubKey Net AddressType}
    {added added' : List (Address PubKey Net AddressType)}
    (h : ensureLoop kc n c added = .ok (c', added')) :
    ∃ new : List (Address PubKey Net AddressType), new.length = n ∧ added' = added ++ new ∧
      c'.config = c.config ∧ c'.addresses = c.addresses ++ new ∧
      c'.used = c.used ++ List.replicate n false ∧
      ∀ j (hj : j < new.length), c.deriveAddress kc (c.addresses.length + j) = .ok new[j] := by
  induction n generalizing c added with
  | zero =>
    simp only [ensureLoop, Except.ok.injEq, Prod.mk.injEq] at h
    obtain ⟨rfl, rfl⟩ := h
    exact ⟨[], by simp⟩
  | succ n ih =>
    simp only [ensureLoop] at h
    split at h
    · cases h
    · rename_i c₁ a ha
      obtain ⟨hd, rfl⟩ := (addAddress_eq_ok kc c).1 ha
      obtain ⟨new, hlen, rfl, hcfg, haddr, hused, hder⟩ := ih h
      refine ⟨a :: new, by simp [hlen], by simp, hcfg, by simp [haddr], by
        simp [hused, List.replicate_succ], fun j hj => ?_⟩
      cases j with
      | zero => simpa using hd
      | succ j =>
        have := hder j (by simpa using hj)
        rw [deriveAddress_congr kc (push_config c a)] at this
        simpa [Nat.add_assoc, Nat.add_comm 1 j] using this

/-- `EnsureAddresses`: appends `gapLimit - unusedTailCount()` addresses and returns them. -/
def ensureAddresses :
    Except String (AddressChain XPub PubKey Net AddressType × List (Address PubKey Net AddressType)) :=
  ensureLoop kc (c.config.gapLimit - c.unusedTailCount) c []

theorem ensureAddresses_eq_ok {c' : AddressChain XPub PubKey Net AddressType}
    {added : List (Address PubKey Net AddressType)} (h : c.ensureAddresses kc = .ok (c', added)) :
    added.length = c.config.gapLimit - c.unusedTailCount ∧ c'.config = c.config ∧
      c'.addresses = c.addresses ++ added ∧
      c'.unusedTailCount = c.unusedTailCount + added.length ∧
      ∀ j (hj : j < added.length), c.deriveAddress kc (c.addresses.length + j) = .ok added[j] := by
  obtain ⟨new, hlen, rfl, hcfg, haddr, hused, hder⟩ := ensureLoop_eq_ok kc h
  refine ⟨by simpa using hlen, hcfg, by simpa using haddr, ?_, by simpa using hder⟩
  simp [unusedTailCount, hused, unusedTail_append_replicate, hlen]

/-! ### When every derivation succeeds -/

section Total

variable {kc}

theorem addAddress_total (hchild : ∀ x i, ∃ x', kc.child x i = .ok x')
    (hpk : ∀ x, ∃ pk, kc.ecPubKey x = .ok pk) : ∃ c' a, c.addAddress kc = .ok (c', a) := by
  obtain ⟨x', hx⟩ := hchild c.config.xpub c.addresses.length.toUInt32
  obtain ⟨pk, hp⟩ := hpk x'
  exact ⟨_, _, by simp only [addAddress, deriveAddress, getPubKey, hx, hp]; rfl⟩

theorem ensureLoop_total (hchild : ∀ x i, ∃ x', kc.child x i = .ok x')
    (hpk : ∀ x, ∃ pk, kc.ecPubKey x = .ok pk) (n : Nat) :
    ∀ (c : AddressChain XPub PubKey Net AddressType) added, ∃ r, ensureLoop kc n c added = .ok r := by
  induction n with
  | zero => exact fun c added => ⟨_, rfl⟩
  | succ n ih =>
    intro c added
    obtain ⟨c', a, h⟩ := addAddress_total c hchild hpk
    simp only [ensureLoop, h]
    exact ih _ _

end Total

/-- `GetUnused`. `logEntry.Panic` panics before the `panic` after it, so its message is the one
raised; an index past the end raises Go's runtime error. -/
def getUnused : Except String (Address PubKey Net AddressType) :=
  if c.unusedTailCount ≠ c.config.gapLimit then
    .error "Concurrency error: Addresses not synced correctly"
  else
    match c.addresses[c.addresses.length - c.config.gapLimit]? with
    | some address => .ok address
    | none => .error ("runtime error: index out of range [" ++
        toString (c.addresses.length - c.config.gapLimit) ++ "] with length " ++
        toString c.addresses.length)

/-- `Contains`, with `String()` of an address as a parameter. -/
def contains (addressString : Address PubKey Net AddressType → String) (checkAddress : String) :
    Bool :=
  c.addresses.any fun address => checkAddress == addressString address

/-- The account marks the address at `i` used. -/
def markUsed (i : Nat) : AddressChain XPub PubKey Net AddressType :=
  { c with used := c.used.set i true, used_length := by simp [c.used_length] }

@[simp] theorem markUsed_config (i : Nat) : (c.markUsed i).config = c.config := rfl

@[simp] theorem markUsed_addresses (i : Nat) : (c.markUsed i).addresses = c.addresses := rfl

theorem markUsed_unusedTailCount_le (i : Nat) :
    (c.markUsed i).unusedTailCount ≤ c.unusedTailCount :=
  unusedTail_set_le c.used i

end AddressChain

end BitboxWallet.Addresses
