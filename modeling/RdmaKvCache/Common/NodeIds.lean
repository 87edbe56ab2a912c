import RdmaKvCache.Common.Types
import RdmaKvCache.Library.ByteHashes

/-!
# Node ids

The id of a process is the decimal text of a hash of its host and its client port.
A process derives its own id from the address in its configuration file, and the
ids of the processes that the file lists from theirs.
-/

namespace RdmaKvCache

open ByteHashes (Spreads hashFrom hashFrom_append)

/-! ## Decimal text -/

/-- `std::to_string` of a number without sign. -/
def decimal (number : Nat) : ByteString :=
  (Nat.toDigits 10 number).map fun digit => digit.toNat.toUInt8

/-- The characters of a number are single bytes, all of one block. -/
theorem toUInt8_of_isDigit
    {digit : Char} (isDigit : digit.isDigit = true) :
    digit.toNat.toUInt8.toNat = digit.toNat ∧
      digit.toNat.toUInt8.toNat / 2 ^ 4 = 3 := by
  obtain ⟨fromZero, toNine⟩ := Char.isDigit_iff_toNat.mp isDigit
  have lower : 48 ≤ digit.toNat := fromZero
  have upper : digit.toNat ≤ 57 := toNine
  have same : digit.toNat.toUInt8.toNat = digit.toNat :=
    Nat.mod_eq_of_lt (by omega)
  rw [same]
  exact ⟨rfl, by omega⟩

theorem isDigit_of_mem_toDigits
    {number : Nat} {digit : Char} (member : digit ∈ Nat.toDigits 10 number) :
    digit.isDigit = true :=
  Nat.isDigit_of_mem_toDigits (by decide) (by decide) member

/-- The text gives the number back. -/
theorem decimal_inj {number other : Nat} (same : decimal number = decimal other) :
    number = other := by
  have readBack (value : Nat) :
      (decimal value).map (fun byte => Char.ofNat byte.toNat) =
        Nat.toDigits 10 value := by
    have restored :
        ∀ digit ∈ Nat.toDigits 10 value,
          Char.ofNat digit.toNat.toUInt8.toNat = digit := by
      intro digit member
      rw [(toUInt8_of_isDigit (isDigit_of_mem_toDigits member)).1,
        Char.ofNat_toNat]
    rw [decimal, List.map_map]
    exact (List.map_congr_left restored).trans (List.map_id' _)
  have digits : Nat.toDigits 10 number = Nat.toDigits 10 other := by
    rw [← readBack, ← readBack, same]
  calc
    number = Nat.ofDigitChars 10 (Nat.toDigits 10 number) 0 :=
      Nat.ofDigitChars_ten_toDigits.symm
    _ = Nat.ofDigitChars 10 (Nat.toDigits 10 other) 0 := by
      rw [digits]
    _ = other := Nat.ofDigitChars_ten_toDigits

theorem decimal_ne_nil (number : Nat) : decimal number ≠ [] := by
  intro empty
  exact Nat.toDigits_ne_nil (List.map_eq_nil_iff.mp empty)

theorem digit_of_mem_decimal
    {number : Nat} {byte : UInt8} (member : byte ∈ decimal number) :
    byte.toNat / 2 ^ 4 = 3 := by
  obtain ⟨digit, isDigit, rfl⟩ := List.mem_map.mp member
  exact (toUInt8_of_isDigit (isDigit_of_mem_toDigits isDigit)).2

theorem length_decimal_le {port : UInt16} : (decimal port.toNat).length ≤ 5 := by
  rw [decimal, List.length_map,
    Nat.length_toDigits_le_iff (by decide) (by decide)]
  exact lt_trans port.toNat_lt (by decide)

/-! ## The hash of an address -/

/-- The lowest forty bits of the FNV prime are those of 435. -/
theorem fnvPrime_spreads : Spreads 1099511628211 40 6 435 where
  bits_le := by decide
  low_eq := by decide +kernel
  odd := rfl
  wide := by decide

def Config.generateNodeId (host : ByteString) (port : UInt16) : ByteString :=
  let key := host ++ .ofText ":" ++ decimal port.toNat
  decimal (hashFrom 1099511628211 14695981039346656037 key).toNat

/-- Ports of one host with the same number of digits give different ids. -/
theorem Config.generateNodeId_ne
    {host : ByteString} {port other : UInt16} (differ : port ≠ other)
    (sameLength :
      (decimal port.toNat).length = (decimal other.toNat).length) :
    generateNodeId host port ≠ generateNodeId host other := by
  intro same
  have digits (number : Nat) (byte : UInt8) (member : byte ∈ decimal number) :
      byte.toNat < 2 ^ 6 := by
    have inBlock := digit_of_mem_decimal member
    omega
  have sameHash := UInt64.toNat_inj.mp (decimal_inj same)
  rw [hashFrom_append _ _ _ (decimal port.toNat),
    hashFrom_append _ _ _ (decimal other.toNat)] at sameHash
  apply fnvPrime_spreads.hashFrom_ne sameLength (digits _) (digits _)
    (fun _ => digit_of_mem_decimal) (fun _ => digit_of_mem_decimal) ?_ ?_ sameHash
  · calc
      2 ^ 4 * 435 ^ (decimal port.toNat).length ≤ 2 ^ 4 * 435 ^ 5 :=
        Nat.mul_le_mul_left _ (Nat.pow_le_pow_right (by decide) length_decimal_le)
      _ ≤ 2 ^ 40 * 435 := by
        decide
  · intro sameText
    exact differ (UInt16.toNat_inj.mp (decimal_inj sameText))

/-! ## Addresses in the configuration file -/

structure PeerConfig where
  nodeId : ByteString
  hostname : ByteString
  clientSocketPort : UInt32
  serverSocketPort : UInt32

/-- One entry of `peers`, `prefill_nodes` or `decode_nodes`. -/
structure PeerKeys where
  host : ByteString
  clientSocketPort : UInt32
  serverSocketPort : UInt32

def PeerKeys.toPeer (keys : PeerKeys) : PeerConfig where
  nodeId := Config.generateNodeId keys.host keys.clientSocketPort.toUInt16
  hostname := keys.host
  clientSocketPort := keys.clientSocketPort
  serverSocketPort := keys.serverSocketPort

/-- What a `Config` says about the addresses of the cluster. -/
structure AddressConfig where
  hostname : ByteString
  clientSocketPort : UInt32
  serverSocketPort : UInt32
  nodeId : ByteString
  orchestratorHost : ByteString
  orchestratorPort : UInt32
  orchestratorId : ByteString
  peers : List PeerConfig
  prefillNodes : List PeerConfig
  decodeNodes : List PeerConfig

/-- The keys of the file; its own ports are read as `int`. -/
structure AddressKeys where
  host : ByteString
  clientSocketPort : Int32
  serverSocketPort : Int32
  orchestratorHost : ByteString
  orchestratorPort : Int32
  peers : List PeerKeys
  prefillNodes : List PeerKeys
  decodeNodes : List PeerKeys

def AddressConfig.validate (config : AddressConfig) : Except ByteString Unit :=
  if config.nodeId = [] then
    .error (.ofText "node_id must be positive")
  else if config.hostname = [] then
    .error (.ofText "host is required")
  else if config.clientSocketPort ≤ 0 ∨ 65535 < config.clientSocketPort then
    .error (.ofText "invalid port: " ++ decimal config.clientSocketPort.toNat)
  else if config.peers.isEmpty then
    .error (.ofText "at least one peer is required")
  else
    .ok ()

namespace AddressKeys

/-- The configuration that `fromFile` has filled in before it validates it. -/
def addresses (keys : AddressKeys) : AddressConfig where
  hostname := keys.host
  clientSocketPort := keys.clientSocketPort.toUInt32
  serverSocketPort := keys.serverSocketPort.toUInt32
  nodeId :=
    Config.generateNodeId keys.host keys.clientSocketPort.toUInt32.toUInt16
  orchestratorHost := keys.orchestratorHost
  orchestratorPort := keys.orchestratorPort.toUInt32
  orchestratorId :=
    Config.generateNodeId keys.orchestratorHost
      keys.orchestratorPort.toUInt32.toUInt16
  peers := keys.peers.map PeerKeys.toPeer
  prefillNodes := keys.prefillNodes.map PeerKeys.toPeer
  decodeNodes := keys.decodeNodes.map PeerKeys.toPeer

def fromFile (keys : AddressKeys) : Except ByteString AddressConfig := do
  keys.addresses.validate
  return keys.addresses

end AddressKeys

/-- A port that passes the check is one of 16 bits. -/
def AddressConfig.HasPort (config : AddressConfig) : Prop :=
  0 < config.clientSocketPort ∧ config.clientSocketPort ≤ 65535

namespace AddressConfig

variable {config : AddressConfig}

theorem HasPort.toNat_toUInt16 (hasPort : config.HasPort) :
    config.clientSocketPort.toUInt16.toNat = config.clientSocketPort.toNat := by
  have bound : config.clientSocketPort.toNat ≤ 65535 := hasPort.2
  rw [UInt32.toNat_toUInt16]
  exact Nat.mod_eq_of_lt (by omega)

theorem validate_eq_ok_iff :
    config.validate = .ok () ↔
      config.nodeId ≠ [] ∧ config.hostname ≠ [] ∧ config.HasPort ∧
        config.peers ≠ [] := by
  have port :
      ¬(config.clientSocketPort ≤ 0 ∨ 65535 < config.clientSocketPort) ↔
        config.HasPort := by
    rw [not_or, UInt32.not_le, UInt32.not_lt, HasPort]
  rw [← port, ne_eq config.peers, ← List.isEmpty_iff]
  unfold validate
  split_ifs with noId noHost badPort noPeers <;> simp_all

end AddressConfig

namespace AddressKeys

variable {keys : AddressKeys} {config : AddressConfig}

theorem nodeId_addresses_ne_nil (keys : AddressKeys) :
    keys.addresses.nodeId ≠ [] :=
  decimal_ne_nil _

/-- The check of the port, in terms of the number in the file. -/
theorem hasPort_addresses_iff :
    keys.addresses.HasPort ↔
      0 < keys.clientSocketPort ∧ keys.clientSocketPort ≤ 65535 := by
  have asInt :
      keys.clientSocketPort.toInt =
        if 2 * keys.clientSocketPort.toUInt32.toNat < 2 ^ 32 then
          (keys.clientSocketPort.toUInt32.toNat : Int)
        else
          keys.clientSocketPort.toUInt32.toNat - 2 ^ 32 :=
    BitVec.toInt_eq_toNat_cond _
  have unsigned :
      keys.addresses.HasPort ↔
        0 < keys.clientSocketPort.toUInt32.toNat ∧
          keys.clientSocketPort.toUInt32.toNat ≤ 65535 :=
    Iff.rfl
  have signed :
      0 < keys.clientSocketPort ∧ keys.clientSocketPort ≤ 65535 ↔
        0 < keys.clientSocketPort.toInt ∧
          keys.clientSocketPort.toInt ≤ 65535 := by
    rw [Int32.lt_iff_toInt_lt, Int32.le_iff_toInt_le]
    exact Iff.rfl
  have bound := keys.clientSocketPort.toUInt32.toNat_lt
  rw [unsigned, signed, asInt]
  split_ifs <;> omega

theorem fromFile_eq_ok_iff :
    keys.fromFile = .ok config ↔
      keys.addresses = config ∧ keys.host ≠ [] ∧ keys.addresses.HasPort ∧
        keys.peers ≠ [] := by
  have valid :
      keys.addresses.validate = .ok () ↔
        keys.host ≠ [] ∧ keys.addresses.HasPort ∧ keys.peers ≠ [] := by
    have listed : keys.addresses.peers ≠ [] ↔ keys.peers ≠ [] :=
      not_congr List.map_eq_nil_iff
    rw [AddressConfig.validate_eq_ok_iff, listed]
    exact and_iff_right (nodeId_addresses_ne_nil keys)
  rw [← valid, fromFile]
  cases keys.addresses.validate with
  | error text =>
      simp [bind, Except.bind]
  | ok _ =>
      simp [bind, Except.bind, pure, Except.pure]

/-- On one host, ports with the same number of digits give the same id only if
they are the same. -/
theorem nodeId_eq_iff
    {otherKeys : AddressKeys} {other : AddressConfig}
    (loaded : keys.fromFile = .ok config)
    (otherLoaded : otherKeys.fromFile = .ok other)
    (sameHost : config.hostname = other.hostname)
    (sameLength :
      (decimal config.clientSocketPort.toNat).length =
        (decimal other.clientSocketPort.toNat).length) :
    config.nodeId = other.nodeId ↔
      config.clientSocketPort = other.clientSocketPort := by
  obtain ⟨rfl, _, hasPort, _⟩ := fromFile_eq_ok_iff.mp loaded
  obtain ⟨rfl, _, otherHasPort, _⟩ := fromFile_eq_ok_iff.mp otherLoaded
  have port := hasPort.toNat_toUInt16
  have otherPort := otherHasPort.toNat_toUInt16
  have host : keys.host = otherKeys.host := sameHost
  have otherId :
      otherKeys.addresses.nodeId =
        Config.generateNodeId keys.host
          otherKeys.addresses.clientSocketPort.toUInt16 := by
    rw [host]
    rfl
  rw [otherId]
  constructor
  · intro sameId
    rw [← port, ← otherPort] at sameLength
    by_contra differ
    apply Config.generateNodeId_ne _ sameLength sameId
    intro samePort
    rw [samePort, otherPort] at port
    exact differ (UInt32.toNat_inj.mp port.symm)
  · intro samePort
    rw [← samePort]
    rfl

/-- Processes on one host whose ports have the same number of digits have distinct
ids exactly if they have distinct ports. -/
theorem ids_distinct_iff
    {configs : List AddressConfig} {host : ByteString} {digits : Nat}
    (loaded :
      ∀ config ∈ configs, ∃ keys : AddressKeys, keys.fromFile = .ok config)
    (sameHost : ∀ config ∈ configs, config.hostname = host)
    (sameLength :
      ∀ config ∈ configs,
        (decimal config.clientSocketPort.toNat).length = digits) :
    (configs.map AddressConfig.nodeId).Nodup ↔
      (configs.map AddressConfig.clientSocketPort).Nodup := by
  rw [List.Nodup, List.Nodup, List.pairwise_map, List.pairwise_map]
  apply List.Pairwise.iff_of_mem
  intro config other member otherMember
  obtain ⟨keys, isLoaded⟩ := loaded config member
  obtain ⟨otherKeys, otherIsLoaded⟩ := loaded other otherMember
  exact
    not_congr
      (nodeId_eq_iff isLoaded otherIsLoaded
        ((sameHost config member).trans (sameHost other otherMember).symm)
        ((sameLength config member).trans (sameLength other otherMember).symm))

/-! ## Two processes on one host -/

/-- A process that lists one other one. -/
def sampleKeys (port : Int32) : AddressKeys where
  host := .ofText "127.0.0.1"
  clientSocketPort := port
  serverSocketPort := 7000
  orchestratorHost := .ofText "127.0.0.1"
  orchestratorPort := 7001
  peers := [⟨.ofText "127.0.0.2", 8080, 7000⟩]
  prefillNodes := []
  decodeNodes := []

theorem fromFile_sampleKeys {port : Int32} (inRange : 0 < port ∧ port ≤ 65535) :
    (sampleKeys port).fromFile = .ok (sampleKeys port).addresses := by
  have named : ByteString.ofText "127.0.0.1" ≠ [] := by
    decide +kernel
  exact
    fromFile_eq_ok_iff.mpr
      ⟨rfl, named, hasPort_addresses_iff.mpr inRange, List.cons_ne_nil _ _⟩

theorem ids_distinct_iff_sampleKeys :
    ([(sampleKeys 8080).addresses, (sampleKeys 8081).addresses].map
      AddressConfig.nodeId).Nodup := by
  have loaded :
      ∀ config ∈ [(sampleKeys 8080).addresses, (sampleKeys 8081).addresses],
        ∃ keys : AddressKeys, keys.fromFile = .ok config :=
    List.forall_mem_cons.mpr
      ⟨⟨_, fromFile_sampleKeys (by decide)⟩,
        List.forall_mem_singleton.mpr ⟨_, fromFile_sampleKeys (by decide)⟩⟩
  have sameHost :
      ∀ config ∈ [(sampleKeys 8080).addresses, (sampleKeys 8081).addresses],
        config.hostname = .ofText "127.0.0.1" :=
    List.forall_mem_cons.mpr ⟨rfl, List.forall_mem_singleton.mpr rfl⟩
  have sameLength :
      ∀ config ∈ [(sampleKeys 8080).addresses, (sampleKeys 8081).addresses],
        (decimal config.clientSocketPort.toNat).length = 4 :=
    List.forall_mem_cons.mpr
      ⟨by decide +kernel, List.forall_mem_singleton.mpr (by decide +kernel)⟩
  have distinct :
      ([(sampleKeys 8080).addresses, (sampleKeys 8081).addresses].map
        AddressConfig.clientSocketPort).Nodup := by
    have differ : (8080 : Int32).toUInt32 ≠ (8081 : Int32).toUInt32 := by
      decide
    exact
      List.nodup_cons.mpr
        ⟨List.not_mem_cons_of_ne_of_not_mem differ List.not_mem_nil,
          List.nodup_singleton _⟩
  exact (ids_distinct_iff loaded sameHost sameLength).mpr distinct

end AddressKeys

end RdmaKvCache
