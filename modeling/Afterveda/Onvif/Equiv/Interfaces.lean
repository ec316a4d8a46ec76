import Afterveda.Lib.OrderedTable
import Afterveda.Onvif.Soap.Device

/-!
# The network interfaces

`GetNetworkInterfaces` merges the entries of `getifaddrs` by name and shares the addresses of an
interface out between `Manual` and `FromDHCP`.  `merged_foldl` says what the merge gives: one
snapshot a name, with all addresses listed under it.  `conserved_iff` follows them into the
response: all are there but where an interface with a DHCP lease has several addresses, of which
`FromDHCP` takes one.
-/

namespace Afterveda.Onvif.Soap

open CText

variable {addresses : List IfAddr} {snapshots : List NetworkInterfaceSnapshot} {name : Bytes}

/-! ### What is listed -/

/-- The name that an entry counts under, if it does: it has a name and an address and is of no
loopback interface. -/
def eligibleName (entry : IfAddr) : Option Bytes :=
  if entry.hasAddr && !entry.loopback then entry.name.map Subtype.val else none

/-- The length of the prefix that a mask selects: its leading ones. -/
def maskLength (mask : Option (BitVec 32)) : ℕ :=
  match mask with
  | none => 0
  | some bits => ((List.range 32).takeWhile bits.getMsbD).length

/-- The IPv4 addresses listed under a name, each with the length of its prefix. -/
def listedAddresses (name : Bytes) (addresses : List IfAddr) : List PrefixedIPv4Address :=
  (addresses.filter (eligibleName · = some name)).filterMap fun entry =>
    entry.ipv4.map fun text => ⟨cString text, maskLength entry.netmask⟩

/-- The response has one entry a name, with the addresses listed under it. -/
structure Conserved (addresses : List IfAddr) (interfaces : List NetworkInterface) : Prop where
  nodup : (interfaces.map (·.name)).Nodup
  names : ∀ name, name ∈ interfaces.map (·.name) ↔ some name ∈ addresses.map eligibleName
  token : ∀ interface ∈ interfaces, interface.token = interface.name
  addresses : ∀ interface ∈ interfaces,
    (interface.ipv4Config.manual ++ interface.ipv4Config.fromDhcp.toList).Perm
      (listedAddresses interface.name addresses)

/-! ### The length of a mask -/

theorem countLeadingOnes_shift (bits : BitVec 32) (n k : ℕ) (h : k + n = 32) :
    countLeadingOnes n (bits <<< k) = ((List.range' k n).takeWhile bits.getMsbD).length := by
  induction n generalizing k with
  | zero => rfl
  | succ n ih =>
    have hmsb : (bits <<< k).msb = bits.getMsbD k := by
      rw [BitVec.msb_eq_getMsbD_zero, BitVec.getMsbD_shiftLeft, zero_add]
    rw [countLeadingOnes, hmsb, List.range'_succ, List.takeWhile_cons]
    split_ifs
    · rw [← BitVec.shiftLeft_add, ih (k + 1) (by omega), List.length_cons]
      push_cast
      ring
    · rfl

theorem prefixLength_eq (mask : Option (BitVec 32)) : prefixLength mask = maskLength mask := by
  cases mask with
  | none => rfl
  | some bits =>
    have h := countLeadingOnes_shift bits 32 0 rfl
    rwa [BitVec.shiftLeft_zero, ← List.range_eq_range'] at h

/-! ### The merge -/

theorem updateSnapshot_eq (change : NetworkInterfaceSnapshot → NetworkInterfaceSnapshot) :
    updateSnapshot name change snapshots =
      OrderedTable.update (·.name) name (fun old => change (old.getD {})) snapshots := by
  induction snapshots with
  | nil => rfl
  | cons snapshot rest ih => rw [updateSnapshot, OrderedTable.update, ih]; rfl

/-- The snapshots of the entries read: in the order of their names, one for each name that counts,
with the addresses listed under it. -/
structure Merged (addresses : List IfAddr) (snapshots : List NetworkInterfaceSnapshot) : Prop where
  sorted : OrderedTable.Sorted (·.name) snapshots
  names : ∀ name, name ∈ snapshots.map (·.name) ↔ some name ∈ addresses.map eligibleName
  addresses : ∀ snapshot ∈ snapshots,
    snapshot.ipv4Addresses.map fillPrefixedAddress = listedAddresses snapshot.name addresses

theorem listedAddresses_append (entry : IfAddr) :
    listedAddresses name (addresses ++ [entry]) = listedAddresses name addresses ++
      if eligibleName entry = some name then
        (entry.ipv4.map fun text => ⟨cString text, maskLength entry.netmask⟩).toList
      else [] := by
  simp only [listedAddresses, List.filter_append, List.filterMap_append]
  congr 1
  by_cases h : eligibleName entry = some name
  · cases hip : entry.ipv4 <;> simp [h, hip]
  · simp [h]

/-- A name that does not count has no address listed. -/
theorem listedAddresses_eq_nil (h : some name ∉ addresses.map eligibleName) :
    listedAddresses name addresses = [] := by
  rw [listedAddresses, List.filterMap_eq_nil_iff.mpr]
  intro entry hentry
  obtain ⟨hmem, heq⟩ := List.mem_filter.mp hentry
  exact absurd (List.mem_map.mpr ⟨entry, hmem, by simpa using heq⟩) h

theorem addEntry_eq (entry : IfAddr) : addEntry snapshots entry =
    match eligibleName entry with
    | none => snapshots
    | some name => updateSnapshot name (·.add name entry) snapshots := by
  unfold addEntry eligibleName
  cases entry.name with
  | none => cases entry.hasAddr <;> cases entry.loopback <;> rfl
  | some name => cases entry.hasAddr <;> cases entry.loopback <;> rfl

theorem map_fill_add (snapshot : NetworkInterfaceSnapshot) (entry : IfAddr) :
    (snapshot.add name entry).ipv4Addresses.map fillPrefixedAddress =
      snapshot.ipv4Addresses.map fillPrefixedAddress ++
        (entry.ipv4.map fun text => ⟨cString text, maskLength entry.netmask⟩).toList := by
  cases h : entry.ipv4 with
  | none => simp [NetworkInterfaceSnapshot.add, h]
  | some text => simp [NetworkInterfaceSnapshot.add, h, fillPrefixedAddress, prefixLength_eq]

theorem merged_addEntry (h : Merged addresses snapshots) (entry : IfAddr) :
    Merged (addresses ++ [entry]) (addEntry snapshots entry) := by
  rw [addEntry_eq]
  cases hname : eligibleName entry with
  | none =>
    refine ⟨h.sorted, fun name => ?_, fun snapshot hmem => ?_⟩
    · simp [h.names, hname]
    · simp [h.addresses snapshot hmem, listedAddresses_append, hname]
  | some name =>
    dsimp only
    rw [updateSnapshot_eq]
    have hkey : ∀ old : Option NetworkInterfaceSnapshot,
        ((old.getD {}).add name entry).name = name := fun old => rfl
    set found := OrderedTable.lookup (·.name) name snapshots with hfound
    -- what the changed snapshot had listed before: nothing where it is new
    have hold : (found.getD {}).ipv4Addresses.map fillPrefixedAddress =
        listedAddresses name addresses := by
      cases hlook : found with
      | none =>
        rw [hfound, OrderedTable.lookup_eq_none_iff] at hlook
        rw [listedAddresses_eq_nil]
        · rfl
        · rw [← h.names]
          simpa using hlook
      | some old =>
        rw [hfound] at hlook
        obtain ⟨hmem, heq⟩ := OrderedTable.lookup_eq_some hlook
        rw [← heq]
        exact h.addresses old hmem
    refine ⟨h.sorted.update hkey, fun other => ?_, fun snapshot hmem => ?_⟩
    · rw [OrderedTable.mem_keys_update h.sorted hkey, h.names]
      simp [hname, or_comm]
    · rcases (OrderedTable.mem_update_iff h.sorted).mp hmem with rfl | ⟨hmem, hne⟩
      · rw [map_fill_add, hold, listedAddresses_append, hname]
        simp [NetworkInterfaceSnapshot.add]
      · rw [h.addresses snapshot hmem, listedAddresses_append, hname, if_neg, List.append_nil]
        simpa using Ne.symm hne

/-- What the loop over the entries leaves. -/
theorem merged_foldl (h : Merged addresses snapshots) (rest : List IfAddr) :
    Merged (addresses ++ rest) (rest.foldl addEntry snapshots) := by
  induction rest generalizing addresses snapshots with
  | nil => rwa [List.append_nil]
  | cons entry rest ih =>
    rw [List.append_cons]
    exact ih (merged_addEntry h entry)

theorem merged_nil : Merged [] [] :=
  ⟨List.Pairwise.nil, fun name => by simp, fun snapshot h => absurd h List.not_mem_nil⟩

/-! ### The response -/

/-- The response for a snapshot of an interface. -/
def respond (details : Bytes → LinkDetails) (snapshot : NetworkInterfaceSnapshot) :
    NetworkInterface :=
  fillNetworkInterface
    { readLinkDetails (details snapshot.name) snapshot with dhcp := (details snapshot.name).dhcp }

theorem fillNetworkInterfacesResponse_eq (details : Bytes → LinkDetails) :
    fillNetworkInterfacesResponse ⟨some addresses, details⟩ =
      (addresses.foldl addEntry []).map (respond details) := by
  rw [fillNetworkInterfacesResponse, readNetworkInterfaces, List.map_map]
  rfl

/-- The addresses of an interface in the response: all of its snapshot, or the first under a lease.
-/
theorem respond_addresses (details : Bytes → LinkDetails) (snapshot : NetworkInterfaceSnapshot) :
    (respond details snapshot).ipv4Config.manual ++
        (respond details snapshot).ipv4Config.fromDhcp.toList =
      if (details snapshot.name).dhcp then
        (snapshot.ipv4Addresses.map fillPrefixedAddress).take 1
      else snapshot.ipv4Addresses.map fillPrefixedAddress := by
  cases h : (details snapshot.name).dhcp
  · simp [respond, fillNetworkInterface, readLinkDetails, h]
  · cases hip : snapshot.ipv4Addresses <;>
      simp [respond, fillNetworkInterface, readLinkDetails, h, hip]

/-- The first of some elements is all of them only where there are no more. -/
theorem take_one_perm_iff {α : Type} (xs : List α) : (xs.take 1).Perm xs ↔ xs.length ≤ 1 := by
  refine ⟨fun h => ?_, fun h => by rw [List.take_of_length_le h]⟩
  have hlength := h.length_eq
  rw [List.length_take] at hlength
  omega

theorem names_of_merged (h : Merged addresses snapshots) :
    ∀ snapshot ∈ snapshots, cString snapshot.name = snapshot.name := by
  intro snapshot hmem
  obtain ⟨entry, -, hentry⟩ :=
    List.mem_map.mp ((h.names snapshot.name).mp (List.mem_map_of_mem hmem))
  unfold eligibleName at hentry
  split_ifs at hentry
  obtain ⟨name, -, hname⟩ := Option.map_eq_some_iff.mp hentry
  rw [← hname, cString_of_notMem name.2]

/-- The response conserves the addresses of any list of entries if and only if no interface with a
DHCP lease has several. -/
theorem conserved_iff (addresses : List IfAddr) (details : Bytes → LinkDetails) :
    Conserved addresses (fillNetworkInterfacesResponse ⟨some addresses, details⟩) ↔
      ∀ name, some name ∈ addresses.map eligibleName → (details name).dhcp = true →
        (listedAddresses name addresses).length ≤ 1 := by
  have hmerged : Merged addresses (addresses.foldl addEntry []) := merged_foldl merged_nil addresses
  rw [fillNetworkInterfacesResponse_eq]
  set snapshots := addresses.foldl addEntry []
  have hname : ∀ snapshot ∈ snapshots, (respond details snapshot).name = snapshot.name :=
    names_of_merged hmerged
  have hnames : (snapshots.map (respond details)).map (·.name) = snapshots.map (·.name) := by
    rw [List.map_map]
    exact List.map_congr_left hname
  -- what the addresses of one interface come to
  have hperm : ∀ snapshot ∈ snapshots,
      (((respond details snapshot).ipv4Config.manual ++
          (respond details snapshot).ipv4Config.fromDhcp.toList).Perm
        (listedAddresses (respond details snapshot).name addresses) ↔
      ((details snapshot.name).dhcp = true →
        (listedAddresses snapshot.name addresses).length ≤ 1)) := by
    intro snapshot hmem
    rw [respond_addresses, hname snapshot hmem, hmerged.addresses snapshot hmem]
    split_ifs with h
    · simp [h, take_one_perm_iff]
    · simp [h]
  constructor
  · intro h name hlisted
    obtain ⟨snapshot, hmem, rfl⟩ := List.mem_map.mp ((hmerged.names name).mpr hlisted)
    exact (hperm snapshot hmem).mp (h.addresses _ (List.mem_map_of_mem hmem))
  · intro h
    refine ⟨?_, fun name => ?_, fun interface hmem => ?_, fun interface hmem => ?_⟩
    · rw [hnames]
      exact hmerged.sorted.nodup
    · rw [hnames]
      exact hmerged.names name
    · obtain ⟨snapshot, -, rfl⟩ := List.mem_map.mp hmem
      rfl
    · obtain ⟨snapshot, hsnapshot, rfl⟩ := List.mem_map.mp hmem
      exact (hperm snapshot hsnapshot).mpr
        (h _ ((hmerged.names _).mp (List.mem_map_of_mem hsnapshot)))

/-- An entry of `eth0`, which is up. -/
def eth0Entry (address : Bytes) (mask : BitVec 32) : IfAddr where
  name := some ⟨bytes "eth0", by decide⟩
  hasAddr := true
  loopback := false
  up := true
  ipv4 := some address
  netmask := some mask

/-- A host whose interface has a lease and a second address, as one set by hand. -/
def twoAddresses : List IfAddr :=
  [eth0Entry (bytes "192.168.0.23") 0xffffff00, eth0Entry (bytes "10.1.0.23") 0xffff0000]

theorem not_conserved_twoAddresses : ¬Conserved twoAddresses
    (fillNetworkInterfacesResponse ⟨some twoAddresses, fun _ => ⟨some 1500, none, true⟩⟩) := by
  intro h
  have hlength := (h.addresses _ (List.mem_singleton_self _)).length_eq
  revert hlength
  decide

end Afterveda.Onvif.Soap
