import AnoPki.Foundation.NetipText
import AnoPki.Lifecycle.Policy

/-! # The addresses of a certificate request

The core reports the addresses in the subject alternative names of a certificate request as texts,
and the service compares them with the texts that were requested. -/
namespace AnoPki.Core

open Foundation List Netip

/-- `format_ipv4` on four bytes. -/
def formatIpv4 (data : List UInt8) : Text := dotted data

/-- `format_ipv6` on sixteen bytes: groups of two bytes, each with its leading zeros. -/
def formatIpv6 (data : List UInt8) : Text := grouped (pairs data)

def ipAddressToText (data : List UInt8) : Except Text Text :=
  if data.length = 4 then .ok (formatIpv4 data)
  else if data.length = 16 then .ok (formatIpv6 data)
  else .error "csr.parse_failed"

/-- The text is the one that the core writes for the address that it reads as. -/
def CoreSpelled (text : Text) : Prop :=
  ∃ addr, parseAddr text = some addr ∧ ipAddressToText addr.asSlice = .ok text

theorem length_places (base count value : Nat) : (places base count value).length = count := by
  induction count generalizing value with
  | zero => rfl
  | succ count ih => rw [places, length_append, ih, length_singleton]

theorem length_asSlice (addr : Netip.Addr) : addr.asSlice.length = if addr.is6 then 16 else 4 := by
  rw [Netip.Addr.asSlice, length_map, length_places]

/-- The text of an address is read as that address. -/
theorem parseAddr_ipAddressToText {data text} (written : ipAddressToText data = .ok text) :
    ∃ addr, parseAddr text = some addr ∧ addr.asSlice = data := by
  rw [ipAddressToText] at written
  split at written
  · next size =>
    cases written
    exact ⟨_, parseAddr_dotted size, asSlice_of_bytes size⟩
  · split at written
    · next size =>
      cases written
      exact ⟨_, parseAddr_grouped size, asSlice_of_bytes size⟩
    · cases written

theorem sameStringSet_iff {left right} : Lifecycle.sameStringSet left right ↔ left.Perm right := by
  constructor
  · exact Lifecycle.perm_of_sameStringSet
  · intro perm
    simp only [Lifecycle.sameStringSet, decide_eq_true_eq]
    refine ⟨perm.length_eq, ?_⟩
    have sorted := pairwise_insertionSort (fun a b : Text => a ≤ b)
    have same := perm_insertionSort (fun a b : Text => a ≤ b)
    exact List.Perm.eq_of_pairwise (fun a b _ _ => le_antisymm) (sorted left) (sorted right)
      (((same left).trans perm).trans (same right).symm)

/-- The text that the core writes for an address. -/
def coreText (addr : Netip.Addr) : Text :=
  if addr.is6 then formatIpv6 addr.asSlice else formatIpv4 addr.asSlice

theorem ipAddressToText_asSlice (addr : Netip.Addr) :
    ipAddressToText addr.asSlice = .ok (coreText addr) := by
  rw [ipAddressToText, length_asSlice, coreText]
  cases addr.is6 <;> rfl

/-- Requested addresses and those of a certificate request that are the same addresses are taken as
the same exactly when every requested address is spelled as the core spells it. -/
theorem ipComparison_iff {requested texts : List Text} {addrs : List Netip.Addr}
    {sans : List (List UInt8)} (parsed : requested.map parseAddr = addrs.map some)
    (same : sans.Perm (addrs.map Netip.Addr.asSlice))
    (reported : sans.map ipAddressToText = texts.map .ok) :
    Lifecycle.sameStringSet requested texts ↔ ∀ text ∈ requested, CoreSpelled text := by
  rw [sameStringSet_iff]
  constructor
  · intro perm text inside
    have there : Except.ok text ∈ sans.map ipAddressToText := by
      rw [reported]
      exact mem_map_of_mem (perm.subset inside)
    obtain ⟨data, -, written⟩ := mem_map.mp there
    obtain ⟨addr, read, rfl⟩ := parseAddr_ipAddressToText written
    exact ⟨addr, read, written⟩
  · intro spelled
    have written : (texts.map Except.ok).Perm ((addrs.map coreText).map (Except.ok : Text →
        Except Text Text)) := by
      rw [← reported, map_map]
      refine (same.map ipAddressToText).trans (.of_eq ?_)
      rw [map_map]
      exact map_congr_left fun addr _ => ipAddressToText_asSlice addr
    have back : ∀ list : List Text,
        (list.map Except.ok).map (fun outcome : Except Text Text =>
          outcome.toOption.getD []) = list := by
      intro list
      rw [map_map]
      exact map_id'' (fun _ => rfl) list
    have texts_perm : texts.Perm (addrs.map coreText) := by
      have mapped := written.map fun outcome => outcome.toOption.getD []
      rwa [back, back] at mapped
    have given : requested = addrs.map coreText := by
      calc
        requested = requested.map fun text => ((parseAddr text).map coreText).getD [] := by
          refine (map_id'' (fun _ => rfl) requested).symm.trans
            (map_congr_left fun text inside => ?_)
          obtain ⟨addr, read, spells⟩ := spelled text inside
          rw [read, ipAddressToText_asSlice] at *
          exact (Except.ok.inj spells).symm
        _ = (requested.map parseAddr).map fun addr => (addr.map coreText).getD [] := by
          rw [map_map]
          rfl
        _ = addrs.map coreText := by
          rw [parsed, map_map]
          rfl
    exact given ▸ texts_perm.symm

/-- The loopback address as the core spells it. -/
def fullLoopback : Text := "0000:0000:0000:0000:0000:0000:0000:0001"

/-- It is requested so, beside an address of version 4, which has one spelling. -/
theorem fullSpelling_same :
    Lifecycle.sameStringSet ["192.0.2.1", fullLoopback] [fullLoopback, "192.0.2.1"] = true :=
  (@ipComparison_iff ["192.0.2.1", fullLoopback] [fullLoopback, "192.0.2.1"]
    [⟨false, 3221225985, []⟩, ⟨true, 1, []⟩] [replicate 15 0 ++ [1], [192, 0, 2, 1]]
    (by decide +kernel) (by decide +kernel) (by decide +kernel)).mpr
    (forall_mem_cons.mpr ⟨⟨⟨false, 3221225985, []⟩, by decide +kernel⟩,
      forall_mem_singleton.mpr ⟨⟨true, 1, []⟩, by decide +kernel⟩⟩)

/-- The loopback address is requested in its short form. -/
theorem shortSpelling_differs :
    parseAddr "::1" = some ⟨true, 1, []⟩ ∧
      (⟨true, 1, []⟩ : Netip.Addr).asSlice = List.replicate 15 0 ++ [1] ∧
      ipAddressToText (List.replicate 15 0 ++ [1]) = .ok fullLoopback ∧
      Lifecycle.sameStringSet ["::1".toList] [fullLoopback] = false := by
  decide +kernel

end AnoPki.Core
