import SignalRelay.Net.Address
import SignalRelay.Proofs.Net.Ipv6

/-!
# Addresses are read as they are written

IP addresses of both kinds: which texts denote them (`IpAddress.parse?_eq_some_iff`), and that the
text written for one is among these (`IpAddress.parse?_text`). What is written for an IPv6 address
does not start like an IPv4 address, so it does not matter that the latter are tried first. Socket
addresses, with their brackets, scopes and ports, are read as they are written too
(`SocketAddress.parse?_text`).
-/

namespace SignalRelay

/-! ### IP addresses -/

/-- The texts of IPv6 addresses do not start like an IPv4 address. -/
theorem Ipv6.AddressText.ipv4_read {groups : List UInt16} {s : List Char}
    (h : AddressText groups s) : Ipv4.read s = none := by
  cases h with
  | full written length_eq =>
    cases written with
    | nil => cases length_eq
    | ipv4 => cases length_eq
    | cons head tail =>
      have hends := tail.endsGroup endsAddress_nil.endsGroup
      rw [List.append_nil] at hends
      exact head.ipv4_read hends
  | gap before =>
    cases before with
    | nil => exact ipv4_read_eq_none (endsGroup_colon _)
    | cons head tail =>
      rw [separator, List.nil_append, List.append_assoc]
      exact head.ipv4_read (tail.endsGroup (endsGroup_colon _))

namespace IpAddress

/-- **The texts of an IP address.** Those of an IPv4 address are only the one that is written for
it. -/
inductive AddressText : IpAddress → List Char → Prop
  | v4 (ip : Ipv4) : AddressText (v4 ip) ip.chars
  | v6 {ip : Ipv6} {s : List Char} (written : Ipv6.AddressText ip.groups s) :
    AddressText (v6 ip) s

/-- **A text is read as an IP address iff it is one of its texts.** -/
theorem parse?_eq_some_iff {text : String} {ip : IpAddress} :
    parse? text = some ip ↔ AddressText ip text.toList := by
  rw [parse?, Text.Reader.whole_eq_some_iff]
  constructor
  · intro h
    unfold read at h
    split at h
    · next ip rest hread =>
      cases h
      rw [Ipv4.of_read hread, List.append_nil]
      exact .v4 ip
    · obtain ⟨⟨ip, rest⟩, hread, heq⟩ := Option.map_eq_some_iff.1 h
      cases heq
      obtain ⟨t, hs, written⟩ := Ipv6.exists_addressText hread
      rw [List.append_nil] at hs
      rw [hs]
      exact .v6 written
  · generalize text.toList = s
    intro h
    rw [read]
    cases h with
    | v4 ip =>
      have hread := ip.read_append Text.endsDigits_nil
      rw [List.append_nil] at hread
      rw [hread]
    | @v6 ip _ written =>
      have hread := written.read_append ip.length_eq Ipv6.endsAddress_nil
      rw [List.append_nil] at hread
      rw [written.ipv4_read, hread]
      rfl

/-- **An IP address is read as it is written.** -/
theorem parse?_text (ip : IpAddress) : parse? ip.text = some ip := by
  rw [parse?_eq_some_iff, text, String.toList_ofList]
  cases ip with
  | v4 ip => exact .v4 ip
  | v6 ip => exact .v6 ((Ipv6.canonicalText_chars ip).addressText ip.length_eq)

theorem text_injective : Function.Injective text := by
  intro ip other h
  have hparse := congrArg parse? h
  rw [parse?_text, parse?_text] at hparse
  exact Option.some.inj hparse

end IpAddress

/-! ### Socket addresses -/

namespace SocketAddress

def ip : SocketAddress → IpAddress
  | v4 ip _ => .v4 ip
  | v6 ip _ _ => .v6 ip

def port : SocketAddress → UInt16
  | v4 _ port => port
  | v6 _ port _ => port

/-- The scope in a socket address, zero when it has none. -/
def scope : SocketAddress → UInt32
  | v4 _ _ => 0
  | v6 _ _ scope => scope

@[simp]
theorem ip_ofIp (ip : IpAddress) (port : UInt16) : (ofIp ip port).ip = ip := by
  cases ip <;> rfl

@[simp]
theorem port_ofIp (ip : IpAddress) (port : UInt16) : (ofIp ip port).port = port := by
  cases ip <;> rfl

@[simp]
theorem scope_ofIp (ip : IpAddress) (port : UInt16) : (ofIp ip port).scope = 0 := by
  cases ip <;> rfl

theorem ofIp_ip_port {address : SocketAddress} (h : address.scope = 0) :
    ofIp address.ip address.port = address := by
  cases address with
  | v4 => rfl
  | v6 ip port scope =>
    obtain rfl : scope = 0 := h
    rfl

open Text (EndsDigits)

variable {rest : List Char}

theorem readNumber_append {max n : Nat} (h : n ≤ max) (ends : EndsDigits 10 rest) :
    readNumber max (Text.decimal n ++ rest) = some (n, rest) := by
  obtain ⟨ds, hds, hdigits, hval, -⟩ := Text.exists_digits_decimal n
  have htake : Text.takeDigits 10 (Text.decimal n ++ rest) = (ds, rest) :=
    Text.takeDigits_append hdigits ends
  unfold readNumber
  rw [htake]
  cases ds with
  | nil => exact absurd rfl hds
  | cons d ds =>
    dsimp only
    rw [hval, if_pos h]

theorem readPort_append (port : UInt16) (ends : EndsDigits 10 rest) :
    readPort (':' :: (Text.decimal port.toNat ++ rest)) = some (port, rest) := by
  have hle : port.toNat ≤ 65535 := Nat.le_of_lt_succ port.toNat_lt
  simp [readPort, Text.after?_cons, readNumber_append hle ends]

theorem readScope_append (scope : UInt32) (rest : List Char) :
    readScope (scopeChars scope ++ ']' :: rest) = (scope, ']' :: rest) := by
  by_cases hzero : scope = 0
  · subst hzero
    rfl
  · have hle : scope.toNat ≤ 4294967295 := Nat.le_of_lt_succ scope.toNat_lt
    have hread : readNumber 4294967295 (Text.decimal scope.toNat ++ ']' :: rest) =
        some (scope.toNat, ']' :: rest) :=
      readNumber_append hle (Text.endsDigits_cons rfl rest)
    rw [scopeChars, if_neg hzero, List.cons_append, readScope, Text.after?_cons, Option.bind_some,
      hread]
    simp

theorem endsAddress_scope (scope : UInt32) (rest : List Char) :
    Ipv6.EndsAddress (scopeChars scope ++ ']' :: rest) := by
  intro c hc
  unfold scopeChars at hc
  split at hc
  · cases hc
    decide
  · cases hc
    decide

theorem readV4_chars (ip : Ipv4) (port : UInt16) :
    readV4 (ip.chars ++ ':' :: Text.decimal port.toNat) = some (v4 ip port, []) := by
  have hends : EndsDigits 10 (':' :: Text.decimal port.toNat) := Text.endsDigits_cons rfl _
  have hip := ip.read_append hends
  have hport := readPort_append port Text.endsDigits_nil
  rw [List.append_nil] at hport
  simp [readV4, hip, hport]

theorem readV6_chars (ip : Ipv6) (port : UInt16) (scope : UInt32) :
    readV6 ('[' :: (ip.chars ++ scopeChars scope ++ ']' :: ':' :: Text.decimal port.toNat)) =
      some (v6 ip port scope, []) := by
  have hip := ip.read_append (endsAddress_scope scope (':' :: Text.decimal port.toNat))
  have hscope := readScope_append scope (':' :: Text.decimal port.toNat)
  have hport := readPort_append port Text.endsDigits_nil
  rw [List.append_nil] at hport
  simp [readV6, Text.after?_cons, hip, hscope, hport]

/-- **A socket address is read as it is written.** -/
theorem parse?_text (address : SocketAddress) : parse? address.text = some address := by
  rw [parse?, Text.Reader.whole_eq_some_iff]
  cases address with
  | v4 ip port =>
    rw [text, String.toList_ofList, readV4_chars]
    rfl
  | v6 ip port scope =>
    have hv4 (s : List Char) : readV4 ('[' :: s) = none := rfl
    rw [text, String.toList_ofList, hv4, readV6_chars]
    rfl

theorem text_injective : Function.Injective text := by
  intro address other h
  have hparse := congrArg parse? h
  rw [parse?_text, parse?_text] at hparse
  exact Option.some.inj hparse

end SocketAddress

end SignalRelay
