import SignalRelay.Proofs.Net.Groups
import SignalRelay.Proofs.Net.ZeroRun

/-!
# Which texts are IPv6 addresses

Addresses are read off the texts that are written for them (`Ipv6.AddressText.read_append`) and off
no others (`Ipv6.exists_addressText`): eight groups, or fewer with a double colon for those that are
zero. `Ipv6.CanonicalText` says which of these texts is the one that the relay writes, so an address
is read as it is written (`Ipv6.read_append`).
-/

namespace SignalRelay.Ipv6

variable {rest : List Char}

/-! ### Texts of an address -/

/-- **The texts of an address.** They show eight groups, or fewer with a double colon for at least
one zero group. An IPv4 address may stand at the end, but not in front of a double colon. -/
inductive AddressText : List UInt16 → List Char → Prop
  | full {endsInIpv4 : Bool} {groups : List UInt16} {s : List Char}
      (written : GroupsText true endsInIpv4 groups s) (length_eq : groups.length = 8) :
    AddressText groups s
  | gap {endsInIpv4 : Bool} {head tail : List UInt16} {n : Nat} {s t : List Char}
      (before : GroupsText true false head s) (behind : GroupsText true endsInIpv4 tail t)
      (length_eq : head.length + (n + 1) + tail.length = 8) :
    AddressText (head ++ List.replicate (n + 1) 0 ++ tail) (s ++ ':' :: ':' :: t)

/-- Whether an address that stands in front of a text ends there. -/
def EndsAddress (rest : List Char) : Prop :=
  ∀ c ∈ rest.head?, Text.digit? 16 c = none ∧ c ≠ '.' ∧ c ≠ ':'

theorem endsAddress_nil : EndsAddress [] := fun c h => by cases h

theorem EndsAddress.endsGroup (ends : EndsAddress rest) : EndsGroup rest :=
  fun c hc => ⟨(ends c hc).1, (ends c hc).2.1⟩

theorem EndsAddress.after?_colon (ends : EndsAddress rest) : Text.after? ':' rest = none := by
  rw [Option.eq_none_iff_forall_not_mem]
  intro t ht
  obtain rfl := Text.after?_eq_some_iff.1 ht
  exact (ends ':' rfl).2.2 rfl

theorem EndsAddress.stop (ends : EndsAddress rest) (t : List Char)
    (ht : Text.after? ':' rest = some t) : EndsGroup t := by
  rw [ends.after?_colon] at ht
  cases ht

theorem read_of_full {s : List Char} {groups : List UInt16} {endsInIpv4 : Bool}
    (hlength : groups.length = 8) (hread : readGroups 8 true s = ⟨groups, endsInIpv4, rest⟩) :
    read s = some (⟨groups, hlength⟩, rest) := by
  simp [read, hread, hlength]

theorem read_of_gap {s t : List Char} {head tail : List UInt16} {endsInIpv4 : Bool}
    (hlength : head.length + tail.length ≤ 7)
    (hhead : readGroups 8 true s = ⟨head, false, ':' :: ':' :: t⟩)
    (htail : readGroups (7 - head.length) true t = ⟨tail, endsInIpv4, rest⟩) :
    read s = some (expand head tail (by omega), rest) := by
  have hshort : head.length ≠ 8 := by omega
  simp [read, hhead, htail, hshort]

theorem addressText_expand {endsInIpv4 : Bool} {head tail : List UInt16} {s t : List Char}
    (before : GroupsText true false head s) (behind : GroupsText true endsInIpv4 tail t)
    (hle : head.length + tail.length ≤ 7) :
    AddressText (expand head tail (by omega)).groups (s ++ ':' :: ':' :: t) := by
  obtain ⟨n, hgap⟩ : ∃ n, 8 - head.length - tail.length = n + 1 :=
    ⟨7 - head.length - tail.length, by omega⟩
  simp only [expand, hgap]
  exact .gap before behind (by omega)

/-- **An address is read off the head of a text** that starts with one. -/
theorem AddressText.read_append {groups : List UInt16} {s : List Char} (h : AddressText groups s)
    (hlength : groups.length = 8) (ends : EndsAddress rest) :
    read (s ++ rest) = some (⟨groups, hlength⟩, rest) := by
  cases h with
  | full written =>
    exact read_of_full hlength (written.readGroups_append (by omega) ends.endsGroup ends.stop)
  | @gap _ head tail n s t before behind length_eq =>
    have hhead : readGroups 8 true (s ++ ':' :: ':' :: (t ++ rest)) =
        ⟨head, false, ':' :: ':' :: (t ++ rest)⟩ := by
      apply before.readGroups_append (by omega) (endsGroup_colon _)
      intro t ht
      obtain ⟨-, rfl⟩ := List.cons.inj (Text.after?_eq_some_iff.1 ht)
      exact endsGroup_colon _
    have henough : tail.length ≤ 7 - head.length := by omega
    have htail := behind.readGroups_append henough ends.endsGroup ends.stop
    have hgap : 8 - head.length - tail.length = n + 1 := by omega
    rw [List.append_assoc, List.cons_append, List.cons_append, read_of_gap (by omega) hhead htail]
    simp only [expand, hgap]

/-- **An address is read off no other text.** -/
theorem exists_addressText {s : List Char} {ip : Ipv6} (h : read s = some (ip, rest)) :
    ∃ t, s = t ++ rest ∧ AddressText ip.groups t := by
  -- eight groups, or fewer and a double colon with more groups behind it
  obtain ⟨t, hs, before⟩ := exists_groupsText 8 true s
  unfold read at h
  dsimp only at h
  split at h
  · next hlength =>
    cases h
    exact ⟨t, hs, .full before hlength⟩
  · next hshort =>
    have hle : (readGroups 8 true s).groups.length ≤ 8 := length_readGroups_le 8 true s
    split at h
    · cases h
    · next hdotted =>
      rw [Bool.not_eq_true] at hdotted
      rw [hdotted] at before
      split at h
      · next s' hrest =>
        cases h
        obtain ⟨t', hs', behind⟩ :=
          exists_groupsText (7 - (readGroups 8 true s).groups.length) true s'
        have htail := length_readGroups_le (7 - (readGroups 8 true s).groups.length) true s'
        refine ⟨t ++ ':' :: ':' :: t', ?_, addressText_expand before behind (by omega)⟩
        rw [List.append_assoc, List.cons_append, List.cons_append, ← hs', ← hrest]
        exact hs
      · cases h

/-! ### Groups as they are written -/

theorem length_groupText_le (group : UInt16) : (groupText group).length ≤ 4 := by
  have hlt : group.toNat < 65536 := group.toNat_lt
  apply (Nat.length_toDigits_le_iff (by omega) (by omega)).2
  omega

/-- **The canonical text of a group**: up to four hexadecimal digits in lower case, and no zero in
front of others. -/
structure CanonicalGroup (group : UInt16) (s : List Char) : Prop where
  lower : ∀ c ∈ s, c ∈ "0123456789abcdef".toList
  length_le : s.length ≤ 4
  lead : s.head? = some '0' → s = ['0']
  value : ∃ ds, Text.Digits 16 ds s ∧ Text.ofDigits 16 ds = group.toNat

theorem lower_of_mem_hexadecimal {n : Nat} {c : Char} (h : c ∈ Text.hexadecimal n) :
    c ∈ "0123456789abcdef".toList := by
  induction n using Nat.strong_induction_on with
  | _ n ih =>
    have hdigit {d : Nat} (hd : d < 16) : d.digitChar ∈ "0123456789abcdef".toList := by
      interval_cases d <;> decide
    by_cases hn : n < 16
    · rw [Text.hexadecimal, Nat.toDigits_of_lt_base hn, List.mem_singleton] at h
      rw [h]
      exact hdigit hn
    · rw [Text.hexadecimal, Nat.toDigits_of_base_le (by omega) (by omega), List.mem_append,
        List.mem_singleton] at h
      cases h with
      | inl hfront => exact ih (n / 16) (by omega) hfront
      | inr hlast =>
        rw [hlast]
        exact hdigit (Nat.mod_lt n (by omega))

theorem canonicalGroup_groupText (group : UInt16) : CanonicalGroup group (groupText group) := by
  obtain ⟨ds, hdigits, hval, hlead⟩ :=
    Text.exists_digits_toDigits (show 1 < 16 by omega) (by omega) group.toNat
  refine ⟨fun c => lower_of_mem_hexadecimal, length_groupText_le group, fun hzero => ?_,
    ds, hdigits, hval⟩
  have hhead : ds.head? = some 0 := by
    rw [groupText, Text.hexadecimal] at hzero
    generalize Nat.toDigits 16 group.toNat = s at hdigits hzero
    cases hdigits with
    | nil => cases hzero
    | cons hd =>
      cases hzero
      cases hd
      rfl
  rw [groupText, Text.hexadecimal, hlead hhead]
  rfl

theorem groupText_groupText (group : UInt16) : GroupText group (groupText group) := by
  obtain ⟨-, length_le, -, ds, written, value⟩ := canonicalGroup_groupText group
  exact .mk written (List.length_pos_iff.1 Nat.length_toDigits_pos) length_le value

/-- Groups with a colon in front of each. -/
def colons (groups : List UInt16) : List Char := groups.flatMap fun group => ':' :: groupText group

theorem colons_cons (group : UInt16) (groups : List UInt16) :
    colons (group :: groups) = ':' :: (groupText group ++ colons groups) := List.flatMap_cons

theorem joined_cons (group : UInt16) (groups : List UInt16) :
    joined (group :: groups) = groupText group ++ colons groups := by
  induction groups generalizing group with
  | nil => simp [joined, colons]
  | cons next groups ih =>
    rw [joined, ih, colons_cons]
    rintro ⟨⟩

theorem groupsText_colons (groups : List UInt16) :
    GroupsText false false groups (colons groups) := by
  induction groups with
  | nil => exact .nil
  | cons group groups ih =>
    rw [colons_cons]
    exact .cons (groupText_groupText group) ih

theorem groupsText_joined (groups : List UInt16) :
    GroupsText true false groups (joined groups) := by
  cases groups with
  | nil => exact .nil
  | cons group groups =>
    rw [joined_cons]
    exact .cons (groupText_groupText group) (groupsText_colons groups)

theorem groups_ofGroups (high low : UInt16) : (Ipv4.ofGroups high low).groups = [high, low] := by
  have hbytes (group : UInt16) :
      (group / 256).toUInt8.toUInt16 * 256 + group.toUInt8.toUInt16 = group := by
    have hlt : group.toNat < 65536 := group.toNat_lt
    apply UInt16.toNat_inj.1
    simp
    omega
  rw [Ipv4.groups, Ipv4.ofGroups, hbytes, hbytes]

/-! ### The form of an address -/

/-- Whether an address is that of an IPv4 address in IPv6 form. -/
def Mapped (groups : List UInt16) (high low : UInt16) : Prop :=
  groups = [0, 0, 0, 0, 0, 0xffff, high, low]

/-- **The canonical text of an address.** One that is mapped shows its IPv4 address. In every other
one a double colon stands for the longest run of zero groups, the first of several, but not for a
single group. -/
inductive CanonicalText (groups : List UInt16) : List Char → Prop
  | mapped {high low : UInt16} (isMapped : Mapped groups high low) :
    CanonicalText groups ("::ffff:".toList ++ (Ipv4.ofGroups high low).chars)
  | full (unmapped : ∀ high low, ¬Mapped groups high low)
      (single : ∀ start length, ZeroRun groups start length → length < 2) :
    CanonicalText groups (joined groups)
  | compressed {head tail : List UInt16} {length : Nat}
      (unmapped : ∀ high low, ¬Mapped groups high low)
      (split : groups = head ++ (List.replicate length 0 ++ tail)) (several : 2 ≤ length)
      (longest : ∀ start n, ZeroRun groups start n → n ≤ length)
      (first : ∀ start, ZeroRun groups start length → head.length ≤ start) :
    CanonicalText groups (joined head ++ ':' :: ':' :: joined tail)

theorem canonicalText_compressed {groups : List UInt16}
    (unmapped : ∀ high low, ¬Mapped groups high low) :
    CanonicalText groups (compressed groups) := by
  have hlongest : ∀ start n, ZeroRun groups start n → n ≤ (longestRun groups).2 :=
    fun start n => length_le_longestRun
  have hfirst : ∀ start, ZeroRun groups start (longestRun groups).2 →
      (longestRun groups).1 ≤ start := fun start => longestRun_le
  obtain ⟨head, tail, hsplit, hlength⟩ := zeroRun_longestRun groups
  unfold compressed
  generalize longestRun groups = run at hlongest hfirst hsplit hlength
  obtain ⟨start, length⟩ := run
  dsimp only at hlongest hfirst hsplit hlength ⊢
  subst hlength
  -- a run is left out when it has two groups at least
  by_cases several : 2 ≤ length
  · have htake : groups.take head.length = head := by
      rw [hsplit, List.take_left]
    have hdrop : groups.drop (head.length + length) = tail := by
      rw [hsplit, ← List.drop_drop, List.drop_left]
      exact List.drop_left' List.length_replicate
    rw [if_pos several, htake, hdrop]
    exact .compressed unmapped hsplit several hlongest hfirst
  · rw [if_neg several]
    refine .full unmapped fun start n hrun => ?_
    have := hlongest start n hrun
    omega

/-- **Addresses are written in canonical form.** -/
theorem canonicalText_chars (ip : Ipv6) : CanonicalText ip.groups ip.chars := by
  unfold chars
  split
  · next high low hgroups => exact .mapped hgroups
  · next groups unmapped => exact canonicalText_compressed fun high low => unmapped high low

/-- **The canonical text of an address is one of its texts.** -/
theorem CanonicalText.addressText {groups : List UInt16} {s : List Char}
    (h : CanonicalText groups s) (hlength : groups.length = 8) : AddressText groups s := by
  cases h with
  | @mapped high low isMapped =>
    have behind : GroupsText true true (0xffff :: (Ipv4.ofGroups high low).groups)
        ("ffff:".toList ++ (Ipv4.ofGroups high low).chars) :=
      .cons (groupText_groupText 0xffff) (.ipv4 _)
    have h : AddressText _ _ := .gap (n := 4) .nil behind rfl
    rw [groups_ofGroups] at h
    rw [isMapped]
    exact h
  | full => exact .full (groupsText_joined groups) hlength
  | @compressed head tail length _ split several =>
    subst split
    obtain ⟨n, rfl⟩ : ∃ n, length = n + 1 := ⟨length - 1, by omega⟩
    simp only [List.length_append, List.length_replicate] at hlength
    rw [← List.append_assoc]
    exact .gap (groupsText_joined head) (groupsText_joined tail) (by omega)

/-- **An address is read as it is written.** -/
theorem read_append (ip : Ipv6) (ends : EndsAddress rest) :
    read (ip.chars ++ rest) = some (ip, rest) :=
  ((canonicalText_chars ip).addressText ip.length_eq).read_append ip.length_eq ends

end SignalRelay.Ipv6
