import SignalRelay.Net.Ipv6
import SignalRelay.Proofs.Net.Ipv4

/-!
# The groups of an IPv6 address

Which texts are groups with colons between them (`Ipv6.GroupsText`). They are taken off every text
that goes on with no other group (`Ipv6.GroupsText.readGroups_append`), and what is taken off a text
are such groups (`Ipv6.exists_groupsText`).
-/

namespace SignalRelay.Ipv6

/-! ### Where a group ends -/

/-- Whether a group in front of a text ends there, and is no octet of an IPv4 address. -/
def EndsGroup (rest : List Char) : Prop :=
  ∀ c ∈ rest.head?, Text.digit? 16 c = none ∧ c ≠ '.'

variable {rest : List Char}

theorem endsGroup_cons {c : Char} (digit : Text.digit? 16 c = none) (dot : c ≠ '.')
    (rest : List Char) : EndsGroup (c :: rest) := by
  intro d hd
  cases hd
  exact ⟨digit, dot⟩

theorem endsGroup_colon (rest : List Char) : EndsGroup (':' :: rest) :=
  endsGroup_cons rfl (by decide) rest

theorem EndsGroup.endsDigits (ends : EndsGroup rest) : Text.EndsDigits 16 rest :=
  fun c hc => (ends c hc).1

theorem readGroup_eq_none (ends : EndsGroup rest) : readGroup rest = none := by
  rw [readGroup, Text.takeDigits_of_ends ends.endsDigits]
  rfl

theorem ipv4_read_eq_none (ends : EndsGroup rest) : Ipv4.read rest = none := by
  apply Ipv4.read_eq_none
  rw [Text.takeDigits_of_ends ends.endsDigits]
  exact fun hdot => (ends '.' hdot).2 rfl

/-! ### One group -/

/-- **The text of a group**: one to four hexadecimal digits, letters in either case. -/
inductive GroupText (group : UInt16) (s : List Char) : Prop
  | mk {ds : List Nat} (written : Text.Digits 16 ds s) (nonempty : s ≠ [])
    (length_le : s.length ≤ 4) (value : Text.ofDigits 16 ds = group.toNat)

variable {group : UInt16} {s : List Char}

theorem group?_eq_some_iff {ds : List Nat} (written : Text.Digits 16 ds s) :
    group? ds = some group ↔
      s ≠ [] ∧ s.length ≤ 4 ∧ Text.ofDigits 16 ds = group.toNat := by
  have hlength : ds.length = s.length := written.length_eq
  rw [group?, hlength, ← List.length_pos_iff, Option.ite_none_right_eq_some, Option.some_inj,
    and_assoc]
  refine and_congr_right fun _ => and_congr_right fun length_le => ?_
  -- four digits do not exceed a group
  have hlt : Text.ofDigits 16 ds < 65536 := by
    have hpow := Text.ofDigits_lt_pow fun _ => Text.lt_of_mem_digits written
    rw [hlength] at hpow
    exact Nat.lt_of_lt_of_le hpow (Nat.pow_le_pow_right (by omega) length_le)
  constructor
  · rintro rfl
    exact (UInt16.toNat_ofNat_of_lt' hlt).symm
  · intro hvalue
    rw [hvalue, UInt16.ofNat_toNat]

theorem GroupText.readGroup_append (h : GroupText group s) (ends : EndsGroup rest) :
    readGroup (s ++ rest) = some (group, rest) := by
  obtain ⟨written, nonempty, length_le, value⟩ := h
  rw [readGroup, Text.takeDigits_append written ends.endsDigits,
    (group?_eq_some_iff written).2 ⟨nonempty, length_le, value⟩]
  rfl

theorem exists_groupText (h : readGroup s = some (group, rest)) :
    ∃ t, s = t ++ rest ∧ GroupText group t := by
  obtain ⟨group, hgroup, heq⟩ := Option.map_eq_some_iff.1 h
  obtain ⟨rfl, rfl⟩ := Prod.mk.inj heq
  obtain ⟨t, hsplit, written, -⟩ := Text.takeDigits_spec 16 s
  obtain ⟨nonempty, length_le, value⟩ := (group?_eq_some_iff written).1 hgroup
  exact ⟨t, hsplit, .mk written nonempty length_le value⟩

theorem GroupText.ipv4_read (h : GroupText group s) (ends : EndsGroup rest) :
    Ipv4.read (s ++ rest) = none := by
  obtain ⟨written, -, -, -⟩ := h
  apply Ipv4.read_eq_none
  rw [Text.takeDigits_append written ends.endsDigits]
  exact fun hdot => (ends '.' hdot).2 rfl

/-! ### Several groups -/

/-- What stands in front of a group: a colon, but nothing in front of the first. -/
def separator : (first : Bool) → List Char
  | true => []
  | false => [':']

/-- **Groups with colons between them**, of which the last two may be written as an IPv4 address.
Where they are not the first ones of a text, a colon stands in front of them too. -/
inductive GroupsText : (first endsInIpv4 : Bool) → List UInt16 → List Char → Prop
  | nil {first : Bool} : GroupsText first false [] []
  | ipv4 {first : Bool} (ip : Ipv4) : GroupsText first true ip.groups (separator first ++ ip.chars)
  | cons {first endsInIpv4 : Bool} {group : UInt16} {groups : List UInt16} {s t : List Char}
      (head : GroupText group s) (tail : GroupsText false endsInIpv4 groups t) :
    GroupsText first endsInIpv4 (group :: groups) (separator first ++ (s ++ t))

theorem separator?_eq_some_iff {first : Bool} :
    separator? first s = some rest ↔ s = separator first ++ rest := by
  cases first with
  | true => exact Option.some_inj
  | false => exact Text.after?_eq_some_iff

theorem GroupsText.endsGroup {endsInIpv4 : Bool} {groups : List UInt16}
    (h : GroupsText false endsInIpv4 groups s) (ends : EndsGroup rest) :
    EndsGroup (s ++ rest) := by
  cases h with
  | nil => exact ends
  | ipv4 => exact endsGroup_colon _
  | cons => exact endsGroup_colon _

/-- **No group is taken off a text that starts with none.** -/
theorem readGroups_stop {limit : Nat} {first : Bool} {s : List Char}
    (stop : ∀ t, separator? first s = some t → EndsGroup t) :
    readGroups limit first s = ⟨[], false, s⟩ := by
  cases limit with
  | zero => rfl
  | succ limit =>
    have hnone : (separator? first s).bind Ipv4.read = none ∧
        (separator? first s).bind readGroup = none := by
      cases hs : separator? first s with
      | none => exact ⟨rfl, rfl⟩
      | some t => exact ⟨ipv4_read_eq_none (stop t hs), readGroup_eq_none (stop t hs)⟩
    simp [readGroups, hnone]

theorem readGroups_of_ipv4 {first : Bool} {t : List Char} {ip : Ipv4} (limit : Nat)
    (hs : separator? first s = some t) (hread : Ipv4.read t = some (ip, rest)) :
    readGroups (limit + 2) first s = ⟨ip.groups, true, rest⟩ := by
  simp [readGroups, hs, hread]

theorem readGroups_of_group {limit : Nat} {first endsInIpv4 : Bool} {t t' : List Char}
    {groups : List UInt16} (hs : separator? first s = some t) (hip : Ipv4.read t = none)
    (hread : readGroup t = some (group, t'))
    (hrest : readGroups limit false t' = ⟨groups, endsInIpv4, rest⟩) :
    readGroups (limit + 1) first s = ⟨group :: groups, endsInIpv4, rest⟩ := by
  simp [readGroups, hs, hip, hread, hrest]

/-- **Groups are taken off a text** that goes on with no other. -/
theorem GroupsText.readGroups_append {limit : Nat} {first endsInIpv4 : Bool}
    {groups : List UInt16} (h : GroupsText first endsInIpv4 groups s)
    (enough : groups.length ≤ limit) (ends : EndsGroup rest)
    (stop : ∀ t, Text.after? ':' rest = some t → EndsGroup t) :
    readGroups limit first (s ++ rest) = ⟨groups, endsInIpv4, rest⟩ := by
  induction h generalizing limit with
  | @nil first =>
    apply readGroups_stop
    intro t ht
    cases first with
    | true =>
      cases ht
      exact ends
    | false => exact stop t ht
  | @ipv4 first ip =>
    -- an IPv4 address counts for two groups, so the limit leaves room for two
    obtain ⟨limit, rfl⟩ : ∃ n, limit = n + 2 := ⟨limit - 2, by
      rw [Ipv4.length_groups] at enough
      omega⟩
    have hread := ip.read_append (ends.endsDigits.mono (show 10 ≤ 16 by omega))
    exact readGroups_of_ipv4 limit (separator?_eq_some_iff.2 (List.append_assoc _ _ _)) hread
  | @cons first endsInIpv4 group groups s t head tail ih =>
    obtain ⟨limit, rfl⟩ : ∃ n, limit = n + 1 := ⟨limit - 1, by
      rw [List.length_cons] at enough
      omega⟩
    have hs : separator? first (separator first ++ (s ++ t) ++ rest) = some (s ++ (t ++ rest)) :=
      separator?_eq_some_iff.2 (by simp only [List.append_assoc])
    have hends : EndsGroup (t ++ rest) := tail.endsGroup ends
    exact readGroups_of_group hs (head.ipv4_read hends) (head.readGroup_append hends)
      (ih (Nat.le_of_succ_le_succ enough))

/-- **What is taken off a text are groups.** -/
theorem exists_groupsText (limit : Nat) (first : Bool) (s : List Char) :
    ∃ t, s = t ++ (readGroups limit first s).rest ∧
      GroupsText first (readGroups limit first s).endsInIpv4 (readGroups limit first s).groups
        t := by
  -- the limit goes down with every group, and only the first has nothing in front
  induction limit generalizing first s with
  | zero => exact ⟨[], rfl, .nil⟩
  | succ limit ih =>
    rw [readGroups]
    split
    · next ip rest hread =>
      have hread := (Option.ite_none_left_eq_some.1 hread).2
      obtain ⟨t, hs, hip⟩ := Option.bind_eq_some_iff.1 hread
      refine ⟨separator first ++ ip.chars, ?_, .ipv4 ip⟩
      rw [separator?_eq_some_iff.1 hs, Ipv4.of_read hip, List.append_assoc]
    · split
      · exact ⟨[], rfl, .nil⟩
      · next group rest hread =>
        obtain ⟨t, hs, hgroup⟩ := Option.bind_eq_some_iff.1 hread
        obtain ⟨written, rfl, head⟩ := exists_groupText hgroup
        obtain ⟨behind, hrest, tail⟩ := ih false rest
        refine ⟨separator first ++ (written ++ behind), ?_, .cons head tail⟩
        rw [separator?_eq_some_iff.1 hs]
        simp only [List.append_assoc]
        rw [← hrest]

end SignalRelay.Ipv6
