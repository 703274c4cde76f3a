import SignalRelay.Proofs.Json.Denotation
import SignalRelay.Status.Json

/-!
# Records by their fields

An object spells a record when each field has one member somewhere among those under other names
(`Status.Spells`). The values behind a name (`Status.behind`) decide this: every field of the record
has the one that it should have (`Status.spells_iff`). They are what is read as the value of a field
(`Status.required?_eq_some_iff`, `Status.optional?_eq_some_iff`). Members with a field twice,
without a field, or with a value of another kind spell no record (`Status.Defective.not_record`).
-/

namespace SignalRelay.Status

open Json (Value Unit16)

/-- A member of an object: its key as it is written, and its value. -/
abbrev Member := List Unit16 × Value

/-! ### Names -/

def Named (name : String) (m : Member) : Prop := Unit16.Denotes m.1 name.toList

/-- The values of the members with a name, in order. -/
def behind (name : String) (members : List Member) : List Value :=
  (members.filter fun m => Unit16.decode? m.1 == some name.toList).map Prod.snd

section

variable {name other : String} {m : Member} {before after members : List Member}

theorem named_iff : Named name m ↔ Unit16.decode? m.1 = some name.toList :=
  Unit16.decode?_eq_some_iff.symm

theorem Named.unique (h : Named name m) (h' : Named other m) : name = other := by
  have heq := (named_iff.1 h).symm.trans (named_iff.1 h')
  exact String.toList_inj.1 (Option.some.inj heq)

theorem behind_append (name : String) (before after : List Member) :
    behind name (before ++ after) = behind name before ++ behind name after := by
  rw [behind, List.filter_append, List.map_append]
  rfl

theorem behind_cons (h : Named name m) (members : List Member) :
    behind name (m :: members) = m.2 :: behind name members := by
  rw [behind, List.filter_cons_of_pos (by simpa using named_iff.1 h), List.map_cons]
  rfl

theorem behind_cons_of_not (h : ¬Named name m) (members : List Member) :
    behind name (m :: members) = behind name members := by
  rw [behind, List.filter_cons_of_neg (by simpa using named_iff.not.1 h)]
  rfl

theorem behind_insert (h : Named name m) :
    behind name (before ++ m :: after) = behind name before ++ m.2 :: behind name after := by
  rw [behind_append, behind_cons h]

theorem behind_insert_of_not (h : ¬Named name m) :
    behind name (before ++ m :: after) = behind name (before ++ after) := by
  rw [behind_append, behind_append, behind_cons_of_not h]

theorem behind_eq_nil_iff : behind name members = [] ↔ ∀ m ∈ members, ¬Named name m := by
  rw [behind, List.map_eq_nil_iff, List.filter_eq_nil_iff]
  simp only [named_iff, beq_iff_eq]

theorem mem_behind_of_named (h : Named name m) (hm : m ∈ members) : m.2 ∈ behind name members := by
  obtain ⟨before, after, rfl⟩ := List.append_of_mem hm
  rw [behind_insert h]
  simp

/-- The only value behind a name is that of a member, and no other has the name. -/
theorem exists_of_behind_eq_singleton {v : Value} (h : behind name members = [v]) :
    ∃ before units after, members = before ++ (units, v) :: after ∧ Named name (units, v) ∧
      behind name (before ++ after) = [] := by
  induction members with
  | nil => cases h
  | cons m members ih =>
    by_cases hm : Named name m
    · rw [behind_cons hm] at h
      obtain ⟨rfl, hrest⟩ := List.cons.inj h
      exact ⟨[], m.1, members, rfl, hm, hrest⟩
    · rw [behind_cons_of_not hm] at h
      obtain ⟨before, units, after, rfl, hnamed, hrest⟩ := ih h
      exact ⟨m :: before, units, after, rfl, hnamed, by
        rw [List.cons_append, behind_cons_of_not hm, hrest]⟩

/-- Two members with a name have two values behind it. -/
theorem length_behind_of_sublist {m' : Member} (h : Named name m) (h' : Named name m')
    (twice : [m, m'].Sublist members) : 2 ≤ (behind name members).length := by
  have hsub := (twice.filter fun m => Unit16.decode? m.1 == some name.toList).map Prod.snd
  have hlength : (behind name [m, m']).length ≤ (behind name members).length := hsub.length_le
  rwa [behind_cons h, behind_cons h'] at hlength

end

/-! ### Reading members -/

section

variable {members : List Member} {named : List (List Char × Value)}

/-- Keys are read when all of them denote texts. -/
theorem exists_keyed?_iff :
    (∃ named, keyed? members = some named) ↔ ∀ m ∈ members, ∃ name, Named name m := by
  induction members with
  | nil => simp [keyed?]
  | cons m members ih =>
    obtain ⟨units, value⟩ := m
    rw [List.forall_mem_cons, ← ih]
    constructor
    · rintro ⟨named, h⟩
      obtain ⟨key, hkey, h⟩ := Option.bind_eq_some_iff.1 h
      obtain ⟨rest, hrest, -⟩ := Option.bind_eq_some_iff.1 h
      refine ⟨⟨String.ofList key, named_iff.2 ?_⟩, rest, hrest⟩
      rw [String.toList_ofList, hkey]
    · rintro ⟨⟨name, hname⟩, rest, hrest⟩
      exact ⟨(name.toList, value) :: rest, by simp [keyed?, named_iff.1 hname, hrest]⟩

theorem valuesAt_eq_behind (h : keyed? members = some named) (name : String) :
    valuesAt name named = behind name members := by
  induction members generalizing named with
  | nil =>
    cases h
    rfl
  | cons m members ih =>
    obtain ⟨units, value⟩ := m
    obtain ⟨key, hkey, h⟩ := Option.bind_eq_some_iff.1 h
    obtain ⟨rest, hrest, h⟩ := Option.bind_eq_some_iff.1 h
    cases h
    have hrest := ih hrest
    unfold valuesAt at hrest ⊢
    by_cases hname : key = name.toList
    · have hnamed : Named name (units, value) := named_iff.2 (hname ▸ hkey)
      rw [behind_cons hnamed, List.filter_cons_of_pos (by simpa using hname), List.map_cons, hrest]
    · have hnamed : ¬Named name (units, value) := by
        rw [named_iff, hkey, Option.some_inj]
        exact hname
      rw [behind_cons_of_not hnamed, List.filter_cons_of_neg (by simpa using hname), hrest]

variable {α : Type} {read : Value → Option α} {x missing : α} {name : String}

theorem required?_eq_some_iff (h : keyed? members = some named) :
    required? name read named = some x ↔ ∃ v, behind name members = [v] ∧ read v = some x := by
  rw [required?, valuesAt_eq_behind h]
  split
  · next value hvalue => simp [hvalue]
  · next hnot =>
    constructor
    · intro hnone
      cases hnone
    · rintro ⟨v, hv, -⟩
      exact absurd hv (hnot v)

theorem optional?_eq_some_iff (h : keyed? members = some named) :
    optional? name missing read named = some x ↔
      (∃ v, behind name members = [v] ∧ read v = some x) ∨
        behind name members = [] ∧ x = missing := by
  rw [optional?, valuesAt_eq_behind h]
  split
  · next hnil => simp [hnil, @eq_comm α missing]
  · next value hvalue => simp [hvalue]
  · next hnil hnot =>
    constructor
    · intro hnone
      cases hnone
    · rintro (⟨v, hv, -⟩ | ⟨hv, -⟩)
      · exact absurd hv (hnot v)
      · exact absurd hv hnil

end

/-! ### Records -/

/-- **A field of a record**: its name, the values that hold its content in a given record, and the
records for which it may be missing. -/
structure RecordField (α : Type) where
  name : String
  Holds : α → Value → Prop
  MayBeMissing : α → Prop

/-- A field that may not be missing. -/
def RecordField.needed {α : Type} (name : String) (Holds : α → Value → Prop) : RecordField α :=
  ⟨name, Holds, fun _ => False⟩

/-- **Members that spell a record**: to members under other names, one for each field is added
somewhere, except for a field that may be missing. -/
inductive Spells {α : Type} (names : List String) (x : α) :
    List (RecordField α) → List Member → Prop
  | others {members : List Member}
      (foreign : ∀ m ∈ members, ∃ name, Named name m ∧ name ∉ names) : Spells names x [] members
  | field {f : RecordField α} {fields : List (RecordField α)} {before after : List Member}
      {units : List Unit16} {v : Value} (named : Named f.name (units, v)) (holds : f.Holds x v)
      (rest : Spells names x fields (before ++ after)) :
    Spells names x (f :: fields) (before ++ (units, v) :: after)
  | missing {f : RecordField α} {fields : List (RecordField α)} {members : List Member}
      (mayBeMissing : f.MayBeMissing x) (rest : Spells names x fields members) :
    Spells names x (f :: fields) members

/-- **The values that spell a record**: an object with its fields, or an array of the contents of
exactly these fields in order. -/
inductive Record {α : Type} (fields : List (RecordField α)) (x : α) : Value → Prop
  | object {members : List Member}
      (spells : Spells (fields.map RecordField.name) x fields members) :
    Record fields x (.object members)
  | array {values : List Value} (holds : List.Forall₂ (fun f v => f.Holds x v) fields values) :
    Record fields x (.array values)

section

variable {α : Type} {names : List String} {x : α} {fields : List (RecordField α)}
  {members : List Member}

/-- Whether members have the one value for a field that it should have. -/
def RecordField.FoundIn (f : RecordField α) (x : α) (members : List Member) : Prop :=
  (∃ v, behind f.name members = [v] ∧ f.Holds x v) ∨
    behind f.name members = [] ∧ f.MayBeMissing x

theorem RecordField.foundIn_needed_iff {name : String} {Holds : α → Value → Prop} :
    (needed name Holds).FoundIn x members ↔ ∃ v, behind name members = [v] ∧ Holds x v := by
  simp [FoundIn, needed]

/-- A member under another name makes no difference to a field. -/
theorem RecordField.foundIn_insert_iff {f : RecordField α} {before after : List Member} {m : Member}
    (h : ¬Named f.name m) :
    f.FoundIn x (before ++ m :: after) ↔ f.FoundIn x (before ++ after) := by
  rw [FoundIn, FoundIn, behind_insert_of_not h]

/-- Members in which every field is found, and nothing behind the names of other fields. -/
structure Located (names : List String) (x : α) (fields : List (RecordField α))
    (members : List Member) : Prop where
  keys : ∀ m ∈ members, ∃ name, Named name m
  found : ∀ f ∈ fields, f.FoundIn x members
  absent : ∀ name ∈ names, name ∉ fields.map RecordField.name → behind name members = []

namespace Located

variable {f : RecordField α} {before after : List Member} {units : List Unit16} {v : Value}

/-- A member for another field is added. -/
theorem field (h : Located names x fields (before ++ after))
    (new : f.name ∉ fields.map RecordField.name) (known : f.name ∈ names)
    (named : Named f.name (units, v)) (holds : f.Holds x v) :
    Located names x (f :: fields) (before ++ (units, v) :: after) := by
  have hothers : behind f.name (before ++ after) = [] := h.absent f.name known new
  obtain ⟨hbefore, hafter⟩ := List.append_eq_nil_iff.1 (behind_append f.name _ _ ▸ hothers)
  have hbehind : behind f.name (before ++ (units, v) :: after) = [v] := by
    rw [behind_insert named, hbefore, hafter, List.nil_append]
  have hnot {name : String} (hne : name ≠ f.name) : ¬Named name (units, v) :=
    fun hname => hne (hname.unique named)
  refine ⟨fun m hm => ?_, List.forall_mem_cons.2 ⟨.inl ⟨v, hbehind, holds⟩, fun g hg => ?_⟩,
    fun name hname hfresh => ?_⟩
  · rcases List.mem_append.1 hm with hm | hm
    · exact h.keys m (List.mem_append_left _ hm)
    · rcases List.mem_cons.1 hm with rfl | hm
      · exact ⟨f.name, named⟩
      · exact h.keys m (List.mem_append_right _ hm)
  · have hne : g.name ≠ f.name := fun heq => new (heq ▸ List.mem_map_of_mem hg)
    exact (RecordField.foundIn_insert_iff (hnot hne)).2 (h.found g hg)
  · obtain ⟨hne, hfresh⟩ := List.ne_and_not_mem_of_not_mem_cons hfresh
    rw [behind_insert_of_not (hnot hne)]
    exact h.absent name hname hfresh

/-- The member for a field is taken out. -/
theorem of_field (h : Located names x (f :: fields) (before ++ (units, v) :: after))
    (new : f.name ∉ fields.map RecordField.name) (named : Named f.name (units, v))
    (only : behind f.name (before ++ after) = []) : Located names x fields (before ++ after) := by
  have hnot {name : String} (hne : name ≠ f.name) : ¬Named name (units, v) :=
    fun hname => hne (hname.unique named)
  refine ⟨fun m hm => ?_, fun g hg => ?_, fun name hname hfresh => ?_⟩
  · apply h.keys
    rcases List.mem_append.1 hm with hm | hm
    · exact List.mem_append_left _ hm
    · exact List.mem_append_right _ (List.mem_cons_of_mem _ hm)
  · have hne : g.name ≠ f.name := fun heq => new (heq ▸ List.mem_map_of_mem hg)
    exact (RecordField.foundIn_insert_iff (hnot hne)).1 (h.found g (List.mem_cons_of_mem _ hg))
  · by_cases hne : name = f.name
    · rw [hne, only]
    · rw [← behind_insert_of_not (hnot hne)]
      exact h.absent name hname (List.not_mem_cons_of_ne_of_not_mem hne hfresh)

end Located

theorem Spells.located (h : Spells names x fields members)
    (distinct : (fields.map RecordField.name).Nodup) (known : ∀ f ∈ fields, f.name ∈ names) :
    Located names x fields members := by
  -- the names of the fields are distinct, so a member counts for one field only
  induction h with
  | @others members foreign =>
    refine ⟨fun m hm => ?_, List.forall_mem_nil _, fun name hname _ => ?_⟩
    · obtain ⟨name, hnamed, -⟩ := foreign m hm
      exact ⟨name, hnamed⟩
    · refine behind_eq_nil_iff.2 fun m hm hnamed => ?_
      obtain ⟨other, hother, hforeign⟩ := foreign m hm
      exact hforeign (hnamed.unique hother ▸ hname)
  | field named holds _ ih =>
    obtain ⟨new, distinct⟩ := List.nodup_cons.1 distinct
    obtain ⟨hknown, known⟩ := List.forall_mem_cons.1 known
    exact (ih distinct known).field new hknown named holds
  | missing mayBeMissing _ ih =>
    obtain ⟨new, distinct⟩ := List.nodup_cons.1 distinct
    obtain ⟨hknown, known⟩ := List.forall_mem_cons.1 known
    obtain ⟨keys, found, absent⟩ := ih distinct known
    refine ⟨keys, List.forall_mem_cons.2 ⟨.inr ⟨absent _ hknown new, mayBeMissing⟩, found⟩, ?_⟩
    intro name hname hfresh
    exact absent name hname (List.not_mem_of_not_mem_cons hfresh)

theorem Located.spells (h : Located names x fields members)
    (distinct : (fields.map RecordField.name).Nodup) : Spells names x fields members := by
  induction fields generalizing members with
  | nil =>
    refine .others fun m hm => ?_
    obtain ⟨name, hnamed⟩ := h.keys m hm
    refine ⟨name, hnamed, fun hname => ?_⟩
    exact behind_eq_nil_iff.1 (h.absent name hname List.not_mem_nil) m hm hnamed
  | cons f fields ih =>
    obtain ⟨new, distinct⟩ := List.nodup_cons.1 distinct
    obtain ⟨hfirst, hrest⟩ := List.forall_mem_cons.1 h.found
    rcases hfirst with ⟨v, hbehind, holds⟩ | ⟨hbehind, mayBeMissing⟩
    · obtain ⟨before, units, after, rfl, named, only⟩ := exists_of_behind_eq_singleton hbehind
      exact .field named holds (ih (h.of_field new named only) distinct)
    · refine .missing mayBeMissing (ih ⟨h.keys, hrest, fun name hname hfresh => ?_⟩ distinct)
      by_cases hne : name = f.name
      · rw [hne, hbehind]
      · exact h.absent name hname (List.not_mem_cons_of_ne_of_not_mem hne hfresh)

/-- **Members spell a record iff their keys denote names and every field is found.** -/
theorem spells_iff (distinct : (fields.map RecordField.name).Nodup) :
    Spells (fields.map RecordField.name) x fields members ↔
      (∀ m ∈ members, ∃ name, Named name m) ∧ ∀ f ∈ fields, f.FoundIn x members := by
  constructor
  · intro h
    have hlocated := h.located distinct fun f hf => List.mem_map_of_mem hf
    exact ⟨hlocated.keys, hlocated.found⟩
  · rintro ⟨keys, found⟩
    have hlocated : Located (fields.map RecordField.name) x fields members :=
      ⟨keys, found, fun name hname hnot => absurd hname hnot⟩
    exact hlocated.spells distinct

theorem record_object_iff (distinct : (fields.map RecordField.name).Nodup) :
    Record fields x (.object members) ↔
      (∃ named, keyed? members = some named) ∧ ∀ f ∈ fields, f.FoundIn x members := by
  rw [exists_keyed?_iff, ← spells_iff distinct]
  constructor
  · rintro ⟨spells⟩
    exact spells
  · exact .object

theorem record_array_iff {values : List Value} :
    Record fields x (.array values) ↔ List.Forall₂ (fun f v => f.Holds x v) fields values := by
  constructor
  · rintro ⟨⟩
    assumption
  · exact .array

/-! ### What spells no record -/

/-- **Members that spell no record**: a field is there twice, or is not there although it may not be
missing, or has a value that holds no content of it. -/
inductive Defective (fields : List (RecordField α)) (members : List Member) : Prop
  | repeated {f : RecordField α} {m m' : Member} (field : f ∈ fields) (first : Named f.name m)
      (second : Named f.name m') (twice : [m, m'].Sublist members)
  | missing {f : RecordField α} (field : f ∈ fields) (needed : ∀ x, ¬f.MayBeMissing x)
      (absent : ∀ m ∈ members, ¬Named f.name m)
  | outside {f : RecordField α} {m : Member} (field : f ∈ fields) (among : m ∈ members)
      (named : Named f.name m) (outside : ∀ x, ¬f.Holds x m.2)

/-- A field of defective members is not found, whatever the record. -/
theorem Defective.exists_not_foundIn (h : Defective fields members) (x : α) :
    ∃ f ∈ fields, ¬f.FoundIn x members := by
  -- the field with the defect has two values, none, or a wrong one
  cases h with
  | @repeated f m m' field first second twice =>
    refine ⟨f, field, ?_⟩
    have hlength := length_behind_of_sublist first second twice
    rintro (⟨v, hv, -⟩ | ⟨hnil, -⟩)
    · rw [hv] at hlength
      simp at hlength
    · rw [hnil] at hlength
      simp at hlength
  | @missing f field needed absent =>
    refine ⟨f, field, ?_⟩
    rintro (⟨v, hv, -⟩ | ⟨-, mayBeMissing⟩)
    · rw [behind_eq_nil_iff.2 absent] at hv
      cases hv
    · exact needed x mayBeMissing
  | @outside f m field among named outside =>
    refine ⟨f, field, ?_⟩
    have hmem := mem_behind_of_named named among
    rintro (⟨v, hv, holds⟩ | ⟨hnil, -⟩)
    · rw [hv, List.mem_singleton] at hmem
      exact outside x (hmem ▸ holds)
    · rw [hnil] at hmem
      cases hmem

theorem Defective.not_record (h : Defective fields members)
    (distinct : (fields.map RecordField.name).Nodup) (x : α) :
    ¬Record fields x (.object members) := by
  rw [record_object_iff distinct]
  rintro ⟨-, found⟩
  obtain ⟨f, hf, hnot⟩ := h.exists_not_foundIn x
  exact hnot (found f hf)

end

end SignalRelay.Status
