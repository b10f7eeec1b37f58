import HostProfile.Json.Record

/-!
# The parts of a record

A record is read by looking up each of its parts. `part?` is one such look-up in an object: it fails
if a key is no text or if the field comes twice, and else tells the value of the field or that there
is none (`mem_iff_of_part?`). Fields of other names leave a look-up alone (`part?_insert`), and a
record that was written is read with all its parts in order (`parts?_ofFields`).

A part that has to be there has a `Form`. What is read of it is a value of that form, so no
record is read where such a part is missing or holds anything else. A part that need not be there
comes out as none exactly if it is `Absent`.
-/

set_option autoImplicit false
set_option relaxedAutoImplicit false

namespace HostProfile.Json

variable {fields before after : List (Option String × Json)} {pairs : List (String × Json)}
variable {name other : String} {json : Json} {part : Option Json}

/-! ### Looking up a field -/

/-- The value of a field of an object, if there is one. -/
def part? (fields : List (Option String × Json)) (name : String) : Option (Option Json) :=
  (textKeys? fields).bind (field? · name)

/-- A field is absent if it is missing or null. -/
def Absent (fields : List (Option String × Json)) (name : String) : Prop :=
  ∀ json, (some name, json) ∈ fields → json = .null

theorem textKeys?_map (pairs : List (String × Json)) :
    textKeys? (pairs.map fun pair ↦ (some pair.1, pair.2)) = some pairs := by
  induction pairs with
  | nil => rfl
  | cons pair rest ih => rw [List.map_cons, textKeys?, ih, Option.map_some]

theorem eq_map_of_textKeys? (h : textKeys? fields = some pairs) :
    fields = pairs.map fun pair ↦ (some pair.1, pair.2) := by
  induction fields generalizing pairs with
  | nil =>
    cases h
    rfl
  | cons field rest ih =>
    obtain ⟨key, value⟩ := field
    cases key with
    | none => contradiction
    | some key =>
      obtain ⟨others, hothers, rfl⟩ := Option.map_eq_some_iff.mp h
      rw [ih hothers, List.map_cons]

theorem textKeys?_append (before after : List (Option String × Json)) :
    textKeys? (before ++ after) =
      (textKeys? before).bind fun first ↦ (textKeys? after).map (first ++ ·) := by
  induction before with
  | nil => simp [textKeys?]
  | cons field rest ih =>
    obtain ⟨key, value⟩ := field
    cases key with
    | none => rfl
    | some key =>
      simp only [List.cons_append, textKeys?, ih, Option.map_bind, Option.bind_map]
      refine congrArg _ (funext fun first ↦ ?_)
      simp [Function.comp_def]

/-- A field that can be read is there once at most, with the value that is read. -/
theorem mem_iff_of_field? (h : field? pairs name = some part) :
    (name, json) ∈ pairs ↔ part = some json := by
  have hmem : (name, json) ∈ pairs ↔ (name, json) ∈ pairs.filter (·.1 == name) := by simp
  rw [hmem]
  unfold field? at h
  split at h
  · rename_i hnone
    cases h
    simp [hnone]
  · rename_i key value hone
    cases h
    have hkey : (key, value) ∈ pairs.filter (·.1 == name) := by simp [hone]
    have hname : key = name := by simpa using (List.mem_filter.mp hkey).2
    rw [hone, List.mem_singleton, hname]
    simp [eq_comm]
  · contradiction

theorem mem_iff_of_part? (h : part? fields name = some part) :
    (some name, json) ∈ fields ↔ part = some json := by
  obtain ⟨pairs, hpairs, hfield⟩ := Option.bind_eq_some_iff.mp h
  rw [eq_map_of_textKeys? hpairs, ← mem_iff_of_field? hfield]
  simp

theorem isSome_field?_iff :
    (field? pairs name).isSome ↔ pairs.countP (·.1 == name) ≤ 1 := by
  rw [List.countP_eq_length_filter, field?]
  generalize pairs.filter (·.1 == name) = found
  rcases found with _ | ⟨field, _ | ⟨next, rest⟩⟩ <;> simp

/-- The keys of an object are texts, and none of some names comes twice among them. -/
structure Keyed (names : List String) (fields : List (Option String × Json)) : Prop where
  textual : ∀ field ∈ fields, field.1.isSome
  once : ∀ name ∈ names, fields.countP (·.1 == some name) ≤ 1

theorem isSome_textKeys?_iff :
    (textKeys? fields).isSome ↔ ∀ field ∈ fields, field.1.isSome := by
  induction fields with
  | nil => simp [textKeys?]
  | cons field rest ih =>
    obtain ⟨key, value⟩ := field
    cases key with
    | none => simp [textKeys?]
    | some key => simp [textKeys?, ih]

theorem isSome_part?_iff :
    (part? fields name).isSome ↔
      (∀ field ∈ fields, field.1.isSome) ∧ fields.countP (·.1 == some name) ≤ 1 := by
  rw [← isSome_textKeys?_iff, part?]
  cases hkeys : textKeys? fields with
  | none => simp
  | some pairs =>
    rw [eq_map_of_textKeys? hkeys, List.countP_map, Option.bind_some, isSome_field?_iff]
    simp [Function.comp_def]

/-- All names can be looked up in an object that is keyed by them. -/
theorem keyed_iff {names : List String} (h : names ≠ []) :
    Keyed names fields ↔ ∀ name ∈ names, (part? fields name).isSome := by
  constructor
  · intro hkeyed name hname
    exact isSome_part?_iff.mpr ⟨hkeyed.textual, hkeyed.once name hname⟩
  · intro hsome
    obtain ⟨first, hfirst⟩ := List.exists_mem_of_ne_nil names h
    exact ⟨(isSome_part?_iff.mp (hsome first hfirst)).1,
      fun name hname ↦ (isSome_part?_iff.mp (hsome name hname)).2⟩

/-- A field of another name does not matter to a look-up. -/
theorem part?_insert (h : other ≠ name) :
    part? (before ++ (some other, json) :: after) name = part? (before ++ after) name := by
  have hfield (first second : List (String × Json)) :
      field? (first ++ (other, json) :: second) name = field? (first ++ second) name := by
    simp [field?, h]
  simp only [part?, textKeys?_append, textKeys?]
  cases textKeys? before with
  | none => rfl
  | some first =>
    cases textKeys? after with
    | none => rfl
    | some second => exact hfield first second

/-- A further field is what its look-up finds, unless there is one of its name already. -/
theorem part?_insert_self :
    part? (before ++ (some name, json) :: after) name = some part ↔
      part? (before ++ after) name = some none ∧ part = some json := by
  have hfield (first second : List (String × Json)) :
      field? (first ++ (name, json) :: second) name = some part ↔
        field? (first ++ second) name = some none ∧ part = some json := by
    simp only [field?, List.filter_append, List.filter_cons, beq_self_eq_true, if_true]
    generalize first.filter (·.1 == name) = one
    generalize second.filter (·.1 == name) = two
    rcases one with _ | ⟨field, _ | ⟨next, rest⟩⟩ <;>
      rcases two with _ | ⟨field, _ | ⟨next, rest⟩⟩ <;> simp [@eq_comm _ part]
  simp only [part?, textKeys?_append, textKeys?]
  cases textKeys? before with
  | none => simp
  | some first =>
    cases textKeys? after with
    | none => simp
    | some second => exact hfield first second

/-! ### All parts of a record -/

theorem mapM_congr {α β : Type} {f g : α → Option β} {items : List α}
    (h : ∀ item ∈ items, f item = g item) : items.mapM f = items.mapM g := by
  induction items with
  | nil => rfl
  | cons item rest ih =>
    rw [List.forall_mem_cons] at h
    rw [List.mapM_cons, List.mapM_cons, h.1, ih h.2]

theorem parts?_object {names : List String} (h : names ≠ []) :
    parts? names (.object fields) = names.mapM (part? fields) := by
  obtain ⟨first, rest, rfl⟩ := List.exists_cons_of_ne_nil h
  cases hkeys : textKeys? fields with
  | none => simp [parts?, part?, hkeys]
  | some pairs =>
    have hpart : part? fields = field? pairs := by
      funext name
      rw [part?, hkeys, Option.bind_some]
    rw [hpart]
    simp [parts?, hkeys]

/-- An unknown field changes nothing in the parts of a record. -/
theorem parts?_insert {names : List String} (hnames : names ≠ []) (h : other ∉ names) :
    parts? names (.object (before ++ (some other, json) :: after)) =
      parts? names (.object (before ++ after)) := by
  rw [parts?_object hnames, parts?_object hnames]
  refine mapM_congr fun name hname ↦ part?_insert ?_
  rintro rfl
  exact h hname

/-- The first field of a name is found if it is the only one. -/
theorem field?_cons_self (h : ∀ json, (name, json) ∉ pairs) :
    field? ((name, json) :: pairs) name = some (some json) := by
  have hnone : pairs.filter (·.1 == name) = [] := by
    rw [List.filter_eq_nil_iff]
    rintro ⟨key, value⟩ hmem hkey
    rw [beq_iff_eq] at hkey
    subst hkey
    exact h value hmem
  simp [field?, hnone]

theorem field?_cons_of_ne (h : other ≠ name) :
    field? ((other, json) :: pairs) name = field? pairs name := by
  simp [field?, h]

/-- A record that was written has all its parts, in the order of their names. -/
theorem parts?_ofFields {names : List String} {values : List Json} (hnames : names.Nodup)
    (hlength : names.length = values.length) :
    parts? names (.ofFields (names.zip values)) = some (values.map some) := by
  have hfields : names.mapM (field? (names.zip values)) = some (values.map some) := by
    induction names generalizing values with
    | nil =>
      obtain rfl := List.length_eq_zero_iff.mp hlength.symm
      rfl
    | cons name rest ih =>
      obtain ⟨hname, hrest⟩ := List.nodup_cons.mp hnames
      cases values with
      | nil => contradiction
      | cons value others =>
        have hothers : rest.mapM (field? ((name, value) :: rest.zip others)) =
            rest.mapM (field? (rest.zip others)) := by
          refine mapM_congr fun later hlater ↦ field?_cons_of_ne ?_
          rintro rfl
          exact hname hlater
        have hself : field? ((name, value) :: rest.zip others) name = some (some value) :=
          field?_cons_self fun json hmem ↦ hname (List.of_mem_zip hmem).1
        rw [List.zip_cons_cons, List.mapM_cons, hself, hothers,
          ih hrest (Nat.succ.inj hlength)]
        rfl
  simp only [parts?, ofFields, textKeys?_map]
  exact hfields

/-! ### Values -/

@[simp] theorem text?_ofText (text : String) : (ofText text).text? = some text := rfl

@[simp] theorem word32?_toNat (n : UInt32) : word32? (.integer n.toNat) = some n := by
  have hlt := n.toNat_lt
  have hrange : (0 : Int) ≤ n.toNat ∧ (n.toNat : Int) ≤ 4294967295 := by omega
  simp [word32?, integer?, hrange]

@[simp] theorem word64?_toNat (n : UInt64) : word64? (.integer n.toNat) = some n := by
  have hlt := n.toNat_lt
  have hrange : (0 : Int) ≤ n.toNat ∧ (n.toNat : Int) ≤ 18446744073709551615 := by omega
  simp [word64?, integer?, hrange]

@[simp] theorem int64?_toInt (n : Int64) : int64? (.integer n.toInt) = some n := by
  have hleast := n.le_toInt
  have hgreatest := n.toInt_lt
  have hrange : -9223372036854775808 ≤ n.toInt ∧ n.toInt ≤ 9223372036854775807 := by omega
  simp [int64?, integer?, hrange]

theorem optional?_of_ne_null {α : Type} {read : Json → Option α} (h : json ≠ .null) :
    optional? read json = (read json).map some := by
  cases json with
  | null => contradiction
  | bool | integer | other | string | array | object => rfl

/-! ### Reading one part after another -/

/-- One reading after another, as a record is read: `Option.bind_some` with the operator. -/
theorem some_bind {α β : Type} (a : α) (f : α → Option β) : (some a >>= f) = f a := rfl

/-- One reading after another, as a record is read: `Option.bind_eq_some_iff` with the operator. -/
theorem bind_eq_some_iff {α β : Type} {value? : Option α} {f : α → Option β} {b : β} :
    (value? >>= f) = some b ↔ ∃ a, value? = some a ∧ f a = some b :=
  Option.bind_eq_some_iff

theorem required?_some {α : Type} (read : Json → Option α) (json : Json) :
    required? read (some json) = read json := rfl

/-- What is written of a value that may be absent is read back, if no value is written as null. -/
theorem absentable?_ofOption {α : Type} {write : α → Json} {read : Json → Option α}
    (hread : ∀ a, read (write a) = some a) (hnull : ∀ a, write a ≠ .null) (value : Option α) :
    absentable? read (some (ofOption write value)) = some value := by
  cases value with
  | none => rfl
  | some a => rw [ofOption, absentable?, optional?_of_ne_null (hnull a), hread, Option.map_some]

/-! ### Forms -/

/-- What a part of a record has to be. -/
inductive Form where
  | text
  | integer (least greatest : Int)
  | architecture
  deriving DecidableEq, Repr

/-- An unsigned 32-bit integer. -/
def Form.word32 : Form := .integer 0 4294967295

/-- An unsigned 64-bit integer. -/
def Form.word64 : Form := .integer 0 18446744073709551615

/-- A signed 64-bit integer. -/
def Form.int64 : Form := .integer (-9223372036854775808) 9223372036854775807

/-- The values of a form. The name of an architecture may also be the key of an object that holds
nothing else and null for it. -/
inductive Form.Admits : Form → Json → Prop
  | text (text : String) : Admits .text (.string (some text))
  | integer {least greatest n : Int} (hleast : least ≤ n) (hgreatest : n ≤ greatest) :
      Admits (.integer least greatest) (.integer n)
  | name (architecture : Architecture) : Admits .architecture (.string (some architecture.name))
  | key (architecture : Architecture) :
      Admits .architecture (.object [(some architecture.name, .null)])

/-- A form goes with a reader that takes just its values. -/
def Form.Fits {α : Type} (form : Form) (read : Json → Option α) : Prop :=
  ∀ json, form.Admits json ↔ (read json).isSome

theorem fits_text : Form.text.Fits text? := by
  intro json
  constructor
  · rintro ⟨text⟩
    rfl
  · intro h
    cases json with
    | string value =>
      obtain ⟨text, rfl⟩ := Option.isSome_iff_exists.mp h
      exact .text text
    | null | bool | integer | other | array | object => contradiction

theorem fits_integer (least greatest : Int) :
    (Form.integer least greatest).Fits (integer? least greatest) := by
  intro json
  constructor
  · rintro (_ | ⟨hleast, hgreatest⟩)
    simp [integer?, hleast, hgreatest]
  · intro h
    cases json with
    | integer n =>
      have hrange : least ≤ n ∧ n ≤ greatest := by simpa [integer?] using h
      exact .integer hrange.1 hrange.2
    | null | bool | other | string | array | object => contradiction

theorem Form.Fits.map {α β : Type} {form : Form} {read : Json → Option α} (h : form.Fits read)
    (f : α → β) : form.Fits fun json ↦ (read json).map f := by
  intro json
  rw [Option.isSome_map]
  exact h json

theorem fits_word32 : Form.word32.Fits word32? := (fits_integer _ _).map _

theorem fits_word64 : Form.word64.Fits word64? := (fits_integer _ _).map _

theorem fits_int64 : Form.int64.Fits int64? := (fits_integer _ _).map _

theorem fits_architecture : Form.architecture.Fits Architecture.ofJson? := by
  intro json
  constructor
  · rintro (_ | _ | architecture | architecture) <;> cases architecture <;> rfl
  · intro h
    obtain ⟨architecture, hread⟩ := Option.isSome_iff_exists.mp h
    obtain ⟨⟨name, carried⟩, halternative, hfind⟩ := Option.bind_eq_some_iff.mp hread
    dsimp only at hfind
    split at hfind
    · rename_i hcarried
      have hname : architecture.name = name := by simpa using List.find?_some hfind
      subst hname
      unfold alternative? at halternative
      split at halternative
      · cases halternative
        exact .name architecture
      · cases halternative
        rename_i value
        cases value with
        | null => exact .key architecture
        | bool | integer | other | string | array | object => contradiction
      · contradiction
    · contradiction

/-! ### Reading a part -/

/-- Looking up a part of an object and reading it yields a value. -/
def Yields {α : Type} (fields : List (Option String × Json)) (name : String)
    (read : Option Json → Option α) (value : α) : Prop :=
  ∃ part, part? fields name = some part ∧ read part = some value

section Yields

variable {α : Type} {read : Json → Option α} {form : Form}

/-- A part that has to be there is read exactly if it is there with a value of its form. -/
theorem exists_yields_required_iff (hform : form.Fits read) :
    (∃ value, Yields fields name (required? read) value) ↔
      (part? fields name).isSome ∧ ∃ json, (some name, json) ∈ fields ∧ form.Admits json := by
  constructor
  · rintro ⟨value, part, hpart, hread⟩
    obtain ⟨json, rfl, hjson⟩ := Option.bind_eq_some_iff.mp hread
    refine ⟨Option.isSome_of_eq_some hpart, json, (mem_iff_of_part? hpart).mpr rfl, ?_⟩
    exact (hform json).mpr (Option.isSome_of_eq_some hjson)
  · rintro ⟨hsome, json, hmem, hadmits⟩
    obtain ⟨part, hpart⟩ := Option.isSome_iff_exists.mp hsome
    obtain ⟨value, hvalue⟩ := Option.isSome_iff_exists.mp ((hform json).mp hadmits)
    obtain rfl := (mem_iff_of_part? hpart).mp hmem
    exact ⟨value, some json, hpart, hvalue⟩

/-- A part that may be absent is read exactly if it is, or has a value of its form. -/
theorem exists_yields_absentable_iff {admits : Json → Prop}
    (hadmits : ∀ json, admits json ↔ (read json).isSome) :
    (∃ value, Yields fields name (absentable? read) value) ↔
      (part? fields name).isSome ∧
        ∀ json, (some name, json) ∈ fields → json ≠ .null → admits json := by
  constructor
  · rintro ⟨value, part, hpart, hread⟩
    refine ⟨Option.isSome_of_eq_some hpart, fun json hmem hnull ↦ (hadmits json).mpr ?_⟩
    obtain rfl := (mem_iff_of_part? hpart).mp hmem
    rw [absentable?, optional?_of_ne_null hnull] at hread
    obtain ⟨a, ha, -⟩ := Option.map_eq_some_iff.mp hread
    exact Option.isSome_of_eq_some ha
  · rintro ⟨hsome, h⟩
    obtain ⟨part, hpart⟩ := Option.isSome_iff_exists.mp hsome
    cases part with
    | none => exact ⟨none, none, hpart, rfl⟩
    | some json =>
      by_cases hnull : json = .null
      · subst hnull
        exact ⟨none, some .null, hpart, rfl⟩
      · have hread := (hadmits json).mp (h json ((mem_iff_of_part? hpart).mpr rfl) hnull)
        obtain ⟨a, ha⟩ := Option.isSome_iff_exists.mp hread
        refine ⟨some a, some json, hpart, ?_⟩
        rw [absentable?, optional?_of_ne_null hnull, ha, Option.map_some]

/-- A part that may be absent comes out as none exactly if it is. -/
theorem Yields.eq_none_iff {value : Option α}
    (h : Yields fields name (absentable? read) value) : value = none ↔ Absent fields name := by
  obtain ⟨part, hpart, hread⟩ := h
  have hmem (json : Json) : (some name, json) ∈ fields ↔ part = some json :=
    mem_iff_of_part? hpart
  cases part with
  | none =>
    cases hread
    simp [Absent, hmem]
  | some json =>
    simp only [Absent, hmem, Option.some.injEq, forall_eq']
    by_cases hnull : json = .null
    · subst hnull
      cases hread
      simp
    · rw [absentable?, optional?_of_ne_null hnull] at hread
      obtain ⟨a, -, rfl⟩ := Option.map_eq_some_iff.mp hread
      simp [hnull]

/-- A part yields the same in any object in which its look-up comes to the same. -/
theorem Yields.congr {others : List (Option String × Json)} {readPart : Option Json → Option α}
    {value : α} (h : Yields fields name readPart value)
    (hpart : part? others name = part? fields name) : Yields others name readPart value := by
  obtain ⟨part, hsome, hread⟩ := h
  exact ⟨part, hpart.trans hsome, hread⟩

/-- What a part yields depends on its value only by what the value is read as. -/
theorem Yields.replace {value : Option α} {first second : Json}
    (h : Yields (before ++ (some name, first) :: after) name (absentable? read) value)
    (hfirst : first ≠ .null) (hsecond : second ≠ .null) (hread : read second = read first) :
    Yields (before ++ (some name, second) :: after) name (absentable? read) value := by
  obtain ⟨part, hpart, hvalue⟩ := h
  obtain ⟨hnone, rfl⟩ := part?_insert_self.mp hpart
  refine ⟨some second, part?_insert_self.mpr ⟨hnone, rfl⟩, ?_⟩
  rw [absentable?, optional?_of_ne_null hfirst] at hvalue
  rw [absentable?, optional?_of_ne_null hsecond, hread, hvalue]

end Yields

end HostProfile.Json
