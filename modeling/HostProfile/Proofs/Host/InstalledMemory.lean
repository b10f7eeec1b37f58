import HostProfile.Host.Linux
import HostProfile.Host.Windows
import HostProfile.Proofs.Host.Parameters
import HostProfile.Proofs.Profiler.Plausibility

/-!
# The installed memory of a host

An operating system tells the installed memory as a count of pages and their size, as a number of
bytes, or as a kernel parameter of four or eight bytes, or it fails to tell (`Host.Tells`,
`Host.Fails`, `Host.tells_or_fails`). Memory is reported by a signed number of 64 bits in which
minus one stands for an unknown size, so a number of bytes that wrapped around would pass for another
size or for none.

None does: a size within the limit is reported as it is, a product beyond it is cut off at it, any
other number beyond it is refused, and so are zero and a failure (`Host.Installed`). On hosts that
answer the same throughout, a profiler reports this size whenever it is asked, and once it was asked
the state of the memory is a failure if the size is minus one and only then (`installed_memory`).
-/

set_option autoImplicit false
set_option relaxedAutoImplicit false

namespace HostProfile

/-- A host of one of the systems that tell of their memory. -/
inductive Host where
  | linux (settings : Config) (machine : Linux.Machine)
  | windows (settings : Config) (machine : Windows.Machine)
  /-- The first call of a query does what it should with the parameters of a table. -/
  | darwin (machine : Darwin.Machine) (table : ParameterTable)
      (hcontract : (machine.parameters 0).Contract table)

namespace Host

/-- What a host answers. -/
def source : Host → Source
  | .linux settings machine => Linux.source settings machine
  | .windows settings machine => Windows.source settings machine
  | .darwin machine _ _ => Darwin.source machine

/-- The operating system of a host tells that so many bytes are installed. -/
inductive Tells : Host → Nat → Prop
  | pages {settings : Config} {machine : Linux.Machine} {count size : Nat}
      (hcount : machine.pages = count) (hsize : machine.pageSize = size) :
      Tells (.linux settings machine) (count * size)
  | status {settings : Config} {machine : Windows.Machine} {bytes : UInt64}
      (h : machine.memoryBytes = .ok bytes) :
      Tells (.windows settings machine) bytes.toNat
  | parameter {machine : Darwin.Machine} {table : ParameterTable}
      {hcontract : (machine.parameters 0).Contract table} {bytes : List UInt8}
      (h : table.Holds "hw.memsize" bytes) (hlength : bytes.length = 4 ∨ bytes.length = 8) :
      Tells (.darwin machine table hcontract) (Bytes.valueLE bytes)

/-- The operating system of a host fails to tell its memory. -/
inductive Fails : Host → Prop
  | pages {settings : Config} {machine : Linux.Machine} (h : machine.pages < 0) :
      Fails (.linux settings machine)
  | pageSize {settings : Config} {machine : Linux.Machine} (h : machine.pageSize < 0) :
      Fails (.linux settings machine)
  | status {settings : Config} {machine : Windows.Machine} {code : Nat}
      (h : machine.memoryBytes = .error code) :
      Fails (.windows settings machine)
  | missing {machine : Darwin.Machine} {table : ParameterTable}
      {hcontract : (machine.parameters 0).Contract table} (h : table.Lacks "hw.memsize") :
      Fails (.darwin machine table hcontract)
  | refused {machine : Darwin.Machine} {table : ParameterTable}
      {hcontract : (machine.parameters 0).Contract table} (h : table.Refuses "hw.memsize") :
      Fails (.darwin machine table hcontract)
  | width {machine : Darwin.Machine} {table : ParameterTable}
      {hcontract : (machine.parameters 0).Contract table} {bytes : List UInt8}
      (h : table.Holds "hw.memsize" bytes) (hlength : ¬ (bytes.length = 4 ∨ bytes.length = 8)) :
      Fails (.darwin machine table hcontract)

/-- Whether a host tells its memory as a product. -/
def countsPages : Host → Bool
  | .linux _ _ => true
  | .windows _ _ | .darwin _ _ _ => false

/-- The size that stands for what a host tells of its memory. -/
structure Installed (host : Host) (size : Int64) : Prop where
  /-- There is no third case. -/
  covered : (∃ bytes, host.Tells bytes) ∨ host.Fails
  /-- A size within the limit is exact. -/
  exact : ∀ bytes, host.Tells bytes → 1 ≤ bytes → bytes ≤ 9223372036854775807 →
    size.toInt = bytes
  /-- A product beyond the limit is cut off there. -/
  cut : ∀ bytes, host.Tells bytes → 9223372036854775807 < bytes → host.countsPages = true →
    size = 9223372036854775807
  /-- Any other number beyond the limit is refused. -/
  beyond : ∀ bytes, host.Tells bytes → 9223372036854775807 < bytes → host.countsPages = false →
    size = -1
  zero : host.Tells 0 → size = -1
  failed : host.Fails → size = -1

variable {host : Host} {bytes : Nat}

/-! ### What a host answers -/

theorem tells_or_fails (host : Host) : (∃ bytes, host.Tells bytes) ∨ host.Fails := by
  cases host with
  | linux settings machine =>
    by_cases hpages : machine.pages < 0
    · exact .inr (.pages hpages)
    · by_cases hsize : machine.pageSize < 0
      · exact .inr (.pageSize hsize)
      · have hcount : machine.pages = machine.pages.toNat := by omega
        have hbytes : machine.pageSize = machine.pageSize.toNat := by omega
        exact .inl ⟨_, .pages hcount hbytes⟩
  | windows settings machine =>
    cases hstatus : machine.memoryBytes with
    | ok bytes => exact .inl ⟨_, .status hstatus⟩
    | error code => exact .inr (.status hstatus)
  | darwin machine table hcontract =>
    obtain ⟨bytes, hholds⟩ | hlacks | hrefuses := table.holds_or_lacks_or_refuses "hw.memsize"
    · by_cases hlength : bytes.length = 4 ∨ bytes.length = 8
      · exact .inl ⟨_, .parameter hholds hlength⟩
      · exact .inr (.width hholds hlength)
    · exact .inr (.missing hlacks)
    · exact .inr (.refused hrefuses)

/-- The answer for a number of bytes, if there is one. -/
def sized? (host : Host) (bytes : Nat) : Option Int64 :=
  if bytes ≤ 9223372036854775807 then some (Int64.ofNat bytes)
  else if host.countsPages then some 9223372036854775807
  else none

theorem Tells.memory_eq (h : host.Tells bytes) :
    (host.source .memory).toOption = host.sized? bytes := by
  cases h with
  | @pages settings machine count size hcount hsize =>
    show (Linux.memory machine.pages machine.pageSize).toOption = _
    have hproduct : (count : Int) * size = (count * size : Nat) := (Int.natCast_mul _ _).symm
    rw [Linux.memory, hcount, hsize, if_neg (by omega), hproduct, sized?]
    by_cases hle : count * size ≤ 9223372036854775807
    · have hmin : min ((count * size : Nat) : Int) Linux.memoryLimit = (count * size : Nat) := by
        rw [Linux.memoryLimit]
        omega
      rw [if_pos hle, hmin, Int64.ofInt_eq_ofNat]
      rfl
    · have hmin : min ((count * size : Nat) : Int) Linux.memoryLimit = 9223372036854775807 := by
        rw [Linux.memoryLimit]
        omega
      rw [if_neg hle, hmin]
      rfl
  | @status settings machine bytes hstatus =>
    show (Windows.memory machine.memoryBytes).toOption = _
    rw [hstatus, Windows.memory, sized?]
    by_cases hle : bytes.toNat ≤ 9223372036854775807
    · rw [if_pos hle, if_pos hle]
      rfl
    · rw [if_neg hle, if_neg hle]
      rfl
  | @parameter machine table hcontract bytes hholds hlength =>
    obtain ⟨n, hnumber, hvalue⟩ := hcontract.exists_number hholds hlength
    show (Darwin.memory (machine.parameters 0)).toOption = _
    rw [Darwin.memory, hnumber, ← hvalue, sized?]
    show (if n.toNat ≤ 9223372036854775807 then Except.ok _ else Except.error _).toOption = _
    by_cases hle : n.toNat ≤ 9223372036854775807
    · rw [if_pos hle, if_pos hle]
      rfl
    · rw [if_neg hle, if_neg hle]
      rfl

theorem Fails.exists_error (h : host.Fails) : ∃ error, host.source .memory = .error error := by
  have hnumber {call : ParameterCall} {error : ProbeError}
      (h : call.number "hw.memsize" = .error error) : Darwin.memory call = .error error := by
    rw [Darwin.memory, h]
    rfl
  cases h with
  | pages h => exact ⟨_, if_pos (.inl h)⟩
  | pageSize h => exact ⟨_, if_pos (.inr h)⟩
  | @status settings machine code h =>
    show ∃ error, Windows.memory machine.memoryBytes = .error error
    rw [h]
    exact ⟨_, rfl⟩
  | @missing machine table hcontract h =>
    exact ⟨_, hnumber (ParameterCall.number_of_error (hcontract.ask_of_lacks h _))⟩
  | @refused machine table hcontract h =>
    obtain ⟨error, hask, -⟩ := hcontract.ask_of_refuses h (List.replicate 8 0)
    exact ⟨error, hnumber (ParameterCall.number_of_error hask)⟩
  | @width machine table hcontract bytes h hlength =>
    obtain ⟨error, hread, -⟩ := hcontract.number_failed h hlength
    exact ⟨error, hnumber hread⟩

end Host

/-! ### The size that is reported -/

/-- The size of the memory that the chain lets through, minus one if there is none. -/
def Source.memorySize (source : Source) : Int64 :=
  ((source .memory).toOption.filter (0 < ·)).getD (-1)

namespace Host

theorem ofNat_pos_iff {bytes : Nat} (h : bytes ≤ 9223372036854775807) :
    0 < Int64.ofNat bytes ↔ 1 ≤ bytes := by
  rw [Int64.lt_iff_toInt_lt, Int64.toInt_ofNat_of_lt (by omega)]
  show (0 : Int) < bytes ↔ 1 ≤ bytes
  omega

theorem installed_memorySize (host : Host) : host.Installed host.source.memorySize where
  covered := host.tells_or_fails
  exact := by
    intro bytes htells hpos hle
    have hpositive : decide (0 < Int64.ofNat bytes) = true :=
      decide_eq_true ((ofNat_pos_iff hle).mpr hpos)
    rw [Source.memorySize, htells.memory_eq, sized?, if_pos hle, Option.filter_some,
      if_pos hpositive]
    exact Int64.toInt_ofNat_of_lt (by omega)
  cut := by
    intro bytes htells hlt hpages
    rw [Source.memorySize, htells.memory_eq, sized?, if_neg (Nat.not_le.mpr hlt), hpages]
    rfl
  beyond := by
    intro bytes htells hlt hpages
    rw [Source.memorySize, htells.memory_eq, sized?, if_neg (Nat.not_le.mpr hlt), hpages]
    rfl
  zero := by
    intro htells
    rw [Source.memorySize, htells.memory_eq]
    rfl
  failed := by
    intro hfails
    obtain ⟨error, herror⟩ := hfails.exists_error
    rw [Source.memorySize, herror]
    rfl

/-- What a host tells leaves no choice of the size. -/
theorem Installed.unique {host : Host} {size other : Int64} (h : host.Installed size)
    (hother : host.Installed other) : other = size := by
  obtain ⟨bytes, htells⟩ | hfails := h.covered
  · by_cases hzero : bytes = 0
    · subst hzero
      exact (hother.zero htells).trans (h.zero htells).symm
    · have hpos : 1 ≤ bytes := Nat.one_le_iff_ne_zero.mpr hzero
      by_cases hle : bytes ≤ 9223372036854775807
      · apply Int64.toInt_inj.mp
        exact (hother.exact bytes htells hpos hle).trans (h.exact bytes htells hpos hle).symm
      · have hlt := Nat.lt_of_not_le hle
        cases hpages : host.countsPages with
        | true =>
          exact (hother.cut bytes htells hlt hpages).trans (h.cut bytes htells hlt hpages).symm
        | false =>
          exact (hother.beyond bytes htells hlt hpages).trans
            (h.beyond bytes htells hlt hpages).symm
  · exact (hother.failed hfails).trans (h.failed hfails).symm

end Host

/-! ### What a profiler reports -/

/-- What is known of the memory once a size is reported. -/
def Resolved.ofSize (size : Int64) : Resolved Int64 :=
  if size = -1 then .failed else .valid size

theorem Resolved.ofProbe_filter_pos (size : Option Int64) :
    ofProbe (size.filter (0 < ·)) = ofSize ((size.filter (0 < ·)).getD (-1)) := by
  cases hfilter : size.filter (0 < ·) with
  | none => rfl
  | some bytes =>
    have hpos : 0 < bytes := of_decide_eq_true (Option.filter_eq_some_iff.mp hfilter).2
    have hne : bytes ≠ -1 := by
      rintro rfl
      exact absurd hpos (by decide)
    exact (if_neg hne).symm

namespace Profiler

variable {config : Config} {architecture : Architecture} {source : Source}

/-- A step that asks for the memory, by itself or in a summary. -/
def Step.AsksMemory (step : Step) : Prop :=
  step.accessor = .memory ∨ step.accessor = .summary

instance : DecidablePred Step.AsksMemory := fun step ↦
  inferInstanceAs (Decidable (step.accessor = .memory ∨ step.accessor = .summary))

theorem memory_mem_memos_iff {step : Step} :
    Memo.memory ∈ step.memos config architecture ↔ step.AsksMemory := by
  obtain ⟨source, accessor⟩ := step
  unfold Step.memos Step.AsksMemory
  cases accessor with
  | currentSpeed =>
    show Memo.memory ∈ (if _ then [] else [Memo.maxSpeed]) ↔ _
    split <;> simp
  | _ => simp [Accessor.memos]

theorem found_memory (h : config.isDisabled "memory" = false) :
    Memo.memory.found config architecture source = (source .memory).toOption.filter (0 < ·) := by
  have hprobe : Metric.memoryProbe.resolved? architecture source (fun bytes ↦ decide (0 < bytes))
      config = (source .memory).toOption.filter (0 < ·) :=
    Probe.resolved?_of_enabled h
  refine (Chain.found_firstUsable "memory_size" _).trans ?_
  rw [Metric.memory, List.findSome?_cons, hprobe, List.findSome?_nil]
  cases (source .memory).toOption.filter (0 < ·) <;> rfl

theorem cell_memory (hon : config.isDisabled "memory" = false) (first : Source)
    {history : List Step} (hhistory : ∀ step ∈ history, step.source .memory = source .memory) :
    Memo.memory.cell (((start config architecture).value first).afterAll history) =
      if ∃ step ∈ history, step.AsksMemory then
        some ((source .memory).toOption.filter (0 < ·))
      else none := by
  rw [cell_afterAll _ (cell_start ..), config_start, architecture_start]
  cases hfind : history.find? fun step ↦ Memo.memory ∈ step.memos config architecture with
  | none =>
    have hnone : ¬ ∃ step ∈ history, step.AsksMemory := by
      rintro ⟨step, hstep, hasks⟩
      have hmem := List.find?_eq_none.mp hfind step hstep
      exact hmem (decide_eq_true (memory_mem_memos_iff.mpr hasks))
    rw [if_neg hnone, Option.map_none]
  | some step =>
    have hstep := List.mem_of_find?_eq_some hfind
    have hasks : step.AsksMemory := memory_mem_memos_iff.mp (by simpa using List.find?_some hfind)
    rw [if_pos ⟨step, hstep, hasks⟩, Option.map_some, found_memory hon, hhistory step hstep]

/-- On hosts that answer for their memory as a host does, a profiler reports the size that stands
for what the host tells, whatever it was asked before; and what it knows of the memory is this size,
a failure if it is minus one and only then, once it was asked for it. -/
theorem installed_memory (hon : config.isDisabled "memory" = false) (architecture : Architecture)
    (first : Source) (host : Host) {history : List Step}
    (hhistory : ∀ step ∈ history, step.source .memory = host.source .memory) :
    let profiler := ((start config architecture).value first).afterAll history
    let size := profiler.reply host.source .memory
    host.Installed size ∧ (∀ other, host.Installed other → other = size) ∧
      ∀ later, profiler.reply later .memoryState =
        if ∃ step ∈ history, step.AsksMemory then
          if size = -1 then .failed else .valid size
        else .unprobed := by
  intro profiler size
  have hcell : Memo.memory.cell profiler = _ := cell_memory hon first hhistory
  have hsize : size = host.source.memorySize := by
    show profiler.reply host.source .memory = _
    have hnow : Memo.memory.now profiler host.source =
        (host.source .memory).toOption.filter (0 < ·) := by
      rw [Memo.now, config_afterAll, architecture_afterAll, config_start, architecture_start,
        found_memory hon, hcell]
      split <;> rfl
    rw [reply_eq]
    exact congrArg (·.getD (-1)) hnow
  have hinstalled : host.Installed size := hsize ▸ host.installed_memorySize
  refine ⟨hinstalled, fun other hother ↦ hinstalled.unique hother, fun later ↦ ?_⟩
  rw [reply_eq]
  show profiler.memory = _
  rw [← Resolved.ofCell_cell profiler.memory]
  show Resolved.ofCell (Memo.memory.cell profiler) = _
  rw [hcell, hsize]
  by_cases hasked : ∃ step ∈ history, step.AsksMemory
  · rw [if_pos hasked, if_pos hasked]
    exact Resolved.ofProbe_filter_pos _
  · rw [if_neg hasked, if_neg hasked]
    rfl

/-- A machine with eight gibibytes reports them, and knows them once it was asked. -/
theorem installed_memory_laptop :
    let table := ParameterTable.ofValues [("hw.memsize", [0, 0, 0, 0, 2, 0, 0, 0])]
    let machine : Darwin.Machine := ⟨fun _ ↦ table.call, ⟨none, 8, none⟩⟩
    let host := Host.darwin machine table table.contract_call
    let history := [Step.mk host.source .memory]
    let profiler := ((start .standard .x64).value host.source).afterAll history
    Config.standard.isDisabled "memory" = false ∧
      (∀ step ∈ history, step.source .memory = host.source .memory) ∧
      (profiler.reply host.source .memory).toInt = 8589934592 ∧
      profiler.reply host.source .memoryState = .valid 8589934592 := by
  intro table machine host history profiler
  have hon : Config.standard.isDisabled "memory" = false := rfl
  have hhistory : ∀ step ∈ history, step.source .memory = host.source .memory := by
    intro step hstep
    obtain rfl := List.mem_singleton.mp hstep
    rfl
  have hholds : table.Holds "hw.memsize" [0, 0, 0, 0, 2, 0, 0, 0] :=
    ParameterTable.holds_ofValues (by decide) rfl
  have htells : host.Tells 8589934592 := .parameter hholds (.inr rfl)
  obtain ⟨hinstalled, -, hstate⟩ := installed_memory hon .x64 host.source host hhistory
  have hsize := hinstalled.exact _ htells (by decide) (by decide)
  have hvalue : profiler.reply host.source .memory = 8589934592 := Int64.toInt_inj.mp hsize
  refine ⟨hon, hhistory, hsize, (hstate host.source).trans ?_⟩
  rw [hvalue]
  rfl

end Profiler

end HostProfile
