import HostProfile.Host.Linux
import HostProfile.Proofs.Profiler.Plausibility
import HostProfile.Proofs.Text.Strip

/-!
# The model of a Linux machine

Reading an attribute file comes to the text between blanks and NULs, to a source that does not exist
where the file is missing, or to a failed query where it is there but cannot be read (`Reads`).

The firmware tells the product name, and the model in the device tree only where the product name is
empty or its file is missing. A product name that cannot be read ends the search, whatever the
device tree has (`preferred`). The machine model is the text that comes of it, and is unknown
without one (`modelOf`).
-/

set_option autoImplicit false
set_option relaxedAutoImplicit false

namespace HostProfile.Linux

/-! ### Attribute files -/

/-- What reading an attribute file may come to. -/
inductive Reads (files : Files) (origin : String) (path : PathBytes) : Outcome String → Prop
  /-- The file has a text, if only an empty one, with padding around it. -/
  | text {content : List UInt8} {core : List Char} (hread : files.read path = .ok content)
      (hcore : Text.Core isPadding (Text.decodeLossy content).toList core) :
      Reads files origin path (.ok (String.ofList core))
  /-- There is no such file. -/
  | missing (hread : files.read path = .error .notFound) :
      Reads files origin path (.error .unavailable)
  /-- The file cannot be read. -/
  | unreadable {error : ReadError} (hread : files.read path = .error error)
      (hfound : error ≠ .notFound) :
      Reads files origin path
        (.error (.queryFailed origin (Text.decodeLossy path ++ ": " ++ error.message)))

theorem readFailure_notFound (origin : String) (path : PathBytes) :
    readFailure origin path .notFound = .unavailable :=
  if_pos rfl

theorem readFailure_of_found {error : ReadError} (h : error ≠ .notFound) (origin : String)
    (path : PathBytes) :
    readFailure origin path error =
      .queryFailed origin (Text.decodeLossy path ++ ": " ++ error.message) :=
  if_neg h

section Reading

variable {files : Files} {origin : String} {path : PathBytes} {outcome : Outcome String}

/-- Reading an attribute file comes to one outcome, the one that is computed. -/
theorem reads_iff :
    Reads files origin path outcome ↔
      outcome = (attributeText files origin path).map String.ofList := by
  unfold attributeText
  constructor
  · intro h
    cases h with
    | text hread hcore => rw [hread, Text.core_iff.mp hcore, Except.map]
    | missing hread => rw [hread, Except.map, readFailure_notFound]
    | unreadable hread hfound => rw [hread, Except.map, readFailure_of_found hfound]
  · intro h
    subst h
    cases hread : files.read path with
    | ok content => exact .text hread (Text.core_strip isPadding _)
    | error error =>
      by_cases hfound : error = .notFound
      · subst hfound
        have hmissing : Reads files origin path _ := .missing hread
        rwa [← readFailure_notFound origin path] at hmissing
      · have hunreadable : Reads files origin path _ := .unreadable hread hfound
        rwa [← readFailure_of_found hfound] at hunreadable

theorem exists_reads (files : Files) (origin : String) (path : PathBytes) :
    ∃ outcome, Reads files origin path outcome :=
  ⟨_, reads_iff.mpr rfl⟩

theorem isBlank_eq_false {c : Char} (h : isPadding c = false) : Text.isBlank c = false :=
  (Bool.or_eq_false_iff.mp h).2

/-- A text that was read has no blanks around it, and is not blank unless it is empty. -/
theorem Reads.trimmed_eq {text : String} (h : Reads files origin path (.ok text)) :
    Text.trimmed text = text ∧ (text ≠ "" → Text.blank text = false) := by
  cases h with
  | @text _ core _ hcore =>
    have htrim : Text.trim core = core :=
      Text.strip_eq_self (fun c hc ↦ isBlank_eq_false (hcore.head c hc))
        fun c hc ↦ isBlank_eq_false (hcore.last c hc)
    constructor
    · rw [Text.trimmed, String.toList_ofList, htrim]
    · intro htext
      rw [Text.blank, String.toList_ofList, Bool.eq_false_iff, ne_eq, ← Text.trim_eq_nil_iff, htrim]
      intro hnil
      exact htext (by rw [hnil, String.ofList_nil])

end Reading

/-! ### The two files -/

/-- A path leads from a root down to a relative path. There is a separator between them, unless the
root is empty or ends with one. -/
inductive Joins (root : PathBytes) (relative : String) : PathBytes → Prop
  | direct (h : root = [] ∨ root.getLast? = some 0x2F) :
      Joins root relative (root ++ Text.encode relative)
  | separated (hroot : root ≠ []) (hlast : root.getLast? ≠ some 0x2F) :
      Joins root relative (root ++ 0x2F :: Text.encode relative)

theorem joins_attributePath (settings : Config) (name : String) :
    Joins settings.sysfsRoot name (attributePath settings name) := by
  unfold attributePath PathBytes.join
  split
  · rename_i hdirect
    rw [Bool.or_eq_true, List.isEmpty_iff, beq_iff_eq] at hdirect
    exact .direct hdirect
  · rename_i hseparated
    rw [Bool.or_eq_true, List.isEmpty_iff, beq_iff_eq, not_or] at hseparated
    exact .separated hseparated.1 hseparated.2

/-- The file with the product name of a personal computer. -/
def productPath (settings : Config) : PathBytes :=
  attributePath settings "class/dmi/id/product_name"

/-- The file with the model of a board. -/
def boardPath (settings : Config) : PathBytes :=
  attributePath settings "firmware/devicetree/base/model"

/-- What the firmware tells, from what reading the two files comes to: the device tree counts where
the product name is empty or missing, but not where it cannot be read. -/
def preferred (product board : Outcome String) : Outcome String :=
  match product with
  | .ok text => if text = "" then board else .ok text
  | .error .unavailable => board
  | .error error => .error error

section Firmware

variable {settings : Config} {files : Files} {product board : Outcome String}

theorem firmware_eq (hproduct : Reads files "firmware" (productPath settings) product)
    (hboard : Reads files "firmware" (boardPath settings) board) :
    firmware settings files = preferred product board := by
  rw [reads_iff.mp hproduct, reads_iff.mp hboard]
  unfold firmware productPath boardPath
  cases attributeText files "firmware" (attributePath settings "class/dmi/id/product_name") with
  | error error => cases error <;> rfl
  | ok name =>
    cases name with
    | nil => rfl
    | cons c rest =>
      have hname : String.ofList (c :: rest) ≠ "" := by simp
      exact (if_neg hname).symm

/-- What the firmware tells was read, so it has no blanks around it and is not blank unless it is
empty. -/
theorem trimmed_eq_of_firmware {text : String} (h : firmware settings files = .ok text) :
    Text.trimmed text = text ∧ (text ≠ "" → Text.blank text = false) := by
  obtain ⟨product, hproduct⟩ := exists_reads files "firmware" (productPath settings)
  obtain ⟨board, hboard⟩ := exists_reads files "firmware" (boardPath settings)
  rw [firmware_eq hproduct hboard] at h
  unfold preferred at h
  split at h
  · split at h
    · subst h
      exact hboard.trimmed_eq
    · rw [h] at hproduct
      exact hproduct.trimmed_eq
  · subst h
    exact hboard.trimmed_eq
  · contradiction

/-! ### The machine model -/

/-- A host that is the Linux machine with these files, whatever else it has. -/
def Serves (settings : Config) (files : Files) (host : Source) : Prop :=
  ∃ machine : Machine, host = source settings machine ∧ machine.files = files

/-- The model that is reported for what the firmware tells. -/
def modelOf (told : Outcome String) : String :=
  (told.toOption.filter (· ≠ "")).getD Profiler.unknownModel

variable {config : Config} {host : Source}

/-- On a Linux host the firmware is all that tells of the model. -/
theorem found_modelChain (architecture : Architecture)
    (henabled : config.isDisabled "firmware" = false) (hhost : Serves settings files host) :
    ((Metric.modelChain.run config architecture).value host).toOption =
      (firmware settings files).toOption.filter fun text ↦ !Text.blank text := by
  obtain ⟨machine, rfl, rfl⟩ := hhost
  have hsysctl : Metric.ModelProbe.sysctl.resolved? architecture (source settings machine)
      (fun text ↦ !Text.blank text) config = none :=
    ite_self none
  have hfirmware : Metric.ModelProbe.firmware.resolved? architecture (source settings machine)
      (fun text ↦ !Text.blank text) config =
      (firmware settings machine.files).toOption.filter fun text ↦ !Text.blank text :=
    Probe.resolved?_of_enabled henabled
  refine (Chain.found_firstUsable "machine_model" _).trans ?_
  simp only [Metric.modelChain, List.findSome?_cons, hsysctl, hfirmware, List.findSome?_nil]
  cases (firmware settings machine.files).toOption.filter fun text ↦ !Text.blank text <;> rfl

theorem found_machineModel (architecture : Architecture)
    (henabled : config.isDisabled "firmware" = false) (hhost : Serves settings files host) :
    Memo.machineModel.found config architecture host = modelOf (firmware settings files) := by
  have hchain := found_modelChain architecture henabled hhost
  show ((Metric.modelChain.run config architecture >>= fun outcome ↦
    pure (outcome.map Text.trimmed)).value host).toOption.getD Profiler.unknownModel = _
  have htoOption (outcome : Outcome String) :
      (outcome.map Text.trimmed).toOption = outcome.toOption.map Text.trimmed := by
    cases outcome <;> rfl
  rw [Probing.value_bind, Probing.value_pure, htoOption, hchain, modelOf]
  cases htold : firmware settings files with
  | error error => rfl
  | ok text =>
    obtain ⟨htrimmed, hvisible⟩ := trimmed_eq_of_firmware htold
    by_cases hempty : text = ""
    · subst hempty
      rfl
    · simp [Except.toOption, Option.filter_some, hvisible hempty, hempty, htrimmed]

/-- A profiler that was never asked anything of a machine with other files reports the model that
the firmware tells. -/
theorem reply_machineModel (first : Source) (architecture : Architecture)
    (henabled : config.isDisabled "firmware" = false) {history : List Profiler.Step}
    (hhistory : ∀ step ∈ history, Serves settings files step.source)
    (hhost : Serves settings files host) :
    (((Profiler.start config architecture).value first).afterAll history).reply host
      .machineModel = modelOf (firmware settings files) := by
  rw [Profiler.reply_eq]
  show Memo.machineModel.now _ host = _
  rw [Memo.now, Profiler.config_afterAll, Profiler.architecture_afterAll, Profiler.config_start,
    Profiler.architecture_start, Profiler.cell_afterAll _ (Profiler.cell_start ..)]
  cases hfind : history.find? _ with
  | none => exact found_machineModel architecture henabled hhost
  | some step =>
    rw [Option.map_some, Option.getD_some, Profiler.config_start, Profiler.architecture_start]
    exact found_machineModel architecture henabled
      (hhistory step (List.mem_of_find?_eq_some hfind))

theorem modelOf_text {text : String} (h : text ≠ "") : modelOf (.ok text) = text := by
  simp [modelOf, Except.toOption, Option.filter_some, h]

end Firmware

/-- For the files of a Linux machine and where its attributes lie, which is below the root that the
settings give: a product name that is not empty
is what the firmware tells; where it is empty or missing, that is what reading the model in the
device tree comes to; and a product name that cannot be read is a failed query, whatever the device
tree has. The machine model is the text told, at any time in the life of a profiler that asks this
machine, and is unknown if there is no text or an empty one. -/
theorem firmware_model (settings : Config) (files : Files) :
    Joins settings.sysfsRoot "class/dmi/id/product_name" (productPath settings) ∧
    Joins settings.sysfsRoot "firmware/devicetree/base/model" (boardPath settings) ∧
    ∃ product board, Reads files "firmware" (productPath settings) product ∧
      Reads files "firmware" (boardPath settings) board ∧
      (∀ text, product = .ok text → text ≠ "" → firmware settings files = .ok text) ∧
      (product = .ok "" ∨ product = .error .unavailable → firmware settings files = board) ∧
      (∀ message, product = .error (.queryFailed "firmware" message) →
        firmware settings files = product) ∧
      ∀ config architecture first history host, config.isDisabled "firmware" = false →
        (∀ step ∈ history, Serves settings files step.source) → Serves settings files host →
        let profiler := ((Profiler.start config architecture).value first).afterAll history
        let model := profiler.reply host .machineModel
        (∀ text, product = .ok text → text ≠ "" → model = text) ∧
        (product = .ok "" ∨ product = .error .unavailable →
          ∀ text, board = .ok text → text ≠ "" → model = text) ∧
        ((∀ text, firmware settings files = .ok text → text = "") → model = "Not available") := by
  obtain ⟨product, hproduct⟩ := exists_reads files "firmware" (productPath settings)
  obtain ⟨board, hboard⟩ := exists_reads files "firmware" (boardPath settings)
  have htext : ∀ text, product = .ok text → text ≠ "" → firmware settings files = .ok text := by
    rintro text rfl hne
    rw [firmware_eq hproduct hboard, preferred, if_neg hne]
  have habsent : product = .ok "" ∨ product = .error .unavailable →
      firmware settings files = board := by
    rw [firmware_eq hproduct hboard]
    rintro (rfl | rfl)
    · rw [preferred, if_pos rfl]
    · rfl
  refine ⟨joins_attributePath _ _, joins_attributePath _ _, product, board, hproduct, hboard, htext,
    habsent, ?_, ?_⟩
  · rintro message rfl
    rw [firmware_eq hproduct hboard, preferred]
    simp
  · intro config architecture first history host henabled hhistory hhost profiler model
    have hmodel : model = modelOf (firmware settings files) :=
      reply_machineModel first architecture henabled hhistory hhost
    refine ⟨fun text hproduct hne ↦ ?_, fun hproduct text hboard hne ↦ ?_, fun hnothing ↦ ?_⟩
    · rw [hmodel, htext text hproduct hne, modelOf_text hne]
    · rw [hmodel, habsent hproduct, hboard, modelOf_text hne]
    · rw [hmodel]
      cases htold : firmware settings files with
      | error error => rfl
      | ok text =>
        rw [hnothing text htold]
        rfl

/-- A board that has a device tree, with something or nothing in place of the product name. -/
def boardMachine (product : Option FileEntry) : Machine where
  files := {
    working := .empty
    root :=
      let tree := FileTree.empty.put (boardPath .standard)
        (.file (Text.encode "Pine64 RockPro64 v2.1\x00"))
      product.elim tree (tree.put (productPath .standard)) }
  online := 6
  pages := 1003520
  pageSize := 4096
  vulkan := .absent
  processor := ⟨none, 6, none⟩

/-- A board without a product name has the model of its device tree, also when it is asked again. -/
theorem firmware_model_board :
    let host := source .standard (boardMachine none)
    let profiler := ((Profiler.start .standard .arm).value host).afterAll [⟨host, .summary⟩]
    Config.standard.isDisabled "firmware" = false ∧
      Serves .standard (boardMachine none).files host ∧
      profiler.reply host .machineModel = "Pine64 RockPro64 v2.1" := by
  intro host profiler
  have henabled : Config.standard.isDisabled "firmware" = false := rfl
  have hhost : Serves .standard (boardMachine none).files host := ⟨boardMachine none, rfl, rfl⟩
  obtain ⟨-, -, product, model, hproduct, hmodel, -, -, -, hreply⟩ :=
    firmware_model .standard (boardMachine none).files
  have hmissing : product = .error .unavailable :=
    (reads_iff.mp hproduct).trans (by decide +kernel)
  have htext : model = .ok "Pine64 RockPro64 v2.1" :=
    (reads_iff.mp hmodel).trans (by decide +kernel)
  have hhistory : ∀ step ∈ [Profiler.Step.mk host .summary],
      Serves .standard (boardMachine none).files step.source := by
    intro step hstep
    obtain rfl := List.mem_singleton.mp hstep
    exact hhost
  exact ⟨henabled, hhost, (hreply .standard .arm host _ host henabled hhistory hhost).2.1
    (.inr hmissing) _ htext (by decide)⟩

/-- A directory in place of the product name hides the model that the device tree has. -/
theorem firmware_hides_board :
    let machine := boardMachine (some .directory)
    let host := source .standard machine
    let failure : Outcome String := .error (.queryFailed "firmware"
      "/sys/class/dmi/id/product_name: Is a directory (os error 21)")
    Reads machine.files "firmware" (productPath .standard) failure ∧
      Reads machine.files "firmware" (boardPath .standard) (.ok "Pine64 RockPro64 v2.1") ∧
      Config.standard.isDisabled "firmware" = false ∧
      firmware .standard machine.files = failure ∧
      ((Profiler.start .standard .arm).value host).reply host .machineModel = "Not available" := by
  intro machine host failure
  refine ⟨reads_iff.mpr ?_, reads_iff.mpr ?_, rfl, ?_, ?_⟩
  · decide +kernel
  · decide +kernel
  · decide +kernel
  · decide +kernel

end HostProfile.Linux
