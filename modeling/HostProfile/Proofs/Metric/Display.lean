import HostProfile.Proofs.Profiler.Plausibility

/-!
# What the main display tells of the adapter

Where no driver describes the adapter, the chain goes on to the main display and collects three
properties and the name of the device (`Source.findings`). Whatever is collected makes the record
(`value_adapter`), so all depends on what counts as found.

A display whose properties do not exist is known by its device name alone, and a single property
that is answered so speaks for all three: what another one told is left out then. On any other
display nothing that was told is lost (`display_keeps_findings`).

A device name of blanks is taken for none, but a model of blanks is taken for a model. Such a model
apart, an adapter that is found can be identified by something, and model and device name stand in
for each other (`display_identifies`).
-/

set_option autoImplicit false
set_option relaxedAutoImplicit false

namespace HostProfile

/-! ### What is told -/

namespace Source

variable (source : Source)

/-- The display has properties: for none of them the answer is that they do not exist. -/
def HasProperties : Prop :=
  ∀ property, source (.displayProperty property) ≠ .error .unavailable

/-- The identifier that a property tells. -/
def identifier? (property : DisplayProperty) : Option UInt32 :=
  (source (.displayProperty property)).toOption.bind PropertyValue.identifier?

/-- The text that the model tells, be it blank or not. -/
def modelText? : Option String :=
  (source (.displayProperty .model)).toOption.bind PropertyValue.text?

/-- The name of the device. -/
def deviceName? : Option String :=
  (source .displayName).toOption

/-- The model, unless it is blank. -/
def visibleModel? : Option String :=
  source.modelText?.filter fun model ↦ !Text.blank model

/-- The name of the device, unless it is blank. -/
def visibleName? : Option String :=
  source.deviceName?.filter fun name ↦ !Text.blank name

/-- What is collected at the display. -/
def findings : DisplayFindings :=
  { (Metric.displayProperties.run.value source).toOption.getD .nothing with
    deviceName := source.visibleName? }

/-- A host that has nothing but a main display. -/
def ofDisplay (vendorId deviceId model : Outcome PropertyValue) (name : Outcome String) : Source
  | .displayProperty .vendorId => vendorId
  | .displayProperty .deviceId => deviceId
  | .displayProperty .model => model
  | .displayName => name
  | _ => .error .unavailable

end Source

/-! ### What is collected -/

theorem Text.mem_filter_iff {text? : Option String} {text : String} :
    text ∈ text?.filter (fun text ↦ !blank text) ↔ text ∈ text? ∧ Visible text := by
  rw [visible_iff, Option.mem_filter_iff, Bool.not_eq_true']

theorem Text.isSome_filter_iff {text? : Option String} :
    (text?.filter fun text ↦ !blank text).isSome = true ↔ ∃ text ∈ text?, Visible text := by
  rw [Option.isSome_iff_exists]
  exact exists_congr fun text ↦ mem_filter_iff

theorem Text.visible_of_mem_or {first? second? : Option String} {text : String}
    (h : text ∈ (first?.filter fun text ↦ !blank text).or
      (second?.filter fun text ↦ !blank text)) : Visible text := by
  rcases Option.or_eq_some_iff.mp h with hfirst | ⟨-, hsecond⟩
  · exact (mem_filter_iff.mp hfirst).2
  · exact (mem_filter_iff.mp hsecond).2

/-- Where there is a model or a name, each text of the record is its own or else the other one. -/
theorem DisplayFindings.texts_toAdapter {f : DisplayFindings}
    (h : (f.model.or f.deviceName).isSome = true) :
    f.any = true ∧ f.model.or f.deviceName = some f.toAdapter.description ∧
      f.deviceName.or f.model = some f.toAdapter.deviceName := by
  obtain ⟨vendorId, deviceId, model, deviceName⟩ := f
  cases model <;> cases deviceName <;> simp_all [any, toAdapter]

namespace Metric

variable {source : Source}

/-- The search for the properties is given up where they do not exist. -/
theorem value_lookup_of_unavailable {property : DisplayProperty}
    (h : source (.displayProperty property) = .error .unavailable) :
    (lookup property).run.value source = .error .unavailable := by
  simp [lookup, Attempt.observe, Probing.query, Probing.value, h]

/-- Else a property is read or left out. -/
theorem value_lookup {property : DisplayProperty}
    (h : source (.displayProperty property) ≠ .error .unavailable) :
    (lookup property).run.value source = .ok (source (.displayProperty property)).toOption := by
  rcases hanswer : source (.displayProperty property) with error | value
  · cases error with
    | unavailable => exact absurd hanswer h
    | noData | queryFailed =>
      simp [lookup, Attempt.observe, Probing.query, Probing.value, hanswer, Except.map,
        Except.toOption]
  · simp [lookup, Attempt.observe, Probing.query, Probing.value, hanswer, Except.toOption]

/-- On a display with properties each one is read by itself. -/
theorem value_displayProperties (h : source.HasProperties) :
    displayProperties.run.value source =
      .ok ⟨source.identifier? .vendorId, source.identifier? .deviceId, source.modelText?,
        none⟩ := by
  refine (Attempt.value_bind_of_ok (value_lookup (h .vendorId)) _).trans ?_
  refine (Attempt.value_bind_of_ok (value_lookup (h .deviceId)) _).trans ?_
  exact Attempt.value_bind_of_ok (value_lookup (h .model)) _

/-- One property that does not exist speaks for all three. -/
theorem value_displayProperties_of_unavailable (h : ¬ source.HasProperties) :
    displayProperties.run.value source = .error .unavailable := by
  by_cases hvendor : source (.displayProperty .vendorId) = .error .unavailable
  · exact Attempt.value_bind_of_error (value_lookup_of_unavailable hvendor) _
  refine (Attempt.value_bind_of_ok (value_lookup hvendor) _).trans ?_
  by_cases hdevice : source (.displayProperty .deviceId) = .error .unavailable
  · exact Attempt.value_bind_of_error (value_lookup_of_unavailable hdevice) _
  refine (Attempt.value_bind_of_ok (value_lookup hdevice) _).trans ?_
  have hmodel : source (.displayProperty .model) = .error .unavailable := by
    by_contra hmodel
    exact h fun property ↦ by cases property <;> assumption
  exact Attempt.value_bind_of_error (value_lookup_of_unavailable hmodel) _

theorem findings_of_properties (h : source.HasProperties) :
    source.findings = ⟨source.identifier? .vendorId, source.identifier? .deviceId,
      source.modelText?, source.visibleName?⟩ := by
  rw [Source.findings, value_displayProperties h]
  rfl

theorem findings_of_no_properties (h : ¬ source.HasProperties) :
    source.findings = ⟨none, none, none, source.visibleName?⟩ := by
  rw [Source.findings, value_displayProperties_of_unavailable h]
  rfl

/-- What is collected at the display makes the record. -/
theorem value_displayAdapter (h : source.findings.any = true) :
    displayAdapter.run.value source = .ok source.findings.toAdapter := by
  simp only [displayAdapter, ExceptT.run_mk, Probing.value_bind, Probing.value_pure, identify]
  exact if_pos h

/-- Where nothing is collected, there is no adapter. -/
theorem value_displayAdapter_of_nothing (h : ¬ source.findings.any = true) (record : Adapter) :
    displayAdapter.run.value source ≠ .ok record := by
  simp only [displayAdapter, ExceptT.run_mk, Probing.value_bind, Probing.value_pure, identify]
  intro hrecord
  have hfailed := (if_neg h).symm.trans hrecord
  split at hfailed <;> cases hfailed

variable {config : Config}

/-- Where no driver describes the adapter, it is what was collected at the display. -/
theorem value_adapter (architecture : Architecture)
    (hdriver : ∀ record, source .adapter ≠ .ok record)
    (hdisplay : config.isDisabled "display" = false) :
    (adapter.run config architecture).value source =
      if source.findings.any then .ok source.findings.toAdapter else .error .noData := by
  have hsilent : AdapterProbe.driver.settles architecture source (fun _ ↦ true) config = false :=
    Probe.settles_eq_false_iff.mpr fun record hresolves ↦ hdriver record hresolves.2.1
  refine (Chain.firstUsable_cons_of_not_settles "gpu" _ hsilent).1.trans ?_
  split
  · rename_i hany
    have hsettles :
        AdapterProbe.display.settles architecture source (fun _ ↦ true) config = true :=
      Probe.settles_iff.mpr ⟨_, hdisplay, value_displayAdapter hany, rfl⟩
    exact (Chain.firstUsable_cons_of_settles "gpu" _ hsettles).1.trans (value_displayAdapter hany)
  · rename_i hnothing
    have hsettles :
        AdapterProbe.display.settles architecture source (fun _ ↦ true) config = false :=
      Probe.settles_eq_false_iff.mpr fun record hresolves ↦
        value_displayAdapter_of_nothing hnothing record hresolves.2.1
    exact (Chain.firstUsable_cons_of_not_settles "gpu" _ hsettles).1

/-! ### What is kept -/

/-- Where no driver describes the adapter and the display has properties, the record holds every
identifier and model that is told there; it holds a name that is not blank on any display. A display
without properties is known by the name alone, whatever single properties told. -/
theorem display_keeps_findings (architecture : Architecture)
    (hdriver : ∀ record, source .adapter ≠ .ok record)
    (hdisplay : config.isDisabled "display" = false) :
    let outcome := (adapter.run config architecture).value source
    (source.HasProperties →
      (∀ id ∈ source.identifier? .vendorId, ∃ record, outcome = .ok record ∧ record.vendorId = id) ∧
      (∀ id ∈ source.identifier? .deviceId, ∃ record, outcome = .ok record ∧ record.deviceId = id) ∧
      ∀ model ∈ source.modelText?, ∃ record, outcome = .ok record ∧ record.description = model) ∧
    (∀ name ∈ source.deviceName?, Text.Visible name →
      ∃ record, outcome = .ok record ∧ record.deviceName = name) ∧
    (¬ source.HasProperties → outcome =
      match source.visibleName? with
      | some name => .ok { Adapter.unidentified with deviceName := name, description := name }
      | none => .error .noData) := by
  intro outcome
  have houtcome : outcome =
      if source.findings.any then .ok source.findings.toAdapter else .error .noData :=
    value_adapter architecture hdriver hdisplay
  have hrecord (h : source.findings.any = true) : outcome = .ok source.findings.toAdapter := by
    rw [houtcome, if_pos h]
  refine ⟨fun hproperties ↦ ⟨fun id hid ↦ ?_, fun id hid ↦ ?_, fun model hmodel ↦ ?_⟩,
    fun name hname hvisible ↦ ?_, fun hnone ↦ ?_⟩
  · have hvendor : source.findings.vendorId = some id := by
      rw [findings_of_properties hproperties, hid]
    exact ⟨_, hrecord (by simp [DisplayFindings.any, hvendor]),
      by simp [DisplayFindings.toAdapter, hvendor]⟩
  · have hdevice : source.findings.deviceId = some id := by
      rw [findings_of_properties hproperties, hid]
    exact ⟨_, hrecord (by simp [DisplayFindings.any, hdevice]),
      by simp [DisplayFindings.toAdapter, hdevice]⟩
  · have htext : source.findings.model = some model := by
      rw [findings_of_properties hproperties, hmodel]
    exact ⟨_, hrecord (by simp [DisplayFindings.any, htext]),
      by simp [DisplayFindings.toAdapter, htext]⟩
  · have htext : source.findings.deviceName = some name :=
      Text.mem_filter_iff.mpr ⟨hname, hvisible⟩
    exact ⟨_, hrecord (by simp [DisplayFindings.any, htext]),
      by simp [DisplayFindings.toAdapter, htext]⟩
  · rw [houtcome, findings_of_no_properties hnone]
    cases source.visibleName? <;> rfl

/-- A vendor and a model are kept where the device could not be read and there is no name. -/
theorem display_keeps_findings_radeon :
    let source := Source.ofDisplay (.ok (.data [0x02, 0x10, 0, 0])) (.error .noData)
      (.ok (.text "AMD Radeon Pro 5500M")) (.error .unavailable)
    let outcome := (adapter.run .standard .x64).value source
    (∀ record, source .adapter ≠ .ok record) ∧ Config.standard.isDisabled "display" = false ∧
      source.HasProperties ∧ (∃ record, outcome = .ok record ∧ record.vendorId = 0x1002) ∧
      ∃ record, outcome = .ok record ∧ record.description = "AMD Radeon Pro 5500M" := by
  intro source outcome
  have hdriver : ∀ record, source .adapter ≠ .ok record := by rintro record ⟨⟩
  have hproperties : source.HasProperties := by rintro ⟨⟩ <;> rintro ⟨⟩
  have hdisplay : Config.standard.isDisabled "display" = false := rfl
  have hkept := (display_keeps_findings .x64 hdriver hdisplay).1 hproperties
  exact ⟨hdriver, hdisplay, hproperties, hkept.1 _ rfl, hkept.2.2 _ rfl⟩

/-- A vendor and a device are lost where the model is said not to exist and there is no name. -/
theorem display_loses_findings :
    let source := Source.ofDisplay (.ok (.number 4318)) (.ok (.number 9348)) (.error .unavailable)
      (.error .unavailable)
    (∀ record, source .adapter ≠ .ok record) ∧ Config.standard.isDisabled "display" = false ∧
      source.identifier? .vendorId = some 4318 ∧ source.identifier? .deviceId = some 9348 ∧
      (adapter.run .standard .x64).value source = .error .noData :=
  ⟨by rintro record ⟨⟩, rfl, rfl, rfl, rfl⟩

/-! ### What identifies an adapter -/

/-- Where no driver describes the adapter and no blank text is told for a model, an adapter that is
found has an identifier or a text that can be seen; and unless a model is told while some property
is said not to exist, model and name stand in for each other, so both texts of the record can be
seen if one of the two can. -/
theorem display_identifies (architecture : Architecture)
    (hdriver : ∀ record, source .adapter ≠ .ok record)
    (hdisplay : config.isDisabled "display" = false)
    (hmodel : ∀ model ∈ source.modelText?, Text.Visible model) :
    let outcome := (adapter.run config architecture).value source
    (∀ record, outcome = .ok record →
      (source.identifier? .vendorId).isSome ∨ (source.identifier? .deviceId).isSome ∨
        (∃ model ∈ source.modelText?, Text.Visible model) ∨
        ∃ name ∈ source.deviceName?, Text.Visible name) ∧
    (source.HasProperties ∨ source.modelText? = none →
      ((∃ model ∈ source.modelText?, Text.Visible model) ∨
        ∃ name ∈ source.deviceName?, Text.Visible name) →
      ∃ record, outcome = .ok record ∧
        Text.Visible record.description ∧ Text.Visible record.deviceName ∧
        source.visibleModel?.or source.visibleName? = some record.description ∧
        source.visibleName?.or source.visibleModel? = some record.deviceName) := by
  intro outcome
  have houtcome : outcome =
      if source.findings.any then .ok source.findings.toAdapter else .error .noData :=
    value_adapter architecture hdriver hdisplay
  have hvisible : source.visibleModel? = source.modelText? := by
    rw [Source.visibleModel?]
    cases htext : source.modelText? with
    | none => rfl
    | some model =>
      have hblank := Text.visible_iff.mp (hmodel model htext)
      exact Option.filter_some_pos (by rw [hblank, Bool.not_false])
  refine ⟨fun record hrecord ↦ ?_, fun hproperties htext ↦ ?_⟩
  · rw [← Text.isSome_filter_iff, ← Text.isSome_filter_iff, ← Source.visibleModel?, hvisible,
      ← Source.visibleName?]
    have hany : source.findings.any = true := by
      by_contra hnothing
      rw [houtcome, if_neg hnothing] at hrecord
      cases hrecord
    by_cases hproperties : source.HasProperties
    · rw [findings_of_properties hproperties] at hany
      simpa [DisplayFindings.any, or_assoc] using hany
    · rw [findings_of_no_properties hproperties] at hany
      exact .inr (.inr (.inr hany))
  · rw [← Text.isSome_filter_iff, ← Text.isSome_filter_iff, ← Source.visibleModel?,
      ← Source.visibleName?] at htext
    have hmodelFound : source.findings.model = source.visibleModel? := by
      rw [hvisible]
      by_cases hall : source.HasProperties
      · rw [findings_of_properties hall]
      · rw [findings_of_no_properties hall, hproperties.resolve_left hall]
    have hnameFound : source.findings.deviceName = source.visibleName? := rfl
    have hsome : (source.findings.model.or source.findings.deviceName).isSome = true := by
      rw [hmodelFound, hnameFound, Option.isSome_or]
      simpa using htext
    obtain ⟨hany, hdescription, hname⟩ := DisplayFindings.texts_toAdapter hsome
    rw [hmodelFound, hnameFound] at hdescription hname
    exact ⟨_, by rw [houtcome, if_pos hany], Text.visible_of_mem_or hdescription,
      Text.visible_of_mem_or hname, hdescription, hname⟩

/-- A name of blanks is left out, and the model stands in for it. -/
theorem display_identifies_blank_name :
    let source := Source.ofDisplay (.error .noData) (.error .noData) (.ok (.text "Intel UHD 630"))
      (.ok " ")
    let outcome := (adapter.run .standard .x64).value source
    (∀ record, source .adapter ≠ .ok record) ∧ Config.standard.isDisabled "display" = false ∧
      (∀ model ∈ source.modelText?, Text.Visible model) ∧ source.HasProperties ∧
      ∃ record, outcome = .ok record ∧ record.deviceName = "Intel UHD 630" := by
  intro source outcome
  have hdriver : ∀ record, source .adapter ≠ .ok record := by rintro record ⟨⟩
  have hdisplay : Config.standard.isDisabled "display" = false := rfl
  have hproperties : source.HasProperties := by rintro ⟨⟩ <;> rintro ⟨⟩
  have hmodel : ∀ model ∈ source.modelText?, Text.Visible model := by
    rintro model ⟨⟩
    exact Text.visible_iff.mpr rfl
  obtain ⟨record, hrecord, -, -, -, hname⟩ :=
    (display_identifies .x64 hdriver hdisplay hmodel).2 (.inl hproperties)
      (.inl ⟨_, rfl, Text.visible_iff.mpr rfl⟩)
  exact ⟨hdriver, hdisplay, hmodel, hproperties, record, hrecord, (Option.some.inj hname).symm⟩

/-- A model of blanks alone makes an adapter of nothing, and beside a name it leaves the description
blank. -/
theorem display_blank_model :
    let unnamed := Source.ofDisplay (.error .noData) (.error .noData) (.ok (.text ""))
      (.error .noData)
    let named := Source.ofDisplay (.ok (.number 4318)) (.ok (.number 9348)) (.ok (.text ""))
      (.ok "Apple M2")
    Config.standard.isDisabled "display" = false ∧
      ((∀ record, unnamed .adapter ≠ .ok record) ∧
        unnamed.identifier? .vendorId = none ∧ unnamed.identifier? .deviceId = none ∧
        unnamed.visibleModel? = none ∧ unnamed.visibleName? = none ∧
        (adapter.run .standard .x64).value unnamed = .ok Adapter.unidentified) ∧
      (∀ record, named .adapter ≠ .ok record) ∧ named.visibleName? = some "Apple M2" ∧
        (adapter.run .standard .x64).value named = .ok ⟨"Apple M2", "", 4318, 9348, "", ""⟩ := by
  intro unnamed named
  have hunnamed : ∀ record, unnamed .adapter ≠ .ok record := by rintro record ⟨⟩
  have hnamed : ∀ record, named .adapter ≠ .ok record := by rintro record ⟨⟩
  exact ⟨rfl, ⟨hunnamed, rfl, rfl, rfl, rfl, rfl⟩, hnamed, rfl, rfl⟩

end Metric

end HostProfile
