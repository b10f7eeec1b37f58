import HostProfile.Proofs.Metric.Display
import HostProfile.Proofs.Profiler.Course

/-!
# How the search at the main display ends

Where no driver describes the adapter, the main display is searched. Three properties are looked up,
one after the other, and the look-ups end right after the first property that is said not to exist;
one that cannot be read for another reason is remarked on and left out. The name of the device is
asked for last, whatever the look-ups came to. So a search is told by its look-ups and the answer to
the name (`DisplaySearch`), and every search is of this kind (`exists_displaySearch`).

A search may come to no record. The display counts as absent if both ways to it are closed, a
property and the name being said not to exist (`Closed`); any other search without a record is a
failed query. This tells how loudly the chain for the adapter logs it (`DisplayTurn`), at each call
that looks for the adapter, as nothing of it is remembered (`display_search_classified`).
-/

set_option autoImplicit false
set_option relaxedAutoImplicit false

namespace HostProfile

variable {α β : Type}

open Happening Probing

/-! ### Look-ups -/

/-- A display property with the answer to the question for it. -/
abbrev Lookup : Type :=
  DisplayProperty × Outcome PropertyValue

namespace Lookup

/-- The property is said not to exist. -/
def Absent (lookup : Lookup) : Prop :=
  lookup.2 = .error .unavailable

/-- What happens at a look-up. A property that is there but cannot be read is remarked on. -/
def happenings (lookup : Lookup) : List Happening :=
  .asked ⟨.displayProperty lookup.1, lookup.2⟩ ::
    match lookup.2 with
    | .ok _ | .error .unavailable => []
    | .error error => [.logged (.propertyMissing lookup.1.key error)]

end Lookup

/-- Properties were looked up in their order, up to the first that is said not to exist. -/
structure LookedUp (properties : List DisplayProperty) (lookups : List Lookup) : Prop where
  inOrder : lookups.map Prod.fst <+: properties
  /-- After a property that does not exist no other is looked up. -/
  stopped : ∀ lookup ∈ lookups.dropLast, ¬ lookup.Absent
  /-- Nothing else ends the look-ups before all properties had their turn. -/
  complete : lookups.map Prod.fst = properties ∨ ∃ lookup ∈ lookups.getLast?, lookup.Absent

theorem lookedUp_nil : LookedUp [] [] where
  inOrder := List.prefix_refl []
  stopped := by simp
  complete := .inl rfl

variable {property : DisplayProperty} {properties : List DisplayProperty}

theorem lookedUp_absent : LookedUp (property :: properties) [(property, .error .unavailable)] where
  inOrder := ⟨properties, rfl⟩
  stopped := by simp
  complete := .inr ⟨_, rfl, rfl⟩

theorem LookedUp.cons {lookups : List Lookup} (h : LookedUp properties lookups)
    {outcome : Outcome PropertyValue} (hpresent : outcome ≠ .error .unavailable) :
    LookedUp (property :: properties) ((property, outcome) :: lookups) where
  inOrder := (List.prefix_cons_inj property).mpr h.inOrder
  stopped := by
    cases lookups with
    | nil => simp
    | cons head rest =>
      rw [List.dropLast_cons_cons, List.forall_mem_cons]
      exact ⟨hpresent, h.stopped⟩
  complete := by
    refine h.complete.imp (congrArg (property :: ·)) ?_
    rintro ⟨lookup, hlast, habsent⟩
    cases lookups with
    | nil => cases hlast
    | cons head rest => exact ⟨lookup, by rwa [List.getLast?_cons_cons], habsent⟩

/-- Both ways to the display are closed: some property that was looked up and the name are said not
to exist. -/
def Closed (lookups : List Lookup) (name : Outcome String) : Prop :=
  (∃ lookup ∈ lookups, lookup.Absent) ∧ name = .error .unavailable

/-- What happens while the main display is searched, and what the search comes to. -/
structure DisplaySearch (transcript : List Happening) (found : Outcome Adapter)
    (lookups : List Lookup) (name : Outcome String) : Prop where
  /-- The properties are looked up, and then the name is asked for, once. -/
  happens : transcript = lookups.flatMap Lookup.happenings ++ [.asked ⟨.displayName, name⟩]
  lookedUp : LookedUp [.vendorId, .deviceId, .model] lookups
  /-- A search without a record finds the source not to exist just if both ways are closed. -/
  unavailable_iff : ∀ error, found = .error error →
    (error = .unavailable ↔ Closed lookups name)
  /-- Any other search without a record is a failed query of the display. -/
  failed : ∀ error, found = .error error → error ≠ .unavailable →
    error = .queryFailed "display"
      "no vendor-id, device-id, model or device name for the main display"
  /-- Where both ways are closed there is no record. -/
  closed : Closed lookups name → found = .error .unavailable

namespace Metric

/-! ### Searches -/

/-- Whatever the host answers, an attempt looks up some properties and nothing else, and it comes to
a value unless one of them is said not to exist. -/
def LooksUp (properties : List DisplayProperty) (attempt : Attempt α) : Prop :=
  ∀ transcript result, attempt.run.Unfolds transcript result →
    ∃ lookups : List Lookup, transcript = lookups.flatMap Lookup.happenings ∧
      LookedUp properties lookups ∧
      ((∃ lookup ∈ lookups, lookup.Absent) ∧ result = .error .unavailable ∨
        (∀ lookup ∈ lookups, ¬ lookup.Absent) ∧ ∃ a, result = .ok a)

theorem looksUp_pure (a : α) : LooksUp [] (pure a : Attempt α) := by
  intro transcript result h
  obtain ⟨rfl, rfl⟩ := unfolds_pure_iff.mp h
  exact ⟨[], rfl, lookedUp_nil, .inr ⟨by simp, a, rfl⟩⟩

/-- A look-up ends the search for properties if there are none, and else it comes to the value of
the property, if that could be read. -/
theorem unfolds_lookup {transcript : List Happening} {result : Outcome (Option PropertyValue)}
    (h : (lookup property).run.Unfolds transcript result) :
    ∃ outcome, transcript = Lookup.happenings (property, outcome) ∧
      (outcome = .error .unavailable ∧ result = .error .unavailable ∨
        outcome ≠ .error .unavailable ∧ result = .ok outcome.toOption) := by
  cases h with
  | ask _ outcome hnext =>
    refine ⟨outcome, ?_⟩
    rcases outcome with error | value
    · cases error with
      | unavailable =>
        cases hnext
        exact ⟨rfl, .inl ⟨rfl, rfl⟩⟩
      | noData | queryFailed =>
        obtain - | - | ⟨-, ⟨-⟩⟩ := hnext
        exact ⟨rfl, .inr ⟨by rintro ⟨⟩, rfl⟩⟩
    · cases hnext
      exact ⟨rfl, .inr ⟨by rintro ⟨⟩, rfl⟩⟩

theorem LooksUp.lookup_bind {next : Option PropertyValue → Attempt α}
    (h : ∀ value, LooksUp properties (next value)) :
    LooksUp (property :: properties) (lookup property >>= next) := by
  intro transcript result hrun
  obtain ⟨error, rfl, hlookup⟩ | ⟨before, value, after, rfl, hlookup, hnext⟩ :=
    Attempt.unfolds_bind hrun
  · obtain ⟨outcome, rfl, ⟨rfl, ⟨⟩⟩ | ⟨-, ⟨⟩⟩⟩ := unfolds_lookup hlookup
    refine ⟨[(property, .error .unavailable)], by simp, lookedUp_absent, .inl ⟨?_, rfl⟩⟩
    exact ⟨_, List.mem_singleton_self _, rfl⟩
  · obtain ⟨outcome, rfl, ⟨-, ⟨⟩⟩ | ⟨hpresent, -⟩⟩ := unfolds_lookup hlookup
    obtain ⟨lookups, rfl, hlookedUp, hresult⟩ := h value after result hnext
    refine ⟨(property, outcome) :: lookups, rfl, hlookedUp.cons hpresent, ?_⟩
    refine hresult.imp (And.imp_left ?_) (And.imp_left ?_)
    · rintro ⟨other, hmem, habsent⟩
      exact ⟨other, List.mem_cons_of_mem _ hmem, habsent⟩
    · exact fun hothers ↦ List.forall_mem_cons.mpr ⟨hpresent, hothers⟩

theorem looksUp_displayProperties :
    LooksUp [.vendorId, .deviceId, .model] displayProperties :=
  .lookup_bind fun _ ↦ .lookup_bind fun _ ↦ .lookup_bind fun _ ↦ looksUp_pure _

/-- Where properties and name tell of nothing, the display does not exist if neither of them does,
and else its query failed. -/
theorem identify_eq_error {result : Outcome DisplayFindings} {name : Outcome String}
    {error : ProbeError} (h : identify result name = .error error) :
    ((∃ reason, result = .error reason) ∧ name = .error .unavailable ∧ error = .unavailable) ∨
      (¬ ((∃ reason, result = .error reason) ∧ name = .error .unavailable) ∧
        error = .queryFailed "display"
          "no vendor-id, device-id, model or device name for the main display") := by
  unfold identify at h
  dsimp only at h
  split at h
  · cases h
  · split at h
    · cases h
      exact .inl ⟨⟨_, rfl⟩, rfl, rfl⟩
    · rename_i hopen
      cases h
      refine .inr ⟨?_, rfl⟩
      rintro ⟨⟨reason, rfl⟩, rfl⟩
      exact hopen reason rfl rfl

/-- Whatever the host answers, a search of the main display is told by its look-ups and the answer
to the name. -/
theorem exists_displaySearch {transcript : List Happening} {found : Outcome Adapter}
    (h : displayAdapter.run.Unfolds transcript found) :
    ∃ lookups name, DisplaySearch transcript found lookups name := by
  rw [displayAdapter, ExceptT.run_mk] at h
  obtain ⟨before, result, after, rfl, hproperties, hrest⟩ := unfolds_bind_iff.mp h
  obtain ⟨name, after, rfl, hname⟩ := unfolds_query_bind_iff.mp hrest
  obtain ⟨rfl, rfl⟩ := unfolds_pure_iff.mp hname
  obtain ⟨lookups, rfl, hlookedUp, hresult⟩ := looksUp_displayProperties _ _ hproperties
  have hclosed : Closed lookups name ↔
      (∃ reason, result = .error reason) ∧ name = .error .unavailable := by
    refine and_congr_left fun _ ↦ ?_
    obtain ⟨habsent, rfl⟩ | ⟨hpresent, findings, rfl⟩ := hresult
    · exact iff_of_true habsent ⟨_, rfl⟩
    · refine iff_of_false ?_ (by rintro ⟨reason, ⟨⟩⟩)
      rintro ⟨lookup, hmem, habsent⟩
      exact hpresent lookup hmem habsent
  refine ⟨lookups, name, rfl, hlookedUp, fun error herror ↦ ?_, fun error herror hne ↦ ?_,
    fun hshut ↦ ?_⟩
  · rw [hclosed]
    obtain ⟨hresult, hname, rfl⟩ | ⟨hopen, rfl⟩ := identify_eq_error herror
    · exact iff_of_true rfl ⟨hresult, hname⟩
    · exact iff_of_false (by rintro ⟨⟩) hopen
  · obtain ⟨-, -, rfl⟩ | ⟨-, hfailed⟩ := identify_eq_error herror
    · exact absurd rfl hne
    · exact hfailed
  · obtain ⟨⟨reason, rfl⟩, rfl⟩ := hclosed.mp hshut
    rfl

end Metric

/-! ### Verdicts on searches -/

/-- What the search for the adapter does at the display: it passes over a display that is switched
off, and else searches it and logs the verdict. -/
inductive DisplayTurn (config : Config) : List Happening → Prop
  | passedOver (hoff : config.isDisabled "display" = true) :
      DisplayTurn config [.logged (.probed "gpu" "display" .disabled)]
  /-- The verdict is a trace if both ways to the display are closed, and a warning if no record was
  found although one of them is open. -/
  | searched {transcript : List Happening} {found : Outcome Adapter} {lookups : List Lookup}
      {name : Outcome String} {verdict : Verdict} (hon : config.isDisabled "display" = false)
      (hsearch : DisplaySearch transcript found lookups name)
      (htrace : (Event.probed "gpu" "display" verdict).level = .trace ↔ Closed lookups name)
      (hwarn : (Event.probed "gpu" "display" verdict).level = .warn ↔
        (∃ error, found = .error error) ∧ ¬ Closed lookups name) :
      DisplayTurn config (transcript ++ [.logged (.probed "gpu" "display" verdict)])

/-- What happens while the adapter is searched for: the driver is asked, unless that is switched
off, and where it does not describe the adapter it is the turn of the display. -/
inductive AdapterSearch (config : Config) : List Happening → Prop
  | driver (record : Adapter) : AdapterSearch config
      [.asked ⟨.adapter, .ok record⟩, .logged (.probed "gpu" "driver" .resolved)]
  | display {driver display : List Happening} {verdict : Verdict}
      (hdriver : driver = [] ∨ ∃ error, driver = [.asked ⟨.adapter, .error error⟩])
      (hverdict : verdict ≠ .resolved) (hdisplay : DisplayTurn config display) :
      AdapterSearch config (driver ++ .logged (.probed "gpu" "driver" verdict) :: display)

/-- A search is logged as its look-ups and the answer to the name demand. -/
theorem DisplaySearch.turn {config : Config} (hon : config.isDisabled "display" = false)
    {transcript : List Happening} {found : Outcome Adapter} {lookups : List Lookup}
    {name : Outcome String} (h : DisplaySearch transcript found lookups name) :
    DisplayTurn config
      (transcript ++ [.logged (.probed "gpu" "display" (.of (fun _ ↦ true) found))]) := by
  rcases found with error | record
  · by_cases hclosed : Closed lookups name
    · cases h.closed hclosed
      exact .searched hon h (iff_of_true rfl hclosed)
        (iff_of_false (by rintro ⟨⟩) fun hopen ↦ hopen.2 hclosed)
    · have hne : error ≠ .unavailable := fun herror ↦
        hclosed ((h.unavailable_iff error rfl).mp herror)
      cases h.failed error rfl hne
      exact .searched hon h (iff_of_false (by rintro ⟨⟩) hclosed)
        (iff_of_true rfl ⟨⟨_, rfl⟩, hclosed⟩)
  · have hopen : ¬ Closed lookups name := fun hclosed ↦ by cases h.closed hclosed
    exact .searched hon h (iff_of_false (by rintro ⟨⟩) hopen)
      (iff_of_false (by rintro ⟨⟩) (by rintro ⟨⟨error, ⟨⟩⟩, -⟩))

namespace Metric

variable {config : Config} {architecture : Architecture} {transcript : List Happening}

/-- What happens when the display has its turn. -/
theorem displayTurn_of_unfolds {outcome : Outcome Adapter}
    (h : (Chain.firstUsable "gpu" (fun _ ↦ true) config architecture
      [AdapterProbe.display]).Unfolds transcript outcome) :
    DisplayTurn config transcript := by
  obtain ⟨run, verdict, tail, rfl, hrun, htail⟩ := Chain.unfolds_firstUsable_cons h
  have hend : tail = [] := htail.elim (·.2.1) fun hrest ↦ (unfolds_pure_iff.mp hrest.2).1
  subst hend
  obtain ⟨hoff, rfl, rfl⟩ | ⟨hon, found, hsearch, rfl⟩ := hrun
  · exact .passedOver hoff
  · obtain ⟨lookups, name, hsearch⟩ := exists_displaySearch hsearch
    exact hsearch.turn hon

/-- Whatever the host answers, the adapter is found, or not, by such a search. -/
theorem adapterSearch_of_unfolds {outcome : Outcome Adapter}
    (h : (adapter.run config architecture).Unfolds transcript outcome) :
    AdapterSearch config transcript := by
  obtain ⟨run, verdict, tail, rfl, hrun, htail⟩ := Chain.unfolds_firstUsable_cons h
  obtain ⟨-, rfl, rfl⟩ | ⟨-, found, hasked, rfl⟩ := hrun
  · obtain ⟨⟨⟩, -⟩ | ⟨hverdict, hdisplay⟩ := htail
    exact .display (.inl rfl) hverdict (displayTurn_of_unfolds hdisplay)
  · cases hasked with
    | ask _ _ hdone =>
      cases hdone
      rcases found with error | record
      · obtain ⟨hresolved, -⟩ | ⟨hverdict, hdisplay⟩ := htail
        · cases error <;> cases hresolved
        · exact .display (.inr ⟨error, rfl⟩) hverdict (displayTurn_of_unfolds hdisplay)
      · obtain ⟨-, rfl, -⟩ | ⟨hverdict, -⟩ := htail
        · exact .driver record
        · exact absurd rfl hverdict

end Metric

/-! ### Calls that search for the adapter -/

namespace Profiling

variable {reading : Profiling α} {next : α → Profiling β}

/-- Whatever the host answers and whatever is remembered, the adapter is searched for. -/
def Searches (reading : Profiling α) : Prop :=
  ∀ profiler transcript answer later, (reading.run profiler).Unfolds transcript (answer, later) →
    ∃ before search after, transcript = before ++ search ++ after ∧
      AdapterSearch profiler.config search

theorem Searches.bind (h : Searches reading) : Searches (reading >>= next) := by
  intro profiler transcript answer later hrun
  obtain ⟨before, a, middle, after, rfl, hbefore, -⟩ := unfolds_bind hrun
  obtain ⟨first, search, second, rfl, hsearch⟩ := h _ _ _ _ hbefore
  exact ⟨first, search, second ++ after, by simp only [List.append_assoc], hsearch⟩

/-- A course changes no settings, so what comes after it searches with the same ones. -/
theorem Takes.bind_searches {missed : α → Nat} (h : Takes missed reading)
    (hnext : ∀ a, Searches (next a)) : Searches (reading >>= next) := by
  intro profiler transcript answer later hrun
  obtain ⟨before, a, middle, after, rfl, hbefore, hafter⟩ := unfolds_bind hrun
  obtain ⟨first, search, second, rfl, hsearch⟩ := hnext a _ _ _ _ hafter
  have hforget := (h _ _ _ _ hbefore).tally.forget
  rw [(Profiler.config_eq_of_forget hforget).1] at hsearch
  exact ⟨before ++ first, search, second, by simp only [List.append_assoc], hsearch⟩

theorem searches_get_bind {next : Profiler → Profiling α}
    (h : ∀ profiler, Searches (next profiler)) : Searches (get >>= next) := by
  intro profiler transcript answer later hrun
  rw [run_get_bind] at hrun
  exact h profiler profiler transcript answer later hrun

end Profiling

namespace Profiler

open Profiling

theorem searches_readAdapter? : Searches readAdapter? := by
  intro profiler transcript answer later h
  rw [run_readAdapter?] at h
  obtain ⟨found, hreport, -⟩ := unfolds_map_iff.mp h
  obtain ⟨record, -, hfind⟩ | ⟨error, before, -, rfl, hfind⟩ := unfolds_orReport hreport
  · exact ⟨[], transcript, [], by simp, Metric.adapterSearch_of_unfolds hfind⟩
  · exact ⟨[], before, _, rfl, Metric.adapterSearch_of_unfolds hfind⟩

theorem searches_readSummary : Searches readSummary :=
  searches_get_bind fun _ ↦ (takes_memo .vendor).bind_searches fun _ ↦
    takes_readCurrentCpus.bind_searches fun _ ↦ (takes_memo .maxSpeed).bind_searches fun _ ↦
    takes_readCurrentSpeed.bind_searches fun _ ↦ (takes_memo .memory).bind_searches fun _ ↦
    (takes_memo .machineModel).bind_searches fun _ ↦ searches_readAdapter?.bind

/-- The accessors that tell of the adapter search for it at every call. -/
theorem searches_read {accessor : Accessor} (h : accessor ∈ [.adapter, .adapter?, .summary]) :
    Searches (read accessor) := by
  simp only [List.mem_cons, List.not_mem_nil, or_false] at h
  obtain rfl | rfl | rfl := h
  · exact searches_readAdapter?.bind
  · exact searches_readAdapter?
  · exact searches_readSummary

/-- Whatever the host answers: a search of the main display looks up the properties in their order
up to the first that is said not to exist and then asks for the name, and without a record it comes
to a source that does not exist just if both ways are closed, else to a failed query. The chain for
the adapter logs the first as a trace and the second as a warning, and it is run at every call that
tells of the adapter. -/
theorem display_search_classified :
    (∀ transcript found, Metric.displayAdapter.run.Unfolds transcript found →
      ∃ lookups name, DisplaySearch transcript found lookups name) ∧
    (∀ config architecture transcript outcome,
      (Metric.adapter.run config architecture).Unfolds transcript outcome →
        AdapterSearch config transcript) ∧
    ∀ accessor ∈ [Accessor.adapter, .adapter?, .summary], ∀ profiler transcript answer later,
      ((read accessor).run profiler).Unfolds transcript (answer, later) →
        ∃ before search after, transcript = before ++ search ++ after ∧
          AdapterSearch profiler.config search :=
  ⟨fun _ _ ↦ Metric.exists_displaySearch, fun _ _ _ _ ↦ Metric.adapterSearch_of_unfolds,
    fun _ haccessor ↦ searches_read haccessor⟩

/-- A device that does not exist beside a blank name is a failed query and a warning, for the name
was answered; a summary taken there has searched for the adapter. -/
theorem display_search_classified_blank_name :
    let source := Source.ofDisplay (.error .noData) (.error .unavailable)
      (.ok (.text "Apple M2")) (.ok " ")
    let search := Metric.displayAdapter.run
    let run := Metric.adapter.run .standard .x64
    let started := (start .standard .x64).value source
    (∃ lookups name, DisplaySearch (search.transcript source) (search.value source) lookups name) ∧
      AdapterSearch .standard (run.transcript source) ∧
      (∃ before search after,
        ((read .summary).run started).transcript source = before ++ search ++ after ∧
          AdapterSearch started.config search) ∧
      search.calls source = [.displayProperty .vendorId, .displayProperty .deviceId, .displayName] ∧
      said .warn "probe failed, trying next source" (run.transcript source) = 1 := by
  intro source search run started
  obtain ⟨hsearch, hchain, hcall⟩ := display_search_classified
  have hsummary (profiler : Profiler) : ∃ before search after,
      ((read .summary).run profiler).transcript source = before ++ search ++ after ∧
        AdapterSearch profiler.config search :=
    hcall .summary (by simp) profiler _ _ _ (unfolds_transcript _ source)
  refine ⟨hsearch _ _ (unfolds_transcript search source),
    hchain _ _ _ _ (unfolds_transcript run source), hsummary started, rfl, ?_⟩
  decide +kernel

end Profiler

end HostProfile
