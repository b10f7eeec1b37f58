import HostProfile.Proofs.Metric.Warning
import HostProfile.Proofs.Profiler.Reading

/-!
# The course of a profiler

The host may answer every question as it likes, and yet a profiler has few things to do: find a
metric, remember what was found, note once and for all that the highest clock or the memory is
unknown, and note that nothing identifies the adapter. A `Course` is made of these, one after the
other, and every accessor takes one (`takes_read`); so does the start, before the profiler is there
(`exists_course_of_start`).

What a course changes and how often it says what is read off its parts (`Course.tally`). Each of the
two notes about an unknown value goes with a change of its state, and as no state is unknown twice,
the two are kept in balance.
-/

set_option autoImplicit false
set_option relaxedAutoImplicit false

namespace HostProfile

variable {α β : Type}

open Happening Probing

/-- A search comes to a value without another word, or to none with a word on the error. -/
theorem Probing.unfolds_orReport {report : ProbeError → Event} {search : Probing (Outcome α)}
    {transcript : List Happening} {found : Option α}
    (h : (search.orReport report).Unfolds transcript found) :
    (∃ value, found = some value ∧ search.Unfolds transcript (.ok value)) ∨
      ∃ error before, found = none ∧ transcript = before ++ [.logged (report error)] ∧
        search.Unfolds before (.error error) := by
  obtain ⟨before, outcome, after, rfl, hsearch, hafter⟩ := unfolds_bind_iff.mp h
  rcases outcome with error | value
  · obtain ⟨rest, rfl, hrest⟩ := unfolds_write_bind_iff.mp hafter
    obtain ⟨rfl, rfl⟩ := unfolds_pure_iff.mp hrest
    exact .inr ⟨error, before, rfl, rfl, hsearch⟩
  · obtain ⟨rfl, rfl⟩ := unfolds_pure_iff.mp hafter
    exact .inl ⟨value, rfl, by rwa [List.append_nil]⟩

/-- Something was found, where a memo may also hold that nothing is known. -/
def Memo.Known : (memo : Memo) → memo.Value → Prop
  | .vendor, _ => True
  | .maxSpeed, found => found.isSome = true
  | .memory, found => found.isSome = true
  | .machineModel, _ => True

/-- How often a metric was found to be unknown: once at most. -/
def Resolved.failures (state : Resolved α) : Nat :=
  state.isFailed.toNat

/-- What a profiler may do, in which state it is before and after, what happens meanwhile, and how
often the adapter is missed. -/
inductive Course : Profiler → List Happening → Profiler → Nat → Prop
  /-- Nothing is done. -/
  | stay (profiler : Profiler) : Course profiler [] profiler 0
  /-- A metric is looked for. -/
  | find {profiler : Profiler} (kind : Metric.Kind) {transcript : List Happening}
      {outcome : Outcome kind.Value}
      (hfind : (kind.find profiler.config profiler.architecture).Unfolds transcript outcome) :
      Course profiler transcript profiler 0
  /-- What was found is remembered. -/
  | keep {profiler : Profiler} (memo : Memo) (value : memo.Value)
      (hunset : memo.cell profiler = none) (hknown : memo.Known value) :
      Course profiler [] (memo.fill profiler value) 0
  /-- The highest clock is given up. -/
  | forgoSpeed {profiler : Profiler} (error : ProbeError)
      (hunset : Memo.maxSpeed.cell profiler = none) :
      Course profiler [.logged (.speedUnknown error)] (Memo.maxSpeed.fill profiler none) 0
  /-- The memory is given up. -/
  | forgoMemory {profiler : Profiler} (error : ProbeError)
      (hunset : Memo.memory.cell profiler = none) :
      Course profiler [.logged (.memoryUnknown error)] (Memo.memory.fill profiler none) 0
  /-- The adapter is missed. -/
  | missAdapter (profiler : Profiler) (error : ProbeError) :
      Course profiler [.logged (.adapterUnknown error)] profiler 1
  /-- One course is taken after another. -/
  | trans {profiler later last : Profiler} {before after : List Happening} {missed more : Nat}
      (hbefore : Course profiler before later missed) (hafter : Course later after last more) :
      Course profiler (before ++ after) last (missed + more)

/-! ### The balance of a course -/

theorem Event.IsProbing.said_eq_zero {transcript : List Happening}
    (h : ∀ event, .logged event ∈ transcript → event.IsProbing) (level : Level) {message : String}
    (hmessage : message ∉ ["display property missing", "source disabled by config", "resolved",
      "implausible value", "unavailable", "no data", "probe failed, trying next source"]) :
    said level message transcript = 0 := by
  refine Happening.said_eq_zero level message fun event hmem heq ↦ hmessage ?_
  rw [← heq]
  exact (h event hmem).message_mem

/-- What a profiler found out at the start stays, nothing is said of a start, the notes about
unknown values go with their states, and a missed adapter is noted every time. -/
structure Course.Tally (profiler : Profiler) (transcript : List Happening) (later : Profiler)
    (missed : Nat) : Prop where
  forget : later.forget = profiler.forget
  started : said .debug "hardware profiler initialized" transcript = 0
  maxSpeed : said .warn "max cpu speed unavailable" transcript + profiler.maxSpeed.failures =
    later.maxSpeed.failures
  memory : said .warn "memory size unavailable" transcript + profiler.memory.failures =
    later.memory.failures
  adapter : said .debug "no GPU identified" transcript = missed

theorem Resolved.failures_of_cell {state : Resolved α} (h : state.cell = none) :
    state.failures = 0 := by
  cases state <;> cases h
  rfl

/-- Remembering what was found gives up nothing. -/
theorem Memo.failures_fill {memo : Memo} {profiler : Profiler} {value : memo.Value}
    (hunset : memo.cell profiler = none) (hknown : memo.Known value) :
    (memo.fill profiler value).maxSpeed.failures = profiler.maxSpeed.failures ∧
      (memo.fill profiler value).memory.failures = profiler.memory.failures := by
  cases memo with
  | vendor | machineModel => exact ⟨rfl, rfl⟩
  | maxSpeed =>
    obtain ⟨mhz, rfl⟩ := Option.isSome_iff_exists.mp hknown
    exact ⟨(Resolved.failures_of_cell hunset).symm, rfl⟩
  | memory =>
    obtain ⟨bytes, rfl⟩ := Option.isSome_iff_exists.mp hknown
    exact ⟨rfl, (Resolved.failures_of_cell hunset).symm⟩

theorem Course.tally {profiler later : Profiler} {transcript : List Happening} {missed : Nat}
    (h : Course profiler transcript later missed) :
    Course.Tally profiler transcript later missed := by
  induction h with
  | stay profiler => exact ⟨rfl, rfl, Nat.zero_add _, Nat.zero_add _, rfl⟩
  | find kind hfind =>
    have hprobing := Metric.Kind.isProbing_of_mem_find hfind
    have hzero (level : Level) {message : String} :=
      @Event.IsProbing.said_eq_zero _ hprobing level message
    constructor
    · rfl
    · exact hzero .debug (by decide)
    · rw [hzero .warn (by decide), Nat.zero_add]
    · rw [hzero .warn (by decide), Nat.zero_add]
    · exact hzero .debug (by decide)
  | keep memo value hunset hknown =>
    obtain ⟨hspeed, hmemory⟩ := Memo.failures_fill hunset hknown
    constructor
    · cases memo <;> rfl
    · rfl
    · rw [hspeed, said_nil, Nat.zero_add]
    · rw [hmemory, said_nil, Nat.zero_add]
    · rfl
  | forgoSpeed error hunset =>
    have hbefore := Resolved.failures_of_cell hunset
    constructor
    · rfl
    · rfl
    · rw [hbefore]; rfl
    · exact Nat.zero_add _
    · rfl
  | forgoMemory error hunset =>
    have hbefore := Resolved.failures_of_cell hunset
    constructor
    · rfl
    · rfl
    · exact Nat.zero_add _
    · rw [hbefore]; rfl
    · rfl
  | missAdapter profiler error =>
    exact ⟨rfl, rfl, Nat.zero_add _, Nat.zero_add _, rfl⟩
  | trans _ _ hbefore hafter =>
    constructor
    · exact hafter.forget.trans hbefore.forget
    · rw [said_append, hbefore.started, hafter.started]
    · rw [said_append, ← hafter.maxSpeed, ← hbefore.maxSpeed]
      omega
    · rw [said_append, ← hafter.memory, ← hbefore.memory]
      omega
    · rw [said_append, hbefore.adapter, hafter.adapter]

/-! ### The warnings of a course -/

/-- Every warning in a transcript is one of the two notes about unknown values, or the verdict on a
probe of a running chain whose query failed. -/
def Accounted (config : Config) (architecture : Architecture) (transcript : List Happening) :
    Prop :=
  ∀ before event after, transcript = before ++ .logged event :: after → event.level = .warn →
    event.message = "max cpu speed unavailable" ∨ event.message = "memory size unavailable" ∨
      Metric.FailedProbe config architecture before event after

variable {config : Config} {architecture : Architecture}

theorem accounted_nil : Accounted config architecture [] := by
  intro before event after hsplit
  simp at hsplit

theorem accounted_singleton {event : Event}
    (h : event.level = .warn → event.message = "max cpu speed unavailable" ∨
      event.message = "memory size unavailable") :
    Accounted config architecture [.logged event] := by
  intro before other after hsplit hwarn
  obtain ⟨-, hcons⟩ | ⟨rest, -, hrest⟩ := List.append_eq_cons_iff.mp hsplit.symm
  · cases hcons
    exact (h hwarn).imp_right .inl
  · simp at hrest

theorem Accounted.append {first second : List Happening}
    (hfirst : Accounted config architecture first)
    (hsecond : Accounted config architecture second) :
    Accounted config architecture (first ++ second) := by
  intro before event after hsplit hwarn
  obtain ⟨rest, hrest, rfl⟩ | ⟨sofar, rfl, hsofar⟩ := append_eq_split hsplit
  · refine (hfirst before event rest hrest hwarn).imp_right (Or.imp_right fun h ↦ ?_)
    exact h.append [] second
  · refine (hsecond sofar event after hsofar hwarn).imp_right (Or.imp_right fun h ↦ ?_)
    have happend := h.append first []
    rwa [List.append_nil] at happend

theorem Profiler.config_eq_of_forget {first second : Profiler}
    (h : first.forget = second.forget) :
    first.config = second.config ∧ first.architecture = second.architecture :=
  ⟨(congrArg config h :), (congrArg architecture h :)⟩

theorem Course.accounted {profiler later : Profiler} {transcript : List Happening} {missed : Nat}
    (h : Course profiler transcript later missed) :
    Accounted profiler.config profiler.architecture transcript := by
  induction h with
  | stay | keep => exact accounted_nil
  | find kind hfind =>
    intro before event after hsplit hwarn
    exact .inr (.inr (Metric.Kind.failedProbe_of_warn hfind hsplit hwarn))
  | forgoSpeed => exact accounted_singleton fun _ ↦ .inl rfl
  | forgoMemory => exact accounted_singleton fun _ ↦ .inr rfl
  | missAdapter => exact accounted_singleton (by rintro ⟨⟩)
  | trans hfirst _ hbefore hafter =>
    obtain ⟨hconfig, harchitecture⟩ := Profiler.config_eq_of_forget hfirst.tally.forget
    rw [hconfig, harchitecture] at hafter
    exact hbefore.append hafter

/-! ### Readings take courses -/

/-- What was found is remembered. -/
theorem Course.find_keep {profiler : Profiler} {transcript : List Happening} {kind : Metric.Kind}
    {outcome : Outcome kind.Value}
    (hfind : (kind.find profiler.config profiler.architecture).Unfolds transcript outcome)
    {memo : Memo} {value : memo.Value} (hunset : memo.cell profiler = none)
    (hknown : memo.Known value) : Course profiler transcript (memo.fill profiler value) 0 := by
  have hcourse := (Course.find kind hfind).trans (.keep memo value hunset hknown)
  rwa [List.append_nil] at hcourse

/-- A search for what is remembered ends with remembering what it came to. -/
theorem Memo.course_find {profiler : Profiler} (memo : Memo) {transcript : List Happening}
    {value : memo.Value} (hunset : memo.cell profiler = none)
    (h : (memo.find profiler.config profiler.architecture).Unfolds transcript value) :
    Course profiler transcript (memo.fill profiler value) 0 := by
  cases memo with
  | vendor =>
    have hfind : (Metric.Kind.vendor.find profiler.config profiler.architecture).Unfolds transcript
        (.ok value) := unfolds_map_iff.mpr ⟨value, h, rfl⟩
    exact .find_keep hfind hunset trivial
  | machineModel =>
    obtain ⟨outcome, hfind, rfl⟩ := unfolds_map_iff.mp h
    have hmodel : (Metric.Kind.model.find profiler.config profiler.architecture).Unfolds transcript
        outcome := hfind
    exact .find_keep hmodel hunset trivial
  | maxSpeed =>
    obtain ⟨mhz, rfl, hfind⟩ | ⟨error, before, rfl, rfl, hfind⟩ := unfolds_orReport h
    · have hspeed : (Metric.Kind.maxSpeed.find profiler.config profiler.architecture).Unfolds
          transcript (.ok mhz) := hfind
      exact .find_keep hspeed hunset rfl
    · exact (Course.find .maxSpeed hfind).trans (.forgoSpeed error hunset)
  | memory =>
    obtain ⟨bytes, rfl, hfind⟩ | ⟨error, before, rfl, rfl, hfind⟩ := unfolds_orReport h
    · have hmemory : (Metric.Kind.memory.find profiler.config profiler.architecture).Unfolds
          transcript (.ok bytes) := hfind
      exact .find_keep hmemory hunset rfl
    · exact (Course.find .memory hfind).trans (.forgoMemory error hunset)

namespace Profiling

/-- First happens what may happen in one reading and then, with the profiler that it leaves, what
may happen in the next. -/
theorem unfolds_bind {reading : Profiling α} {next : α → Profiling β} {profiler : Profiler}
    {transcript : List Happening} {result : β × Profiler}
    (h : ((reading >>= next).run profiler).Unfolds transcript result) :
    ∃ before a middle after, transcript = before ++ after ∧
      (reading.run profiler).Unfolds before (a, middle) ∧
      ((next a).run middle).Unfolds after result := by
  rw [StateT.run_bind] at h
  obtain ⟨before, ⟨a, middle⟩, after, happend, hbefore, hafter⟩ := unfolds_bind_iff.mp h
  exact ⟨before, a, middle, after, happend, hbefore, hafter⟩

theorem run_get_bind (next : Profiler → Profiling α) (profiler : Profiler) :
    (get >>= next).run profiler = (next profiler).run profiler := by
  rw [StateT.run_bind, StateT.run_get, pure_bind]

/-- Whatever the host answers, a reading takes a course, on which the adapter is missed as often as
the answer tells. -/
def Takes (missed : α → Nat) (reading : Profiling α) : Prop :=
  ∀ profiler transcript answer later, (reading.run profiler).Unfolds transcript (answer, later) →
    Course profiler transcript later (missed answer)

variable {reading : Profiling α} {missed : α → Nat}

theorem takes_pure (a : α) : Takes (fun _ ↦ 0) (pure a) := by
  intro profiler transcript answer later h
  obtain ⟨rfl, hanswer⟩ := unfolds_pure_iff.mp h
  cases hanswer
  exact .stay profiler

theorem Takes.bind {more : β → Nat} {next : α → Profiling β} (h : Takes (fun _ ↦ 0) reading)
    (hnext : ∀ a, Takes more (next a)) : Takes more (reading >>= next) := by
  intro profiler transcript answer last hrun
  obtain ⟨before, a, later, after, rfl, hbefore, hafter⟩ := unfolds_bind hrun
  have hcourse := (h _ _ _ _ hbefore).trans (hnext a _ _ _ _ hafter)
  rwa [Nat.zero_add] at hcourse

/-- An answer that is made of another one misses the adapter as often as that one tells. -/
theorem Takes.bind_pure {more : β → Nat} {f : α → β} (h : Takes missed reading)
    (hf : ∀ a, more (f a) = missed a) : Takes more (reading >>= fun a ↦ pure (f a)) := by
  intro profiler transcript answer last hrun
  obtain ⟨before, a, later, after, rfl, hbefore, hafter⟩ := unfolds_bind hrun
  obtain ⟨rfl, hanswer⟩ := unfolds_pure_iff.mp hafter
  cases hanswer
  rw [List.append_nil, hf]
  exact h _ _ _ _ hbefore

theorem takes_get_bind {next : Profiler → Profiling α}
    (h : ∀ profiler transcript answer later,
      ((next profiler).run profiler).Unfolds transcript (answer, later) →
        Course profiler transcript later (missed answer)) :
    Takes missed (get >>= next) := by
  intro profiler transcript answer later hrun
  rw [run_get_bind] at hrun
  exact h profiler transcript answer later hrun

/-- What is looked for in a memo is remembered, whether it was found or not. -/
theorem takes_memo (memo : Memo) : Takes (fun _ ↦ 0) memo.read := by
  intro profiler transcript answer later h
  rw [Memo.run_read] at h
  cases hcell : memo.cell profiler with
  | some value =>
    rw [hcell] at h
    obtain ⟨rfl, hanswer⟩ := unfolds_pure_iff.mp h
    cases hanswer
    exact .stay profiler
  | none =>
    rw [hcell] at h
    obtain ⟨value, hfind, hanswer⟩ := unfolds_map_iff.mp h
    cases hanswer
    exact memo.course_find hcell hfind

end Profiling

namespace Profiler

open Profiling

theorem takes_readCurrentCpus : Takes (fun _ ↦ 0) readCurrentCpus := by
  intro profiler transcript answer later h
  rw [run_readCurrentCpus] at h
  obtain ⟨outcome, hfind, hanswer⟩ := unfolds_map_iff.mp h
  cases hanswer
  exact .find .currentCpus hfind

theorem takes_readAdapter? : Takes (fun found ↦ found.isNone.toNat) readAdapter? := by
  intro profiler transcript answer later h
  rw [run_readAdapter?] at h
  obtain ⟨found, hreport, hanswer⟩ := unfolds_map_iff.mp h
  cases hanswer
  obtain ⟨adapter, rfl, hfind⟩ | ⟨error, before, rfl, rfl, hfind⟩ := unfolds_orReport hreport
  · exact .find .adapter hfind
  · exact (Course.find .adapter hfind).trans (.missAdapter profiler error)

theorem takes_readAdapter : Takes (fun answer ↦ (!answer.1).toNat) readAdapter := by
  have hrecord : readAdapter = readAdapter? >>= fun found ↦ pure (adapterRecord found) :=
    bind_congr fun found ↦ by cases found <;> rfl
  rw [hrecord]
  exact takes_readAdapter?.bind_pure fun found ↦ by cases found <;> rfl

theorem takes_readMaxSpeed : Takes (fun _ ↦ 0) readMaxSpeed :=
  (takes_memo .maxSpeed).bind_pure fun _ ↦ rfl

theorem takes_readCurrentSpeed : Takes (fun _ ↦ 0) readCurrentSpeed := by
  intro profiler transcript answer later h
  rw [run_readCurrentSpeed] at h
  obtain ⟨before, outcome, after, rfl, hfind, hrest⟩ := unfolds_bind_iff.mp h
  have hlive : Course profiler before profiler 0 := .find .currentSpeed hfind
  rcases outcome with error | mhz
  · exact hlive.trans (takes_readMaxSpeed _ _ _ _ hrest)
  · exact hlive.trans (takes_pure (speed mhz) _ _ _ _ hrest)

theorem takes_readSummary : Takes (fun summary ↦ summary.adapter.isNone.toNat) readSummary := by
  refine takes_get_bind fun profiler ↦
    (?_ : Takes (fun summary : Summary ↦ summary.adapter.isNone.toNat) _) profiler
  refine (takes_memo .vendor).bind fun vendor ↦ ?_
  refine takes_readCurrentCpus.bind fun currentCpus ↦ ?_
  refine (takes_memo .maxSpeed).bind fun maxSpeed ↦ ?_
  refine takes_readCurrentSpeed.bind fun currentSpeed ↦ ?_
  refine (takes_memo .memory).bind fun memory ↦ ?_
  refine (takes_memo .machineModel).bind fun machineModel ↦ ?_
  exact takes_readAdapter?.bind_pure fun adapter ↦ rfl

end Profiler

/-- An answer that tells of no adapter. -/
def Accessor.missesAdapter : (accessor : Accessor) → accessor.Answer → Bool
  | .adapter => fun answer ↦ !answer.1
  | .adapter? => Option.isNone
  | .summary => fun summary ↦ summary.adapter.isNone
  | .logicalCpus | .physicalCpus | .currentCpus | .architecture | .vendor | .cacheSize | .family
  | .model | .stepping | .maxSpeed | .maxSpeedState | .currentSpeed | .memory | .memoryState
  | .machineModel | .modelUnknown => fun _ ↦ false

namespace Profiler

open Profiling

/-- Every accessor takes a course, on which the adapter is missed if the answer tells of none. -/
theorem takes_read (accessor : Accessor) :
    Takes (fun answer ↦ (accessor.missesAdapter answer).toNat) (read accessor) := by
  cases accessor with
  | logicalCpus | physicalCpus | architecture | cacheSize | family | model | stepping
  | maxSpeedState | memoryState => exact takes_get_bind fun profiler ↦ takes_pure _ profiler
  | currentCpus => exact takes_readCurrentCpus
  | vendor => exact takes_memo .vendor
  | maxSpeed => exact takes_readMaxSpeed
  | currentSpeed => exact takes_readCurrentSpeed
  | memory => exact (takes_memo .memory).bind_pure fun _ ↦ rfl
  | machineModel => exact takes_memo .machineModel
  | modelUnknown => exact (takes_memo .machineModel).bind_pure fun _ ↦ rfl
  | adapter => exact takes_readAdapter
  | adapter? => exact takes_readAdapter?
  | summary => exact takes_readSummary

/-- To start a profiler, its four searches are made one after the other and what they come to is
logged. -/
theorem exists_searches_of_start {transcript : List Happening} {profiler : Profiler}
    (h : (start config architecture).Unfolds transcript profiler) :
    ∃ (ofLogical ofPhysical ofSignature ofCache : List Happening)
      (logical physical : Outcome UInt32) (found : Outcome Signature) (cache : Outcome UInt64),
      (Metric.Kind.logicalCpus.find config architecture).Unfolds ofLogical logical ∧
      (Metric.Kind.physicalCpus.find config architecture).Unfolds ofPhysical physical ∧
      (Metric.Kind.signature.find config architecture).Unfolds ofSignature found ∧
      (Metric.Kind.cacheSize.find config architecture).Unfolds ofCache cache ∧
      transcript = ofLogical ++ (ofPhysical ++ (ofSignature ++ (ofCache ++
        [.logged (.started profiler.architecture profiler.logicalCpus profiler.physicalCpus
          profiler.signature profiler.cacheSize)]))) ∧
      profiler =
        { config := config
          architecture := architecture
          logicalCpus := logical.toOption.getD 1
          physicalCpus :=
            (physical.toOption.filter (0 < ·)).getD (logical.toOption.getD 1)
          signature := found.toOption.getD Signature.unknown
          cacheSize := cache.toOption.getD 0
          vendor := none
          maxSpeed := .unprobed
          memory := .unprobed
          machineModel := none } := by
  obtain ⟨ofLogical, logical, _, rfl, hlogical, hrest⟩ := unfolds_bind_iff.mp h
  obtain ⟨ofPhysical, physical, _, rfl, hphysical, hrest⟩ := unfolds_bind_iff.mp hrest
  obtain ⟨ofSignature, found, _, rfl, hsignature, hrest⟩ := unfolds_bind_iff.mp hrest
  obtain ⟨ofCache, cache, _, rfl, hcache, hrest⟩ := unfolds_bind_iff.mp hrest
  obtain ⟨_, rfl, hdone⟩ := unfolds_write_bind_iff.mp hrest
  obtain ⟨rfl, rfl⟩ := unfolds_pure_iff.mp hdone
  exact ⟨ofLogical, ofPhysical, ofSignature, ofCache, logical, physical, found, cache, hlogical,
    hphysical, hsignature, hcache, rfl, rfl⟩

/-- A profiler is there when it has looked for all that it keeps and has said so; nothing is
remembered yet. -/
theorem exists_course_of_start {transcript : List Happening} {profiler : Profiler}
    (h : (start config architecture).Unfolds transcript profiler) :
    profiler.config = config ∧ profiler.architecture = architecture ∧
      profiler.forget = profiler ∧ ∃ searches, Course profiler searches profiler 0 ∧
        transcript = searches ++ [.logged (.started profiler.architecture profiler.logicalCpus
          profiler.physicalCpus profiler.signature profiler.cacheSize)] := by
  obtain ⟨ofLogical, ofPhysical, ofSignature, ofCache, logical, physical, found, cache, hlogical,
    hphysical, hsignature, hcache, rfl, hprofiler⟩ := exists_searches_of_start h
  have hsearch {kind : Metric.Kind} {searches : List Happening} {outcome : Outcome kind.Value}
      (hfind : (kind.find config architecture).Unfolds searches outcome) :
      Course profiler searches profiler 0 := by
    subst hprofiler
    exact .find kind hfind
  have hcourse := (hsearch hlogical).trans ((hsearch hphysical).trans
    ((hsearch hsignature).trans (hsearch hcache)))
  subst hprofiler
  exact ⟨rfl, rfl, rfl, _, hcourse, by simp only [List.append_assoc]⟩

end Profiler

end HostProfile
