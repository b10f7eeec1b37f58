import HostProfile.Chain

/-!
# What a computation may ask

A computation sees of a host only the answers to its questions, so two hosts that answer these
alike cannot be told apart (`run_congr`).

An attempt follows an agenda if on every host its questions are some of those on the agenda, each
at most as often as it stands there and in the order of the agenda, and if it logs nothing but
properties that cannot be read. An attempt depends on a facility if it comes to nothing, silently,
wherever the facility does not exist. Both are settled for composed attempts by their parts, and
an attempt that has both keeps to the facility (`Attempt.KeepsTo`).
-/

set_option autoImplicit false
set_option relaxedAutoImplicit false

namespace HostProfile

variable {α β : Type}

/-- Two hosts that answer the questions of a computation alike are the same to it. -/
theorem Probing.run_congr (p : Probing α) {first second : Source}
    (h : ∀ q ∈ p.calls first, second q = first q) :
    p.value second = p.value first ∧ p.calls second = p.calls first ∧
      p.log second = p.log first := by
  induction p with
  | done result => exact ⟨rfl, rfl, rfl⟩
  | ask q next ih =>
    have hq : second q = first q := h q (by simp [calls])
    obtain ⟨hvalue, hcalls, hlog⟩ := ih (first q) fun r hr ↦ h r (by simp [calls, hr])
    simp [value, calls, log, hq, hvalue, hcalls, hlog]
  | note event rest ih =>
    obtain ⟨hvalue, hcalls, hlog⟩ := ih h
    simp [value, calls, log, hvalue, hcalls, hlog]

/-- The facilities that questions are put to. -/
def Query.facilities : List String :=
  ["topology", "system_info", "sysctl", "registry", "cpuinfo", "sysfs", "cpuid", "affinity",
    "online", "runtime", "memory", "firmware", "driver", "display"]

/-- A host lacks a facility: no question to it is answered. -/
def Source.Lacks (source : Source) (name : String) : Prop :=
  ∀ q : Query, q.owner = name → source q = .error .unavailable

theorem Source.lacks_without (source : Source) (name : String) :
    (source.without name).Lacks name :=
  fun _ h ↦ source.without_of_owner h

/-- An event that a probe may log by itself. -/
def Event.IsRemark (event : Event) : Prop :=
  ∃ property error, event = .propertyMissing property error

namespace Attempt

/-! ### One attempt after another -/

section Bind

variable {source : Source} {attempt : Attempt α}

theorem value_bind_of_ok {a : α} (h : attempt.run.value source = .ok a) (next : α → Attempt β) :
    (attempt >>= next).run.value source = (next a).run.value source := by
  rw [ExceptT.run_bind, Probing.value_bind, h]

theorem value_bind_of_error {error : ProbeError} (h : attempt.run.value source = .error error)
    (next : α → Attempt β) : (attempt >>= next).run.value source = .error error := by
  rw [ExceptT.run_bind, Probing.value_bind, h]
  rfl

theorem value_bind_eq_ok_iff {next : α → Attempt β} {b : β} :
    (attempt >>= next).run.value source = .ok b ↔
      ∃ a, attempt.run.value source = .ok a ∧ (next a).run.value source = .ok b := by
  cases h : attempt.run.value source with
  | error error =>
    rw [value_bind_of_error h]
    exact iff_of_false (by rintro ⟨⟩) fun ⟨_, hvalue, _⟩ ↦ by cases hvalue
  | ok a =>
    rw [value_bind_of_ok h]
    constructor
    · exact fun hnext ↦ ⟨a, rfl, hnext⟩
    · rintro ⟨_, ⟨⟩, hnext⟩
      exact hnext

theorem value_query (q : Query) : (query q).run.value source = source q := rfl

end Bind

/-! ### Agendas -/

/-- An attempt asks what is on the agenda, in that order, and logs remarks only. -/
structure Follows (agenda : List Query) (attempt : Attempt α) : Prop where
  calls : ∀ source, (attempt.run.calls source).Sublist agenda
  log : ∀ source, ∀ event ∈ attempt.run.log source, event.IsRemark

theorem follows_pure (agenda : List Query) (a : α) : Follows agenda (pure a : Attempt α) where
  calls := fun source ↦ by simp
  log := fun source ↦ by simp

theorem follows_throw (agenda : List Query) (error : ProbeError) :
    Follows agenda (throw error : Attempt α) where
  calls := fun source ↦ by simp
  log := fun source ↦ by simp

theorem follows_ofOutcome (agenda : List Query) (outcome : Outcome α) :
    Follows agenda (ofOutcome outcome) where
  calls := fun source ↦ by simp [ofOutcome]
  log := fun source ↦ by simp [ofOutcome]

theorem follows_query (q : Query) : Follows [q] (query q) where
  calls := fun source ↦ by simp [query]
  log := fun source ↦ by simp [query]

theorem follows_observe (q : Query) : Follows [q] (observe q) where
  calls := fun source ↦ by simp [observe]
  log := fun source ↦ by simp [observe]

theorem follows_write (event : Event) (h : event.IsRemark) :
    Follows [] (ExceptT.lift (Probing.write event)) where
  calls := fun source ↦ by simp
  log := fun source ↦ by simpa using h

theorem follows_bind {attempt : Attempt α} {next : α → Attempt β} {before after : List Query}
    (h : Follows before attempt) (hnext : ∀ a, Follows after (next a)) :
    Follows (before ++ after) (attempt >>= next) where
  calls := by
    intro source
    rw [ExceptT.run_bind, Probing.calls_bind]
    cases attempt.run.value source with
    | ok a => exact (h.calls source).append ((hnext a).calls source)
    | error error => simpa using (h.calls source).trans (List.sublist_append_left before after)
  log := by
    intro source event hevent
    rw [ExceptT.run_bind, Probing.log_bind, List.mem_append] at hevent
    rcases hevent with hevent | hevent
    · exact h.log source event hevent
    · cases hvalue : attempt.run.value source with
      | ok a => exact (hnext a).log source event (by simpa [hvalue] using hevent)
      | error error => simp [hvalue] at hevent

theorem follows_bind_nil {attempt : Attempt α} {next : α → Attempt β} {agenda : List Query}
    (h : Follows agenda attempt) (hnext : ∀ a, Follows [] (next a)) :
    Follows agenda (attempt >>= next) := by
  have hbind := follows_bind h hnext
  rwa [List.append_nil] at hbind

/-! ### Dependence on a facility -/

/-- An attempt comes to nothing, silently, on every host that lacks a facility. -/
def DependsOn (name : String) (attempt : Attempt α) : Prop :=
  ∀ source : Source, source.Lacks name →
    attempt.run.value source = .error .unavailable ∧ attempt.run.log source = []

theorem dependsOn_query (q : Query) : DependsOn q.owner (query q) :=
  fun _ h ↦ ⟨h q rfl, rfl⟩

theorem dependsOn_throw (name : String) : DependsOn name (throw .unavailable : Attempt α) :=
  fun _ _ ↦ ⟨rfl, rfl⟩

theorem DependsOn.bind {name : String} {attempt : Attempt α} (h : DependsOn name attempt)
    (next : α → Attempt β) : DependsOn name (attempt >>= next) := by
  intro source hlacks
  obtain ⟨hvalue, hlog⟩ := h source hlacks
  rw [ExceptT.run_bind, Probing.value_bind, Probing.log_bind, hvalue, hlog]
  exact ⟨rfl, rfl⟩

/-! ### Attempts that keep to one facility -/

/-- An attempt follows an agenda and comes to nothing on a host without a facility. -/
structure KeepsTo (name : String) (agenda : List Query) (attempt : Attempt α) : Prop where
  follows : Follows agenda attempt
  dependsOn : DependsOn name attempt

theorem keepsTo_query (q : Query) : KeepsTo q.owner [q] (query q) :=
  ⟨follows_query q, dependsOn_query q⟩

theorem keepsTo_throw (name : String) (agenda : List Query) :
    KeepsTo name agenda (throw .unavailable : Attempt α) :=
  ⟨follows_throw agenda _, dependsOn_throw name⟩

variable {name : String} {attempt : Attempt α} {next : α → Attempt β}

theorem KeepsTo.bind {before after : List Query} (h : KeepsTo name before attempt)
    (hnext : ∀ a, Follows after (next a)) : KeepsTo name (before ++ after) (attempt >>= next) :=
  ⟨follows_bind h.follows hnext, h.dependsOn.bind next⟩

theorem KeepsTo.bind_nil {agenda : List Query} (h : KeepsTo name agenda attempt)
    (hnext : ∀ a, Follows [] (next a)) : KeepsTo name agenda (attempt >>= next) :=
  ⟨follows_bind_nil h.follows hnext, h.dependsOn.bind next⟩

end Attempt

/-- A probe keeps to an entry of an agenda: it has the name of the entry and asks the questions of
the entry, and if it is named after a facility it comes to nothing where that does not exist. -/
structure Probe.Keeps (probe : Probe α) (entry : String × List Query) : Prop where
  name_eq : probe.name = entry.1
  follows : ∀ architecture, (probe.attempt architecture).Follows entry.2
  dependsOn : entry.1 ∈ Query.facilities →
    ∀ architecture, (probe.attempt architecture).DependsOn entry.1

/-- Attempts that keep to a facility make a probe that is named after it. -/
theorem Probe.keeps_of_keepsTo {name : String} {agenda : List Query}
    {attempt : Architecture → Attempt α}
    (h : ∀ architecture, (attempt architecture).KeepsTo name agenda) :
    Probe.Keeps ⟨name, attempt⟩ (name, agenda) where
  name_eq := rfl
  follows := fun architecture ↦ (h architecture).follows
  dependsOn := fun _ architecture ↦ (h architecture).dependsOn

end HostProfile
