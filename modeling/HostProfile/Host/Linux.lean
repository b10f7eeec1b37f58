import HostProfile.Host.Files
import HostProfile.Host.Processor
import HostProfile.Host.Vulkan

/-!
# Linux hosts

A Linux host answers from its files, from a few numbers of the operating system, from the Vulkan
loader, and from its processor. A file that is not there means that the source does not exist; a
file that cannot be read or does not hold what it should is a failed query that names the path.
-/

set_option autoImplicit false
set_option relaxedAutoImplicit false

namespace HostProfile.Linux

/-- A Linux host. -/
structure Machine where
  files : Files
  /-- The processors online, as the operating system answers. -/
  online : Int
  /-- The pages of physical memory, as the operating system answers. -/
  pages : Int
  /-- The bytes of a page, as the operating system answers. -/
  pageSize : Int
  vulkan : Vulkan.Loader
  processor : Processor

/-! ### Files -/

/-- A file that could not be read, as a probe error. -/
def readFailure (origin : String) (path : PathBytes) (error : ReadError) : ProbeError :=
  if error = .notFound then .unavailable
  else .queryFailed origin (Text.decodeLossy path ++ ": " ++ error.message)

/-- Whether a character may pad the value of an attribute file. -/
def isPadding (c : Char) : Bool :=
  c == '\x00' || Text.isBlank c

/-- The value in an attribute file, without padding. -/
def attributeText (files : Files) (origin : String) (path : PathBytes) : Outcome (List Char) :=
  match files.read path with
  | .ok content => .ok (Text.strip isPadding (Text.decodeLossy content).toList)
  | .error error => .error (readFailure origin path error)

/-- The number in an attribute file. -/
def numericAttribute (files : Files) (origin : String) (path : PathBytes) : Outcome UInt64 := do
  let text ← attributeText files origin path
  match Text.readWord64 text with
  | .ok n => return n
  | .error error => throw (.queryFailed origin (Text.decodeLossy path ++ ": " ++ error.message))

/-- The path of a device attribute. -/
def attributePath (config : Config) (name : String) : PathBytes :=
  PathBytes.join config.sysfsRoot (Text.encode name)

/-- The processor information file. -/
def cpuinfo (config : Config) (files : Files) : Outcome CpuInfo :=
  match files.readText config.cpuinfoPath with
  | .ok text => .ok (CpuInfo.parse text)
  | .error error => .error (readFailure "cpuinfo" config.cpuinfoPath error)

/-- The attribute with a frequency of the first processor. -/
def frequencyAttribute : Frequency → String
  | .maximum => "devices/system/cpu/cpu0/cpufreq/cpuinfo_max_freq"
  | .current => "devices/system/cpu/cpu0/cpufreq/scaling_cur_freq"

/-- A frequency of the first processor in kHz. -/
def frequencyKhz (config : Config) (files : Files) (which : Frequency) : Outcome UInt64 :=
  numericAttribute files "sysfs" (attributePath config (frequencyAttribute which))

/-- The product name that the firmware of a personal computer gives, or else the model that the
device tree of a board gives. A product name that is there but cannot be read ends the search. -/
def firmware (config : Config) (files : Files) : Outcome String :=
  let board := attributeText files "firmware" (attributePath config "firmware/devicetree/base/model")
  let name :=
    match attributeText files "firmware" (attributePath config "class/dmi/id/product_name") with
    | .ok [] => board
    | .ok name => .ok name
    | .error .unavailable => board
    | .error error => .error error
  name.map String.ofList

/-! ### Numbers of the operating system -/

/-- The processors online; a count below one is a failed query. -/
def onlineCpus (online : Int) : Outcome UInt32 :=
  if online < 1 then
    .error (.queryFailed "online" ("sysconf(_SC_NPROCESSORS_ONLN) returned " ++ toString online))
  else .ok (UInt32.ofNat online.toNat)

/-- The greatest size that memory is reported with. -/
def memoryLimit : Int := 9223372036854775807

/-- The installed memory in bytes, cut off at the limit; a negative number is a failed query. -/
def memory (pages pageSize : Int) : Outcome Int64 :=
  if pages < 0 ∨ pageSize < 0 then
    .error (.queryFailed "memory" ("sysconf(_SC_PHYS_PAGES) " ++ toString pages ++
      ", sysconf(_SC_PAGESIZE) " ++ toString pageSize))
  else .ok (Int64.ofInt (min (pages * pageSize) memoryLimit))

/-- The default adapter, unless the interface is switched off. -/
def vulkanAdapter (config : Config) (vulkan : Vulkan.Loader) : Outcome Adapter :=
  if config.isDisabled "vulkan" then .error .unavailable else vulkan.adapter

/-- What a Linux host answers. -/
def source (config : Config) (machine : Machine) : Source
  | .cpuinfo => cpuinfo config machine.files
  | .frequencyKhz which => frequencyKhz config machine.files which
  | .online => onlineCpus machine.online
  | .memory => memory machine.pages machine.pageSize
  | .firmware => firmware config machine.files
  | .adapter => vulkanAdapter config machine.vulkan
  | query => machine.processor.source query

end HostProfile.Linux
