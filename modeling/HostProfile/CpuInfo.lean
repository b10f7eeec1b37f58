import HostProfile.Architecture
import HostProfile.Text.Blank
import HostProfile.Text.Lines
import HostProfile.Text.Numeral
import Std.Data.ExtTreeMap

/-!
# The processor information file

The file lists processors as sections: lines of a key, a colon and a value, with blank lines between
sections. Keys and values are trimmed, of two entries with one key in a section the later counts,
and a line without a colon says nothing and ends nothing. A section is a finite map, so the order of
its lines is forgotten.

`CpuInfo.parse` reads the file. The counts and the family that other parts of the library ask for
are read off the sections: a logical processor is a section, a physical core is counted once for
each socket, and the family is that of the first processor.
-/

set_option autoImplicit false
set_option relaxedAutoImplicit false

namespace HostProfile

/-- One section of the file: its keys and their values. -/
abbrev Section := Std.ExtTreeMap String String

/-- The sections of a processor information file, in order. -/
structure CpuInfo where
  sections : List Section

namespace Section

/-- The integer at the start of the value of a key. -/
def int? (s : Section) (key : String) : Option Int :=
  s[key]?.bind fun value => Text.leadingInt? value.toList

/-- The socket of a processor and the number of cores of that socket, if the section tells both. -/
def socket? (s : Section) : Option (Int × Int) :=
  (s.int? "physical id").bind fun id => (s.int? "cpu cores").map fun cores => (id, cores)

end Section

namespace CpuInfo

/-! ### Reading the file -/

/-- The key and the value of a line: what stands before and after its first colon, trimmed. -/
def entry? (line : List Char) : Option (String × String) :=
  match line.dropWhile (· != ':') with
  | [] => none
  | _ :: value =>
    some (String.ofList (Text.trim (line.takeWhile (· != ':'))), String.ofList (Text.trim value))

/-- A section with the entry of one more line, if the line has one. -/
def absorb (s : Section) (line : List Char) : Section :=
  match entry? line with
  | some (key, value) => s.insert key value
  | none => s

/-- What a section that ends adds to the file: nothing if it is empty. -/
def closed (s : Section) : List Section :=
  if s.isEmpty then [] else [s]

/-- The sections that remain to be read, the first of which has begun. -/
def sectionsFrom (s : Section) : List (List Char) → List Section
  | [] => closed s
  | line :: rest =>
    if Text.isAllBlank line then closed s ++ sectionsFrom ∅ rest
    else sectionsFrom (absorb s line) rest

/-- Reads a processor information file. Every text is one. -/
def parse (text : String) : CpuInfo :=
  ⟨sectionsFrom ∅ (Text.lines text.toList)⟩

/-! ### Values -/

/-- The value of a key in a section. -/
def value? (file : CpuInfo) (index : Nat) (key : String) : Option String :=
  file.sections[index]?.bind fun s => s[key]?

/-- The integer at the start of the value of a key in a section. -/
def int? (file : CpuInfo) (index : Nat) (key : String) : Option Int :=
  file.sections[index]?.bind fun s => s.int? key

/-- An integer as a 32-bit word: a negative one is zero, and of a large one the low bits are
kept. -/
def word (n : Int) : UInt32 :=
  UInt32.ofNat n.toNat

/-- The number of logical processors. On ARM a section counts only if it has a processor number,
for the file closes with a section on the board. -/
def logicalCpus (file : CpuInfo) : Architecture → UInt32
  | .arm => UInt32.ofNat (file.sections.filter (·.contains "processor")).length
  | .x86 | .x64 => UInt32.ofNat file.sections.length

/-- The pairs whose first component has not occurred before. -/
def firstOccurrences : List (Int × Int) → List (Int × Int)
  | [] => []
  | pair :: rest => pair :: (firstOccurrences rest).filter (·.1 != pair.1)

/-- The sum of integers in a 64-bit register, in which a sum that is out of range wraps around. -/
def wrappingSum (ns : List Int) : Int64 :=
  ns.foldl (fun total n => total + Int64.ofInt n) 0

/-- The number of physical cores: the cores of every socket, each socket counted where it is first
mentioned. Zero if no section tells its socket. -/
def physicalCpus (file : CpuInfo) : UInt32 :=
  word (wrappingSum
    ((firstOccurrences (file.sections.filterMap Section.socket?)).map (·.2))).toInt

/-- What follows the first mark of a version in the name of an ARM processor. -/
def afterVersionMark : List Char → Option (List Char)
  | '(' :: 'v' :: rest => some rest
  | _ :: rest => afterVersionMark rest
  | [] => none

/-- The architecture version in the name of an ARM processor, where it stands after an opening
parenthesis and a v. -/
def armVersion? (name : String) : Option Int :=
  ((afterVersionMark name.toList).bind Text.leadingInt?).filter (0 < ·)

/-- The family of the first processor, zero if the file does not tell. On ARM it is the
architecture version, which may have to be read off the processor's name. -/
def family (file : CpuInfo) : Architecture → UInt32
  | .arm =>
    word ((((file.int? 0 "CPU architecture").filter (0 < ·)) <|>
      (file.value? 0 "Processor").bind armVersion?).getD 0)
  | .x86 | .x64 => word ((file.int? 0 "cpu family").getD 0)

end CpuInfo

end HostProfile
