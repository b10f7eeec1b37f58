/-!
# Text in bytes

A byte string is read as UTF-8 one byte at a time. `Pending` is a character whose first bytes have
been read: how many bytes it still needs, the least and the greatest byte that may come next, and
the bits collected. The second byte is held to the range that excludes overlong forms, surrogates
and code points above U+10FFFF, so a byte is refused at the first moment that no character can
start with the bytes up to it, and the refused byte is read again as a first byte.

`scan` yields one entry for each character and for each ill-formed run, `none` for the latter.
`decode?` is the text of a well-formed byte string, `decodeLossy` replaces each ill-formed run by
U+FFFD, and `terminatedText` reads up to the first NUL only. `encode` is the way back, and
`decode?_encode` and `decodeLossy_encode` say that it leads back to the same text.
-/

set_option autoImplicit false
set_option relaxedAutoImplicit false

namespace HostProfile.Text

/-- The bytes of a text. -/
def encode (text : String) : List UInt8 :=
  text.toList.flatMap String.utf8EncodeChar

/-- A character whose first bytes have been read. -/
structure Pending where
  /-- How many bytes are missing, at least one. -/
  missing : Nat
  /-- The least byte that may come next. -/
  least : Nat
  /-- The greatest byte that may come next. -/
  greatest : Nat
  /-- The bits of the bytes read so far. -/
  bits : Nat
  deriving DecidableEq, Repr

/-- What a byte yields when no character is pending. -/
def scanFirst (byte : Nat) : List (Option Char) × Option Pending :=
  if byte ≤ 0x7F then ([some (Char.ofNat byte)], none)
  else if 0xC2 ≤ byte && byte ≤ 0xDF then ([], some ⟨1, 0x80, 0xBF, byte - 0xC0⟩)
  else if byte == 0xE0 then ([], some ⟨2, 0xA0, 0xBF, 0⟩)
  else if byte == 0xED then ([], some ⟨2, 0x80, 0x9F, 0xD⟩)
  else if 0xE1 ≤ byte && byte ≤ 0xEF then ([], some ⟨2, 0x80, 0xBF, byte - 0xE0⟩)
  else if byte == 0xF0 then ([], some ⟨3, 0x90, 0xBF, 0⟩)
  else if 0xF1 ≤ byte && byte ≤ 0xF3 then ([], some ⟨3, 0x80, 0xBF, byte - 0xF0⟩)
  else if byte == 0xF4 then ([], some ⟨3, 0x80, 0x8F, 4⟩)
  else ([none], none)

/-- What a byte yields, and the character that is pending after it. -/
def scanByte : Option Pending → Nat → List (Option Char) × Option Pending
  | none, byte => scanFirst byte
  | some p, byte =>
    if p.least ≤ byte && byte ≤ p.greatest then
      let bits := p.bits * 64 + (byte - 0x80)
      if p.missing ≤ 1 then ([some (Char.ofNat bits)], none)
      else ([], some ⟨p.missing - 1, 0x80, 0xBF, bits⟩)
    else
      let (found, pending) := scanFirst byte
      (none :: found, pending)

/-- The characters and ill-formed runs of the bytes that follow a pending character. -/
def scanFrom : Option Pending → List UInt8 → List (Option Char)
  | none, [] => []
  | some _, [] => [none]
  | pending, byte :: rest =>
    let (found, next) := scanByte pending byte.toNat
    found ++ scanFrom next rest

/-- The characters and, as `none`, the ill-formed runs of a byte string, in order. -/
def scan (bytes : List UInt8) : List (Option Char) :=
  scanFrom none bytes

/-- The text of a well-formed byte string. -/
def decode? (bytes : List UInt8) : Option String :=
  ((scan bytes).mapM id).map String.ofList

/-- The text of a byte string, with U+FFFD for each ill-formed run. -/
def decodeLossy (bytes : List UInt8) : String :=
  String.ofList ((scan bytes).map (·.getD '\uFFFD'))

/-- The bytes before the first NUL, if there is one. -/
def beforeNul? (bytes : List UInt8) : Option (List UInt8) :=
  (bytes.idxOf? 0).map bytes.take

/-- The bytes before the first NUL, or all of them if there is none. -/
def untilNul (bytes : List UInt8) : List UInt8 :=
  bytes.take ((bytes.idxOf? 0).getD bytes.length)

/-- The text of the bytes before the first NUL. -/
def terminatedText (bytes : List UInt8) : String :=
  decodeLossy (untilNul bytes)

/-! ### Reading what was written -/

theorem toNat_ofNat_of_lt {n : Nat} (h : n < 256) : (UInt8.ofNat n).toNat = n := by
  simp
  omega

theorem scanFrom_lead {n : Nat} (h : n < 256) (rest : List UInt8) :
    scanFrom none (UInt8.ofNat n :: rest) = (scanFirst n).1 ++ scanFrom (scanFirst n).2 rest := by
  rw [scanFrom, scanByte, toNat_ofNat_of_lt h]

theorem scanFrom_tail {missing least greatest bits tail : Nat} (rest : List UInt8)
    (h : tail < 64) (hlo : least ≤ tail + 0x80) (hhi : tail + 0x80 ≤ greatest) :
    scanFrom (some ⟨missing, least, greatest, bits⟩) (UInt8.ofNat (tail + 0x80) :: rest) =
      if missing ≤ 1 then some (Char.ofNat (bits * 64 + tail)) :: scanFrom none rest
      else scanFrom (some ⟨missing - 1, 0x80, 0xBF, bits * 64 + tail⟩) rest := by
  rw [scanFrom, scanByte, toNat_ofNat_of_lt (by omega)]
  by_cases hlast : missing ≤ 1 <;> simp [hlo, hhi, hlast]

theorem scanFirst_two {n : Nat} (hlo : 2 ≤ n) (hhi : n < 32) :
    scanFirst (n + 0xC0) = ([], some ⟨1, 0x80, 0xBF, n⟩) := by
  simp [scanFirst]
  omega

theorem scanFirst_three (n second : Nat) (hhi : n < 16) (hlong : n = 0 → 0xA0 ≤ second)
    (hchar : n = 13 → second ≤ 0x9F) (htail : 0x80 ≤ second ∧ second ≤ 0xBF) :
    ∃ least greatest, scanFirst (n + 0xE0) = ([], some ⟨2, least, greatest, n⟩) ∧
      least ≤ second ∧ second ≤ greatest := by
  by_cases hfirst : n = 0
  · exact ⟨0xA0, 0xBF, by simp [scanFirst, hfirst], hlong hfirst, htail.2⟩
  · by_cases hsurrogate : n = 13
    · exact ⟨0x80, 0x9F, by simp [scanFirst, hsurrogate], htail.1, hchar hsurrogate⟩
    · have hrange : 1 ≤ n ∧ n ≤ 15 := by omega
      exact ⟨0x80, 0xBF, by simp [scanFirst, hfirst, hsurrogate, hrange], htail.1, htail.2⟩

theorem scanFirst_four (n second : Nat) (hhi : n < 5) (hlong : n = 0 → 0x90 ≤ second)
    (hchar : n = 4 → second ≤ 0x8F) (htail : 0x80 ≤ second ∧ second ≤ 0xBF) :
    ∃ least greatest, scanFirst (n + 0xF0) = ([], some ⟨3, least, greatest, n⟩) ∧
      least ≤ second ∧ second ≤ greatest := by
  by_cases hfirst : n = 0
  · exact ⟨0x90, 0xBF, by simp [scanFirst, hfirst], hlong hfirst, htail.2⟩
  · by_cases hlast : n = 4
    · exact ⟨0x80, 0x8F, by simp [scanFirst, hlast], htail.1, hchar hlast⟩
    · have hrange : 1 ≤ n ∧ n ≤ 3 := by omega
      exact ⟨0x80, 0xBF, by simp [scanFirst, hfirst, hrange], htail.1, htail.2⟩

/-- The bytes of a character scan to that character, whatever follows. -/
theorem scanFrom_utf8EncodeChar (c : Char) (rest : List UInt8) :
    scanFrom none (String.utf8EncodeChar c ++ rest) = some c :: scanFrom none rest := by
  have hvalid : c.toNat < 0xD800 ∨ 0xDFFF < c.toNat ∧ c.toNat < 0x110000 := c.valid
  have hof : Char.ofNat c.toNat = c := Char.ofNat_toNat c
  have hval : c.val.toNat = c.toNat := rfl
  rw [String.utf8EncodeChar.eq_def, hval]
  generalize c.toNat = v at hvalid hof
  dsimp only
  split
  · rename_i hone
    rw [List.cons_append, scanFrom_lead (by omega)]
    simp [scanFirst, hone, hof]
  · split
    · have hv : v / 64 * 64 + v % 64 = v := by omega
      rw [List.cons_append, scanFrom_lead (by omega), Nat.mod_eq_of_lt (by omega),
        scanFirst_two (by omega) (by omega), List.cons_append]
      dsimp only
      rw [List.nil_append, scanFrom_tail _ (by omega) (by omega) (by omega), if_pos (by omega), hv,
        hof, List.nil_append]
    · split
      · obtain ⟨least, greatest, hfirst, hlo, hhi⟩ :=
          scanFirst_three (v / 4096 % 16) (v / 64 % 64 + 0x80) (by omega) (by omega) (by omega)
            (by omega)
        have hv : (v / 4096 % 16 * 64 + v / 64 % 64) * 64 + v % 64 = v := by omega
        rw [List.cons_append, scanFrom_lead (by omega), hfirst, List.cons_append, List.cons_append]
        dsimp only
        rw [List.nil_append, scanFrom_tail _ (by omega) hlo hhi, if_neg (by omega),
          scanFrom_tail _ (by omega) (by omega) (by omega), if_pos (by omega), hv, hof,
          List.nil_append]
      · obtain ⟨least, greatest, hfirst, hlo, hhi⟩ :=
          scanFirst_four (v / 262144 % 8) (v / 4096 % 64 + 0x80) (by omega) (by omega) (by omega)
            (by omega)
        have hv : ((v / 262144 % 8 * 64 + v / 4096 % 64) * 64 + v / 64 % 64) * 64 + v % 64 = v := by
          omega
        rw [List.cons_append, scanFrom_lead (by omega), hfirst, List.cons_append, List.cons_append,
          List.cons_append]
        dsimp only
        rw [List.nil_append, scanFrom_tail _ (by omega) hlo hhi, if_neg (by omega),
          scanFrom_tail _ (by omega) (by omega) (by omega), if_neg (by omega),
          scanFrom_tail _ (by omega) (by omega) (by omega), if_pos (by omega), hv, hof,
          List.nil_append]

/-- The bytes of a text scan to its characters, without an ill-formed run. -/
theorem scan_encode (text : String) : scan (encode text) = text.toList.map some := by
  rw [scan, encode]
  induction text.toList with
  | nil => rfl
  | cons c rest ih => rw [List.flatMap_cons, scanFrom_utf8EncodeChar, ih, List.map_cons]

/-- Nothing is replaced in the bytes of a text. -/
theorem decodeLossy_encode (text : String) : decodeLossy (encode text) = text := by
  simp [decodeLossy, scan_encode, Function.comp_def]

/-- What is written is read back. -/
theorem decode?_encode (text : String) : decode? (encode text) = some text := by
  have hsome : ∀ cs : List Char, (cs.map some).mapM id = some cs := by
    intro cs
    induction cs with
    | nil => rfl
    | cons c rest ih => simp [ih]
  simp [decode?, scan_encode, hsome]

end HostProfile.Text
