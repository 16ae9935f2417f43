import Mathlib.Tactic.IntervalCases
import RemoteCall.Proofs.Bytes

/-! What the fixed part of a header tells, and why it may be refused. -/

namespace RemoteCall.Header

/-- The checks of a header in their order: its magic, its version, and the bits of its flags. -/
theorem ofBytes_of_octets {bytes : Bytes} {version flags high low : UInt8}
    (octets : bytes.drop 4 = [version, flags, high, low]) :
    ofBytes bytes =
      if bytes.take 4 ≠ frameMagic then .error .invalidHeader
      else if version ≠ wireVersion then .error (.unsupportedVersion version)
      else if 8 ≤ flags then .error .invalidHeader
      else (Compression.ofFlag (flags % 4)).map fun compression =>
        { compression, chunked := 4 ≤ flags, pathLength := Bytes.toNatBE [high, low] } := by
  rw [ofBytes, octets]
  -- The first check that fails ends the reading, and those behind it are not made.
  by_cases magic : bytes.take 4 = frameMagic
  · by_cases known : version = wireVersion
    · by_cases meaning : 8 ≤ flags
      · simp [magic, known, meaning]
        rfl
      · simp only [magic, known, meaning]
        rfl
    · simp [magic, known]
      rfl
  · simp [magic]
    rfl

/-- Flag bits that all have a meaning are spelled again as they were read. -/
theorem flags_ofFlag {flags : UInt8} (meaning : ¬ 8 ≤ flags) :
    ((Compression.ofFlag (flags % 4)).map fun compression =>
      Header.flags compression (4 ≤ flags)) = .ok flags := by
  rw [UInt8.le_iff_toNat_le, Nat.not_le] at meaning
  -- There are eight of them.
  have eight : ∀ number < 8,
      ((Compression.ofFlag (UInt8.ofNat number % 4)).map fun compression =>
        Header.flags compression (4 ≤ UInt8.ofNat number)) = .ok (UInt8.ofNat number) := by
    intro number small
    interval_cases number <;> rfl
  simpa using eight flags.toNat meaning

/-- A header that is understood is spelled by what it tells. -/
theorem eq_of_ofBytes {bytes : Bytes} {header : Header} (told : ofBytes bytes = .ok header) :
    header.pathLength < 256 ^ 2 ∧
      bytes = frameMagic ++ [wireVersion, Header.flags header.compression header.chunked]
        ++ Bytes.ofNatBE 2 header.pathLength := by
  -- Anything else than four octets behind the magic is no header.
  rcases octets : bytes.drop 4 with _ | ⟨version, _ | ⟨flags, _ | ⟨high, _ | ⟨low, _ | _⟩⟩⟩⟩
  case cons.cons.cons.cons.nil =>
    rw [ofBytes_of_octets octets] at told
    -- None of the three checks failed.
    by_cases magic : bytes.take 4 = frameMagic
    · by_cases known : version = wireVersion
      · by_cases meaning : 8 ≤ flags
        · simp [magic, known, meaning] at told
        · have again := flags_ofFlag meaning
          cases coding : Compression.ofFlag (flags % 4) with
          | error failure => simp [magic, known, meaning, coding, Except.map] at told
          | ok compression =>
            simp only [magic, known, meaning, coding, Except.map, ne_eq, not_true_eq_false,
              if_false, Except.ok.injEq] at told again
            subst told
            have length := Bytes.ofNatBE_toNatBE [high, low]
            refine ⟨Bytes.toNatBE_lt [high, low], ?_⟩
            rw [← List.take_append_drop 4 bytes, magic, octets, known, again]
            rw [List.length_cons, List.length_singleton] at length
            rw [length]
            rfl
      · simp [magic, known] at told
    · simp [magic] at told
  all_goals simp [ofBytes, octets] at told

end RemoteCall.Header
