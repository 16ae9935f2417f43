import RemoteCall.Proofs.Settings.Restoring
import RemoteCall.Settings.Reading
import RemoteCall.Settings.Validation
import RemoteCall.Settings.Writing

/-! Sections of settings are read back from the entries that they are written as. -/

namespace RemoteCall

open Toml RecordField

variable {number : UInt64} {scalar : Scalar} {entries : List (String × Scalar)}

namespace Duration

variable {span : Duration}

/-- Whole milliseconds beyond whole seconds are less than a second. -/
theorem roundedDown_lt (nanoseconds : Fin 1000000000) :
    (nanoseconds : Nat) / 1000000 * 1000000 < 1000000000 :=
  Nat.lt_of_le_of_lt (Nat.div_mul_le_self _ _) nanoseconds.isLt

/-- A span of time without what it has beyond whole milliseconds. -/
def inMilliseconds (span : Duration) : Duration :=
  ⟨span.seconds, ⟨span.nanoseconds / 1000000 * 1000000, roundedDown_lt span.nanoseconds⟩⟩

/-- The count of milliseconds as it is written, which wraps around past sixty-four bits. -/
def word (span : Duration) : UInt64 := span.toMilliseconds.toUInt64

/-- The seconds of a span are whole milliseconds. -/
theorem seconds_inMilliseconds (span : Duration) :
    span.inMilliseconds.seconds = span.seconds := by
  -- Unfolded first, or else the kernel would go on to compare the two spans as a whole.
  rw [inMilliseconds]

/-- What a span has beyond whole milliseconds is taken from its nanoseconds. -/
theorem nanoseconds_inMilliseconds (span : Duration) :
    (span.inMilliseconds.nanoseconds : Nat) = span.nanoseconds / 1000000 * 1000000 := by
  rw [inMilliseconds]

/-- A span has as many milliseconds without what it has beyond them. -/
theorem toMilliseconds_inMilliseconds (span : Duration) :
    span.inMilliseconds.toMilliseconds = span.toMilliseconds := by
  rw [toMilliseconds, toMilliseconds, seconds_inMilliseconds, nanoseconds_inMilliseconds]
  omega

/-- A span of less than a millisecond becomes no time at all. -/
theorem isZero_inMilliseconds (span : Duration) :
    span.inMilliseconds.isZero = decide (span.toMilliseconds = 0) := by
  rw [Bool.eq_iff_iff, decide_eq_true_iff, isZero, beq_iff_eq, toNanoseconds, toMilliseconds,
    seconds_inMilliseconds, nanoseconds_inMilliseconds]
  omega

/-- A span of whole milliseconds stays as it is. -/
theorem inMilliseconds_of_whole (whole : (span.nanoseconds : Nat) % 1000000 = 0) :
    span.inMilliseconds = span := by
  have rounded : span.inMilliseconds.nanoseconds = span.nanoseconds := by
    rw [Fin.ext_iff, nanoseconds_inMilliseconds]
    exact Nat.div_mul_cancel (Nat.dvd_of_mod_eq_zero whole)
  exact congrArg (mk span.seconds) rounded

/-- Counting the milliseconds of a span drops what it has beyond them, and nothing else. -/
theorem ofMilliseconds_word (fits : span.toMilliseconds < UInt64.size) :
    ofMilliseconds span.word = span.inMilliseconds := by
  have count : span.word.toNat = span.toMilliseconds := Nat.mod_eq_of_lt fits
  have parts : span.toMilliseconds / 1000 = span.seconds.toNat ∧
      span.toMilliseconds % 1000 = span.nanoseconds / 1000000 := by
    have below : (span.nanoseconds : Nat) / 1000000 < 1000 := by omega
    unfold toMilliseconds
    omega
  have seconds : span.word / 1000 = span.seconds := by
    rw [← UInt64.toNat_inj, UInt64.toNat_div, count]
    exact parts.1
  have nanoseconds : Fin.ofNat 1000000000 (span.nanoseconds / 1000000 * 1000000) =
      span.inMilliseconds.nanoseconds :=
    Fin.ext (Nat.mod_eq_of_lt (roundedDown_lt span.nanoseconds))
  rw [ofMilliseconds, seconds, count, parts.2, nanoseconds]
  rfl

end Duration

/-- A number is written where it fits a signed word. -/
theorem writtenWord_eq_ok_iff :
    writtenWord number = .ok scalar ↔
      number < 0x8000000000000000 ∧ scalar = .integer number.toInt64 := by
  unfold writtenWord
  split
  · next fits => simp [fits, eq_comm]
  · next fits => simp [fits]

/-- A span of time is written as its count of milliseconds. -/
theorem Duration.written_eq_ok_iff {span : Duration} :
    span.written = .ok scalar ↔
      span.word < 0x8000000000000000 ∧ scalar = .integer span.word.toInt64 :=
  writtenWord_eq_ok_iff

/-- The entry of something that may be missing. -/
def optionalEntry {α : Type} (key : String) (write : α → Scalar) (content : Option α) :
    List (String × Scalar) :=
  (content.map fun present => (key, write present)).toList

/-- Something that may be missing is written where what there is of it fits. -/
theorem writtenOption_eq_ok_iff {α : Type} {key : String} {write : α → Except Failure Scalar}
    {scalarOf : α → Scalar} {fits : α → Prop} {content : Option α}
    (writes : ∀ present written,
      write present = .ok written ↔ fits present ∧ written = scalarOf present) :
    writtenOption key write content = .ok entries ↔
      (∀ present ∈ content, fits present) ∧ entries = optionalEntry key scalarOf content := by
  cases content with
  | none => simp [writtenOption, optionalEntry, eq_comm]
  | some present =>
    simp only [writtenOption, except_bind_eq_ok_iff, writes]
    constructor
    · rintro ⟨_, ⟨presentFits, rfl⟩, ⟨⟩⟩
      exact ⟨by simpa using presentFits, rfl⟩
    · rintro ⟨presentFits, rfl⟩
      exact ⟨_, ⟨presentFits present rfl, rfl⟩, rfl⟩

/-- A number that may be missing is written where it fits a signed word. -/
theorem writtenOption_word_eq_ok_iff {key : String} {content : Option UInt64} :
    writtenOption key writtenWord content = .ok entries ↔
      (∀ present ∈ content, present < 0x8000000000000000) ∧
        entries = optionalEntry key (fun present => .integer present.toInt64) content :=
  writtenOption_eq_ok_iff fun _ _ => writtenWord_eq_ok_iff

/-- A text that may be missing is always written. -/
theorem writtenOption_text_eq_ok_iff {α : Type} {key : String} {content : Option α}
    {textOf : α → String} :
    writtenOption key (fun present => .ok (.string (textOf present))) content = .ok entries ↔
      entries = optionalEntry key (fun present => .string (textOf present)) content := by
  have always (present : α) (written : Scalar) :
      (.ok (.string (textOf present)) : Except Failure Scalar) = .ok written ↔
        True ∧ written = .string (textOf present) := by
    simp [eq_comm]
  rw [writtenOption_eq_ok_iff always]
  simp

namespace Reading

/-- A number that fits a signed word is read back. -/
theorem word_toInt64 (fits : number < 0x8000000000000000) (expected : String) :
    word expected (.integer number.toInt64) = .ok number := by
  have positive : ¬ number.toInt64 < 0 := by
    have small : 2 * number.toBitVec.toNat < 2 ^ 64 := by
      have below : number.toBitVec.toNat < 9223372036854775808 := UInt64.lt_iff_toNat_lt.mp fits
      omega
    have same : number.toInt64.toInt = number.toNat := BitVec.toInt_eq_toNat_of_lt small
    rw [Int64.lt_iff_toInt_lt, same, Int64.toInt_zero]
    omega
  simp [word, positive]

/-- A span of time is read back in whole milliseconds. -/
theorem duration_word {span : Duration} (small : span.word < 0x8000000000000000)
    (fits : span.toMilliseconds < UInt64.size) :
    duration (.integer span.word.toInt64) = .ok span.inMilliseconds := by
  rw [duration, word_toInt64 small]
  exact congrArg Except.ok (Duration.ofMilliseconds_word fits)

/-- A level is read back from its name. -/
theorem level_name (level : LogLevel) : Reading.level (.string level.name) = .ok level := by
  have named : LogLevel.ofText? level.name = some level := by
    cases level <;> decide +kernel
  simp [Reading.level, Reading.string, named, pure, bind, Except.pure, Except.bind]

/-- A content encoding is read back from its name. -/
theorem compression_name (kind : Compression) : compression (.string kind.name) = .ok kind := by
  cases kind <;> rfl

end Reading

/-- Entries as a table. -/
def valued (entries : List (String × Scalar)) : Table :=
  entries.map fun entry => (entry.1, entry.2.toValue)

/-- Entries one after the other make one table. -/
theorem valued_append (first second : List (String × Scalar)) :
    valued (first ++ second) = valued first ++ valued second :=
  List.map_append

/-- The entry of something that may be missing makes a table of at most one entry. -/
theorem valued_optionalEntry {α : Type} (key : String) (write : α → Scalar) (content : Option α) :
    valued (optionalEntry key write content) =
      (content.map fun present => (key, (write present).toValue)).toList := by
  cases content <;> rfl

namespace ServerSettings

variable {settings : ServerSettings}

/-- The settings of a server are written where their numbers fit. -/
theorem entries_eq_ok_iff :
    settings.entries = .ok entries ↔
      settings.maxConnections < 0x8000000000000000 ∧
      settings.shutdownTimeout.word < 0x8000000000000000 ∧
      entries = [("address", .string settings.address)] ++
        optionalEntry "host_label" .string settings.hostLabel ++
        [("max_connections", .integer settings.maxConnections.toInt64),
          ("shutdown_timeout", .integer settings.shutdownTimeout.word.toInt64)] := by
  simp only [ServerSettings.entries, except_bind_eq_ok_iff, writtenWord_eq_ok_iff,
    Duration.written_eq_ok_iff, writtenOption_text_eq_ok_iff]
  constructor
  · rintro ⟨_, rfl, _, ⟨connections, rfl⟩, _, ⟨timeout, rfl⟩, ⟨⟩⟩
    exact ⟨connections, timeout, rfl⟩
  · rintro ⟨connections, timeout, rfl⟩
    exact ⟨_, rfl, _, ⟨connections, rfl⟩, _, ⟨timeout, rfl⟩, rfl⟩

/-- The settings with all spans of time in whole milliseconds. -/
def inMilliseconds (settings : ServerSettings) : ServerSettings :=
  { settings with shutdownTimeout := settings.shutdownTimeout.inMilliseconds }

/-- The settings of a server are read back from their entries. -/
theorem restores_entries (written : settings.entries = .ok entries)
    (fits : settings.shutdownTimeout.toMilliseconds < UInt64.size) :
    Restores fields {} (valued entries) settings.inMilliseconds := by
  obtain ⟨connections, timeout, rfl⟩ := entries_eq_ok_iff.mp written
  simp only [valued_append, valued_optionalEntry, List.append_assoc]
  refine .required rfl ?_
  refine .optional (fun _ _ => rfl) ?_
  refine .required (Reading.word_toInt64 connections _) ?_
  refine .required (Reading.duration_word timeout fits) ?_
  -- A label that is missing stays so, as that is its default.
  obtain ⟨_, hostLabel, _, _⟩ := settings
  cases hostLabel <;> exact .done

/-- The problems of a server are the same for its settings in whole milliseconds. -/
theorem problems_inMilliseconds (settings : ServerSettings) :
    settings.inMilliseconds.problems = settings.problems := by
  obtain ⟨address, hostLabel, maxConnections, timeout⟩ := settings
  change problems ⟨address, hostLabel, maxConnections, timeout.inMilliseconds⟩ = _
  simp only [problems, Duration.seconds_inMilliseconds]

/-- A server without problems takes a minute at most to shut down. -/
theorem shutdownTimeout_le (sound : settings.problems = []) :
    settings.shutdownTimeout.seconds ≤ 60 := by
  obtain ⟨-, timeout⟩ := List.append_eq_nil_iff.mp sound
  change (if decide (settings.shutdownTimeout.seconds < 1) then [SettingsProblem.shutdownTooShort]
    else if decide (60 < settings.shutdownTimeout.seconds) then [SettingsProblem.shutdownTooLong]
    else []) = [] at timeout
  split at timeout
  · cases timeout
  · split at timeout
    · cases timeout
    · next notLong => simpa using notLong

end ServerSettings

namespace ClientSettings

variable {settings : ClientSettings}

/-- The settings of a caller are written where their numbers fit. -/
theorem entries_eq_ok_iff :
    settings.entries = .ok entries ↔
      settings.connectionTimeout.word < 0x8000000000000000 ∧
      settings.responseTimeout.word < 0x8000000000000000 ∧
      settings.slowCallThreshold.word < 0x8000000000000000 ∧
      entries = [("http_server", .string settings.httpServer),
        ("localization_server", .string settings.localizationServer),
        ("endpoint_path", .string settings.endpointPath),
        ("connection_timeout", .integer settings.connectionTimeout.word.toInt64),
        ("response_timeout", .integer settings.responseTimeout.word.toInt64),
        ("slow_call_threshold", .integer settings.slowCallThreshold.word.toInt64)] := by
  simp only [ClientSettings.entries, except_bind_eq_ok_iff, Duration.written_eq_ok_iff]
  constructor
  · rintro ⟨_, ⟨connection, rfl⟩, _, ⟨response, rfl⟩, _, ⟨slow, rfl⟩, ⟨⟩⟩
    exact ⟨connection, response, slow, rfl⟩
  · rintro ⟨connection, response, slow, rfl⟩
    exact ⟨_, ⟨connection, rfl⟩, _, ⟨response, rfl⟩, _, ⟨slow, rfl⟩, rfl⟩

/-- The spans of time among the settings. -/
def spans (settings : ClientSettings) : List Duration :=
  [settings.connectionTimeout, settings.responseTimeout, settings.slowCallThreshold]

/-- The settings with all spans of time in whole milliseconds. -/
def inMilliseconds (settings : ClientSettings) : ClientSettings :=
  { settings with
    connectionTimeout := settings.connectionTimeout.inMilliseconds
    responseTimeout := settings.responseTimeout.inMilliseconds
    slowCallThreshold := settings.slowCallThreshold.inMilliseconds }

/-- The settings of a caller are read back from their entries. -/
theorem restores_entries (written : settings.entries = .ok entries)
    (fits : ∀ span ∈ settings.spans, span.toMilliseconds < UInt64.size) :
    Restores fields {} (valued entries) settings.inMilliseconds := by
  obtain ⟨connection, response, slow, rfl⟩ := entries_eq_ok_iff.mp written
  refine .required rfl ?_
  refine .required rfl ?_
  refine .required rfl ?_
  refine .required (Reading.duration_word connection (fits _ (by simp [spans]))) ?_
  refine .required (Reading.duration_word response (fits _ (by simp [spans]))) ?_
  refine .required (Reading.duration_word slow (fits _ (by simp [spans]))) ?_
  exact .done

/-- The only problem that whole milliseconds make is a threshold of less than one of them. -/
theorem problems_inMilliseconds (sound : settings.problems = []) :
    settings.inMilliseconds.problems =
      if settings.slowCallThreshold.toMilliseconds = 0 then [.slowThresholdZero] else [] := by
  obtain ⟨http, localization, path, connection, response, slow⟩ := settings
  obtain ⟨others, -⟩ := List.append_eq_nil_iff.mp sound
  dsimp only at others
  change problems ⟨http, localization, path, connection.inMilliseconds, response.inMilliseconds,
    slow.inMilliseconds⟩ = _
  simp only [problems, Duration.toMilliseconds_inMilliseconds, Duration.isZero_inMilliseconds]
  rw [others, List.nil_append]
  change (if decide (slow.toMilliseconds = 0) then _ else _) = _
  simp only [decide_eq_true_eq]
  rfl

end ClientSettings

namespace TransportSettings

variable {settings : TransportSettings}

/-- The settings for bodies are written where their numbers fit. -/
theorem entries_eq_ok_iff :
    settings.entries = .ok entries ↔
      (∀ rate ∈ settings.rateLimit, rate < 0x8000000000000000) ∧
      (∀ burst ∈ settings.rateLimitBurst, burst < 0x8000000000000000) ∧
      entries = [("stream_requests", .boolean settings.streamRequests)] ++
        optionalEntry "compression" (fun kind => .string kind.name) settings.compression ++
        optionalEntry "rate_limit_bytes_per_sec" (fun rate => .integer rate.toInt64)
          settings.rateLimit ++
        optionalEntry "rate_limit_burst" (fun burst => .integer burst.toInt64)
          settings.rateLimitBurst := by
  simp only [TransportSettings.entries, except_bind_eq_ok_iff, writtenOption_text_eq_ok_iff,
    writtenOption_word_eq_ok_iff]
  constructor
  · rintro ⟨_, rfl, _, ⟨rate, rfl⟩, _, ⟨burst, rfl⟩, ⟨⟩⟩
    exact ⟨rate, burst, rfl⟩
  · rintro ⟨rate, burst, rfl⟩
    exact ⟨_, rfl, _, ⟨rate, rfl⟩, _, ⟨burst, rfl⟩, rfl⟩

/-- The settings for bodies are read back from their entries. -/
theorem restores_entries (written : settings.entries = .ok entries) :
    Restores fields {} (valued entries) settings := by
  obtain ⟨rate, burst, rfl⟩ := entries_eq_ok_iff.mp written
  rw [← List.append_nil (_ ++ optionalEntry "rate_limit_burst" _ _)]
  simp only [valued_append, valued_optionalEntry, List.append_assoc]
  refine .required rfl ?_
  refine .optional (fun kind _ => Reading.compression_name kind) ?_
  refine .optional (fun present member => Reading.word_toInt64 (rate present member) _) ?_
  refine .optional (fun present member => Reading.word_toInt64 (burst present member) _) ?_
  -- What is missing stays so, as that is its default.
  obtain ⟨_, compression, rateLimit, rateLimitBurst⟩ := settings
  cases compression <;> cases rateLimit <;> cases rateLimitBurst <;> exact .done

end TransportSettings

/-- The settings for logs are read back from their entries. -/
theorem LoggingSettings.restores_entries (settings : LoggingSettings) :
    Restores fields {} (valued settings.entries) settings := by
  refine .required rfl ?_
  refine .required (Reading.level_name settings.level) ?_
  refine .required rfl ?_
  exact .done

end RemoteCall
