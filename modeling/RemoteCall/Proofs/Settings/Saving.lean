import RemoteCall.Proofs.Settings.Entries
import RemoteCall.Proofs.Toml.Sections

/-! What is left of settings that are written to a document and read back. -/

namespace RemoteCall

open Toml RecordField

/-- The names of fields are different from one another, and need no quotes. -/
def Named {ρ : Type} (fields : List (RecordField ρ)) : Prop :=
  (fields.map RecordField.name).Nodup ∧ ∀ name ∈ fields.map RecordField.name, IsBare name

instance {ρ : Type} (fields : List (RecordField ρ)) : Decidable (Named fields) :=
  inferInstanceAs (Decidable (_ ∧ _))

/-- So are the keys of entries that fields are set from. -/
theorem Named.keys {ρ : Type} {fields : List (RecordField ρ)} {record after : ρ}
    {entries : List (String × Scalar)} (named : Named fields)
    (restores : Restores fields record (valued entries) after) :
    (entries.map Prod.fst).Nodup ∧ ∀ entry ∈ entries, IsBare entry.1 := by
  have keys : (valued entries).map Prod.fst = entries.map Prod.fst := by
    simp [valued]
  have sublist := restores.keys_sublist
  rw [keys] at sublist
  exact ⟨named.1.sublist sublist,
    fun entry member => named.2 _ (sublist.mem (List.mem_map_of_mem member))⟩

namespace Settings

variable {settings : Settings} {sections : Sections} {text : String} {format : Format}

/-- The spans of time among the settings. -/
def spans (settings : Settings) : List Duration :=
  settings.server.shutdownTimeout :: settings.client.spans

/-- The settings with all spans of time in whole milliseconds. -/
def inMilliseconds (settings : Settings) : Settings :=
  { settings with
    server := settings.server.inMilliseconds
    client := settings.client.inMilliseconds }

/-- The sections of settings need no quotes, and restore all but fractions of milliseconds. -/
theorem restores_toSections (made : settings.toSections = .ok sections)
    (fits : ∀ span ∈ settings.spans, span.toMilliseconds < UInt64.size) :
    sections.Plain ∧ Restores fields {} sections.toTable settings.inMilliseconds := by
  obtain ⟨serverEntries, writtenServer, made⟩ := except_bind_eq_ok_iff.mp made
  obtain ⟨clientEntries, writtenClient, made⟩ := except_bind_eq_ok_iff.mp made
  obtain ⟨transportEntries, writtenTransport, made⟩ := except_bind_eq_ok_iff.mp made
  have server := ServerSettings.restores_entries writtenServer (fits _ List.mem_cons_self)
  have client := ClientSettings.restores_entries writtenClient
    fun span member => fits span (List.mem_cons_of_mem _ member)
  have transport := TransportSettings.restores_entries writtenTransport
  have logging := settings.logging.restores_entries
  have serverKeys := Named.keys (by decide) server
  have clientKeys := Named.keys (by decide) client
  have transportKeys := Named.keys (by decide) transport
  have loggingKeys := Named.keys (by decide) logging
  obtain rfl : [("server", serverEntries), ("client", clientEntries),
      ("transport", transportEntries), ("logging", settings.logging.entries)] = sections :=
    Except.ok.inj made
  constructor
  · have bare : ∀ name ∈ ["server", "client", "transport", "logging"], IsBare name := by decide
    constructor
    case bareNames => simpa using bare
    case bareKeys =>
      simp only [List.forall_mem_cons]
      exact ⟨serverKeys.2, clientKeys.2, transportKeys.2, loggingKeys.2, by simp⟩
    case distinctNames => simp
    case distinctKeys =>
      simp only [List.forall_mem_cons]
      exact ⟨serverKeys.1, clientKeys.1, transportKeys.1, loggingKeys.1, by simp⟩
  · refine .present (server.readTable (by decide)) ?_
    refine .present (client.readTable (by decide)) ?_
    refine .present (transport.readTable (by decide)) ?_
    refine .present (logging.readTable (by decide)) ?_
    exact .done

/-- Settings that are written are read back in whole milliseconds. -/
theorem ofText_of_toText (lossless : format.RoundTrips)
    (written : settings.toText format = .ok text)
    (fits : ∀ span ∈ settings.spans, span.toMilliseconds < UInt64.size) :
    ofText text format = .ok settings.inMilliseconds := by
  obtain ⟨sections, made, written⟩ := except_bind_eq_ok_iff.mp written
  obtain rfl : format.write sections = text := Except.ok.inj written
  obtain ⟨plain, restores⟩ := restores_toSections made fits
  have read : ofTable sections.toTable = .ok settings.inMilliseconds :=
    restores.readTable (by decide)
  unfold ofText
  rw [lossless sections plain]
  exact congrArg (Except.mapError _) read

/-- Settings whose spans of time are whole milliseconds stay as they are. -/
theorem inMilliseconds_of_whole
    (whole : ∀ span ∈ settings.spans, (span.nanoseconds : Nat) % 1000000 = 0) :
    settings.inMilliseconds = settings := by
  obtain ⟨⟨_, _, _, shutdown⟩, ⟨_, _, _, connection, response, slow⟩, _, _⟩ := settings
  have shutdownWhole := Duration.inMilliseconds_of_whole (whole shutdown (by simp [spans]))
  have connectionWhole :=
    Duration.inMilliseconds_of_whole (whole connection (by simp [spans, ClientSettings.spans]))
  have responseWhole :=
    Duration.inMilliseconds_of_whole (whole response (by simp [spans, ClientSettings.spans]))
  have slowWhole :=
    Duration.inMilliseconds_of_whole (whole slow (by simp [spans, ClientSettings.spans]))
  simp only [inMilliseconds, ServerSettings.inMilliseconds, ClientSettings.inMilliseconds,
    shutdownWhole, connectionWhole, responseWhole, slowWhole]

/-- Settings have no problems if no section has any. -/
theorem problems_eq_nil_iff :
    settings.problems = [] ↔ settings.server.problems = [] ∧ settings.client.problems = [] ∧
      settings.transport.problems = [] ∧ settings.logging.problems = [] := by
  simp only [problems, List.append_eq_nil_iff, and_assoc]

/-- The only problem that whole milliseconds make is a threshold of less than one of them. -/
theorem problems_inMilliseconds (sound : settings.problems = []) :
    settings.inMilliseconds.problems =
      if settings.client.slowCallThreshold.toMilliseconds = 0 then [.slowThresholdZero]
      else [] := by
  obtain ⟨server, client, transport, logging⟩ := settings
  obtain ⟨noServer, noClient, noTransport, noLogging⟩ := problems_eq_nil_iff.mp sound
  have serverToo := (ServerSettings.problems_inMilliseconds server).trans noServer
  have clientToo := ClientSettings.problems_inMilliseconds noClient
  change problems ⟨server.inMilliseconds, client.inMilliseconds, transport, logging⟩ = _
  simp only [problems, serverToo, clientToo, noTransport, noLogging, List.nil_append,
    List.append_nil]

/--
Settings without problems are read back from the document that they are written to.

The format of documents has to give back what is written in it. Only what their spans of time have
beyond whole milliseconds is lost, which is a problem just where nothing is left of the least time
of a slow call. No span may have so many milliseconds that their count would wrap around; that of
the shutdown has a minute at most.
-/
theorem ofText_toText (lossless : format.RoundTrips) (sound : settings.problems = [])
    (fits : ∀ span ∈ settings.client.spans, span.toMilliseconds < UInt64.size)
    (written : settings.toText format = .ok text) :
    ∃ reread, ofText text format = .ok reread ∧ reread = settings.inMilliseconds ∧
      ((∀ span ∈ settings.spans, (span.nanoseconds : Nat) % 1000000 = 0) → reread = settings) ∧
      reread.problems =
        if settings.client.slowCallThreshold.toMilliseconds = 0 then [.slowThresholdZero]
        else [] := by
  have fitsToo : ∀ span ∈ settings.spans, span.toMilliseconds < UInt64.size := by
    intro span member
    rcases List.mem_cons.mp member with rfl | member
    · obtain ⟨noServer, -⟩ := problems_eq_nil_iff.mp sound
      have atMost : settings.server.shutdownTimeout.seconds.toNat ≤ 60 :=
        UInt64.le_iff_toNat_le.mp (ServerSettings.shutdownTimeout_le noServer)
      have below := settings.server.shutdownTimeout.nanoseconds.isLt
      unfold Duration.toMilliseconds UInt64.size
      omega
    · exact fits span member
  exact ⟨settings.inMilliseconds, ofText_of_toText lossless written fitsToo, rfl,
    inMilliseconds_of_whole, problems_inMilliseconds sound⟩

end Settings

namespace Sample

open Settings

/-- Settings without problems whose spans of time are not all whole milliseconds. -/
def fractionalSettings : Settings where
  server := {
    address := "[::1]:9581"
    hostLabel := some "it's\n\"home\"\\"
    shutdownTimeout := ⟨2, ⟨999999, by decide⟩⟩ }
  client := {
    responseTimeout := ⟨0, ⟨100000001, by decide⟩⟩
    slowCallThreshold := ⟨0, ⟨1999999, by decide⟩⟩ }
  transport := { compression := some .zstd, rateLimit := some 1000, rateLimitBurst := some 64 }
  logging := { level := .trace, jsonFormat := true }

/-- These settings lose the fractions of their milliseconds, and the default ones lose nothing. -/
theorem ofText_toText_fractional :
    Format.standard.RoundTrips ∧
    (∃ text reread, fractionalSettings.toText = .ok text ∧ ofText text = .ok reread ∧
      reread = fractionalSettings.inMilliseconds ∧ reread.problems = []) ∧
    ∃ text reread, ({} : Settings).toText = .ok text ∧ ofText text = .ok reread ∧
      reread = {} ∧ reread.problems = [] := by
  refine ⟨Format.standard_roundTrips, ?_, ?_⟩
  · obtain ⟨reread, read, rounded, -, problems⟩ :=
      @ofText_toText fractionalSettings _ _ Format.standard_roundTrips (by decide +kernel)
        (by decide +kernel) rfl
    exact ⟨_, reread, rfl, read, rounded, problems.trans (if_neg (by decide +kernel))⟩
  · obtain ⟨reread, read, -, same, problems⟩ :=
      @ofText_toText {} _ _ Format.standard_roundTrips (by decide +kernel) (by decide +kernel) rfl
    exact ⟨_, reread, rfl, read, same (by decide +kernel),
      problems.trans (if_neg (by decide +kernel))⟩

/-- Settings without problems that take any call of a nanosecond for a slow one. -/
def fleetingSettings : Settings where
  client := { slowCallThreshold := ⟨0, ⟨1, by decide⟩⟩ }

/-- Settings without problems that take no call for a slow one in hundreds of millions of years. -/
def patientSettings : Settings where
  client := { slowCallThreshold := .ofSeconds 18446744073709552 }

/-- The patient settings are written as these ones, as the count of milliseconds wraps around. -/
def hastySettings : Settings where
  client := { slowCallThreshold := .ofMilliseconds 384 }

/--
Settings are read back with a threshold of no time, which is a problem, or of much less time.

The first one has only a fraction of a millisecond, and the other one more than a word can count.
-/
theorem ofText_toText_fleeting :
    (fleetingSettings.problems = [] ∧
      ∃ text reread, fleetingSettings.toText = .ok text ∧ ofText text = .ok reread ∧
        reread ≠ fleetingSettings ∧ reread.problems = [.slowThresholdZero]) ∧
    patientSettings.problems = [] ∧
      ∃ text, patientSettings.toText = .ok text ∧ ofText text = .ok hastySettings ∧
        hastySettings ≠ patientSettings := by
  constructor
  · have sound : fleetingSettings.problems = [] := by decide +kernel
    have read := @ofText_of_toText fleetingSettings _ _ Format.standard_roundTrips rfl
      (by decide +kernel)
    have problems := (problems_inMilliseconds sound).trans (if_pos (by decide +kernel))
    exact ⟨sound, _, _, rfl, read, by decide, problems⟩
  · -- Both settings are written as the same document.
    have same : patientSettings.toText = hastySettings.toText := rfl
    have read := @ofText_of_toText hastySettings _ _ Format.standard_roundTrips rfl
      (by decide +kernel)
    exact ⟨by decide +kernel, _, same.trans rfl, read, by decide⟩

end Sample

end RemoteCall
