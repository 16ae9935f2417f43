import RemoteCall.Compression.Delivery

/-! Collecting reads under a ceiling comes to what happens first: an end, an error or an excess. -/

namespace RemoteCall

namespace ReadResults

variable {results other : ReadResults} {ceiling next : Nat} {collected : Gathered}
  {pieces : List Bytes} {piece : Bytes}

/-- The first reads give these pieces, and none of them is the end. -/
inductive Begins (results : ReadResults) : List Bytes → Prop where
  | start : Begins results []
  | read {pieces : List Bytes} {piece : Bytes} (before : Begins results pieces)
      (given : results pieces.length = .ok piece) (more : piece ≠ []) :
      Begins results (pieces ++ [piece])

/-- What the reads come to under a ceiling, whichever of three things is the first to happen. -/
inductive Decided (results : ReadResults) (ceiling : Nat) : Except Failure Bytes → Prop where
  /-- The reads end, which gives all the bytes. -/
  | ended {pieces : List Bytes} (before : Begins results pieces)
      (within : pieces.flatten.length ≤ ceiling) (last : results pieces.length = .ok []) :
      Decided results ceiling (.ok pieces.flatten)
  /-- A read fails. -/
  | failed {pieces : List Bytes} (before : Begins results pieces)
      (within : pieces.flatten.length ≤ ceiling) (last : results pieces.length = .error ()) :
      Decided results ceiling (.error .decompression)
  /-- A read brings the total above the ceiling; nothing after it is looked at. -/
  | exceeded {pieces : List Bytes} {piece : Bytes} (before : Begins results pieces)
      (within : pieces.flatten.length ≤ ceiling) (last : results pieces.length = .ok piece)
      (above : ceiling < pieces.flatten.length + piece.length) :
      Decided results ceiling (.error
        (.limitExceeded .messageSize ceiling (pieces.flatten.length + piece.length)))

/-- What is held after a piece is what was held before and the piece. -/
theorem size_push {held : Bytes} (before : collected.toBytes = held) (piece : Bytes) :
    (collected.push piece).size = held.length + piece.length := by
  rw [← Gathered.length_toBytes, Gathered.toBytes_push, before, List.length_append]

theorem collectFrom_ended (last : results next = .ok []) :
    results.collectFrom ceiling next collected = .ok collected.toBytes := by
  rw [collectFrom, last]

theorem collectFrom_failed (last : results next = .error ()) :
    results.collectFrom ceiling next collected = .error .decompression := by
  rw [collectFrom, last]

/-- A read that gives something is held, and checked before the next read. -/
theorem collectFrom_read (given : results next = .ok piece) (more : piece ≠ []) :
    results.collectFrom ceiling next collected =
      if ceiling < (collected.push piece).size then
        .error (.limitExceeded .messageSize ceiling (collected.push piece).size)
      else results.collectFrom ceiling (next + 1) (collected.push piece) := by
  cases piece with
  | nil => exact absurd rfl more
  | cons byte piece =>
    rw [collectFrom, given]
    rfl

/-- As long as the total is within the ceiling, collecting goes on with all that was read. -/
theorem Begins.collect_eq (begins : results.Begins pieces)
    (within : pieces.flatten.length ≤ ceiling) :
    ∃ collected : Gathered, collected.toBytes = pieces.flatten ∧
      results.collect ceiling = results.collectFrom ceiling pieces.length collected := by
  induction begins with
  | start => exact ⟨.empty, rfl, rfl⟩
  | @read pieces piece before given more ih =>
    simp only [List.flatten_append, List.flatten_singleton, List.length_append] at within ⊢
    obtain ⟨collected, held, reached⟩ := ih (by omega)
    -- The new piece does not pass the ceiling either, so its check lets it through.
    have allowed : ¬ ceiling < (collected.push piece).size := by
      rw [size_push held]
      omega
    refine ⟨collected.push piece, by rw [Gathered.toBytes_push, held], ?_⟩
    rw [reached, collectFrom_read given more, if_neg allowed]
    rfl

/-- What is decided is what collecting gives. -/
theorem Decided.collect_eq {result : Except Failure Bytes}
    (decided : results.Decided ceiling result) : results.collect ceiling = result := by
  cases decided with
  | ended before within last =>
    obtain ⟨collected, held, reached⟩ := before.collect_eq within
    rw [reached, collectFrom_ended last, held]
  | failed before within last =>
    obtain ⟨collected, held, reached⟩ := before.collect_eq within
    rw [reached, collectFrom_failed last]
  | @exceeded pieces piece before within last above =>
    obtain ⟨collected, held, reached⟩ := before.collect_eq within
    -- An empty piece could not have led from within the ceiling to above it.
    have more : piece ≠ [] := by
      rintro rfl
      simp only [List.length_nil] at above
      omega
    rw [reached, collectFrom_read last more, size_push held, if_pos above]

/-- Collecting from anywhere on comes to a decision. -/
theorem collectFrom_decided (begins : results.Begins pieces) (reached : pieces.length = next)
    (held : collected.toBytes = pieces.flatten) (within : collected.size ≤ ceiling) :
    results.Decided ceiling (results.collectFrom ceiling next collected) := by
  rw [← collected.length_toBytes, held] at within
  -- Every read that goes on adds a piece to those that the reads begin with.
  fun_induction collectFrom results ceiling next collected generalizing pieces with
  | case1 next collected last =>
    subst reached
    exact .failed begins within last
  | case2 next collected last =>
    subst reached
    rw [held]
    exact .ended begins within last
  | case3 next collected byte piece last above =>
    subst reached
    rw [size_push held] at above ⊢
    exact .exceeded begins within last above
  | case4 next collected byte piece given allowed ih =>
    subst reached
    have nextHeld : (collected.push (byte :: piece)).toBytes =
        (pieces ++ [byte :: piece]).flatten := by
      rw [Gathered.toBytes_push, held, List.flatten_append, List.flatten_singleton]
    rw [← Gathered.length_toBytes, nextHeld] at allowed
    exact ih (begins.read given (List.cons_ne_nil _ _)) (by rw [List.length_append]; rfl) nextHeld
      (by omega)

/-- Collecting gives a result exactly when that is decided: there is always one, and only one. -/
theorem collect_eq_iff {result : Except Failure Bytes} :
    results.collect ceiling = result ↔ results.Decided ceiling result := by
  constructor
  · rintro rfl
    exact collectFrom_decided .start rfl rfl (Nat.zero_le ceiling)
  · exact Decided.collect_eq

/-- The reads give these bytes altogether and then end. -/
def Gives (results : ReadResults) (output : Bytes) : Prop :=
  ∃ pieces, results.Begins pieces ∧ results pieces.length = .ok [] ∧ pieces.flatten = output

/-- Collecting succeeds exactly when the reads end with no more than the ceiling allows. -/
theorem collect_eq_ok_iff {output : Bytes} :
    results.collect ceiling = .ok output ↔ results.Gives output ∧ output.length ≤ ceiling := by
  rw [collect_eq_iff]
  constructor
  · rintro ⟨before, within, last⟩
    exact ⟨⟨_, before, last, rfl⟩, within⟩
  · rintro ⟨⟨pieces, before, last, rfl⟩, within⟩
    exact .ended before within last

/-- Reads that give more than the ceiling allows are refused, although they would end well. -/
theorem Gives.refused {output : Bytes} (gives : results.Gives output)
    (above : ceiling < output.length) :
    ∃ actual, ceiling < actual ∧
      results.collect ceiling = .error (.limitExceeded .messageSize ceiling actual) := by
  -- With room for everything the reads are collected, so nothing else can come first.
  have whole {room : Nat} (enough : output.length ≤ room) : results.collect room = .ok output :=
    collect_eq_ok_iff.mpr ⟨gives, enough⟩
  obtain ⟨result, same⟩ : ∃ result, results.collect ceiling = result := ⟨_, rfl⟩
  cases collect_eq_iff.mp same with
  | @ended pieces before within last =>
    have other : results.collect output.length = .ok pieces.flatten :=
      collect_eq_iff.mpr (.ended before (by omega) last)
    cases other.symm.trans (whole (Nat.le_refl _))
    omega
  | failed before within last =>
    have other : results.collect output.length = .error .decompression :=
      collect_eq_iff.mpr (.failed before (by omega) last)
    cases other.symm.trans (whole (Nat.le_refl _))
  | exceeded before within last passed => exact ⟨_, passed, same⟩

/-- Reads that never end or fail are given up above the ceiling. -/
theorem Decided.endless {result : Except Failure Bytes} (decided : results.Decided ceiling result)
    (endless : ∀ index, ∃ piece, results index = .ok piece ∧ piece ≠ []) :
    ∃ actual, ceiling < actual ∧ result = .error (.limitExceeded .messageSize ceiling actual) := by
  cases decided with
  | @ended pieces before within last =>
    obtain ⟨piece, given, more⟩ := endless pieces.length
    exact absurd (Except.ok.inj (given.symm.trans last)) more
  | @failed pieces before within last =>
    obtain ⟨piece, given, more⟩ := endless pieces.length
    cases given.symm.trans last
  | exceeded before within last above => exact ⟨_, above, rfl⟩

/--
What is read after so many reads as the ceiling has bytes does not matter.

Each read that goes on adds a byte at least, so the number of the read is at most what is held.
-/
theorem collectFrom_congr (alike : ∀ index ≤ ceiling, other index = results index)
    (early : next ≤ collected.size) (within : collected.size ≤ ceiling) :
    other.collectFrom ceiling next collected = results.collectFrom ceiling next collected := by
  have same : other next = results next := alike next (by omega)
  fun_induction collectFrom results ceiling next collected with
  | case1 next collected last => exact collectFrom_failed (same.trans last)
  | case2 next collected last => exact collectFrom_ended (same.trans last)
  | case3 next collected byte piece last above =>
    rw [collectFrom_read (same.trans last) (List.cons_ne_nil _ _), if_pos above]
  | case4 next collected byte piece given allowed ih =>
    have size : (collected.push (byte :: piece)).size = piece.length + 1 + collected.size := rfl
    rw [collectFrom_read (same.trans given) (List.cons_ne_nil _ _), if_neg allowed]
    exact ih (by omega) (by omega) (alike _ (by omega))

/-- Collects as before, and tells too how much is held after each read that gives something. -/
def collectHeldFrom (results : ReadResults) (ceiling : Nat) (next : Nat) (collected : Gathered) :
    List Nat × Except Failure Bytes :=
  match results next with
  | .error () => ([], .error .decompression)
  | .ok [] => ([], .ok collected.toBytes)
  | .ok (byte :: piece) =>
    let held := (collected.push (byte :: piece)).size
    if _exceeded : ceiling < held then
      ([held], .error (.limitExceeded .messageSize ceiling held))
    else
      let (later, result) := collectHeldFrom results ceiling (next + 1)
        (collected.push (byte :: piece))
      (held :: later, result)
termination_by ceiling - collected.size
decreasing_by
  simp only [held, Gathered.push, List.length_cons] at *
  omega

/-- Collects everything that the reads give, and tells how much is held on the way. -/
def collectHeld (results : ReadResults) (ceiling : Nat) : List Nat × Except Failure Bytes :=
  results.collectHeldFrom ceiling 0 .empty

/-- Telling what is held changes nothing about the collecting. -/
theorem collectHeldFrom_result (results : ReadResults) (ceiling next : Nat)
    (collected : Gathered) :
    (results.collectHeldFrom ceiling next collected).2 =
      results.collectFrom ceiling next collected := by
  fun_induction collectHeldFrom results ceiling next collected with
  | case1 next collected last => rw [collectFrom_failed last]
  | case2 next collected last => rw [collectFrom_ended last]
  | case3 next collected byte piece last held above =>
    rw [collectFrom_read last (List.cons_ne_nil _ _), if_pos above]
  | case4 next collected byte piece given held allowed later result _ ih =>
    rw [collectFrom_read given (List.cons_ne_nil _ _), if_neg allowed]
    simpa only [*] using ih

/-- From within the ceiling, a short read brings what is held at most so far above it. -/
theorem collectHeldFrom_le (short : results.Short) (within : collected.size ≤ ceiling) :
    ∀ amount ∈ (results.collectHeldFrom ceiling next collected).1,
      amount ≤ ceiling + readSize := by
  fun_induction collectHeldFrom results ceiling next collected with
  | case1 | case2 => simp
  | case3 next collected byte piece last held above =>
    have fits := short next (byte :: piece) last
    have size : held = (byte :: piece).length + collected.size := rfl
    simp only [List.mem_singleton, forall_eq]
    omega
  | case4 next collected byte piece given held allowed later result same ih =>
    intro amount member
    rw [same] at ih
    rcases List.mem_cons.mp member with rfl | member
    · omega
    · exact ih (by omega) amount member

/-- How the result of reads comes about that are collected under a ceiling. -/
structure Metered (results : ReadResults) (ceiling : Nat) (result : Except Failure Bytes) :
    Prop where
  /-- It is what happens first, which always is one thing and only one. -/
  decided : ∀ other, result = other ↔ results.Decided ceiling other
  /-- It does not take more reads than the ceiling has bytes, and the one that decides. -/
  prompt : ∀ other : ReadResults, (∀ index ≤ ceiling, other index = results index) →
    other.collect ceiling = result
  /-- Even when there is always more to read, there is a result. -/
  endless : (∀ index, ∃ piece, results index = .ok piece ∧ piece ≠ []) →
    ∃ actual, ceiling < actual ∧ result = .error (.limitExceeded .messageSize ceiling actual)
  /-- Never is more held than the ceiling and one read together. -/
  held : ∃ amounts, results.collectHeld ceiling = (amounts, result) ∧
    ∀ amount ∈ amounts, amount ≤ ceiling + readSize

/-- Short reads are collected so. -/
theorem Short.metered (short : results.Short) (ceiling : Nat) :
    results.Metered ceiling (results.collect ceiling) where
  decided _ := collect_eq_iff
  prompt _ alike := collectFrom_congr alike (Nat.zero_le _) (Nat.zero_le _)
  endless endless := (collect_eq_iff.mp rfl).endless endless
  held := ⟨_, Prod.ext rfl (collectHeldFrom_result results ceiling 0 .empty),
    collectHeldFrom_le short (Nat.zero_le ceiling)⟩

end ReadResults

namespace Delivery

/-- The reads begin with the pieces up to any of them. -/
theorem results_begins {delivery : Delivery} (more : ∀ piece ∈ delivery.pieces, piece ≠ [])
    {count : Nat} (within : count ≤ delivery.pieces.size) :
    delivery.results.Begins (delivery.pieces.toList.take count) := by
  induction count with
  | zero => exact .start
  | succ count ih =>
    have inside : count < delivery.pieces.toList.length := by
      rw [Array.length_toList]
      omega
    rw [← List.take_append_getElem inside]
    refine (ih (by omega)).read ?_ (more _ (by simp))
    -- So many pieces before it, the piece is the next to be read.
    have index : (delivery.pieces.toList.take count).length = count := by
      rw [List.length_take]
      omega
    rw [index, results, Array.getElem?_eq_getElem (by simpa using inside), Array.getElem_toList]

/-- An intact delivery gives all its pieces. -/
theorem results_gives {delivery : Delivery} (intact : delivery.intact = true)
    (more : ∀ piece ∈ delivery.pieces, piece ≠ []) :
    delivery.results.Gives delivery.pieces.toList.flatten := by
  have begins := results_begins more (Nat.le_refl _)
  rw [List.take_of_length_le (by simp)] at begins
  refine ⟨_, begins, ?_, rfl⟩
  rw [results, Array.getElem?_eq_none (by simp), if_pos intact]

end Delivery

end RemoteCall
