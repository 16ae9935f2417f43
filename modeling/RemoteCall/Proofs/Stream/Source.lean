import RemoteCall.Stream.Source

/-! What a source gives does not depend on how finely it is read. -/

namespace RemoteCall.Source

/-- The source does not break before so many more bytes are given. -/
def Reaches (source : Source) (count : Nat) : Prop :=
  -- Nothing is asked of the source when nothing is wanted of it.
  count = 0 ∨ ∀ offset, source.failsAt = some offset → source.position + count ≤ offset

/-- The source after so many more bytes. -/
def skip (count : Nat) (source : Source) : Source :=
  { source with rest := source.rest.drop count, position := source.position + count }

/-- No bytes are always within reach. -/
theorem reaches_zero (source : Source) : source.Reaches 0 :=
  -- A source that is asked for nothing is not touched, broken or not.
  Or.inl rfl

/-- Reaching some bytes and then some more is reaching all of them. -/
theorem reaches_add {source : Source} {first second : Nat} :
    source.Reaches (first + second) ↔
      source.Reaches first ∧ (source.skip first).Reaches second := by
  simp only [Reaches, skip, Nat.add_eq_zero_iff]
  constructor
  · intro either
    -- Either nothing is wanted at all, or the whole stretch lies before the break.
    rcases either with ⟨rfl, rfl⟩ | whole
    · simp
    · refine ⟨Or.inr fun offset breaks => ?_, Or.inr fun offset breaks => ?_⟩
      all_goals have := whole offset breaks; omega
  · intro facts
    obtain ⟨front, back⟩ := facts
    -- The later of the two reads decides, unless it asks for nothing.
    rcases back with rfl | back
    · simpa using front
    · exact Or.inr fun offset breaks => by have := back offset breaks; omega

/-- Skipping twice is skipping both counts at once. -/
theorem skip_skip (source : Source) (first second : Nat) :
    (source.skip first).skip second = source.skip (first + second) := by
  -- The bytes are dropped in two steps, and the place moves by both counts.
  simp [skip, Nat.add_assoc]

/-- A read that asks for something of an intact source is granted some of it. -/
theorem share_pos {source : Source} {wanted : Nat} (positive : 0 < wanted)
    (intact : source.isBroken = false) : 0 < source.share wanted := by
  unfold isBroken at intact
  cases breaks : source.failsAt with
  -- Without a break, the schedule alone decides, and it grants at least one byte.
  | none =>
    simp only [share, breaks]
    split <;> grind
  -- The place of the break is still ahead, so the distance to it is not nothing.
  | some offset =>
    simp only [breaks, Option.any_some, decide_eq_false_iff_not] at intact
    simp only [share, breaks]
    split <;> grind

/-- A read is never granted more than it asks for. -/
theorem share_le (source : Source) (wanted : Nat) : source.share wanted ≤ wanted := by
  -- Every bound on a share is a minimum with what was asked for.
  unfold share
  split <;> split <;> grind

/-- What is granted lies before the place where the source breaks. -/
theorem reaches_share {source : Source} (wanted : Nat) (intact : source.isBroken = false) :
    source.Reaches (source.share wanted) := by
  -- The share is cut to the distance that is left before the break.
  refine Or.inr fun offset breaks => ?_
  unfold isBroken at intact
  simp only [breaks, Option.any_some, decide_eq_false_iff_not] at intact
  simp only [share, breaks]
  split <;> omega

/-- A read gives the next bytes of the source, as far as the source reaches. -/
theorem read_eq_ok {wanted : Nat} {source after : Source} {piece : Bytes}
    (given : read wanted source = .ok piece after) :
    source.Reaches piece.length ∧ source.rest = piece ++ after.rest ∧
      after = source.skip piece.length := by
  unfold read at given
  split at given
  · -- Nothing was asked for, and nothing moved.
    cases given
    exact ⟨reaches_zero source, rfl, by simp [skip]⟩
  · split at given
    · -- A broken source gives no answer at all.
      cases given
    · next intact =>
      simp only [List.splitAt_eq] at given
      cases given
      refine ⟨?_, by simp, ?_⟩
      · -- The piece may be shorter than the share when the data end.
        have whole := reaches_share wanted (by simpa using intact)
        have split : source.share wanted = (source.rest.take (source.share wanted)).length +
            (source.share wanted - (source.rest.take (source.share wanted)).length) := by
          simp only [List.length_take]
          omega
        rw [split] at whole
        exact (reaches_add.mp whole).1
      · simp only [skip, List.length_take, Source.mk.injEq, and_true]
        -- The place moves by the length of the piece, which is the share unless the data end.
        rcases Nat.le_total (source.share wanted) source.rest.length with short | long
        · rw [Nat.min_eq_left short]
        · rw [Nat.min_eq_right long, List.drop_eq_nil_of_le long, List.drop_length]

/-- A source that reaches far enough gives something to every read. -/
theorem read_of_reaches {wanted : Nat} {source : Source} (positive : 0 < wanted)
    (reaches : source.Reaches wanted) (present : wanted ≤ source.rest.length) :
    ∃ byte piece, read wanted source =
      .ok (byte :: piece) (source.skip (piece.length + 1)) := by
  -- A source that is broken already reaches nothing further.
  have intact : source.isBroken = false := by
    rcases reaches with none | reaches
    · omega
    · cases breaks : source.failsAt with
      | none => simp [isBroken, breaks]
      | some offset =>
        have := reaches offset breaks
        simp only [isBroken, breaks, Option.any_some, decide_eq_false_iff_not]
        omega
  have granted := share_pos positive intact
  have bounded := source.share_le wanted
  -- There are enough data to give the whole share.
  have length : (source.rest.take (source.share wanted)).length = source.share wanted := by
    rw [List.length_take]
    omega
  -- The piece is as long as the share, which is not nothing.
  obtain ⟨byte, piece, shape⟩ := List.exists_cons_of_length_pos (length ▸ granted)
  refine ⟨byte, piece, ?_⟩
  rw [shape, List.length_cons] at length
  simp only [read, if_neg (Nat.ne_of_gt positive), intact, Bool.false_eq_true, if_false,
    List.splitAt_eq, shape, length, List.length_cons, skip]

/-- Whatever is gathered are the next bytes of the source, as many as were wanted. -/
theorem gather_eq_ok {wanted : Nat} {before gathered : Gathered} {source after : Source}
    (given : gather wanted before source = .ok gathered after) :
    ∃ bytes, gathered.toBytes = before.toBytes ++ bytes ∧ bytes.length = wanted ∧
      source.Reaches wanted ∧ source.rest = bytes ++ after.rest ∧ after = source.skip wanted := by
  -- The induction follows the reads, each of which gives some of what is left to gather.
  fun_induction gather wanted before source with
  -- Nothing is left to gather.
  | case1 => cases given; exact ⟨[], by simp [reaches_zero, skip]⟩
  -- A read that failed and data that ended too early gave no answer.
  | case2 => cases given
  | case3 => cases given
  | case4 wanted before source positive byte piece between found ih =>
    have bounded := length_read found
    obtain ⟨reaches, front, rfl⟩ := read_eq_ok found
    -- The rest was gathered from where the first read stopped.
    obtain ⟨bytes, joined, length, further, back, rfl⟩ := ih given
    simp only [List.length_cons] at bounded reaches further front back length ⊢
    -- The first read and the gathering of what it left out make up the whole.
    have whole : piece.length + 1 + (wanted - (piece.length + 1)) = wanted := by omega
    refine ⟨byte :: piece ++ bytes, ?_, ?_, ?_, ?_, ?_⟩
    · simp [joined]
    · simp only [List.cons_append, List.length_cons, List.length_append]
      omega
    · exact whole ▸ reaches_add.mpr ⟨reaches, further⟩
    · rw [front, back, List.append_assoc]
    · rw [skip_skip, whole]

/-- A source that reaches far enough gives all that is wanted, in however many reads. -/
theorem gather_of_reaches {wanted : Nat} {source : Source} (before : Gathered)
    (reaches : source.Reaches wanted) (present : wanted ≤ source.rest.length) :
    ∃ gathered after, gather wanted before source = .ok gathered after := by
  -- Neither a failure nor an early end can meet a source that reaches far enough.
  fun_induction gather wanted before source with
  | case1 before source => exact ⟨before, source, rfl⟩
  | case2 wanted before source positive cause after found =>
    obtain ⟨byte, piece, given⟩ := read_of_reaches (by omega) reaches present
    rw [given] at found
    cases found
  | case3 wanted before source positive after found =>
    obtain ⟨byte, piece, given⟩ := read_of_reaches (by omega) reaches present
    rw [given] at found
    cases found
  | case4 wanted before source positive byte piece between found ih =>
    have bounded := length_read found
    obtain ⟨_, front, rfl⟩ := read_eq_ok found
    simp only [List.length_cons] at bounded ⊢
    -- What is still wanted is within the reach of the source behind the piece.
    apply ih
    · have whole : wanted = piece.length + 1 + (wanted - (piece.length + 1)) := by omega
      exact (reaches_add.mp (whole ▸ reaches)).2
    · simp only [skip, List.length_cons, List.length_drop]
      omega

/-- Taking succeeds exactly when the source reaches far enough and holds as much. -/
theorem take_eq_ok_iff {wanted : Nat} {source after : Source} {bytes : Bytes} :
    take wanted source = .ok bytes after ↔
      bytes.length = wanted ∧ source.Reaches wanted ∧ source.rest = bytes ++ after.rest ∧
        after = source.skip wanted := by
  simp only [take, Functor.map, EStateM.map]
  constructor
  · -- What was taken was gathered, starting from nothing.
    intro given
    split at given
    · next found =>
      cases given
      obtain ⟨taken, joined, facts⟩ := gather_eq_ok found
      rw [joined]
      simpa using facts
    · cases given
  · intro facts
    obtain ⟨length, reaches, front, rfl⟩ := facts
    -- The bytes are there, so the gathering cannot fail.
    have present : wanted ≤ source.rest.length := by rw [front, List.length_append]; omega
    obtain ⟨gathered, after, found⟩ := gather_of_reaches .empty reaches present
    obtain ⟨taken, joined, lengthTaken, _, frontTaken, rfl⟩ := gather_eq_ok found
    -- Both are the front of the source, and of one length.
    have same : taken = bytes :=
      (List.append_inj (frontTaken.symm.trans front) (lengthTaken.trans length.symm)).1
    simp [found, joined, same]

/-! Sources that stop too early. -/

/-- A source that answers a read with nothing has come to the end of its data. -/
theorem read_eq_nil {wanted : Nat} {source after : Source} (positive : 0 < wanted)
    (given : read wanted source = .ok [] after) :
    after = source ∧ source.rest = [] ∧ source.isBroken = false := by
  obtain ⟨_, _, skipped⟩ := read_eq_ok given
  have same : after = source := by simpa [skip] using skipped
  unfold read at given
  rw [if_neg (Nat.ne_of_gt positive)] at given
  split at given
  · cases given
  · next unbroken =>
    have intact : source.isBroken = false := by simpa using unbroken
    have granted := share_pos positive intact
    simp only [List.splitAt_eq, EStateM.Result.ok.injEq, List.take_eq_nil_iff] at given
    -- The read was granted something, so it is the data that are used up.
    rcases given.1 with none | none
    · omega
    · exact ⟨same, none, intact⟩

/-- Only a source that is broken fails to answer a read, and it does not move. -/
theorem read_eq_error {wanted : Nat} {source after : Source} {cause : StreamError}
    (failed : read wanted source = .error cause after) :
    after = source ∧ source.isBroken = true := by
  unfold read at failed
  split at failed
  · cases failed
  · split at failed
    · next broken =>
      cases failed
      exact ⟨rfl, broken⟩
    · simp at failed

/-- A source is broken once it has come to where it breaks. -/
theorem isBroken_iff {source : Source} :
    source.isBroken = true ↔ ∃ offset, source.failsAt = some offset ∧ offset ≤ source.position := by
  unfold isBroken
  cases source.failsAt with
  | none => simp
  | some offset => simp

/-- Why the source stopped where it is now. -/
def StoppedBy (source : Source) : Stop → Prop
  -- A break is met before the end of the data, if both are at one place.
  | .ended => source.rest = [] ∧ source.isBroken = false
  | .broken _ => source.isBroken = true

/-- A gathering that stops too early has taken the next bytes, but fewer than were wanted. -/
theorem gather_eq_error {wanted : Nat} {before : Gathered} {source after : Source} {stop : Stop}
    (stopped : gather wanted before source = .error stop after) :
    ∃ bytes : Bytes, bytes.length < wanted ∧ source.Reaches bytes.length ∧
      source.rest = bytes ++ after.rest ∧ after = source.skip bytes.length ∧
        after.StoppedBy stop := by
  -- The induction follows the reads that were answered before the one that was not.
  fun_induction gather wanted before source with
  | case1 => cases stopped
  | case2 wanted before source positive cause after found =>
    cases stopped
    obtain ⟨rfl, broken⟩ := read_eq_error found
    exact ⟨[], Nat.pos_of_ne_zero positive, reaches_zero _, rfl, by simp [skip], broken⟩
  | case3 wanted before source positive after found =>
    cases stopped
    obtain ⟨rfl, ended⟩ := read_eq_nil (Nat.pos_of_ne_zero positive) found
    exact ⟨[], Nat.pos_of_ne_zero positive, reaches_zero _, rfl, by simp [skip], ended⟩
  | case4 wanted before source positive byte piece between found ih =>
    have bounded := length_read found
    obtain ⟨reaches, front, rfl⟩ := read_eq_ok found
    obtain ⟨bytes, fewer, further, back, rfl, place⟩ := ih stopped
    simp only [List.length_cons] at bounded reaches fewer further front back place ⊢
    -- The first read and what was gathered behind it make up what was taken.
    have length : (byte :: piece ++ bytes).length = piece.length + 1 + bytes.length := by
      rw [List.length_append, List.length_cons]
    refine ⟨byte :: piece ++ bytes, ?_, ?_, ?_, ?_, place⟩
    · omega
    · exact length ▸ reaches_add.mpr ⟨reaches, further⟩
    · rw [front, back, List.append_assoc]
    · rw [skip_skip, length]

/-- What was taken before a source stopped too early are its next bytes, fewer than were wanted. -/
theorem take_eq_error {wanted : Nat} {source after : Source} {stop : Stop}
    (stopped : take wanted source = .error stop after) :
    ∃ bytes : Bytes, bytes.length < wanted ∧ source.Reaches bytes.length ∧
      source.rest = bytes ++ after.rest ∧ after = source.skip bytes.length ∧
        after.StoppedBy stop := by
  simp only [take, Functor.map, EStateM.map] at stopped
  split at stopped
  · cases stopped
  · next found =>
    cases stopped
    exact gather_eq_error found

/-- Nothing more comes from the source: its data are used up, or it is broken. -/
def Spent (source : Source) : Prop :=
  source.rest = [] ∨ source.isBroken = true

/-- A source that has stopped is spent, for whichever reason. -/
theorem StoppedBy.spent {source : Source} {stop : Stop} (stopped : source.StoppedBy stop) :
    source.Spent := by
  cases stop with
  | ended => exact .inl stopped.1
  | broken cause => exact .inr stopped

/-- Nothing is taken from a source that is spent. -/
theorem Spent.eq_nil {source : Source} (spent : source.Spent) {taken rest : Bytes}
    (reaches : source.Reaches taken.length) (front : source.rest = taken ++ rest) :
    taken = [] := by
  rcases spent with none | broken
  · exact (List.append_eq_nil_iff.mp (front.symm.trans none)).1
  · obtain ⟨offset, breaks, passed⟩ := isBroken_iff.mp broken
    -- A broken source does not reach another byte.
    rcases reaches with none | reaches
    · exact List.length_eq_zero_iff.mp none
    · have ahead := reaches offset breaks
      exact List.length_eq_zero_iff.mp (by omega)

/-- A source that ends before it breaks says so when more is wanted than it has. -/
theorem take_of_short {wanted : Nat} {source : Source}
    (ends : source.Reaches (source.rest.length + 1)) (short : source.rest.length < wanted) :
    ∃ after, take wanted source = .error .ended after := by
  cases taken : take wanted source with
  | ok bytes after =>
    -- What was taken would have to stand at the front of the source.
    obtain ⟨length, _, front, _⟩ := take_eq_ok_iff.mp taken
    rw [front, List.length_append] at short
    omega
  | error stop after =>
    obtain ⟨bytes, _, _, front, rfl, place⟩ := take_eq_error taken
    cases stop with
    | ended => exact ⟨_, rfl⟩
    | broken cause =>
      -- The break lies behind the end of the data, where the source does not get to.
      have length := congrArg List.length front
      rw [List.length_append] at length
      obtain ⟨offset, breaks, passed⟩ := isBroken_iff.mp place
      rcases ends with none | reaches
      · omega
      · have ahead := reaches offset breaks
        simp only [skip] at passed
        omega

/-! Sources that never break. -/

/-- The source gives all that it holds, and then ends. -/
def Intact (source : Source) : Prop :=
  -- There is no place at which it breaks.
  source.failsAt = none

/-- A source that never breaks reaches as far as anyone likes. -/
theorem Intact.reaches {source : Source} (intact : source.Intact) (count : Nat) :
    source.Reaches count := by
  -- There is no break for the stretch to run into.
  refine Or.inr fun offset breaks => ?_
  rw [intact] at breaks
  cases breaks

/-- A source that never breaks ends before more bytes can be taken than it holds. -/
theorem Intact.take_of_short {wanted : Nat} {source : Source} (intact : source.Intact)
    (short : source.rest.length < wanted) : ∃ after, take wanted source = .error .ended after :=
  Source.take_of_short (intact.reaches _) short

end RemoteCall.Source
