import RemoteCall.Proofs.Bytes

/-! To measure the chunks of a body first and join them afterwards is to walk over them once. -/

namespace RemoteCall.Packet

/-- Joins the chunks at the front of a buffer in one walk, up to the empty one that ends them. -/
def cutChunks (limits : Limits) (joined : Gathered) (buffer : Bytes) :
    Except Failure (Option (Bytes × Bytes)) :=
  match _field : buffer.splitExact? 4 with
  | none => .ok none
  | some (field, afterField) =>
    let length := Bytes.toNatBE field
    if length = 0 then .ok (some (joined.toBytes, afterField))
    else
      match limits.checkFrame length, limits.checkMessage (joined.size + length) with
      | .error failure, _ => .error failure
      | .ok (), .error failure => .error failure
      | .ok (), .ok () =>
        match _chunk : afterField.splitExact? length with
        | none => .ok none
        | some (chunk, rest) => cutChunks limits (joined.push chunk) rest
termination_by buffer.length
decreasing_by
  obtain ⟨fieldLength, rfl⟩ := splitExact?_eq_some _field
  obtain ⟨_, rfl⟩ := splitExact?_eq_some _chunk
  simp only [List.length_append]
  omega

/-- Chunks are cut by their lengths: one step of the walk over them. -/
theorem cutChunks_of_field {limits : Limits} {joined : Gathered} {buffer field after : Bytes}
    (found : buffer.splitExact? 4 = some (field, after)) :
    cutChunks limits joined buffer =
      if Bytes.toNatBE field = 0 then .ok (some (joined.toBytes, after))
      else
        match limits.checkFrame (Bytes.toNatBE field),
          limits.checkMessage (joined.size + Bytes.toNatBE field) with
        | .error failure, _ => .error failure
        | .ok (), .error failure => .error failure
        | .ok (), .ok () =>
          match after.splitExact? (Bytes.toNatBE field) with
          | none => .ok none
          | some (chunk, rest) => cutChunks limits (joined.push chunk) rest := by
  -- One step of the walk, for a buffer that is known to have a length field.
  rw [cutChunks]
  split
  · simp_all
  · next found' =>
    cases found.symm.trans found'
    by_cases last : Bytes.toNatBE field = 0
    · simp only [last, if_true]
    · simp only [last, if_false]
      cases limits.checkFrame (Bytes.toNatBE field) with
      | error failure => rfl
      | ok _ =>
        cases limits.checkMessage (joined.size + Bytes.toNatBE field) with
        | error failure => rfl
        | ok _ =>
          -- The length of the chunk is kept for termination, and does not matter here.
          dsimp only
          split <;> simp_all

variable {limits : Limits} {buffer field after : Bytes}

/-- Chunks are measured by their lengths: one step of the first loop. -/
theorem skipChunks_of_field {total : Nat} (found : buffer.splitExact? 4 = some (field, after)) :
    skipChunks limits total buffer =
      if Bytes.toNatBE field = 0 then .ok (some after)
      else
        match limits.checkFrame (Bytes.toNatBE field),
          limits.checkMessage (total + Bytes.toNatBE field) with
        | .error failure, _ => .error failure
        | .ok (), .error failure => .error failure
        | .ok (), .ok () =>
          match after.splitExact? (Bytes.toNatBE field) with
          | none => .ok none
          | some (_, rest) => skipChunks limits (total + Bytes.toNatBE field) rest := by
  rw [skipChunks]
  split
  · simp_all
  · next found' =>
    cases found.symm.trans found'
    by_cases last : Bytes.toNatBE field = 0
    · simp only [last, if_true]
    · simp only [last, if_false]
      cases limits.checkFrame (Bytes.toNatBE field) with
      | error failure => rfl
      | ok _ =>
        cases limits.checkMessage (total + Bytes.toNatBE field) with
        | error failure => rfl
        | ok _ =>
          dsimp only
          split <;> simp_all

/-- Chunks are joined by their lengths: one step of the second loop. -/
theorem joinChunks_of_field {joined : Gathered}
    (found : buffer.splitExact? 4 = some (field, after)) :
    joinChunks joined buffer =
      if Bytes.toNatBE field = 0 then joined
      else joinChunks (joined.push (after.take (Bytes.toNatBE field)))
        (after.drop (Bytes.toNatBE field)) := by
  rw [joinChunks]
  split
  · simp_all
  · next found' =>
    cases found.symm.trans found'
    rfl

/-- Both loops together come to what the walk does. -/
theorem cutChunks_eq (limits : Limits) (joined : Gathered) (buffer : Bytes) :
    cutChunks limits joined buffer =
      (skipChunks limits joined.size buffer).map
        (Option.map fun rest => ((joinChunks joined buffer).toBytes, rest)) := by
  -- The induction follows the chunks, which are the same for all three.
  fun_induction cutChunks limits joined buffer with
  | case1 joined buffer missing =>
    -- The length of the next chunk is not there yet.
    have incomplete : skipChunks limits joined.size buffer = .ok none := by
      rw [skipChunks]
      split <;> simp_all
    rw [incomplete]
    rfl
  | case2 joined buffer field after split length last =>
    -- The empty chunk ends the row, and nothing is joined any more.
    rw [skipChunks_of_field split, joinChunks_of_field split, if_pos last, if_pos last]
    rfl
  | case3 joined buffer field after split length more cause framed =>
    -- What is refused is refused by the first loop, so that the second one is not reached.
    rw [skipChunks_of_field split, if_neg more, framed]
    rfl
  | case4 joined buffer field after split length more cause framed fits =>
    rw [skipChunks_of_field split, if_neg more, framed, fits]
    rfl
  | case5 joined buffer field after split length more framed fits missing =>
    -- The chunk itself is not there yet.
    rw [skipChunks_of_field split, if_neg more, framed, fits]
    simp only [length] at missing
    simp only [missing]
    rfl
  | case6 joined buffer field after split length more fits framed chunk rest found ih =>
    -- The second loop takes by its length what the first one has found to be there.
    obtain ⟨whole, rfl⟩ := splitExact?_eq_some found
    simp only [length] at whole found
    have front : (chunk ++ rest).take (Bytes.toNatBE field) = chunk := by
      rw [← whole, List.take_left]
    have behind : (chunk ++ rest).drop (Bytes.toNatBE field) = rest := by
      rw [← whole, List.drop_left]
    have size : (joined.push chunk).size = joined.size + Bytes.toNatBE field := by
      rw [← whole]
      exact Nat.add_comm ..
    rw [skipChunks_of_field split, joinChunks_of_field split, if_neg more, if_neg more, front,
      behind, framed, fits, ih, size]
    simp only [found]

/-- A frame is cut as if its chunks were joined as soon as they are found. -/
theorem cutFrame_eq (limits : Limits) (buffer : Bytes) :
    cutFrame limits buffer = (do
      let (fixed, buffer) ← cut fixedHeaderLength buffer
      let header ← OptionT.lift (Header.ofBytes fixed)
      let (pathBytes, buffer) ← cut header.pathLength buffer
      let path ← OptionT.lift (pathOfBytes pathBytes)
      let compression := header.compression
      if header.chunked then
        let (body, rest) ← OptionT.mk (cutChunks limits .empty buffer)
        return ({ path, compression, body }, rest)
      else
        let (field, buffer) ← cut 4 buffer
        let length := Bytes.toNatBE field
        OptionT.lift (limits.checkMessage length)
        let (body, rest) ← cut length buffer
        return ({ path, compression, body }, rest)) := by
  have chunked (path : String) (compression : Option Compression) (buffer : Bytes) :
      (do
        let rest ← OptionT.mk (skipChunks limits 0 buffer)
        return ({ path, compression, body := (joinChunks .empty buffer).toBytes }, rest) :
          Cutting (Packet × Bytes)) = do
        let (body, rest) ← OptionT.mk (cutChunks limits .empty buffer)
        return ({ path, compression, body }, rest) := by
    have nothing : Gathered.size .empty = 0 := rfl
    rw [cutChunks_eq, nothing]
    rcases skipChunks limits 0 buffer with failure | _ | rest <;> rfl
  unfold cutFrame
  simp only [chunked]

end RemoteCall.Packet
