import TestFleet.Proofs.Wire.Message
import TestFleet.Wire.Frame

/-!
# Frames tell where they end

A stream of frames falls apart into the messages that were written, whatever follows them, because a
frame is read by its length alone.

* `read_header`: what is read behind a length;
* `readMany_frames`: reading frames one after another;
* `read_prefix`: a frame that is cut off anywhere yields no message;
* `requests_delimited`: all that holds of the frames of requests.
-/

namespace TestFleet.Frame

variable {α : Type}

/-- What is read behind the four bytes of a length. -/
theorem read_header (r : Json.Reader α) {n : Nat} (fits : n < UInt32.size) (rest : List UInt8) :
    read r (header n ++ rest) =
      if messageLimit < n then (.error (.announcedTooLong n), rest)
      else if rest.length < n then (.error .closed, [])
      else ((r.ofBytes (rest.take n)).mapError bodyFault, rest.drop n) := by
  rw [header]
  simp only [List.cons_append, List.nil_append, read, announced_header fits]

theorem lt_size_of_le {n : Nat} (short : n ≤ messageLimit) : n < UInt32.size :=
  Nat.lt_of_le_of_lt short (by decide)

/-- Of a frame that is all there just its bytes are taken, whatever its body says. -/
theorem read_frame (r : Json.Reader α) {body : List UInt8} (short : body.length ≤ messageLimit)
    (rest : List UInt8) :
    read r (header body.length ++ (body ++ rest)) =
      ((r.ofBytes body).mapError bodyFault, rest) := by
  have all : ¬ (body ++ rest).length < body.length := by
    rw [List.length_append]
    omega
  rw [read_header r (lt_size_of_le short), if_neg (Nat.not_lt.2 short), if_neg all,
    List.take_left, List.drop_left]

theorem read_of_length_lt (r : Json.Reader α) {bytes : List UInt8} (few : bytes.length < 4) :
    read r bytes = (.error .closed, []) := by
  match bytes with
  | [] | [_] | [_, _] | [_, _, _] => rfl
  | _ :: _ :: _ :: _ :: _ =>
    simp only [List.length_cons] at few
    omega

/-- A frame that is cut off, in its length or in its body, yields no message. -/
theorem read_prefix (r : Json.Reader α) {body : List UInt8} (short : body.length ≤ messageLimit)
    {bytes : List UInt8} (front : bytes <+: header body.length ++ body)
    (cut : bytes ≠ header body.length ++ body) : read r bytes = (.error .closed, []) := by
  by_cases few : bytes.length < 4
  · exact read_of_length_lt r few
  · -- All of the length is there, so it is the body that is cut off.
    obtain ⟨part, rfl⟩ : header body.length <+: bytes :=
      List.prefix_of_prefix_length_le (List.prefix_append _ _) front (Nat.not_lt.1 few)
    have front := (List.prefix_append_right_inj _).1 front
    have less : part.length < body.length :=
      Nat.lt_of_le_of_ne front.length_le fun same => cut (by rw [front.eq_of_length same])
    rw [read_header r (lt_size_of_le short), if_neg (Nat.not_lt.2 short), if_pos less]

/-! ## Streams of frames -/

/-- Reads so many messages off a stream, one after another, up to the first that fails. -/
def readMany (r : Json.Reader α) : Nat → List UInt8 → Except LinkFault (List α) × List UInt8
  | 0, stream => (.ok [], stream)
  | n + 1, stream =>
    match read r stream with
    | (.error fault, rest) => (.error fault, rest)
    | (.ok a, rest) =>
      let (later, rest) := readMany r n rest
      (later.map (a :: ·), rest)

theorem write_of_le {j : Json} (short : j.bytes.length ≤ messageLimit) :
    write j = .ok (header j.bytes.length ++ j.bytes) :=
  if_pos short

/-- The frames of messages are read back as those messages, and what follows them is left. -/
theorem readMany_frames {toJson : α → Json} {r : Json.Reader α} (survives : RoundTrips toJson r)
    (as : List α) (short : ∀ a ∈ as, (toJson a).bytes.length ≤ messageLimit) (tail : List UInt8) :
    ∃ frames, as.mapM (fun a => write (toJson a)) = .ok frames ∧
      readMany r as.length (frames.flatten ++ tail) = (.ok as, tail) := by
  induction as with
  | nil => exact ⟨[], rfl, rfl⟩
  | cons a as ih =>
    obtain ⟨fits, short⟩ := List.forall_mem_cons.1 short
    obtain ⟨frames, written, later⟩ := ih short
    refine ⟨(header (toJson a).bytes.length ++ (toJson a).bytes) :: frames, ?_, ?_⟩
    · rw [List.mapM_cons, write_of_le fits, written]
      rfl
    · rw [List.flatten_cons, List.append_assoc, List.append_assoc, List.length_cons, readMany,
        read_frame r fits, survives a]
      simp only [Except.mapError, later]
      rfl

/-- What it takes for messages to be told apart in a stream of their frames. -/
structure Delimited (toJson : α → Json) (r : Json.Reader α) : Prop where
  /-- Frames that were written one after another are read as the messages, and no further. -/
  stream : ∀ as : List α, (∀ a ∈ as, (toJson a).bytes.length ≤ messageLimit) → ∀ tail,
    ∃ frames, as.mapM (fun a => write (toJson a)) = .ok frames ∧
      readMany r as.length (frames.flatten ++ tail) = (.ok as, tail)
  /-- The frame of a message is the length of its text, and its text. -/
  frame : ∀ a, (toJson a).bytes.length ≤ messageLimit →
    write (toJson a) = .ok (header (toJson a).bytes.length ++ (toJson a).bytes)
  /-- A frame that is cut off anywhere yields no message. -/
  cutOff : ∀ body, body.length ≤ messageLimit → ∀ bytes, bytes <+: header body.length ++ body →
    bytes ≠ header body.length ++ body → read r bytes = (.error .closed, [])
  /-- Of a frame that is announced as too long, only the length is taken. -/
  announced : ∀ n, messageLimit < n → n < UInt32.size → ∀ rest,
    read r (header n ++ rest) = (.error (.announcedTooLong n), rest)
  /-- Of any other frame its bytes are taken, whether its body can be read or not. -/
  whole : ∀ body, body.length ≤ messageLimit → ∀ rest,
    read r (header body.length ++ (body ++ rest)) = ((r.ofBytes body).mapError bodyFault, rest)
  /-- A message that is too long has no frame. -/
  tooLong : ∀ a, messageLimit < (toJson a).bytes.length →
    write (toJson a) = .error (.tooLong (toJson a).bytes.length)

/-- The frames of requests are told apart by their lengths. -/
theorem requests_delimited : Delimited Request.toJson Request.reader where
  stream as short := readMany_frames (.of_reads Request.reads) as short
  frame _ short := write_of_le short
  cutOff _ short _ := read_prefix _ short
  announced n long fits rest := by rw [read_header _ fits, if_pos long]
  whole _ short := read_frame _ short
  tooLong _ long := if_neg (Nat.not_le.2 long)

end TestFleet.Frame
