import HeatingHub.Connection.Socket
import Mathlib.Data.List.Basic

/-!
# What sockets take

However often a write is interrupted or taken in part, in the end the socket has taken a beginning
of the bytes that it was offered, and all of them exactly if the write is complete (`write_taken`).
To read from it changes nothing about that (`read_written`), and a write changes nothing about what
there is to read (`write_stream`).
-/

namespace HeatingHub

/-- Of some bytes this part was taken from the beginning, and it is the whole exactly if all went
well. -/
structure Taken (bytes part : List UInt8) (well : Prop) : Prop where
  begins : part <+: bytes
  whole : part = bytes ↔ well

/-- If all did not go well, it may be that nothing was taken. -/
lemma Taken.nil {bytes : List UInt8} {well : Prop} (some : bytes ≠ []) (failed : ¬ well) :
    Taken bytes [] well where
  begins := List.nil_prefix
  whole := iff_of_false (Ne.symm some) failed

/-- What is taken of the rest goes on where an earlier part ends. -/
lemma Taken.append {bytes part : List UInt8} {well : Prop} (count : Nat)
    (rest : Taken (bytes.drop count) part well) : Taken bytes (bytes.take count ++ part) well where
  begins := by
    obtain ⟨left, whole⟩ := rest.begins
    exact ⟨left, by rw [List.append_assoc, whole, List.take_append_drop]⟩
  whole := by
    rw [← rest.whole]
    constructor
    · intro whole
      exact List.append_cancel_left (whole.trans (List.take_append_drop count bytes).symm)
    · intro whole
      rw [whole, List.take_append_drop]

namespace Socket

/-- What the socket with this number has taken so far, among these sockets. -/
def writtenAt (sockets : List Socket) (number : Nat) : List UInt8 :=
  (sockets[number]?.map (·.written)).getD []

/-- What is written at a number among the first sockets does not depend on those behind them. -/
lemma writtenAt_append_left {sockets more : List Socket} {number : Nat}
    (inside : number < sockets.length) :
    writtenAt (sockets ++ more) number = writtenAt sockets number := by
  rw [writtenAt, List.getElem?_append_left inside, writtenAt]

/-- What is written at a number behind the first sockets is found in the rest. -/
lemma writtenAt_append_right {sockets more : List Socket} {number : Nat}
    (outside : sockets.length ≤ number) :
    writtenAt (sockets ++ more) number = writtenAt more (number - sockets.length) := by
  rw [writtenAt, List.getElem?_append_right outside, writtenAt]

/-- Nothing is written at a number that no socket has. -/
lemma writtenAt_of_le {sockets : List Socket} {number : Nat}
    (outside : sockets.length ≤ number) : writtenAt sockets number = [] := by
  rw [writtenAt, List.getElem?_eq_none outside]
  rfl

/-- Bytes that are offered are taken in part, and as a whole exactly if the offer is complete. -/
lemma offer_taken (socket : Socket) (sent : Nat) (bytes : List UInt8)
    (answers : List WriteAnswer) :
    ∃ part, (socket.offer sent bytes answers).2.written = socket.written ++ part ∧
      Taken bytes part ((socket.offer sent bytes answers).1 = .complete) := by
  -- Each answer may take some of the bytes, and the next one is about the rest.
  induction answers generalizing socket sent bytes with
  | nil =>
    rw [offer]
    split
    · next none =>
      rw [List.isEmpty_iff.1 none]
      exact ⟨[], (List.append_nil _).symm, List.prefix_refl _, iff_of_true rfl rfl⟩
    · next some =>
      split
      · exact ⟨[], (List.append_nil _).symm, .nil (mt List.isEmpty_iff.2 some) nofun⟩
      · exact ⟨bytes, rfl, List.prefix_refl _, iff_of_true rfl rfl⟩
  | cons answer answers ih =>
    rw [offer.eq_def]
    dsimp only
    split
    · next none =>
      rw [List.isEmpty_iff.1 none]
      exact ⟨[], (List.append_nil _).symm, List.prefix_refl _, iff_of_true rfl rfl⟩
    · next some =>
      have some : bytes ≠ [] := mt List.isEmpty_iff.2 some
      split
      · exact ⟨[], (List.append_nil _).symm, .nil some nofun⟩
      · next count _ =>
        obtain ⟨part, written, taken⟩ := ih
          { socket with written := socket.written ++ bytes.take count }
          (sent + (bytes.take count).length) (bytes.drop count)
        exact ⟨_, by rw [written, List.append_assoc], taken.append count⟩
      · exact ih socket sent bytes
      · exact ⟨[], (List.append_nil _).symm, .nil some nofun⟩

/-- A write takes a beginning of the bytes, and all of them exactly if it is complete. -/
theorem write_taken (socket : Socket) (bytes : List UInt8) :
    ∃ part, (socket.write bytes).2.written = socket.written ++ part ∧
      Taken bytes part ((socket.write bytes).1 = .complete) :=
  socket.offer_taken 0 bytes socket.answers

/-- To read changes nothing about what was written. -/
lemma read_written (socket : Socket) (limit : Nat) :
    (socket.read limit).2.written = socket.written := by
  rw [read]
  split
  · split <;> rfl
  · rfl

/-- An offer changes nothing about what there is to read. -/
lemma offer_stream (socket : Socket) (sent : Nat) (bytes : List UInt8)
    (answers : List WriteAnswer) :
    (socket.offer sent bytes answers).2.pending = socket.pending ∧
      (socket.offer sent bytes answers).2.ending = socket.ending := by
  induction answers generalizing socket sent bytes with
  | nil =>
    rw [offer]
    split
    · exact ⟨rfl, rfl⟩
    · split <;> exact ⟨rfl, rfl⟩
  | cons answer answers ih =>
    rw [offer.eq_def]
    dsimp only
    split
    · exact ⟨rfl, rfl⟩
    · split
      · exact ⟨rfl, rfl⟩
      · exact ih _ _ _
      · exact ih _ _ _
      · exact ⟨rfl, rfl⟩

/-- A write leaves what has arrived alone. -/
lemma write_stream (socket : Socket) (bytes : List UInt8) :
    (socket.write bytes).2.pending = socket.pending ∧
      (socket.write bytes).2.ending = socket.ending :=
  socket.offer_stream 0 bytes socket.answers

end Socket

end HeatingHub
