import Cachegate.Handler.Response
import Mathlib.Data.List.Induction

/-! The streaming loop of `put_object` as a whole: what it has sent and what it
has buffered after any chunks, and when its latch is set. -/

namespace Cachegate.UploadLoop

variable {capBytes : Nat} {loop : UploadLoop}

/-- The loop after all the chunks of a body. -/
def run (capBytes : Nat) (body : List Bytes) : UploadLoop := body.foldl (push capBytes) (start capBytes)

theorem run_append (capBytes : Nat) (read : List Bytes) (chunk : Bytes) :
    run capBytes (read ++ [chunk]) = (run capBytes read).push capBytes chunk := by
  simp [run, List.foldl_append]

@[simp] theorem push_sent (capBytes : Nat) (loop : UploadLoop) (chunk : Bytes) :
    (loop.push capBytes chunk).sent = loop.sent ++ [chunk] := by
  simp only [push]
  split
  · rfl
  · split
    · rfl
    · split <;> rfl

theorem foldl_push_sent (capBytes : Nat) (body : List Bytes) (loop : UploadLoop) :
    (body.foldl (push capBytes) loop).sent = loop.sent ++ body := by
  induction body generalizing loop with
  | nil => simp
  | cons chunk body ih => simp [ih]

/-- Every chunk is handed to the upload, in order. -/
@[simp] theorem run_sent (capBytes : Nat) (body : List Bytes) : (run capBytes body).sent = body := by
  simp [run, foldl_push_sent, start]

@[simp] theorem run_uploaded (capBytes : Nat) (body : List Bytes) :
    (run capBytes body).uploaded = body.flatten := by
  simp [uploaded]

/-- The buffer never exceeds the cap, and is a full copy until the latch is set. -/
structure Copies (capBytes : Nat) (loop : UploadLoop) : Prop where
  bounded : loop.buffer.length ≤ capBytes
  copied : loop.capped = false → loop.buffer = loop.uploaded

theorem copies_start (capBytes : Nat) : Copies capBytes (start capBytes) :=
  ⟨Nat.zero_le _, fun _ => rfl⟩

theorem Copies.push (copies : Copies capBytes loop) (chunk : Bytes) : Copies capBytes (loop.push capBytes chunk) := by
  have bounded := copies.bounded
  simp only [UploadLoop.push]
  split
  · rename_i latched
    exact ⟨bounded, fun open_ => by simp [latched] at open_⟩
  · rename_i open_
    have copied := copies.copied (by simpa using open_)
    split
    · exact ⟨bounded, fun kept => by cases kept⟩
    · split
      · refine ⟨?_, fun _ => ?_⟩
        · simp only [List.length_append]; omega
        · simp [uploaded, copied]
      · refine ⟨?_, fun kept => by cases kept⟩
        simp only [List.length_append, List.length_take]; omega

theorem copies_run (capBytes : Nat) (body : List Bytes) : Copies capBytes (run capBytes body) := by
  induction body using List.reverseRecOn with
  | nil => exact copies_start capBytes
  | append_singleton read chunk ih => rw [run_append]; exact ih.push chunk

/-- What is inserted in the cache is what was uploaded. -/
theorem run_buffer (open_ : (run capBytes body).capped = false) : (run capBytes body).buffer = body.flatten := by
  rw [(copies_run capBytes body).copied open_, run_uploaded]

/-- The latch stays open over a chunk that arrives while there is room and fits. -/
theorem push_open (copies : Copies capBytes loop) (chunk : Bytes) :
    (loop.push capBytes chunk).capped = false ↔
      loop.capped = false ∧ loop.uploaded.length < capBytes ∧
        loop.uploaded.length + chunk.length ≤ capBytes := by
  simp only [push]
  split
  · rename_i latched
    simp [latched]
  · rename_i open_
    have copied := copies.copied (by simpa using open_)
    have bounded := copies.bounded
    rw [copied] at bounded ⊢
    split
    · simp; omega
    · split
      · simp [open_]; omega
      · simp; omega

/-- No chunk arrives once exactly the cap has been read. -/
def Roomy (capBytes : Nat) (body : List Bytes) : Prop :=
  ∀ read chunk rest, body = read ++ chunk :: rest → read.flatten.length < capBytes

theorem roomy_append (capBytes : Nat) (read : List Bytes) (chunk : Bytes) :
    Roomy capBytes (read ++ [chunk]) ↔ Roomy capBytes read ∧ read.flatten.length < capBytes := by
  constructor
  · intro roomy
    refine ⟨?_, roomy read chunk [] rfl⟩
    rintro before next rest rfl
    exact roomy before next (rest ++ [chunk]) (by simp)
  · rintro ⟨roomy, last⟩ before next rest same
    rcases List.eq_nil_or_concat rest with rfl | ⟨rest, final, rfl⟩
    · obtain ⟨rfl, _⟩ : read = before ∧ [chunk] = [next] := List.append_inj' same (by simp)
      exact last
    · have split_ : read ++ [chunk] = (before ++ next :: rest) ++ [final] := by simp [same]
      obtain ⟨rfl, _⟩ : read = before ++ next :: rest ∧ [chunk] = [final] :=
        List.append_inj' split_ (by simp)
      exact roomy before next rest rfl

/-- The cap is not zero, the body is within it, and no chunk, not even an empty
one, follows a full buffer. -/
def Copied (capBytes : Nat) (body : List Bytes) : Prop :=
  capBytes ≠ 0 ∧ body.flatten.length ≤ capBytes ∧ Roomy capBytes body

/-- Exactly such bodies are copied for the cache. -/
theorem run_open (capBytes : Nat) (body : List Bytes) :
    (run capBytes body).capped = false ↔ Copied capBytes body := by
  unfold Copied
  induction body using List.reverseRecOn with
  | nil =>
    constructor
    · intro open_
      exact ⟨by simpa [run, start] using open_, by simp, by simp [Roomy]⟩
    · rintro ⟨capable, _⟩
      simpa [run, start] using capable
  | append_singleton read chunk ih =>
    rw [run_append, push_open (copies_run capBytes read), ih, roomy_append, run_uploaded]
    simp only [List.flatten_append, List.length_append, List.flatten_singleton]
    constructor
    · rintro ⟨⟨capable, _, roomy⟩, room, fits⟩
      exact ⟨capable, fits, roomy, room⟩
    · rintro ⟨capable, fits, roomy, room⟩
      exact ⟨⟨capable, Nat.le_of_lt room, roomy⟩, room, fits⟩

instance (capBytes : Nat) (body : List Bytes) : Decidable (Copied capBytes body) :=
  decidable_of_iff _ (run_open capBytes body)

/-- The cap is read exactly, and what follows are empty chunks. -/
def Surplus (capBytes : Nat) (body : List Bytes) : Prop :=
  ∃ read chunk rest, body = read ++ chunk :: rest ∧ read.flatten.length = capBytes ∧ (chunk :: rest).flatten = []

/-- A body within the cap misses the cache only by empty chunks at its end. -/
theorem copied_iff (capBytes : Nat) (body : List Bytes) :
    (Copied capBytes body ↔ capBytes ≠ 0 ∧ body.flatten.length ≤ capBytes) ↔
      ¬ (capBytes ≠ 0 ∧ Surplus capBytes body) := by
  constructor
  · rintro agrees ⟨capable, read, chunk, rest, rfl, full, empty⟩
    have fits : (read ++ chunk :: rest).flatten.length ≤ capBytes := by
      simp only [List.flatten_append, empty, List.append_nil, full]
      exact Nat.le_refl capBytes
    have room := (agrees.mpr ⟨capable, fits⟩).2.2 read chunk rest rfl
    omega
  · intro spared
    constructor
    · rintro ⟨capable, fits, _⟩
      exact ⟨capable, fits⟩
    · rintro ⟨capable, fits⟩
      refine ⟨capable, fits, ?_⟩
      rintro read chunk rest rfl
      by_contra full
      have sizes := fits
      rw [List.flatten_append, List.length_append] at sizes
      apply spared
      refine ⟨capable, read, chunk, rest, rfl, by omega, ?_⟩
      apply List.eq_nil_of_length_eq_zero
      omega

/-- `bytes[..stop]`, which panics where `stop` is out of range. -/
def sliceTo (bytes : Bytes) (stop : Nat) : Option Bytes :=
  if stop ≤ bytes.length then some (bytes.take stop) else none

/-- The loop body with the range check of its slice. -/
def pushChecked (capBytes : Nat) (loop : UploadLoop) (chunk : Bytes) : Option UploadLoop :=
  let sent := loop.sent ++ [chunk]
  if loop.capped then some { loop with sent }
  else
    let remaining := capBytes - loop.buffer.length
    if remaining = 0 then some { loop with sent, capped := true }
    else if chunk.length ≤ remaining then some { loop with sent, buffer := loop.buffer ++ chunk }
    else (sliceTo chunk remaining).map fun part => { sent, buffer := loop.buffer ++ part, capped := true }

theorem pushChecked_eq (capBytes : Nat) (loop : UploadLoop) (chunk : Bytes) :
    loop.pushChecked capBytes chunk = some (loop.push capBytes chunk) := by
  unfold pushChecked push
  split
  · rfl
  · simp only []
    split
    · rfl
    · split
      · rfl
      · rename_i longer
        have inside : capBytes - loop.buffer.length ≤ chunk.length := by omega
        simp [sliceTo, inside]

/-- The loop runs over every body without a panic. -/
theorem foldlM_pushChecked (capBytes : Nat) (body : List Bytes) :
    body.foldlM (pushChecked capBytes) (start capBytes) = some (run capBytes body) := by
  have onward (loop : UploadLoop) :
      body.foldlM (pushChecked capBytes) loop = some (body.foldl (push capBytes) loop) := by
    induction body generalizing loop with
    | nil => rfl
    | cons chunk body ih =>
      rw [List.foldlM_cons, pushChecked_eq]
      exact ih (loop.push capBytes chunk)
  exact onward (start capBytes)

end Cachegate.UploadLoop
