import OrchestratorEngine.Foundation.Replacement
import OrchestratorEngine.Captures.Redaction

set_option autoImplicit false

namespace OrchestratorEngine.Captures

open Foundation Foundation.Scanning

def maxCaptureBytes : Nat := 64 * 1024

-- "data[-limit:]"
def lastBytes (limit : Nat) (data : List Nat) : List Nat :=
  if limit = 0 then data else data.drop (data.length - limit)

def boundedTail (letters : Letters) (limit : Nat) (data : List Nat) : List Nat :=
  let redacted := redactText id letters redactedMark (Utf8.decodeReplacing (lastBytes limit data))
  let encoded := Utf8.encode redacted
  if encoded.length ≤ limit then redacted else Utf8.decodeIgnoring (lastBytes limit encoded)

structure Capture where
  sizeBytes : Nat
  tail : Option (List Nat)
deriving DecidableEq, Repr

def commandCapture (letters : Letters) (data : List Nat) (tail : Bool) : Capture where
  sizeBytes := data.length
  tail := if tail && !data.isEmpty then some (boundedTail letters maxCaptureBytes data) else none

structure BoundedStreamCapture where
  limit : Nat
  total : Nat
  tail : List Nat
deriving DecidableEq, Repr

namespace BoundedStreamCapture

def start (limit : Nat) : BoundedStreamCapture := { limit, total := 0, tail := [] }

def add (capture : BoundedStreamCapture) (chunk : List Nat) : BoundedStreamCapture :=
  let tail := capture.tail ++ chunk
  { capture with
    total := capture.total + chunk.length
    tail := if capture.limit < tail.length then tail.drop (tail.length - capture.limit) else tail }

def result (letters : Letters) (capture : BoundedStreamCapture) (includeTail : Bool) : Capture where
  sizeBytes := capture.total
  tail := if includeTail && !capture.tail.isEmpty then some (boundedTail letters capture.limit capture.tail) else none

end BoundedStreamCapture

-- "_drain_stream": an empty chunk is the end of the stream.
def drainStream (capture : BoundedStreamCapture) : List (List Nat) → BoundedStreamCapture
  | [] => capture
  | chunk :: rest => if chunk.isEmpty then capture else drainStream (capture.add chunk) rest

def streamOf (chunks : List (List Nat)) : List Nat := (chunks.takeWhile fun chunk => !chunk.isEmpty).flatten

variable (limit : Nat)

theorem last_bytes_drop (data : List Nat) :
    lastBytes limit data = data.drop (data.length - (lastBytes limit data).length) := by
  unfold lastBytes
  split
  · rw [Nat.sub_self, List.drop_zero]
  · rw [List.length_drop]
    congr 1
    omega

theorem last_bytes_again (positive : limit ≠ 0) (data : List Nat) :
    lastBytes limit (data.drop (data.length - limit)) = lastBytes limit data := by
  rw [lastBytes, lastBytes, if_neg positive, if_neg positive, List.drop_drop, List.length_drop]
  congr 1
  omega

theorem kept_after (seen chunk : List Nat) :
    let tail := seen.drop (seen.length - limit) ++ chunk
    (if limit < tail.length then tail.drop (tail.length - limit) else tail) =
      (seen ++ chunk).drop ((seen ++ chunk).length - limit) := by
  intro tail
  have whole : tail = (seen ++ chunk).drop (seen.length - limit) := by
    rw [List.drop_append_of_le_length (Nat.sub_le _ _)]
  have size : tail.length = (seen ++ chunk).length - (seen.length - limit) := by rw [whole, List.length_drop]
  have sum : (seen ++ chunk).length = seen.length + chunk.length := List.length_append
  split
  · rw [size, whole, List.drop_drop]
    congr 1
    omega
  · rw [whole]
    congr 1
    omega

theorem drain_keeps (seen : List Nat) (chunks : List (List Nat)) (capture : BoundedStreamCapture)
    (holds : capture = ⟨limit, seen.length, seen.drop (seen.length - limit)⟩) :
    drainStream capture chunks = ⟨limit, (seen ++ streamOf chunks).length,
      (seen ++ streamOf chunks).drop ((seen ++ streamOf chunks).length - limit)⟩ := by
  induction chunks generalizing seen capture with
  | nil => rw [drainStream, holds, streamOf, List.takeWhile_nil, List.flatten_nil, List.append_nil]
  | cons chunk rest ih =>
      rw [drainStream]
      cases ended : chunk.isEmpty with
      | true =>
          have none : streamOf (chunk :: rest) = [] := by
            rw [streamOf, List.takeWhile_cons_of_neg (by rw [ended]; exact Bool.false_ne_true), List.flatten_nil]
          rw [if_pos rfl, holds, none, List.append_nil]
      | false =>
          have more : streamOf (chunk :: rest) = chunk ++ streamOf rest := by
            rw [streamOf, List.takeWhile_cons_of_pos (by rw [ended]; rfl), List.flatten_cons, streamOf]
          rw [if_neg Bool.false_ne_true, more, ← List.append_assoc]
          refine ih (seen ++ chunk) (capture.add chunk) ?_
          rw [holds, BoundedStreamCapture.add]
          dsimp only
          rw [kept_after, List.length_append]

theorem drained_tail (letters : Letters) (limit : Nat) (chunks : List (List Nat)) (includeTail : Bool) :
    ((drainStream (.start limit) chunks).result letters includeTail).tail =
      if includeTail && limit != 0 && !(streamOf chunks).isEmpty then
        some (boundedTail letters limit (streamOf chunks))
      else none := by
  rw [drain_keeps limit [] chunks (.start limit) (by rw [List.drop_nil]; rfl), List.nil_append,
    BoundedStreamCapture.result]
  dsimp only
  by_cases nothing : limit = 0
  · subst nothing
    rw [Nat.sub_zero, List.drop_length]
    simp
  · have same : (boundedTail letters limit ((streamOf chunks).drop ((streamOf chunks).length - limit))) =
        boundedTail letters limit (streamOf chunks) := by
      rw [boundedTail, boundedTail, last_bytes_again limit nothing]
    have empty : ((streamOf chunks).drop ((streamOf chunks).length - limit)).isEmpty = (streamOf chunks).isEmpty := by
      cases stream : streamOf chunks with
      | nil => rw [List.drop_nil]
      | cons octet rest =>
          rw [List.isEmpty_cons, List.isEmpty_eq_false_iff]
          refine List.ne_nil_of_length_pos ?_
          rw [List.length_drop, List.length_cons]
          omega
    have positive : (limit != 0) = true := by simp [nothing]
    rw [same, empty, positive, Bool.and_true]

end OrchestratorEngine.Captures
