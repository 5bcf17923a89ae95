import UsbPassthrough.Channel.Transport

/-!
# UsbPassthrough.Channel.Reference

A batch reference for `json_transport.receive`, written from the protocol's description rather
than from the loop: split the whole stream at every `b"\n"`, drop the final unterminated segment,
strip each line, drop the empty ones, and parse the rest in order, each with
`json.loads(line.decode("utf-8"))`, stopping at the first that raises.

* `batch_eq_reference`: the inner loop run over the whole stream at once is the reference;
* `receive_eq_reference`: for every cut of a stream into non-empty `recv` chunks followed by the
  end of the stream, `receive` yields what the reference yields, up to and including the line
  that raises, so where the chunks were cut never matters.
-/

namespace UsbPassthrough
namespace Channel

open Json

/-- The lines the reference parses: `stream.split(b"\n")` without its last segment, each
stripped, the empty ones dropped. -/
def referenceLines (stream : List UInt8) : List (List UInt8) :=
  (((stream.splitOn 10).dropLast).map strip).filter (!·.isEmpty)

/-- Parse lines in order, up to the first that raises. -/
def parseLines : List (List UInt8) → Received
  | [] => ⟨[], none⟩
  | line :: lines =>
    match utf8Decode line >>= loads with
    | .error e => ⟨[], some e⟩
    | .ok v => ⟨v :: (parseLines lines).values, (parseLines lines).stop⟩

/-- The batch reference on a whole stream. -/
def reference (stream : List UInt8) : Received := parseLines (referenceLines stream)

theorem splitOn_line {line : List UInt8} (h : (10 : UInt8) ∉ line) (rest : List UInt8) :
    (line ++ 10 :: rest).splitOn 10 = line :: rest.splitOn 10 :=
  List.splitOnP_first _ line (fun x hx e => h (by rwa [beq_iff_eq.mp e] at hx)) 10 rfl rest

theorem referenceLines_line {line : List UInt8} (h : (10 : UInt8) ∉ line) (rest : List UInt8) :
    referenceLines (line ++ 10 :: rest) =
      if (strip line).isEmpty then referenceLines rest else strip line :: referenceLines rest := by
  obtain ⟨l, ls, hl⟩ := List.exists_cons_of_ne_nil (List.splitOnP_ne_nil (· == (10 : UInt8)) rest)
  have hs : rest.splitOn 10 = l :: ls := hl
  unfold referenceLines
  rw [splitOn_line h, hs, List.dropLast_cons₂, List.map_cons, List.filter_cons]
  cases (strip line).isEmpty <;> rfl

theorem referenceLines_of_not_mem {stream : List UInt8} (h : (10 : UInt8) ∉ stream) :
    referenceLines stream = [] := by
  have hs : stream.splitOn 10 = [stream] :=
    List.splitOnP_eq_single _ stream fun x hx e => h (by rwa [beq_iff_eq.mp e] at hx)
  rw [referenceLines, hs]
  rfl

/-- A stripped line that is not empty: `parseLine` parses it as the reference does. -/
theorem parseLine_of_not_empty {line : List UInt8} (h : (strip line).isEmpty = false) :
    parseLine line = some <$> (utf8Decode (strip line) >>= loads) := by
  simp only [parseLine, h, Bool.false_eq_true, if_false]
  rcases utf8Decode (strip line) with e | s
  · rfl
  · simp only [except_ok_bind]
    rcases loads s <;> rfl

theorem batch_eq_reference (stream : List UInt8) : batch stream none = reference stream := by
  obtain ⟨n, hlen⟩ : ∃ n, stream.length < n := ⟨_, Nat.lt_succ_self _⟩
  induction n generalizing stream with
  | zero => exact absurd hlen (Nat.not_lt_zero _)
  | succ n ih =>
    by_cases hn : (10 : UInt8) ∈ stream
    · obtain ⟨line, rest, rfl, hl⟩ := exists_first_newline hn
      have hr : rest.length < n := by simp at hlen; omega
      have ihr := ih rest hr
      rw [reference, referenceLines_line hl, batch, drainAll_line hl]
      cases he : (strip line).isEmpty
      · rw [parseLine_of_not_empty he, if_neg Bool.false_ne_true]
        rw [batch, reference] at ihr
        rcases hp : utf8Decode (strip line) >>= loads with e | v <;>
          simp only [except_map_ok, except_map_error, parseLines, hp]
        rcases hd : drainAll rest with ⟨vs, r, _ | e⟩ <;> rw [hd] at ihr <;> rw [← ihr]
      · rw [if_pos rfl]
        simp only [parseLine, he, if_true]
        exact ihr
    · rw [reference, referenceLines_of_not_mem hn, batch, drainAll_of_not_mem hn]
      rfl

/-- However `recv` cut the stream into non-empty chunks before the end of the stream, `receive`
yields the values of the reference, and raises where the reference raises. -/
theorem receive_eq_reference {stream : List UInt8} {chunks : List (List UInt8)}
    (hj : chunks.flatten = stream) (hc : ∀ c ∈ chunks, c ≠ []) :
    receive chunks none = reference stream := by
  rw [receive_eq_batch chunks none hc, hj, batch_eq_reference]

/-- A stream with a blank line, a line of whitespace, a line that is not JSON and an unterminated
tail, cut inside a line and inside a value. -/
theorem framing_cut_inside_value :
    receive (["  \n\x7b\"a\":1\x7d\n\t", "\n[tru", "e]\nnot json\n\x7b\"b\""].map
        fun s => utf8Encode s.toList) none =
      reference (utf8Encode "  \n\x7b\"a\":1\x7d\n\t\n[true]\nnot json\n\x7b\"b\"".toList) :=
  receive_eq_reference (by decide) (by decide)

end Channel
end UsbPassthrough
