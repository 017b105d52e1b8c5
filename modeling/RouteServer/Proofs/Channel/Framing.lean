import RouteServer.Channel.Client
import RouteServer.Command.Service
import RouteServer.Proofs.Lists

/-! # Cutting the input into commands, and sending the output

The commands of a client depend on the bytes that it has sent, not on the pieces in which they were read;
and what its socket takes are the first of the bytes that were written for it.
-/

namespace RouteServer

namespace Channel

/-! ## Commands -/

/-- The commands on the complete lines of an input; blank lines hold none. -/
def commands (input : List UInt8) : List String :=
  ((input.splitOn lineFeed).dropLast).filterMap Client.command?

/-- What stands behind the last line feed of an input. -/
def remainder (input : List UInt8) : List UInt8 := (input.splitOn lineFeed).getLastD []

theorem commands_append (a b : List UInt8) :
    commands (a ++ b) = commands a ++ commands (remainder a ++ b) := by
  simp only [commands, remainder]
  rw [Lists.splitOn_append, List.dropLast_append_of_ne_nil, List.filterMap_append]
  exact List.splitOn_ne_nil lineFeed _

theorem remainder_append (a b : List UInt8) : remainder (a ++ b) = remainder (remainder a ++ b) := by
  simp only [remainder]
  rw [Lists.splitOn_append]
  generalize hpieces : ((a.splitOn lineFeed).getLastD [] ++ b).splitOn lineFeed = pieces
  have hne : pieces ≠ [] := hpieces ▸ List.splitOn_ne_nil lineFeed _
  rw [List.getLastD_eq_getLast?, List.getLastD_eq_getLast?, List.getLast?_append,
    List.getLast?_eq_some_getLast hne, Option.some_or]

namespace Client

/-- A client that has sent `input` and whose commands up to those that wait are `taken`. -/
structure Framed (c : Client) (input : List UInt8) (taken : List String) : Prop where
  lines : taken ++ c.lines = commands input
  unfinished : c.unfinished = remainder input

theorem Framed.feed {c : Client} {input : List UInt8} {taken : List String}
    (h : c.Framed input taken) (bytes : List UInt8) : (c.feed bytes).Framed (input ++ bytes) taken := by
  constructor
  · rw [commands_append, ← h.lines, List.append_assoc, ← h.unfinished]
    rfl
  · rw [remainder_append, ← h.unfinished]
    rfl

/-- Pieces of the input are as good as the whole of it. -/
theorem Framed.foldl {c : Client} {input : List UInt8} {taken : List String}
    (h : c.Framed input taken) (pieces : List (List UInt8)) :
    (pieces.foldl Client.feed c).Framed (input ++ pieces.flatten) taken := by
  induction pieces generalizing c input with
  | nil => simpa using h
  | cons bytes rest ih =>
    rw [List.foldl_cons, List.flatten_cons, ← List.append_assoc]
    exact ih (h.feed bytes)

theorem foldl_feed_outbound (c : Client) (pieces : List (List UInt8)) :
    (pieces.foldl Client.feed c).outbound = c.outbound := by
  induction pieces generalizing c with
  | nil => rfl
  | cons bytes rest ih => exact ih _

theorem foldl_feed_closed (c : Client) (pieces : List (List UInt8)) :
    (pieces.foldl Client.feed c).closed = c.closed := by
  induction pieces generalizing c with
  | nil => rfl
  | cons bytes rest ih => exact ih _

theorem fill_spec (budget : Nat) (c : Client) (outcomes : List ReadOutcome) :
    ∃ pieces : List (List UInt8), (fill budget c outcomes).client = pieces.foldl Client.feed c ∧
      (fill budget c outcomes).received = pieces.flatten := by
  fun_induction fill budget c outcomes with
  | case1 => exact ⟨[], rfl, rfl⟩
  | case2 => exact ⟨[], rfl, rfl⟩
  | case3 budget c bytes rest c' hlong => exact ⟨[bytes], rfl, by simp⟩
  | case4 budget c bytes rest c' hlong r ih =>
    obtain ⟨pieces, hclient, hreceived⟩ := ih
    exact ⟨bytes :: pieces, hclient, by simp [hreceived, r]⟩
  | case5 budget c rest ih => exact ih
  | case6 => exact ⟨[], rfl, rfl⟩
  | case7 => exact ⟨[], rfl, rfl⟩
  | case8 => exact ⟨[], rfl, rfl⟩

/-! ## Sending -/

theorem drain_spec (outbound : List UInt8) (outcomes : List WriteOutcome) :
    (drain outbound outcomes).sent ++ (drain outbound outcomes).outbound = outbound := by
  fun_induction drain outbound outcomes with
  | case4 outbound rest hne n r ih =>
    simp only [List.append_assoc]
    rw [ih, List.take_append_drop]
  | case6 outbound rest hne ih => exact ih
  | _ => simp_all

end Client

/-- The bytes of lines for a client. -/
def encode (outputs : List Output) : List UInt8 :=
  outputs.flatMap fun output => Utf8.encode output.render ++ [lineFeed]

@[simp] theorem encode_nil : encode [] = [] := rfl

/-- A line is sent as its text and a marker as its word, and a line feed ends either. -/
theorem encode_cons (output : Output) (rest : List Output) :
    encode (output :: rest) = Utf8.encode (match output with
      | .line text => text
      | .marker .done => "done"
      | .marker .error => "error") ++ 10 :: encode rest := by
  rw [encode, List.flatMap_cons, List.append_assoc]
  rcases output with text | _ | _ <;> rfl

@[simp]
theorem encode_append (a b : List Output) : encode (a ++ b) = encode a ++ encode b :=
  List.flatMap_append ..

end Channel

end RouteServer
