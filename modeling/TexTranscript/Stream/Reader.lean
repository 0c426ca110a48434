import TexTranscript.Stream.Source

/-!
# Line readers

The bytes of a transcript come bit by bit. Whoever asks for more is given some
of them, or is interrupted and asks again, or is told that there are no more, or
fails. A *line reader* takes lines from such a source of bytes: it reads up to
the next line feed into a buffer, and decodes what is there – one line at a
time, or a whole statement, for which it goes on reading while lines are broken
off at the width of the terminal.

A reader that could not read a line is *exhausted*, whether the source failed or
had nothing more, and from then on it does not ask the source for anything. The
end that a source reports in the middle of a line is not noticed: the line then
counts as one that is not terminated, and the next one begins behind the end.

## Main definitions

* `Fill`, `ByteSource`, `ByteSource.readUntil` – bytes that come bit by bit.
* `LineReader`, `LineReader.readLine` – a reader, and how it reads a line.
* `LineReader.nextLine`, `LineReader.nextStatement` – what can be asked of it.
* `LineReader.lines` – the lines that it would still read.
-/

namespace TexTranscript

/-! ## Bytes that come bit by bit -/

/-- What comes of asking for more bytes. -/
inductive Fill where
  /-- The bytes that come. None at all means that the end is reported. -/
  | bytes (chunk : List UInt8)
  /-- Nothing comes, and it is asked again. -/
  | interrupted
  | failed
deriving Repr, DecidableEq

/-- The bytes that come. -/
def Fill.content : Fill → List UInt8
  | bytes chunk => chunk
  | _ => []

/-- **Bytes that come bit by bit.** After the last fill the end is reported, however
often one asks. -/
structure ByteSource where
  /-- What has come and has not been taken. -/
  held : List UInt8 := []
  /-- What comes of asking, time after time. -/
  fills : List Fill
deriving Repr, DecidableEq

namespace ByteSource

/-- All bytes that have not been taken, whatever comes between them. -/
def content (s : ByteSource) : List UInt8 := s.held ++ s.fills.flatMap Fill.content

/-- Reads bytes into a buffer, up to and including the first `stop`, or as far as they
come. Answers whether it did without failing, the buffer, and the source. -/
def readUntil (stop : UInt8) (buf held : List UInt8) (fills : List Fill) :
    Bool × List UInt8 × ByteSource :=
  match held.dropWhile (· != stop) with
  | b :: rest => (true, buf ++ (held.takeWhile (· != stop) ++ [b]), ⟨rest, fills⟩)
  | [] =>
    match fills with
    | [] => (true, buf ++ held, ⟨[], []⟩)
    | .bytes [] :: fills => (true, buf ++ held, ⟨[], fills⟩)
    | .bytes (b :: chunk) :: fills => readUntil stop (buf ++ held) (b :: chunk) fills
    | .interrupted :: fills => readUntil stop (buf ++ held) [] fills
    | .failed :: fills => (false, buf ++ held, ⟨[], fills⟩)

/-- **No byte is lost** by reading: each is in the buffer or still in the source. -/
theorem readUntil_content (stop : UInt8) (buf held : List UInt8) (fills : List Fill) :
    (readUntil stop buf held fills).2.1 ++ (readUntil stop buf held fills).2.2.content
      = buf ++ (ByteSource.mk held fills).content := by
  fun_induction readUntil stop buf held fills with
  | case1 fills buf held b rest h =>
    have hs : held.takeWhile (· != stop) ++ b :: rest = held := by
      rw [← h]
      exact List.takeWhile_append_dropWhile
    calc buf ++ (held.takeWhile (· != stop) ++ [b]) ++ (rest ++ fills.flatMap Fill.content)
        = buf ++ ((held.takeWhile (· != stop) ++ b :: rest) ++ fills.flatMap Fill.content) := by
          simp
      _ = buf ++ (held ++ fills.flatMap Fill.content) := by rw [hs]
  | case2 buf held h => simp [content]
  | case3 buf held h fills => simp [content, Fill.content]
  | case4 buf held h b chunk fills ih =>
    rw [ih]
    simp [content, Fill.content]
  | case5 buf held h fills ih =>
    rw [ih]
    simp [content, Fill.content]
  | case6 buf held h fills => simp [content, Fill.content]

end ByteSource

/-! ## Reading lines -/

/-- **A reader of lines.** -/
structure LineReader where
  inner : ByteSource
  /-- What was read last. -/
  buf : List UInt8 := []
  /-- A line could not be read. -/
  exhausted : Bool := false
deriving Repr, DecidableEq

/-- The line that some bytes make which were read up to a line feed, or as far as they
came. -/
def Line.ofRead (read : List UInt8) : Line :=
  if read.getLast? = some lineFeed then (Line.mk read.dropLast true).dropReturn
  else ⟨read, false⟩

namespace LineReader

/-- A reader that has read nothing. -/
def ofFills (fills : List Fill) : LineReader := { inner := { fills } }

/-- A reader whose bytes come all at once. -/
def ofBytes (bytes : List UInt8) : LineReader := ofFills [.bytes bytes]

/-- How many bytes may still be read. -/
def size (r : LineReader) : Nat := r.inner.content.length

/-- Reads a line into the buffer, without what ended it, and answers whether a line feed
did. Without an answer the reader is exhausted. -/
def readLine (r : LineReader) : Option Bool × LineReader :=
  if r.exhausted then (none, r)
  else
    match ByteSource.readUntil lineFeed [] r.inner.held r.inner.fills with
    | (true, b :: read, inner) =>
      (some (Line.ofRead (b :: read)).terminated,
        { r with inner, buf := (Line.ofRead (b :: read)).bytes })
    | (_, buf, inner) => (none, { inner, buf, exhausted := true })

/-- The reader cannot read any more. -/
theorem exhausted_of_readLine_none {r r' : LineReader} (h : r.readLine = (none, r')) :
    r'.exhausted = true := by
  unfold readLine at h
  split at h
  · next he =>
    rw [Prod.mk.injEq] at h
    rw [← h.2]
    exact he
  · split at h
    · simp at h
    · rw [Prod.mk.injEq] at h
      rw [← h.2]

theorem readLine_of_exhausted {r : LineReader} (h : r.exhausted = true) :
    r.readLine = (none, r) := by
  rw [readLine, if_pos h]

/-- **Every line uses bytes up.** -/
theorem size_readLine_lt {r r' : LineReader} {terminated : Bool}
    (h : r.readLine = (some terminated, r')) : r'.size < r.size := by
  have hc := ByteSource.readUntil_content lineFeed [] r.inner.held r.inner.fills
  unfold readLine at h
  split at h
  · simp at h
  · split at h
    · next b read inner hr =>
      rw [hr] at hc
      rw [Prod.mk.injEq] at h
      have hl := congrArg List.length hc
      rw [← h.2]
      simp only [List.nil_append, List.length_append, List.length_cons] at hl
      show inner.content.length < (ByteSource.mk r.inner.held r.inner.fills).content.length
      omega
    · simp at h

/-- The bytes of a line are broken off at the full width, but not after a sentence. -/
def isWrapped (line : List UInt8) : Bool :=
  line.length == wrapWidth && line.getLast?.any fun last => !sentenceEnds.contains last

/-- The next physical line. -/
def nextLine (r : LineReader) : Option Text × LineReader :=
  match r.readLine with
  | (some _, r) => (some (Utf8.decodeLossy r.buf), r)
  | (none, r) => (none, r)

/-- Goes on reading behind a statement while the last line was terminated and broken
off. -/
def join (statement : List UInt8) (terminated wrapped : Bool) (r : LineReader) :
    List UInt8 × LineReader :=
  if terminated && wrapped then
    match _h : r.readLine with
    | (some terminated, r') => join (statement ++ r'.buf) terminated (isWrapped r'.buf) r'
    | (none, r') => (statement, r')
  else (statement, r)
termination_by r.size
decreasing_by exact size_readLine_lt _h

/-- The next statement. The buffer is lent to it while it is put together. -/
def nextStatement (r : LineReader) : Option Text × LineReader :=
  match r.readLine with
  | (some terminated, r) =>
    let (statement, r) := join r.buf terminated (isWrapped r.buf) { r with buf := [] }
    (some (Utf8.decodeLossy statement), { r with buf := statement })
  | (none, r) => (none, r)

/-- **The lines that a reader would still read**, one after the other. -/
def lines (r : LineReader) : List Line :=
  match _h : r.readLine with
  | (some terminated, r') => ⟨r'.buf, terminated⟩ :: lines r'
  | (none, _) => []
termination_by r.size
decreasing_by exact size_readLine_lt _h

/-! ## A reader is a line source -/

theorem lines_of_readLine_none {r r' : LineReader} (h : r.readLine = (none, r')) :
    r.lines = [] := by
  rw [lines]
  split
  · next h' => simp [h] at h'
  · rfl

theorem lines_of_readLine_some {r r' : LineReader} {terminated : Bool}
    (h : r.readLine = (some terminated, r')) : r.lines = ⟨r'.buf, terminated⟩ :: r'.lines := by
  rw [lines]
  split
  · next h' =>
    rw [h, Prod.mk.injEq, Option.some.injEq] at h'
    rw [h'.1, h'.2]
  · next h' => simp [h] at h'

/-- **An exhausted reader has no lines.** -/
theorem lines_of_exhausted {r : LineReader} (h : r.exhausted = true) : r.lines = [] :=
  lines_of_readLine_none (readLine_of_exhausted h)

/-- What a reader still reads does not depend on what it read last. -/
@[simp] theorem lines_withBuf (r : LineReader) (buf : List UInt8) :
    ({ r with buf } : LineReader).lines = r.lines := by
  by_cases he : r.exhausted = true
  · rw [lines_of_exhausted he, lines_of_exhausted (r := { r with buf }) he]
  · have hr : ({ r with buf } : LineReader).readLine = r.readLine := by
      unfold readLine
      rw [if_neg he, if_neg he]
    rw [lines, lines, hr]

theorem readLine_of_lines_nil {r : LineReader} (h : r.lines = []) :
    ∃ r', r.readLine = (none, r') ∧ r'.lines = [] := by
  cases hr : r.readLine with
  | mk answer r' =>
    cases answer with
    | none => exact ⟨r', rfl, lines_of_exhausted (exhausted_of_readLine_none hr)⟩
    | some terminated =>
      rw [lines_of_readLine_some hr] at h
      exact absurd h (List.cons_ne_nil _ _)

theorem readLine_of_lines_cons {r : LineReader} {l : Line} {ls : List Line}
    (h : r.lines = l :: ls) :
    ∃ r', r.readLine = (some l.terminated, r') ∧ r'.buf = l.bytes ∧ r'.lines = ls := by
  cases hr : r.readLine with
  | mk answer r' =>
    cases answer with
    | none =>
      rw [lines_of_readLine_none hr] at h
      exact absurd h.symm (List.cons_ne_nil _ _)
    | some terminated =>
      rw [lines_of_readLine_some hr, List.cons.injEq] at h
      obtain ⟨rfl, rfl⟩ := h
      exact ⟨r', rfl, rfl, rfl⟩

/-- The two ways to say that a line goes on. -/
theorem continues_eq (l : Line) : l.continues = (l.terminated && isWrapped l.bytes) := by
  unfold Line.continues isWrapped
  rw [Bool.and_assoc]
  by_cases hw : l.bytes.length = wrapWidth
  · cases hl : l.bytes.getLast? with
    | none =>
      rw [List.getLast?_eq_none_iff] at hl
      rw [hl] at hw
      exact absurd hw (by decide)
    | some last => simp
  · have hw' : (l.bytes.length == wrapWidth) = false := beq_false_of_ne hw
    rw [hw']
    rfl

/-- **Joining is gathering.** A statement takes the same lines whether it is read from
the bytes or from the list of lines. -/
theorem join_eq_gather (statement : List UInt8) (l : Line) (r : LineReader) :
    (join (statement ++ l.bytes) l.terminated (isWrapped l.bytes) r).map id lines
      = (Statement.gather l r.lines).map (statement ++ ·) id := by
  generalize hls : r.lines = ls
  induction ls generalizing statement l r with
  | nil =>
    obtain ⟨r', hr, hr'⟩ := readLine_of_lines_nil hls
    rw [join]
    split
    · split
      · next h' => simp [hr] at h'
      · next h' =>
        rw [hr, Prod.mk.injEq] at h'
        simp [Statement.gather, ← h'.2, hr']
    · simp [Statement.gather, hls]
  | cons m ls ih =>
    obtain ⟨r', hr, hb, hr'⟩ := readLine_of_lines_cons hls
    rw [join, ← continues_eq, Statement.gather]
    split
    · split
      · next h' =>
        rw [hr, Prod.mk.injEq, Option.some.injEq] at h'
        rw [← h'.1, ← h'.2, hb, ih (statement ++ l.bytes) m r' hr']
        simp [Prod.map]
      · next h' => simp [hr] at h'
    · simp [hls]

theorem lines_nextLine (r : LineReader) : r.nextLine.map id lines = Line.take r.lines := by
  unfold nextLine
  cases hls : r.lines with
  | nil =>
    obtain ⟨r', hr, hr'⟩ := readLine_of_lines_nil hls
    rw [hr]
    simp [Line.take, hr']
  | cons l ls =>
    obtain ⟨r', hr, hb, hr'⟩ := readLine_of_lines_cons hls
    rw [hr]
    simp [Line.take, Line.text, hb, hr']

theorem lines_nextStatement (r : LineReader) :
    r.nextStatement.map id lines = Statement.take r.lines := by
  unfold nextStatement
  cases hls : r.lines with
  | nil =>
    obtain ⟨r', hr, hr'⟩ := readLine_of_lines_nil hls
    rw [hr]
    simp [Statement.take, Statement.next?, hr']
  | cons l ls =>
    obtain ⟨r', hr, hb, hr'⟩ := readLine_of_lines_cons hls
    have hj := join_eq_gather [] l { r' with buf := [] }
    rw [lines_withBuf, hr', List.nil_append] at hj
    rw [hr]
    dsimp only
    rw [hb]
    simp only [Prod.map_apply, id_eq, lines_withBuf, Statement.take, Statement.next?]
    rw [Prod.ext_iff] at hj
    exact Prod.ext (congrArg (some ∘ Utf8.decodeLossy) hj.1) hj.2

/-- **A reader is a line source**: its lines are those that it would still read. -/
instance : LineSource LineReader where
  lines := lines
  takeStatement := nextStatement
  takeLine := nextLine
  lines_takeStatement := lines_nextStatement
  lines_takeLine := lines_nextLine

end LineReader

end TexTranscript
