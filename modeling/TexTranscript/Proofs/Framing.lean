import Mathlib.Data.List.SplitBy
import TexTranscript.Proofs.Output

/-!
# What sinks write to a device

A sink does not write a message in one go. It gives it to its device piece by piece, as the
encoder comes to them, and stops at the first piece that the device does not take. While a device
takes nothing, no piece of a message gets to it; so a message that could not be written leaves
nothing behind that would stand in front of the next one.

Where the pieces are cut does not matter, and whatever the pieces are the output in JSON can be cut
into messages again: behind each line feed, since a message is written without control characters
and a line feed comes behind it.

## Main definitions

* `Writing` – a text, cut into the pieces that are written one after the other.
* `Format.deliver` – what the messages add to a device, one after the other.

## Main statements

* `Format.deliver_eq_written` – this is what the messages add to the output.
* `Format.splitBy_output_json` – an output in JSON is cut behind each line feed.
* `Format.deliver_isolates` – failures are isolated, and messages are framed.
-/

namespace TexTranscript

/-! ## Devices -/

/-- **A way to write a text**: the pieces that a device is given one after the other. -/
structure Writing (t : Text) where
  pieces : List Text
  flatten_pieces : pieces.flatten = t

/-- What a device holds after it was given a piece, if it takes any. -/
def write? (takes : Bool) (held piece : Text) : Option Text :=
  if takes then some (held ++ piece) else none

/-- What a device holds after it was given pieces, up to the first that it does not take. -/
def writeAll (takes : Bool) (held : Text) : List Text → Text
  | [] => held
  | piece :: pieces =>
    match write? takes held piece with
    | some held => writeAll takes held pieces
    | none => held

/-- A device that takes pieces takes them all, and another one takes none. -/
theorem writeAll_eq (takes : Bool) (held : Text) (pieces : List Text) :
    writeAll takes held pieces = held ++ if takes then pieces.flatten else [] := by
  induction pieces generalizing held with
  | nil => cases takes <;> exact (List.append_nil held).symm
  | cons piece pieces ih =>
    cases takes with
    | true =>
      show writeAll true (held ++ piece) pieces = _
      rw [ih, List.append_assoc]
      rfl
    | false => exact (List.append_nil held).symm

namespace Format

variable {f : Format} {l : Linker}

/-- **What messages add to a device**, each of them by its pieces. Each comes with the answer
whether the device takes anything while it is written. -/
def deliver (cut : ∀ m, Writing (f.line l m)) (held : Text) : List (Message × Bool) → List Text
  | [] => []
  | (m, takes) :: messages =>
    let held' := writeAll takes held (cut m).pieces
    held'.drop held.length :: deliver cut held' messages

/-- **Devices are given what messages add to the output**, however they are cut and whatever the
device holds. A device that fails holds what it held before, so what the next message adds does not
depend on the failure. -/
theorem deliver_eq_written (cut : ∀ m, Writing (f.line l m)) (held : Text)
    (messages : List (Message × Bool)) : deliver cut held messages = f.written l messages := by
  induction messages generalizing held with
  | nil => rfl
  | cons x messages ih =>
    obtain ⟨m, takes⟩ := x
    show (writeAll takes held (cut m).pieces).drop held.length :: deliver cut _ messages
      = (if takes then f.line l m else []) :: f.written l messages
    rw [ih, writeAll_eq, List.drop_left, (cut m).flatten_pieces]

/-- A message adds what it would have added, or nothing. -/
theorem written_eq_zipWith (f : Format) (l : Linker) (messages : List (Message × Bool)) :
    f.written l messages = List.zipWith (fun x added => if x.2 then added else []) messages
      (f.written l (messages.map fun x => (x.1, true))) := by
  induction messages with
  | nil => rfl
  | cons x messages ih =>
    show _ :: f.written l messages = _ :: _
    rw [ih]
    rfl

/-! ## Framing -/

/-- The messages that could be written. -/
def kept (messages : List (Message × Bool)) : List Message :=
  (messages.filter Prod.snd).map Prod.fst

/-- What is added altogether is what is written of the messages that could be. -/
theorem flatten_written_eq_output (f : Format) (l : Linker) (messages : List (Message × Bool)) :
    (f.written l messages).flatten = f.output l (kept messages) := by
  induction messages with
  | nil => rfl
  | cons x messages ih =>
    obtain ⟨m, takes⟩ := x
    show (if takes then f.line l m else []) ++ (f.written l messages).flatten = _
    rw [ih]
    cases takes <;> rfl

/-- A text that is ended by a character of which it holds no other is in one piece behind each such
character. -/
theorem isChain_ended {stop : Char} {t : Text} (h : stop ∉ t) :
    (t ++ [stop]).IsChain fun c _ => (c != stop) = true := by
  induction t with
  | nil => exact List.isChain_singleton stop
  | cons c t ih =>
    obtain ⟨hc, ht⟩ := not_or.1 (List.mem_cons.not.1 h)
    exact List.isChain_cons.2 ⟨fun _ _ => bne_iff_ne.2 (Ne.symm hc), ih ht⟩

/-- **An output in JSON is cut behind each line feed** into what was written of each message. The
text of a message has no line feed in it, and the one behind it is where the next piece begins. -/
theorem splitBy_output_json (l : Linker) (messages : List Message) :
    (Format.json.output l messages).splitBy (fun c _ => c != '\n')
      = messages.map (Format.json.line l) := by
  induction messages with
  | nil => rfl
  | cons m messages ih =>
    have hone : (Format.json.line l m).splitBy (fun c _ => c != '\n') = [Format.json.line l m] :=
      List.splitBy_of_isChain (List.concat_ne_nil _ _)
        (isChain_ended (Json.lineFeed_notMem_compact m.toJson))
    show (Format.json.line l m ++ Format.json.output l messages).splitBy _ = _
    rw [List.splitBy_append, hone, ih]
    · rfl
    · intro c hc next _
      obtain rfl : '\n' = c := Option.some.inj (List.getLast?_concat.symm.trans hc)
      exact bne_self_eq_false '\n'

/-- **A message is read back** from its line, with the line feed behind it. White space behind a
document is no part of it. -/
theorem decode_line_json (l : Linker) {m : Message} (h : m.Storable) :
    decode Message.ofJson? (Format.json.line l m) = some m := by
  have hblank : Json.IsBlank ['\n'] := List.forall_mem_singleton.2 rfl
  have hread := Json.read?_append_of_spells (Json.spells_compact _ (Message.fits h)) hblank
  show (Json.read? (m.toJson.compact ++ ['\n'])).bind Message.ofJson? = some m
  rw [hread]
  exact Message.reads h _ (Json.Reordered.refl _)

/-- **Sinks isolate failures, and frame messages.** Let messages be given to a sink, of some of
which nothing can be written. However the sink cuts them into pieces, to the device each message
adds what it would have added if all could be written, or nothing if it is one of those. In JSON the
output, cut behind each line feed, is one piece for each of the messages that could be written, in
their order: there is a line feed at the end of the piece, no other control character in it, and it
is read back as the message, if its counts can be stored. Both parts are about what is written and
not about how it is cut, since devices are given the same in every way of cutting. -/
theorem deliver_isolates (l : Linker) (messages : List (Message × Bool)) :
    (∀ (f : Format) (cut : ∀ m, Writing (f.line l m)),
      deliver cut [] messages = List.zipWith (fun x added => if x.2 then added else []) messages
          (deliver cut [] (messages.map fun x => (x.1, true))) ∧
        deliver cut [] (messages.map fun x => (x.1, true))
          = messages.map fun x => f.line l x.1) ∧
      ∀ cut : ∀ m, Writing (Format.json.line l m),
        (deliver cut [] messages).flatten.splitBy (fun c _ => c != '\n')
            = (kept messages).map (Format.json.line l) ∧
          ∀ m ∈ kept messages,
            (∃ text, Format.json.line l m = text ++ ['\n'] ∧ ∀ c ∈ text, 0x20 ≤ c.toNat) ∧
            (m.Storable → decode Message.ofJson? (Format.json.line l m) = some m) := by
  refine ⟨fun f cut => ⟨?_, ?_⟩, fun cut => ⟨?_, fun m _ => ⟨?_, decode_line_json l⟩⟩⟩
  · rw [deliver_eq_written, deliver_eq_written]
    exact written_eq_zipWith f l messages
  · rw [deliver_eq_written, written, List.map_map]
    rfl
  · rw [deliver_eq_written, flatten_written_eq_output, splitBy_output_json]
  · exact ⟨m.toJson.compact, rfl, Json.isPlain_compact m.toJson⟩

end Format

end TexTranscript
