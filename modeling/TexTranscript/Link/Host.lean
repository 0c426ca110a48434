import TexTranscript.Link.Address
import TexTranscript.Link.HostName
import TexTranscript.Link.Percent
import TexTranscript.Link.Refusal

/-!
# Hosts

The host of a web address is an Internet address or a name, and what a name may be
depends on the scheme. For a scheme of the network it is a domain name: encoded
characters in it are decoded, it is written in ASCII, and a name whose last label is a
number must be an address. For any other scheme it is a plain text without separators,
in which controls and characters beyond ASCII are encoded.

## Main definitions

* `Host.plain` – the host of an address outside the network.
* `Host.domain` – the host of an address in the network.
-/

namespace TexTranscript

namespace Host

/-- What no host may hold: the characters that separate the parts of an address. -/
def separators : Text := [' ', '\x00', '\t', '\n', '\r'] ++ "#/:<>?@[\\]^|".toList

/-- The bytes that stand for themselves wherever nothing stricter is asked for: all
of ASCII but the controls. -/
def isPrintable (b : UInt8) : Bool := 0x20 ≤ b && b < 0x7F

/-- The address of the new form between square brackets. -/
def bracketed (t : Text) : Except Refusal Text :=
  match t.getLast?, Address.six? t.dropLast with
  | some ']', some ns => .ok (['['] ++ Address.sixText ns ++ [']'])
  | _, _ => .error .badGroupedAddress

/-- **The host of an address outside the network**, as it is written back. -/
def plain : Text → Except Refusal Text
  | '[' :: t => bracketed t
  | t =>
    if t.any separators.contains then .error .badHostCharacter
    else .ok (Percent.encodeText isPrintable t)

/-- **The host of an address in the network**, as it is written back. -/
def domain : Text → Except Refusal Text
  | '[' :: t => bracketed t
  | t => do
    let some name := (Utf8.decode? (Percent.decode t)).bind HostName.ascii? | throw .badName
    if name = [] then throw .noHost
    if Address.endsInNumber name then
      let some n := Address.four? name | throw .badDottedAddress
      return Address.fourText n
    return name

end Host

end TexTranscript
