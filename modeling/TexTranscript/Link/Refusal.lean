/-!
# Why a web address is refused

A web address is read leniently: what is out of place in it is encoded or left
away wherever that is possible. What remains is in this list.
-/

namespace TexTranscript

/-- **Why a web address is refused.** -/
inductive Refusal where
  /-- It does not begin with a scheme. -/
  | noScheme
  /-- It has no host where there must be one. -/
  | noHost
  /-- The number of its socket is no number of 16 bits. -/
  | badSocket
  /-- Its host can be no name, even after decoding. -/
  | badName
  | badDottedAddress
  | badGroupedAddress
  /-- Its host holds a character that separates the parts of an address. -/
  | badHostCharacter
deriving Repr, DecidableEq, Inhabited

/-- The wording of a refusal. -/
def Refusal.message : Refusal → String
  | noScheme => "relative URL without a base"
  | noHost => "empty host"
  | badSocket => "invalid port number"
  | badName => "invalid international domain name"
  | badDottedAddress => "invalid IPv4 address"
  | badGroupedAddress => "invalid IPv6 address"
  | badHostCharacter => "invalid domain character"

end TexTranscript
