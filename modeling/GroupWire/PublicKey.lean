import GroupWire.Bech32
import GroupWire.Hex

/-! Public keys: read from hex digits or from their labelled base-32 form, with or
without the scheme in front. -/
namespace GroupWire

structure PublicKey where
  bytes : Hex32
  deriving DecidableEq

namespace PublicKey

def hex (k : PublicKey) : Text := k.bytes.digits

def label : Text := "npub"

/-- The 256 bits of the key and four zero bits make 52 symbols. -/
def npub (k : PublicKey) : Text := Bech32.encode label (Bech32.digits 32 52 (k.bytes.toNat * 16))

def ofNpub? (t : Text) : Option PublicKey := do
  let data ← Bech32.decode? label t
  if data.length = 52 then
    let n := Bech32.ofDigits 32 data / 16
    (Hex32.read? (Text.padLeft 64 '0' (Nat.toDigits 16 n))).map PublicKey.mk
  else none

def scheme : Text := "nostr:"

def parse? (t : Text) : Option PublicKey :=
  ((Hex32.read? t).map PublicKey.mk).or
    (ofNpub? (if scheme.isPrefixOf t then t.drop scheme.length else t))

end PublicKey

/-- The id of a published event. -/
structure EventId where
  bytes : Hex32
  deriving DecidableEq

namespace EventId

def hex (e : EventId) : Text := e.bytes.digits

def parse? (t : Text) : Option EventId := (Hex32.read? t).map EventId.mk

/-- The first eight digits, which are enough to point at an event of the same group. -/
def short (e : EventId) : Text := e.hex.take 8

end EventId

end GroupWire
