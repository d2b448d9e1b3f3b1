import NodeDataplane.Net.Address

/-!
# Networks

A network is the block of all addresses that share their first bits. Its address has no bit set
behind the prefix: `Block.of` clears them, and the type keeps them cleared. An IPv4 prefix is also
read from a mask in octets, either the mask of the network bits or that of the host bits.

An interface is an address together with the network it lives in.
-/

namespace NodeDataplane

open NodeDataplane.Text

namespace Net

/-- The word whose first `length` bits are set and no others. -/
def mask (width length : Nat) : BitVec width := BitVec.allOnes width <<< (width - length)

/-- All words that agree with `bits` in the first `length` bits. -/
structure Block (width : Nat) where
  bits : BitVec width
  length : Fin (width + 1)
  masked : bits &&& mask width length = bits
  deriving DecidableEq, Repr

/-- The block around a word: the bits behind the prefix are cleared. -/
def Block.of {width : Nat} (bits : BitVec width) (length : Fin (width + 1)) : Block width where
  bits := bits &&& mask width length
  length := length
  masked := by rw [BitVec.and_assoc, BitVec.and_self]

@[simp] theorem Block.of_bits {width : Nat} (b : Block width) : Block.of b.bits b.length = b := by
  cases b with
  | mk bits length masked => simp [Block.of, masked]

/-- A prefix length in decimal digits, which may start with zeros. -/
def readLength? (width : Nat) (cs : List Char) : Option (Fin (width + 1)) :=
  if cs.isEmpty || !cs.all Char.isDigit || maxDigits < cs.length then none
  else
    let n := natOfDigits cs
    if h : n < width + 1 then some ⟨n, h⟩ else none

def lengthOfMask? {width : Nat} (x : BitVec width) : Option (Fin (width + 1)) :=
  (List.finRange (width + 1)).find? fun length => mask width length == x

end Net

/-- A network of either version, with the scope it is valid in if that is named. -/
inductive IPNetwork where
  | v4 (block : Net.Block 32)
  | v6 (block : Net.Block 128) (scope : Option String)
  deriving DecidableEq, Repr

namespace IPNetwork

def version : IPNetwork → IPVersion
  | v4 _ => .v4
  | v6 _ _ => .v6

def address : IPNetwork → IPAddress
  | v4 block => .v4 ⟨block.bits⟩
  | v6 block scope => .v6 ⟨block.bits, scope⟩

def length : IPNetwork → Nat
  | v4 block => block.length
  | v6 block _ => block.length

/-- The canonical text of a network: its address and the prefix length. -/
def text (n : IPNetwork) : String := n.address.text ++ "/" ++ toString n.length

/-- An IPv4 prefix: its length, the mask of its network bits or the mask of its host bits. -/
def readPrefix4? (cs : List Char) : Option (Fin 33) :=
  Net.readLength? 32 cs <|>
    ((IPv4.read? cs).bind fun a => Net.lengthOfMask? a.bits <|> Net.lengthOfMask? (~~~ a.bits))

/-- The network of an address, given the text of the prefix; the address alone without one. The
scope goes with the address: it is kept only if clearing the host bits changes nothing. -/
def ofAddress? (address : IPAddress) (lengthText : Option (List Char)) : Option IPNetwork :=
  match address with
  | .v4 a => do
    let length ← match lengthText with
      | some cs => readPrefix4? cs
      | none => some (Fin.last 32)
    return v4 (Net.Block.of a.bits length)
  | .v6 a => do
    let length ← match lengthText with
      | some cs => Net.readLength? 128 cs
      | none => some (Fin.last 128)
    let block := Net.Block.of a.bits length
    return v6 block (if block.bits = a.bits then a.scope else none)

/-- Read a network of one version only: an address with at most one prefix, of which the host bits
are cleared. -/
def readAs? (version : IPVersion) (cs : List Char) : Option IPNetwork :=
  match fields '/' cs with
  | [address] => (IPAddress.readAs? version address).bind (ofAddress? · none)
  | [address, length] => (IPAddress.readAs? version address).bind (ofAddress? · (some length))
  | _ => none

/-- Read a network of either version. -/
def read? (cs : List Char) : Option IPNetwork := readAs? .v4 cs <|> readAs? .v6 cs

end IPNetwork

structure Interface where
  address : IPAddress
  network : IPNetwork
  deriving DecidableEq, Repr

namespace Interface

def read? (cs : List Char) : Option Interface := do
  let (address, lengthText) ← match fields '/' cs with
    | [address] => some (address, none)
    | [address, length] => some (address, some length)
    | _ => none
  let address ← IPAddress.read? address
  let network ← IPNetwork.ofAddress? address lengthText
  return ⟨address, network⟩

def host (i : Interface) : IPAddress := i.address.unscoped

end Interface

end NodeDataplane
