/-
This file fixes the machine on which the allocator runs: 64-bit words, byte
addresses, the 16-byte unit in which every block is measured, and the tag that
memory shows of a block that is handed out.
-/

namespace NextFit

/-- A 64-bit machine word. Sums and differences written with `+` and `-` wrap. -/
abbrev Word := UInt64

/-- The address of a byte. -/
abbrev Address := Word

/-- One unit in bytes: two words, which is what a header takes. -/
def unitBytes : Word := 16

/-- Every header, and so every payload, stands at a multiple of this. -/
def headerAlignment : Word := 16

/-- The word in the place of the link while a block is handed out. It is no multiple of
`headerAlignment`, so no header stands there. -/
def liveTag : Word := 0xA110CA7E

/-- The number of the unit in which an address falls. -/
def unitOf (address : Address) : Nat :=
  address.toNat / 16

/-- The address a number of units above another one, wrapping at the end of the address
space. -/
def Address.above (address : Address) (units : Word) : Address :=
  address + unitBytes * units

/-- The payload of a block begins one unit above its header. -/
def payloadAbove (header : Address) : Address :=
  header + unitBytes

/-- The header of a block stands one unit below its payload. -/
def headerBelow (payload : Address) : Address :=
  payload - unitBytes

theorem headerBelow_payloadAbove (header : Address) : headerBelow (payloadAbove header) = header :=
  UInt64.add_sub_cancel header unitBytes

theorem payloadAbove_headerBelow (payload : Address) :
    payloadAbove (headerBelow payload) = payload :=
  UInt64.sub_add_cancel payload unitBytes

theorem liveTag_mod_headerAlignment : liveTag % headerAlignment ≠ 0 := by
  decide

end NextFit
