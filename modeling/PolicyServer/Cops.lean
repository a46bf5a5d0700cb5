import PolicyServer.Objects

namespace PolicyServer

open Lib

/-!
# COPS messages

The checks of `cops.c` on headers and objects, and the frames they are about:
a `Frame` is a message whose length field counts its own bytes and whose
client-type is the one of its opcode, whatever its body is.
-/

def pcmmClientType : UInt16 := 32778

def copsOpcodeOk (opcode : UInt8) : Bool :=
  match opcode.toNat with
  | 1 | 2 | 3 | 4 | 6 | 7 | 8 | 9 => true
  | _ => false

def copsHeaderOk (opcode : UInt8) (clientType : UInt16) (messageLen : UInt32) : Bool :=
  (copsOpcodeOk opcode && clientType == 32778 && messageLen != 0 &&
      decide (messageLen.toNat < 1000)) ||
    (opcode == 9 && clientType == 0)

def copsClassOk (cnum ctype : UInt8) : Bool :=
  match cnum.toNat with
  | 1 | 2 | 6 | 8 | 9 | 10 | 11 | 12 =>
      match ctype.toNat with
      | 1 | 2 | 3 => true
      | _ => false
  | _ => false

/-! ## Messages the server sends -/

/-- The Client-Accept: a Keep-Alive Timer object, and an Accounting Timer
object unless that timer is 0. -/
def copsClientAccept (kaTimer acctTimer : UInt32) : List UInt8 :=
  [16, 7] ++ packU16Be pcmmClientType ++ packU32Be (if acctTimer = 0 then 16 else 24) ++
    ([0, 8, 10, 1] ++ packU32Be kaTimer) ++
    (if acctTimer = 0 then [] else [0, 8, 15, 1] ++ packU32Be acctTimer)

def copsKeepalive : List UInt8 :=
  [16, 9, 0, 0, 0, 0, 0, 8]

/-! ## Frames -/

/-- A well-formed message: version 1, a client-type that goes with the opcode,
and at most 65535 bytes. -/
structure Frame where
  version : UInt8
  opcode : UInt8
  clientType : UInt16
  body : List UInt8
  versionOk : version >>> 4 = 1
  clientOk : clientType = pcmmClientType ∨ opcode = 9 ∧ clientType = 0
  fits : body.length + 8 < 65536

namespace Frame

def size (frame : Frame) : Nat :=
  frame.body.length + 8

/-- The length field. -/
def length (frame : Frame) : UInt32 :=
  UInt32.ofNat frame.size

def header (frame : Frame) : List UInt8 :=
  [frame.version, frame.opcode] ++ (packU16Be frame.clientType ++ packU32Be frame.length)

def bytes (frame : Frame) : List UInt8 :=
  frame.header ++ frame.body

@[simp] theorem header_length (frame : Frame) : frame.header.length = 8 := rfl

@[simp] theorem bytes_length (frame : Frame) : frame.bytes.length = frame.size := by
  rw [bytes, List.length_append, header_length, size, Nat.add_comm]

theorem length_toNat (frame : Frame) : frame.length.toNat = frame.size :=
  UInt32.toNat_ofNat_of_lt' (Nat.lt_trans frame.fits (by decide))

theorem size_pos (frame : Frame) : 8 ≤ frame.size :=
  Nat.le_add_left 8 _

theorem size_lt (frame : Frame) : frame.size < 65536 :=
  frame.fits

/-- A frame of COPS version 1, without flags, for the PCMM client type. -/
def pcmm (opcode : UInt8) (body : List UInt8) (fits : body.length + 8 < 65536) : Frame where
  version := 16
  opcode := opcode
  clientType := pcmmClientType
  body := body
  versionOk := by decide
  clientOk := Or.inl rfl
  fits := fits

/-- A frame lies in memory field by field. -/
structure StoredIn (frame : Frame) (memory : Memory) : Prop where
  version : memory 0 = frame.version
  opcode : memory 1 = frame.opcode
  clientType : unpackU16 memory 2 = frame.clientType
  length : unpackN memory 4 = frame.length
  body : memory.Holds 8 frame.body

theorem storedIn_of_holds {frame : Frame} {memory : Memory} (holds : memory.Holds 0 frame.bytes) :
    frame.StoredIn memory := by
  rcases Memory.holds_append.mp holds with ⟨header, body⟩
  rcases Memory.holds_append.mp header with ⟨tags, fields⟩
  rcases Memory.holds_cons.mp tags with ⟨version, tags⟩
  have opcode := (Memory.holds_cons.mp tags).1
  rcases Memory.holds_append.mp fields with ⟨clientType, length⟩
  exact ⟨version, opcode, unpackU16_of_holds clientType, unpackN_of_holds length, body⟩

end Frame

end PolicyServer
