import PolicyServer.Lib.Reading
import PolicyServer.PolicyPayload

namespace PolicyServer

open Lib

/-!
# The envelope of a service class

`pcmm_scn_envelope` takes eight bytes of a name of any length, puts as many zeros
in front of them as the length with its null byte is past a multiple of four, and
calls the object 20 bytes long.  `carriesName_iff` is that for the names that its
comment allows, of 2 to 15 characters, all of this is right for a name of eight
and wrong for every other.
-/

/-! ## What the source reads of the name -/

/-- The bytes of a name, without its null byte. -/
def nameBytes (scn : String) : List UInt8 :=
  scn.toList.flatMap String.utf8EncodeChar

/-- `pcmm_scn_envelope` with the bytes of the name fetched one by one; `strlen`
looks at `room` of them at most. -/
def readScnEnvelope (dst : Buffer) (room : Nat) : Reading Buffer := do
  let length <- Reading.textLength room 0
  let name <- Reading.bytes 0 8
  let alignment := (length + 1) % 4
  let dst := dst.write 0 (packU16Be 20)
  let dst := dst.write 2 [7]
  let dst := dst.write 3 [2]
  let dst := dst.write 4 [7]
  let dst := dst.write 5 [0]
  let dst := dst.write 6 [0]
  let dst := dst.write 7 (List.replicate alignment 0)
  return dst.write (7 + alignment) name

section Reading

variable {scn : String}

theorem scnMemory_holds (scn : String) (behind : Memory) :
    (scnMemory scn behind).Holds 0 (nameBytes scn ++ [0]) :=
  Memory.behind_holds _ behind

theorem eval_readScnEnvelope (nonzero : forall byte, byte ∈ nameBytes scn -> byte ≠ 0)
    (behind : Memory) {room : Nat} (enough : (nameBytes scn).length < room) (dst : Buffer) :
    (readScnEnvelope dst room).eval (scnMemory scn behind) = pcmmScnEnvelope dst scn behind := by
  have counted := (Reading.textLength_of_holds (scnMemory_holds scn behind) nonzero enough).1
  simp only [readScnEnvelope, Reading.eval_bind, Reading.eval_bytes, counted, Reading.eval_pure,
    pcmmScnEnvelope, nameBytes]

theorem below_readScnEnvelope_iff (nonzero : forall byte, byte ∈ nameBytes scn -> byte ≠ 0)
    (behind : Memory) {room : Nat} (enough : (nameBytes scn).length < room) (dst : Buffer) :
    (readScnEnvelope dst room).Below (scnMemory scn behind) ((nameBytes scn).length + 1) ↔
      8 ≤ (nameBytes scn).length + 1 := by
  have inside := (Reading.textLength_of_holds (scnMemory_holds scn behind) nonzero enough).2
  rw [Nat.zero_add] at inside
  rw [readScnEnvelope, Reading.below_bind_iff, Reading.below_bind_iff,
    Reading.below_bytes_iff (by decide), Reading.below_pure_iff, and_true, Nat.zero_add]
  exact and_iff_right inside

end Reading

/-! ## The documented object -/

/-- The names that are allowed: 2 to 15 characters of ASCII, none of them null. -/
def IsServiceClassName (scn : String) : Prop :=
  (2 ≤ scn.length ∧ scn.length ≤ 15) ∧
    forall char, char ∈ scn.toList -> 0 < char.toNat ∧ char.toNat < 128

/-- What an array with an object of `size` bytes is as the envelope of a name:
the header with the envelope byte and three zeros, the name, and at least one
null byte up to a multiple of four; made by reading the name and its null byte. -/
structure CarriesName (scn : String) (behind : Memory) (envelope : Buffer) (size : Nat) : Prop where
  inside : envelope.outside = 0 ∧ size ≤ envelope.bytes.length
  words : 4 ∣ size
  object : Exists fun padding => envelope.bytes.take size =
    packU16Be (UInt16.ofNat size) ++ ([7, 2, 7, 0, 0, 0] ++
      (nameBytes scn ++ List.replicate (padding + 1) 0))
  string : ((envelope.bytes.take size).drop 8).takeWhile (· ≠ 0) = nameBytes scn
  reads : forall room, (nameBytes scn).length < room ->
    (readScnEnvelope (Buffer.cleared 92) room).Below (scnMemory scn behind)
      ((nameBytes scn).length + 1)

section Names

variable {scn : String}

/-- The bytes of a name are its characters. -/
theorem nameBytes_eq (named : IsServiceClassName scn) :
    nameBytes scn = scn.toList.map fun char => char.val.toUInt8 := by
  have ascii := named.2
  unfold nameBytes
  generalize scn.toList = chars at ascii ⊢
  induction chars with
  | nil => rfl
  | cons char chars inductionHypothesis =>
      have one : char.utf8Size = 1 := by
        apply Char.utf8Size_eq_one_iff.mpr
        have small := (ascii char List.mem_cons_self).2
        exact UInt32.le_iff_toNat_le.mpr (Nat.le_of_lt_succ small)
      rw [List.flatMap_cons, List.map_cons, String.utf8EncodeChar_eq_singleton one,
        inductionHypothesis fun other member => ascii other (List.mem_cons_of_mem _ member)]
      rfl

theorem nameBytes_length (named : IsServiceClassName scn) :
    (nameBytes scn).length = scn.length := by
  rw [nameBytes_eq named, List.length_map, String.length_toList]

theorem nameBytes_nonzero (named : IsServiceClassName scn) {byte : UInt8}
    (member : byte ∈ nameBytes scn) : byte ≠ 0 := by
  rw [nameBytes_eq named] at member
  rcases List.mem_map.mp member with ⟨char, there, rfl⟩
  have ascii := named.2 char there
  intro null
  have same : char.toNat % 256 = 0 := congrArg UInt8.toNat null
  omega

/-- Such a name has no null byte that would end it early. -/
theorem cString_eq (named : IsServiceClassName scn) : cString scn = scn := by
  have all : scn.toList.takeWhile (· != '\x00') = scn.toList := by
    refine List.takeWhile_eq_self_iff.mpr fun char member => bne_iff_ne.mpr ?_
    rintro rfl
    exact absurd (named.2 _ member).1 (by decide)
  rw [cString, all, String.ofList_toList]

theorem takeWhile_zeros {text : List UInt8} (nonzero : forall byte, byte ∈ text -> byte ≠ 0)
    (padding : Nat) :
    (text ++ List.replicate (padding + 1) 0).takeWhile (· ≠ 0) = text := by
  rw [List.takeWhile_append_of_pos fun byte member => decide_eq_true (nonzero byte member),
    List.replicate_succ]
  exact List.append_nil text

/-- The object that is stored for a name. -/
theorem stored_object (scn : String) (behind : Memory) :
    (pcmmScnEnvelope (Buffer.cleared 92) scn behind).bytes.take 20 =
      packU16Be 20 ++ ([7, 2, 7, 0, 0] ++ (List.replicate (scnAlignment scn) 0 ++
        ((scnMemory scn behind).read 0 8 ++ List.replicate (5 - scnAlignment scn) 0))) := by
  have length : UInt16.ofNat 20 = 20 := rfl
  have whole : 20 = (serviceClassRecord scn behind).bytes.length := by
    rw [Record.bytes_length, serviceClassRecord_size]
  rw [pcmmScnEnvelope_filled, take_filled 72 whole, Record.bytes, serviceClassRecord_size, length]
  rfl

/-- A name of eight is stored as documented. -/
theorem carriesName_of_eight (named : IsServiceClassName scn) (eight : scn.length = 8)
    (behind : Memory) :
    CarriesName scn behind (pcmmScnEnvelope (Buffer.cleared 92) scn behind) 20 := by
  have long : (nameBytes scn).length = 8 := (nameBytes_length named).trans eight
  have aligned : scnAlignment scn = 1 := by
    change ((nameBytes scn).length + 1) % 4 = 1
    rw [long]
  have name : (scnMemory scn behind).read 0 8 = nameBytes scn := by
    rw [← long]
    exact Memory.read_of_holds (Memory.holds_append.mp (scnMemory_holds scn behind)).1
  have object := stored_object scn behind
  rw [aligned, name] at object
  refine ⟨⟨?_, ?_⟩, by decide, ⟨3, object⟩, ?_, ?_⟩
  · rw [pcmmScnEnvelope_filled]
    rfl
  · rw [pcmmScnEnvelope_filled, Buffer.filled_length]
    omega
  · rw [object]
    exact takeWhile_zeros (fun _ member => nameBytes_nonzero named member) 3
  · intro room enough
    apply (below_readScnEnvelope_iff (fun _ member => nameBytes_nonzero named member) behind enough
      _).mpr
    omega

/-- And no other is: one that is too short is read past its null byte, and the
others start at another place, or do not fit. -/
theorem eight_of_carriesName (named : IsServiceClassName scn) {behind : Memory}
    (carries : CarriesName scn behind (pcmmScnEnvelope (Buffer.cleared 92) scn behind) 20) :
    scn.length = 8 := by
  have nonzero : forall byte, byte ∈ nameBytes scn -> byte ≠ 0 :=
    fun _ member => nameBytes_nonzero named member
  have long := nameBytes_length named
  have least : 8 ≤ (nameBytes scn).length + 1 :=
    (below_readScnEnvelope_iff nonzero behind (Nat.lt_succ_self _) _).mp
      (carries.reads _ (Nat.lt_succ_self _))
  rcases carries.object with ⟨padding, object⟩
  rw [stored_object] at object
  have same : List.replicate (scnAlignment scn) 0 ++ ((scnMemory scn behind).read 0 8 ++
      List.replicate (5 - scnAlignment scn) 0) =
        0 :: (nameBytes scn ++ List.replicate (padding + 1) 0) := by
    have object : [0, 20, 7, 2, 7, 0, 0] ++ (List.replicate (scnAlignment scn) 0 ++
        ((scnMemory scn behind).read 0 8 ++ List.replicate (5 - scnAlignment scn) 0)) =
          [0, 20, 7, 2, 7, 0, 0] ++ 0 :: (nameBytes scn ++ List.replicate (padding + 1) 0) := object
    exact List.append_cancel_left object
  have count := congrArg List.length same
  have aligned := scnAlignment_le scn
  simp only [List.length_append, List.length_replicate, Memory.read_length, List.length_cons]
    at count
  have alignment : scnAlignment scn = ((nameBytes scn).length + 1) % 4 := rfl
  cases name : nameBytes scn with
  | nil =>
      rw [name] at least
      exact absurd least (by decide)
  | cons first rest =>
      have other : first ≠ 0 := nonzero first (name ▸ List.mem_cons_self)
      have start : scnMemory scn behind 0 = first := by
        have holds := scnMemory_holds scn behind
        rw [name] at holds
        exact (Memory.holds_cons.mp holds).1
      rw [name] at same
      by_cases none : scnAlignment scn = 0
      · rw [none, Memory.read, start] at same
        exact absurd (List.cons.inj same).1 other
      by_cases one : scnAlignment scn = 1
      · omega
      · have two : scnAlignment scn = scnAlignment scn - 2 + 1 + 1 := by omega
        rw [two, List.replicate_succ, List.replicate_succ] at same
        exact absurd (List.cons.inj (List.cons.inj same).2).1.symm other

end Names

/-- For every allowed name in a traffic profile, whatever follows it in the text
of the request, the envelope and the size that `gctl_read_policy` stores are the
documented object exactly where the name has eight characters. -/
theorem carriesName_iff {traffic : Option Json} {scn : String} (named : IsServiceClassName scn)
    (given : objGet traffic "service-class-name" = some (.str scn)) (behind : Memory) :
    Exists fun envelope => Exists fun size =>
      readEnvelope traffic behind (Buffer.cleared 92) = some (some (envelope, size)) ∧
        (CarriesName scn behind envelope size ↔ scn.length = 8) := by
  refine ⟨pcmmScnEnvelope (Buffer.cleared 92) scn behind, 20, ?_, ?_⟩
  · rw [readEnvelope, given]
    dsimp only
    rw [getStr, cString_eq named, Option.map_some]
  · constructor
    · exact eight_of_carriesName named
    · intro eight
      exact carriesName_of_eight named eight behind

/-- The name of the comment in `pcmm.h`. -/
theorem carriesName_iff_documented :
    Exists fun envelope => Exists fun size =>
      readEnvelope (some (.obj [("service-class-name", .str "dSMI001")])) (fun _ => 34)
          (Buffer.cleared 92) = some (some (envelope, size)) ∧
        (CarriesName "dSMI001" (fun _ => 34) envelope size ↔ "dSMI001".length = 8) :=
  have ascii : ("dSMI001".toList.all fun char => decide (0 < char.toNat ∧ char.toNat < 128)) =
      true := by decide
  have named : IsServiceClassName "dSMI001" :=
    ⟨by decide, fun char member => of_decide_eq_true (List.all_eq_true.mp ascii char member)⟩
  carriesName_iff named rfl (fun _ => 34)

/-- Seven characters start at the last of the three reserved bytes, so the text
at offset 8 has lost the first of them. -/
theorem documentedName_not_carried :
    ¬CarriesName "dSMI001" (fun _ => 34)
        (pcmmScnEnvelope (Buffer.cleared 92) "dSMI001" fun _ => 34) 20 ∧
      (((pcmmScnEnvelope (Buffer.cleared 92) "dSMI001" fun _ => 34).bytes.take 20).drop
          8).takeWhile (· ≠ 0) = nameBytes "SMI001" := by
  have lost : (((pcmmScnEnvelope (Buffer.cleared 92) "dSMI001" fun _ => 34).bytes.take 20).drop
      8).takeWhile (· ≠ 0) = nameBytes "SMI001" := by decide +kernel
  refine ⟨fun carries => ?_, lost⟩
  have whole := carries.string
  rw [lost] at whole
  exact absurd whole (by decide +kernel)

end PolicyServer
