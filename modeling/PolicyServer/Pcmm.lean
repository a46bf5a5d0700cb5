import PolicyServer.Pack

namespace PolicyServer

open Lib

/-!
# PCMM report decoding and rendering

The part of `pcmm.c` that reads the objects of a Report-State message into one
record and renders the record as the line the API hands to its client.  The
decoders walk an index through the object body; here that index is written out
in each field.

A table of texts answers `"NIL"` outside its entries, and `write_report` takes
the same text as the mark of a report without an error.
-/

/-- `pcmm_rpt_t`. -/
structure PcmmRpt where
  packetcableErrDescr : String
  packetcableErrSubcode : UInt16
  packetcableErrCode : UInt16
  transactionId : UInt16
  applicationId : UInt16
  applicationTag : UInt16
  gateId : UInt32
  gateCmd : String
  flags : UInt8
  cls : UInt8
  t1 : UInt16
  t2 : UInt16
  t3 : UInt16
  t4 : UInt16
  tosf : UInt8
  tosm : UInt8
  srcIp : UInt32
  dstIp : UInt32
  srcMk : UInt32
  dstMk : UInt32
  protoId : UInt16
  srcPortStart : UInt16
  dstPortStart : UInt16
  srcPortEnd : UInt16
  dstPortEnd : UInt16
  classifierId : UInt16
  priority : UInt8
  state : UInt8
  action : UInt8
  deriving DecidableEq, Repr

/-- The designated initialiser of `ps_pcmm_report`; C zeroes the other members. -/
def PcmmRpt.initial : PcmmRpt where
  packetcableErrDescr := "NIL"
  packetcableErrSubcode := 0
  packetcableErrCode := 0
  transactionId := 0
  applicationId := 0
  applicationTag := 0
  gateId := 0
  gateCmd := "NIL"
  flags := 0
  cls := 0
  t1 := 0
  t2 := 0
  t3 := 0
  t4 := 0
  tosf := 0
  tosm := 0
  srcIp := 0
  dstIp := 0
  srcMk := 0
  dstMk := 0
  protoId := 0
  srcPortStart := 0
  dstPortStart := 0
  srcPortEnd := 0
  dstPortEnd := 0
  classifierId := 0
  priority := 0
  state := 0
  action := 0

/-! ## Tables -/

def pcmmOtoact (code : UInt8) : String :=
  match code.toNat with
  | 1 => "GATE-ALLOC"
  | 2 => "GATE-ALLOC-ACK"
  | 3 => "GATE-ALLOC-ERR"
  | 4 => "GATE-SET"
  | 5 => "GATE-SET-ACK"
  | 6 => "GATE-SET-ERR"
  | 7 => "GATE-INFO"
  | 8 => "GATE-INFO-ACK"
  | 9 => "GATE-INFO-ERR"
  | 10 => "GATE-DELETE"
  | 11 => "GATE-DELETE-ACK"
  | 12 => "GATE-DELETE-ERR"
  | 13 => "GATE-OPEN"
  | 14 => "GATE-CLOSE"
  | _ => "NIL"

def pcmmOtoerr (opcode : UInt8) : String :=
  match opcode.toNat with
  | 1 => "Insufficient resources"
  | 2 => "Unknown Gate ID"
  | 3 => "Unknown"
  | 4 => "Unknown"
  | 5 => "Unknown"
  | 6 => "Missing Required Object"
  | 7 => "Invalid Object"
  | 8 => "Volume based usage limit exceeded"
  | 9 => "Time based usage limit exceeded"
  | 10 => "Session Class Limit Exceeded"
  | 11 => "Undefined Service Class Name"
  | 12 => "Incompatible Envelope"
  | 13 => "Invalid subscriber identifier"
  | 14 => "Unauthorized AMID"
  | 15 => "Number of Classifiers not supported"
  | 16 => "Policy Exception"
  | 17 => "Invalid field value in object"
  | 18 => "Transport Error"
  | 19 => "Unknown gate command"
  | 20 => "DOCSIS 1.0 CM"
  | 21 => "Number of SIDs exceeded in CM"
  | 22 => "Number of SIDs exceeded in CMTS"
  | 23 => "Unauthorized PSID"
  | 24 => "No state for PDPD"
  | 25 => "Unsupport Sync Type"
  | 26 => "State data incomplete"
  | 127 => "Other, Unspecified Error"
  | _ => "NIL"

/-- The error table has a text for 1 to 26 and for 127, and for no other code. -/
theorem pcmmOtoerr_ne_nil_iff (opcode : UInt8) :
    pcmmOtoerr opcode ≠ "NIL" ↔ (1 ≤ opcode.toNat ∧ opcode.toNat ≤ 26 ∨ opcode.toNat = 127) := by
  unfold pcmmOtoerr
  generalize opcode.toNat = code
  split
  case h_28 =>
    constructor
    · intro impossible
      exact absurd rfl impossible
    · intro entry
      grind
  all_goals decide

/-! ## Object kinds -/

def pcmmIsGateid (major minor : UInt8) : Bool :=
  major == 4 && minor == 1

def pcmmIsGatespec (major minor : UInt8) : Bool :=
  major == 5 && minor == 1

def pcmmIsClassifier (major : UInt8) : Bool :=
  major == 6

/-! ## Decoders -/

/-- `atog` copies eight bytes and takes `ntohl` of their low half, which on the
little-endian targets is the big-endian value of the first four. -/
def atog (stream : Memory) : UInt32 :=
  unpackN stream 0

def pcmmDecodeGate (report : PcmmRpt) (block : Memory) : PcmmRpt :=
  { report with
    flags := block 0
    tosf := block 1
    tosm := block 2
    cls := block 3
    t1 := unpackU16 block 4
    t2 := unpackU16 block 6
    t3 := unpackU16 block 8
    t4 := unpackU16 block 10 }

/-- The record and the classifier type 0. -/
def pcmmDecodeClassifier (report : PcmmRpt) (block : Memory) : PcmmRpt × Int :=
  ({ report with
      protoId := unpackU16 block 0
      tosf := block 2
      tosm := block 3
      srcIp := unpackN block 4
      dstIp := unpackN block 8
      srcPortStart := unpackU16 block 12
      dstPortStart := unpackU16 block 14 }, 0)

/-- The record and the classifier type 1. -/
def pcmmDecodeExtended (report : PcmmRpt) (block : Memory) : PcmmRpt × Int :=
  ({ report with
      protoId := unpackU16 block 0
      tosf := block 2
      tosm := block 3
      srcIp := unpackN block 4
      srcMk := unpackN block 8
      dstIp := unpackN block 12
      dstMk := unpackN block 16
      srcPortStart := unpackU16 block 20
      srcPortEnd := unpackU16 block 22
      dstPortStart := unpackU16 block 24
      dstPortEnd := unpackU16 block 26
      classifierId := unpackU16 block 28
      priority := block 30
      state := block 31
      action := block 32 }, 1)

/-- The 16-bit code is narrowed to a byte on its way into the table. -/
def pcmmDecodeError (report : PcmmRpt) (error subcode : UInt16) : PcmmRpt :=
  { report with
    packetcableErrCode := error
    packetcableErrSubcode := subcode
    packetcableErrDescr := pcmmOtoerr error.toUInt8 }

def pcmmDecodeTransaction (report : PcmmRpt) (transactionId gateCmd : UInt16) : PcmmRpt :=
  { report with
    transactionId := transactionId
    gateCmd := pcmmOtoact gateCmd.toUInt8 }

def pcmmDecodeApplication (report : PcmmRpt) (appTag appId : UInt16) : PcmmRpt :=
  { report with
    applicationTag := appTag
    applicationId := appId }

/-- Whether a Gate State object marks the report as one that is not written.
The texts of state and reason only go to the log. -/
def pcmmGatestateRpt (_state reason : UInt16) : Bool :=
  !(reason == 0 || reason == 65535)

/-! ## Rendering -/

/-- One `fprintf` of `write_report`: its format and its arguments. -/
inductive Response where
  | legacyClassifier (gateId : UInt32) (gateCmd : String) (applicationId : UInt16)
      (flags cls : UInt8) (t1 t2 t3 t4 classifierId srcPortStart dstPortStart : UInt16)
  | extendedClassifier (gateId : UInt32) (gateCmd : String) (applicationId : UInt16)
      (flags cls : UInt8) (t1 t2 t3 t4 classifierId srcPortStart srcPortEnd dstPortStart
      dstPortEnd : UInt16) (priority state action : UInt8)
  | default (gateId : UInt32) (gateCmd : String) (applicationId : UInt16)
  | error (gateId : UInt32) (gateCmd : String) (errCode errSubcode : UInt16) (errDescr : String)
  deriving DecidableEq, Repr

/-- The prefix all formats share, up to the application id. -/
def responseHead (gateId : UInt32) (gateCmd : String) (applicationId : Nat) : String :=
  "\x7b\"output\": \x7b\"cops-gate-id\": " ++ toString gateId.toNat ++ ", \"GateCmd\": \"" ++
    gateCmd ++ "\", \"ApplicationId\": " ++ toString applicationId

/-- The text a format renders: `RESPONSE_GATE_SPEC_LEGACY_CLASSIFIER`,
`RESPONSE_GATE_SPEC_EXTENDED_CLASSIFIER`, `RESPONSE_DEFAULT`, `RESPONSE_ERROR`.
The legacy format prints the destination port under `src_port_end`. -/
def Response.text : Response -> String
  | .legacyClassifier gateId gateCmd applicationId flags cls t1 t2 t3 t4 classifierId
      srcPortStart dstPortStart =>
      responseHead gateId gateCmd applicationId.toNat ++
        ", \"spec\": \x7b\"flags\": " ++ toString flags.toNat ++
        ", \"class\": " ++ toString cls.toNat ++
        ", \"t1\": " ++ toString t1.toNat ++ ", \"t2\": " ++ toString t2.toNat ++
        ", \"t3\": " ++ toString t3.toNat ++ ", \"t4\": " ++ toString t4.toNat ++
        ", \"classifier_id\": " ++ toString classifierId.toNat ++
        ", \"src_port_start\": " ++ toString srcPortStart.toNat ++
        ", \"src_port_end\": " ++ toString dstPortStart.toNat ++ "\x7d\x7d"
  | .extendedClassifier gateId gateCmd applicationId flags cls t1 t2 t3 t4 classifierId
      srcPortStart srcPortEnd dstPortStart dstPortEnd priority state action =>
      responseHead gateId gateCmd applicationId.toNat ++
        ", \"spec\": \x7b\"flags\": " ++ toString flags.toNat ++
        ", \"class\": " ++ toString cls.toNat ++
        ", \"t1\": " ++ toString t1.toNat ++ ", \"t2\": " ++ toString t2.toNat ++
        ", \"t3\": " ++ toString t3.toNat ++ ", \"t4\": " ++ toString t4.toNat ++
        ", \"classifier_id\": " ++ toString classifierId.toNat ++
        ", \"src_port_start\": " ++ toString srcPortStart.toNat ++
        ", \"src_port_end\": " ++ toString srcPortEnd.toNat ++
        ", \"dst_port_start\": " ++ toString dstPortStart.toNat ++
        ", \"dst_port_end\": " ++ toString dstPortEnd.toNat ++
        ", \"priority\": " ++ toString priority.toNat ++
        ", \"state\": " ++ toString state.toNat ++
        ", \"action\": " ++ toString action.toNat ++ "\x7d\x7d"
  | .default gateId gateCmd applicationId =>
      responseHead gateId gateCmd applicationId.toNat ++ "\x7d"
  | .error gateId gateCmd errCode errSubcode errDescr =>
      responseHead gateId gateCmd 0 ++ ", \"PacketCableError\": \"" ++ toString errCode.toNat ++
        "::" ++ toString errSubcode.toNat ++ ", '" ++ errDescr ++ "'\"\x7d"

def writeReport (rpt : PcmmRpt) (ct : Int) : Response :=
  if rpt.packetcableErrDescr = "NIL" then
    if ct = 0 then
      .legacyClassifier rpt.gateId rpt.gateCmd rpt.applicationId rpt.flags rpt.cls rpt.t1 rpt.t2
        rpt.t3 rpt.t4 rpt.classifierId rpt.srcPortStart rpt.dstPortStart
    else if ct = 1 then
      .extendedClassifier rpt.gateId rpt.gateCmd rpt.applicationId rpt.flags rpt.cls rpt.t1 rpt.t2
        rpt.t3 rpt.t4 rpt.classifierId rpt.srcPortStart rpt.srcPortEnd rpt.dstPortStart
        rpt.dstPortEnd rpt.priority rpt.state rpt.action
    else
      .default rpt.gateId rpt.gateCmd rpt.applicationId
  else
    .error rpt.gateId rpt.gateCmd rpt.packetcableErrCode rpt.packetcableErrSubcode
      rpt.packetcableErrDescr

end PolicyServer
