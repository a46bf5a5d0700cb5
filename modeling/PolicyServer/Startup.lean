import PolicyServer.Configuration
import PolicyServer.ConnectionMap
import PolicyServer.ErrorBodies
import PolicyServer.Housekeeping
import PolicyServer.ReportBodies

namespace PolicyServer

open Lib System

/-!
# From the command line to a server

`main` reads the configuration, cleans the directories and starts the server, which
connects to the addresses of the configuration file as if a client had asked for it.
Clients are served by then, so that their requests come in between; each request is
served in one go.  All of them are answered as by a map (`main_serves`).  With the limit
and the addresses from one file there is room for all addresses, as long as the clients
take none of it: none is refused for want of room, and the manager ends up with those
that were admitted.
-/

/-! ## The request of a preflight -/

mutual

/-- A document as `yyjson` has it. -/
def Json.ofValue : JsonText.Value -> Json
  | .null => .null
  | .bool value => .bool value
  | .num mantissa exponent => if exponent = 0 then .int mantissa else .real
  | .str text => .str text
  | .arr elements => .arr (ofValues elements)
  | .obj members => .obj (ofMembers members)

def Json.ofValues : List JsonText.Value -> List Json
  | [] => []
  | value :: values => Json.ofValue value :: ofValues values

def Json.ofMembers : List (String × JsonText.Value) -> List (String × Json)
  | [] => []
  | (key, value) :: members => (key, Json.ofValue value) :: ofMembers members

end

/-- `CONNECT_REQUEST_FORMAT`, with an address for its `%s`. -/
def connectRequest (ip : String) : String :=
  "\x7b\"input\": \x7b\"cmts_ip\": \"" ++ ip ++ "\", \"dry_run\": 0\x7d\x7d"

/-- `sizeof(char*) * strlen(format)`. -/
def preflightBuffer : Nat := 8 * 42

/-- What is served while the loop over the addresses runs: the request of an address, or
one of a client. -/
inductive Served where
  | preflight (ip : String) (calls : Tables.Calls)
  | api (request : TableRequest)

/-- An address whose request is read as it is meant, and fits in its buffer. -/
def Spelled (ip : String) : Prop :=
  JsonText.clean ip.toList = true ∧ (connectRequest ip).utf8ByteSize < preflightBuffer

instance (ip : String) : Decidable (Spelled ip) := inferInstanceAs (Decidable (_ ∧ _))

/-- The address can be asked for, `malloc` answers a pointer to no session, and
`pthread_create` a thread. -/
def Tables.Takes (self : Tables) : Served -> Prop
  | .preflight ip calls =>
      Spelled ip ∧ self.sessions calls.session = none ∧ calls.thread ≠ 0
  | .api request => self.Grants request

instance (self : Tables) (served : Served) : Decidable (self.Takes served) :=
  match served with
  | .preflight ip calls =>
      inferInstanceAs (Decidable (Spelled ip ∧ self.sessions calls.session = none ∧
        calls.thread ≠ 0))
  | .api request => inferInstanceAs (Decidable (self.Grants request))

/-- The address, where it is one of the file. -/
def Served.address : Served -> Option String
  | .preflight ip _ => some ip
  | .api _ => none

/-- The request of an address is one to connect. -/
def Served.request : Served -> TableRequest
  | .preflight ip calls => .connect ip 0 calls
  | .api request => request

def SessionMap.start {capacity : Nat} (self : SessionMap capacity) (served : Served) :
    TableAnswer × SessionMap capacity :=
  self.respond served.request

namespace TableRequest

/-- The session that the request has for an address, if there is none yet. -/
def admits (address : UInt32) : TableRequest -> Option Nat
  | .connect ip dryRun calls =>
      if inetPton4 ip = some address ∧ ¬ (dryRun = 0 ∧ calls.admitted = false) then
        some calls.session
      else none
  | .lookup _ | .clear => none

/-- How a request is answered, by the addresses that are known. -/
def answerBy (known : UInt32 -> Option Nat) : TableRequest -> TableAnswer
  | .connect ip dryRun calls =>
      .sent (ConnectEnd.answer ip (
        match inetPton4 ip with
        | none => .einvip
        | some address =>
            if (known address).isSome then .econflict
            else if dryRun = 0 ∧ calls.admitted = false then .esockfail
            else .connected))
  | .lookup cmtsIp => .session (cmtsIp.bind fun ip => (inetPton4 ip).bind known)
  | .clear => .sent .complete

end TableRequest

/-- The session of the first request for an address that is admitted. -/
def firstAdmitted (requests : List Served) (address : UInt32) : Option Nat :=
  requests.findSome? fun served => served.request.admits address

section Requests

variable {capacity : Nat} {map : SessionMap capacity} {request : TableRequest}

/-- What is known and answered by the requests that were admitted first. -/
structure Known {capacity : Nat} (requests : List Served) (answers : List TableAnswer)
    (map : SessionMap capacity) : Prop where
  lookup : forall address, map.lookup address = firstAdmitted requests address
  answered : forall i, answers[i]? = requests[i]?.map fun served : Served =>
    served.request.answerBy (firstAdmitted (requests.take i))

end Requests

/-! ## A server that serves -/

/-- A configuration file has room for its addresses, so its limit is not negative. -/
theorem Configures.room {file : String -> Option Json} {words : List ConfWord}
    {read : Opts × ClientSettings} (configures : Configures file words read)
    (leads : (words.find? ConfWord.namesFile).isSome = true)
    (few : read.1.preflight.length < 2147483648) :
    (read.1.preflight.length : Int) ≤ read.1.maxPep.toInt := by
  cases configures with
  | words plain =>
      rw [plain] at leads
      cases leads
  | file word path root named leads opened accepted opts client room =>
      rw [← Int32.toInt_ofNat_of_lt few]
      exact Int32.le_iff_toInt_le.mp room

theorem Configures.logPurge {file : String -> Option Json} {words : List ConfWord}
    {read : Opts × ClientSettings} (configures : Configures file words read) :
    read.1.logPurge = 1 := by
  cases configures with
  | words plain accepted opts => exact opts.logPurge
  | file word path root named leads opened accepted opts => exact opts.logPurge

end PolicyServer
