import PolicyServer.Lib.Numerals
import PolicyServer.HandlerAnswers
import PolicyServer.Ipv6Literals

namespace PolicyServer

open Lib

/-!
# Errors that echo an address

`json_err` formats the description of an error in 90 bytes and the body in 200, and
neither looks at how long the address of a request is nor escapes it.  The bounds and
the escapes matter for the two errors that echo an address which was not checked.
-/

/-- The description fits in `e`, and the body in `buffer`, each with its null byte. -/
structure ErrorFits (code : UInt8) (args : List Vararg) : Prop where
  e : (errText code args).utf8ByteSize < 90
  buffer : (apiError code.toNat (errText code args)).utf8ByteSize < 200

/-! ## Lengths -/

theorem apiError_size (code : UInt8) (e : String) :
    (apiError code.toNat e).utf8ByteSize ≤ e.utf8ByteSize + 52 := by
  have width := decimalWidth_uint8 code.toNat_lt
  have front : ("\x7b\"output\": \x7b\"error-code\": " : String).utf8ByteSize = 26 := by decide
  have middle : (", \"error-message\": \"" : String).utf8ByteSize = 20 := by decide
  have back : ("\"\x7d\x7d" : String).utf8ByteSize = 3 := by decide
  unfold apiError
  rw [String.utf8ByteSize_append, String.utf8ByteSize_append, String.utf8ByteSize_append,
    String.utf8ByteSize_append, utf8ByteSize_toString, front, middle, back]
  omega

/-- A description that fits makes a body that fits. -/
theorem errorFits_iff (code : UInt8) (args : List Vararg) :
    ErrorFits code args ↔ (errText code args).utf8ByteSize < 90 := by
  have size := apiError_size code (errText code args)
  exact ⟨ErrorFits.e, fun fits => ⟨fits, by omega⟩⟩

theorem errText_einvip_size (args : List Vararg) :
    (errText 111 args).utf8ByteSize = (percentS args).utf8ByteSize + 21 := by
  have front : ("invalid ip address '" : String).utf8ByteSize = 20 := by decide
  have back : ("'" : String).utf8ByteSize = 1 := by decide
  change ("invalid ip address '" ++ percentS args ++ "'").utf8ByteSize = _
  rw [String.utf8ByteSize_append, String.utf8ByteSize_append, front, back]
  omega

theorem errText_enocon_size (args : List Vararg) :
    (errText 104 args).utf8ByteSize = (percentS args).utf8ByteSize + 35 := by
  have front : ("no connection has been found for '" : String).utf8ByteSize = 34 := by decide
  have back : ("'" : String).utf8ByteSize = 1 := by decide
  change ("no connection has been found for '" ++ percentS args ++ "'").utf8ByteSize = _
  rw [String.utf8ByteSize_append, String.utf8ByteSize_append, front, back]
  omega

theorem errText_econflict_size (args : List Vararg) :
    (errText 100 args).utf8ByteSize = (percentS args).utf8ByteSize + 34 := by
  have front : ("connection already established on " : String).utf8ByteSize = 34 := by decide
  change ("connection already established on " ++ percentS args).utf8ByteSize = _
  rw [String.utf8ByteSize_append, front]
  omega

/-- Without an address in its arguments, every description is short. -/
theorem errText_short (code : UInt8) {args : List Vararg} (none : percentS args = "")
    (number : (percentU args).utf8ByteSize ≤ 5) : (errText code args).utf8ByteSize ≤ 46 := by
  unfold errText
  split
  case h_10 =>
    have front : ("timed out waiting for id '" : String).utf8ByteSize = 26 := by decide
    have back : ("'" : String).utf8ByteSize = 1 := by decide
    rw [String.utf8ByteSize_append, String.utf8ByteSize_append, front, back]
    omega
  all_goals
    try rw [none]
    decide

/-! ## A checked address -/

section Checked

variable {ip : String}

theorem utf8Size_of_isIp4 (valid : isIp4 ip = true) {c : Char} (member : c ∈ ip.toList) :
    c.utf8Size = 1 := by
  rcases isIp4_chars valid member with rfl | digit
  · rfl
  · exact utf8Size_of_isDigit digit

theorem isIp4_size (valid : isIp4 ip = true) : ip.utf8ByteSize ≤ 15 := by
  have ascii : isAscii ip.toList = true :=
    List.all_eq_true.mpr fun c member => beq_iff_eq.mpr (utf8Size_of_isIp4 valid member)
  have joined : ['.'].intercalate (ip.toList.splitOn '.') = ip.toList := List.intercalate_splitOn '.'
  have size : ip.utf8ByteSize = ip.toList.length := by
    rw [← utf8ByteSize_ofList ascii, String.ofList_toList]
  rcases Bool.and_eq_true_iff.mp valid with ⟨four, octets⟩
  rw [size, ← joined]
  generalize ip.toList.splitOn '.' = parts at four octets
  rcases List.length_eq_four.mp (beq_iff_eq.mp four) with ⟨a, b, c, d, rfl⟩
  have short : forall part, part ∈ [a, b, c, d] -> part.length ≤ 3 := fun part member =>
    (octet_cases (List.all_eq_true.mp octets part member)).2.1
  simp only [List.forall_mem_cons, List.not_mem_nil, false_implies, implies_true,
    and_true] at short
  simp only [List.intercalate, List.intersperse, List.flatten_cons, List.flatten_nil,
    List.length_append, List.length_singleton, List.length_nil]
  omega

end Checked

/-! ## Which errors there are -/

/-- The error that echoes an address which was not checked, and how long that may be. -/
def ApiHandler.echo : ApiHandler -> UInt8
  | .connect => 111
  | .gate _ => 104

def ApiHandler.room : ApiHandler -> Nat
  | .connect => 68
  | .gate _ => 54

/-- The handler comes to that error: the address is no literal, or there is no session for
it; where a policy is read, once it has been accepted. -/
def ApiHandler.Echoes (handler : ApiHandler) (fate : Fate) (body : Body) : Prop :=
  match handler with
  | .connect => body.empty = false ∧ body.cmtsIp.any (fun ip => !isIp4 ip) = true
  | .gate .gctl04 => policyRead body.input = true ∧ policyAccepted body.input = true ∧
      (gctlOtos (objGet (objGet body.input "gate") "gate-spec") "direction").isSome = true ∧
        fate.gate.getps body.cmtsIp = none
  | .gate .gctl07 => fate.gate.getps body.cmtsIp = none
  | .gate .gctl10 => fate.gate.getps body.cmtsIp = none

/-- A connect request for an address that there is a session for. -/
def conflicts (self : Api) (fate : ConnectFate) (ip : String) : Bool :=
  let lookup := lcmGetps self.lcm ip fate.getpsLock fate.eventLock
  isIp4 ip && !lookup.held && lookup.found.isSome

/-- It is refused, with the address. -/
def ApiHandler.Conflicts (handler : ApiHandler) (fate : Fate) (body : Body) : Prop :=
  handler = .connect ∧ body.empty = false ∧
    body.cmtsIp.any (conflicts fate.api fate.connect) = true

/-- The errors that a handler can answer, with what they are formatted with. -/
inductive ErrorOf (handler : ApiHandler) (fate : Fate) (body : Body) :
    UInt8 -> List Vararg -> Prop
  | plain (code : UInt8) : ErrorOf handler fate body code []
  | number (code : UInt8) (id : UInt16) : ErrorOf handler fate body code [.id id]
  | unused {code : UInt8} (known : code = 102 ∨ code = 103) :
      ErrorOf handler fate body code [.text body.cmtsIp]
  | conflict (conflicts : handler.Conflicts fate body) :
      ErrorOf handler fate body 100 [.text body.cmtsIp]
  | echo (echoes : handler.Echoes fate body) :
      ErrorOf handler fate body handler.echo [.text body.cmtsIp]

theorem gctlConnectAnswer_error {self : Api} {input : ConnectBody} {fate : ConnectFate}
    {code : UInt8} {args : List Vararg}
    (answers : gctlConnectAnswer self (some input) fate = some (.error code args)) :
    Exists fun ip => input.cmtsIp = some ip ∧ args = [.text ip] ∧
      (isIp4 ip = false ∧ code = 111 ∨ conflicts self fate ip = true ∧ code = 100 ∨
        code = 102 ∨ code = 103) := by
  rw [gctlConnectAnswer] at answers
  rcases Option.map_eq_some_iff.mp answers with ⟨ip, address, answers⟩
  refine ⟨ip, address, ?_⟩
  unfold conflicts
  dsimp only at answers ⊢
  cases valid : isIp4 ip with
  | false =>
      rw [valid, Bool.not_false, if_pos rfl] at answers
      cases answers
      exact ⟨rfl, Or.inl ⟨rfl, rfl⟩⟩
  | true =>
      rw [valid, Bool.not_true, if_neg Bool.false_ne_true] at answers
      split at answers
      · cases answers
      rename_i free
      split at answers
      · rename_i found
        cases answers
        rw [Bool.eq_false_iff.mpr free, found]
        exact ⟨rfl, Or.inr (Or.inl ⟨rfl, rfl⟩)⟩
      split at answers
      · cases answers
        exact ⟨rfl, Or.inr (Or.inr (Or.inr rfl))⟩
      split at answers
      · cases answers
      split at answers
      · cases answers
        exact ⟨rfl, Or.inr (Or.inr (Or.inl rfl))⟩
      split at answers
      · cases answers
        exact ⟨rfl, Or.inr (Or.inr (Or.inl rfl))⟩
      split at answers
      · cases answers
      · cases answers

theorem gctlConnectAnswer_of_conflict {self : Api} {input : ConnectBody} {fate : ConnectFate}
    {ip : String} (address : input.cmtsIp = some ip) (conflict : conflicts self fate ip = true) :
    gctlConnectAnswer self (some input) fate = some (.error 100 [.text ip]) := by
  unfold conflicts at conflict
  simp only [Bool.and_eq_true, Bool.not_eq_true'] at conflict
  rcases conflict with ⟨⟨valid, free⟩, found⟩
  rw [gctlConnectAnswer, address, Option.map_some]
  dsimp only
  rw [valid, free, found]
  rfl

theorem gctlAnswer_error {fate : GateFate} {ps : Link} {gc : Gctl} {built : Built} {dryRun : Bool}
    {code : UInt8} {args : List Vararg}
    (answers : (gctlAnswer fate ps gc built dryRun).answer = .error code args) :
    args = [.id fate.txnId] := by
  unfold gctlAnswer at answers
  dsimp only at answers
  split at answers
  · cases answers
  · split at answers
    · cases answers
      rfl
    · cases answers

theorem gctlProxied_error {fate : GateFate} {op : GateOp} {gc : Gctl} {request : List UInt8}
    {dryRun : Bool} {code : UInt8} {args : List Vararg}
    (answers : (gctlProxied fate op gc request dryRun).map Answered.answer =
      some (.error code args)) :
    args = [.id fate.txnId] ∨
      fate.getps gc.cmtsIp = none ∧ code = 104 ∧ args = [.text gc.cmtsIp] := by
  unfold gctlProxied at answers
  cases lookup : fate.getps gc.cmtsIp with
  | none =>
      rw [lookup] at answers
      cases answers
      exact Or.inr ⟨rfl, rfl, rfl⟩
  | some ps =>
      rw [lookup] at answers
      rw [Option.map_map] at answers
      rcases Option.map_eq_some_iff.mp answers with ⟨built, _, error⟩
      exact Or.inl (gctlAnswer_error error)

theorem answer_error {handler : ApiHandler} {fate : Fate} {body : Body} {code : UInt8}
    {args : List Vararg} (answers : handler.answer fate body = some (.error code args)) :
    ErrorOf handler fate body code args := by
  cases handler with
  | connect =>
      rw [ApiHandler.answer, Body.connect] at answers
      cases filled : body.empty with
      | true =>
          rw [filled, if_pos rfl] at answers
          cases answers
      | false =>
          rw [filled, if_neg Bool.false_ne_true] at answers
          rcases gctlConnectAnswer_error answers with ⟨ip, address, rfl, which⟩
          have address : body.cmtsIp = some ip := address
          rw [← address]
          rcases which with ⟨invalid, rfl⟩ | ⟨conflict, rfl⟩ | known
          · refine .echo ⟨filled, ?_⟩
            rw [address, Option.any_some, invalid]
            rfl
          · exact .conflict ⟨rfl, filled, by rw [address]; exact conflict⟩
          · exact .unused known
  | gate handler =>
      cases handler with
      | gctl07 | gctl10 =>
          rcases gctlProxied_error answers with rfl | ⟨absent, rfl, rfl⟩
          · exact .number code _
          · exact .echo absent
      | gctl04 =>
          have there : (gctl04Payload fate.gate.locals body.input fate.gate.behind).isSome = _ :=
            gctl04Payload_isSome
          rw [ApiHandler.answer, GateHandler.answered, gctl04Answer, Option.map_bind] at answers
          rcases Option.bind_eq_some_iff.mp answers with ⟨prepared, prepares, answers⟩
          have prepares : gctl04Payload fate.gate.locals body.input fate.gate.behind =
            some prepared := prepares
          rw [prepares, Option.isSome_some, eq_comm, Bool.and_eq_true] at there
          cases prepared with
          | refused reason =>
              cases answers
              exact .plain _
          | payload gc data =>
              rcases gctl04Payload_accepted prepares with ⟨accepted, read⟩
              rw [accepted, Bool.not_true, Bool.false_or] at there
              have address : gc.cmtsIp = body.cmtsIp := read.cmtsIp
              rcases gctlProxied_error answers with rfl | ⟨absent, rfl, rfl⟩
              · exact .number code _
              · rw [address] at absent ⊢
                exact .echo ⟨there.1, accepted, there.2, absent⟩

theorem answer_of_echoes {handler : ApiHandler} {fate : Fate} {body : Body}
    (echoes : handler.Echoes fate body) :
    handler.answer fate body = some (.error handler.echo [.text body.cmtsIp]) := by
  have proxied : forall op gc request dryRun, gc.cmtsIp = body.cmtsIp ->
      fate.gate.getps body.cmtsIp = none ->
        (gctlProxied fate.gate op gc request dryRun).map Answered.answer =
          some (.error 104 [.text body.cmtsIp]) := by
    intro op gc request dryRun address absent
    rw [gctlProxied, address, absent]
    rfl
  cases handler with
  | connect =>
      rcases echoes with ⟨filled, invalid⟩
      rcases (Option.any_eq_true _ _).mp invalid with ⟨ip, address, invalid⟩
      rw [ApiHandler.answer, Body.connect, filled, if_neg Bool.false_ne_true, gctlConnectAnswer]
      dsimp only
      rw [address, Option.map_some, if_pos invalid]
      rfl
  | gate handler =>
      cases handler with
      | gctl07 => exact proxied .info _ _ _ rfl echoes
      | gctl10 => exact proxied .del _ _ _ rfl echoes
      | gctl04 =>
          rcases echoes with ⟨read, accepted, direction, absent⟩
          have there : (gctl04Payload fate.gate.locals body.input fate.gate.behind).isSome = true := by
            rw [gctl04Payload_isSome, read, direction, Bool.or_true]
            rfl
          rcases Option.isSome_iff_exists.mp there with ⟨prepared, prepares⟩
          have prepares' : gctl04Payload fate.gate.locals (gctlYtoi body.doc) fate.gate.behind =
            some prepared := prepares
          rw [ApiHandler.answer, GateHandler.answered, gctl04Answer, prepares', Option.bind_some]
          cases prepared with
          | refused reason =>
              rw [gctl04Payload_refused prepares] at accepted
              cases accepted
          | payload gc data =>
              have address : gc.cmtsIp = body.cmtsIp := (gctl04Payload_accepted prepares).2.cmtsIp
              exact proxied .set gc data.bytes _ address absent

theorem answer_of_conflicts {handler : ApiHandler} {fate : Fate} {body : Body}
    (refused : handler.Conflicts fate body) :
    handler.answer fate body = some (.error 100 [.text body.cmtsIp]) := by
  rcases refused with ⟨rfl, filled, conflict⟩
  rcases (Option.any_eq_true _ _).mp conflict with ⟨ip, address, conflict⟩
  rw [ApiHandler.answer, Body.connect, filled, if_neg Bool.false_ne_true,
    gctlConnectAnswer_of_conflict (by exact address) conflict, address]

/-! ## Which errors fit -/

theorem errText_plain_fits (code : UInt8) : ErrorFits code [] := by
  have short := errText_short code (show percentS [] = "" from rfl) (by decide)
  rw [errorFits_iff]
  omega

theorem errText_number_fits (code : UInt8) (id : UInt16) : ErrorFits code [.id id] := by
  have width := decimalWidth_uint16 id.toNat_lt
  have number : (percentU [.id id]).utf8ByteSize ≤ 5 := by
    rw [percentU, utf8ByteSize_toString]
    exact width
  have short := errText_short code (show percentS [.id id] = "" from rfl) number
  rw [errorFits_iff]
  omega

theorem errText_unused_fits {code : UInt8} (known : code = 102 ∨ code = 103)
    (args : List Vararg) : ErrorFits code args := by
  rw [errorFits_iff]
  rcases known with rfl | rfl
  · change ("failed to establish socket connection" : String).utf8ByteSize < 90
    decide
  · change ("maximum number of connections has been reached" : String).utf8ByteSize < 90
    decide

theorem ApiHandler.Conflicts.short {handler : ApiHandler} {fate : Fate} {body : Body}
    (refused : handler.Conflicts fate body) {ip : String} (address : body.cmtsIp = some ip) :
    ip.utf8ByteSize ≤ 15 := by
  have conflict := refused.2.2
  rw [address, Option.any_some] at conflict
  exact isIp4_size (Bool.and_eq_true_iff.mp (Bool.and_eq_true_iff.mp conflict).1).1

theorem ApiHandler.Conflicts.fits {handler : ApiHandler} {fate : Fate} {body : Body}
    (refused : handler.Conflicts fate body) : ErrorFits 100 [.text body.cmtsIp] := by
  rcases (Option.any_eq_true _ _).mp refused.2.2 with ⟨ip, address, _⟩
  have echo : percentS [.text (some ip)] = ip := rfl
  have size := refused.short address
  rw [errorFits_iff, errText_econflict_size, address, echo]
  omega

theorem echo_fits_iff (handler : ApiHandler) {body : Body} {ip : String}
    (address : body.cmtsIp = some ip) :
    ErrorFits handler.echo [.text body.cmtsIp] ↔ ip.utf8ByteSize ≤ handler.room := by
  have echo : percentS [.text (some ip)] = ip := rfl
  rw [errorFits_iff, address]
  cases handler with
  | connect =>
      rw [ApiHandler.echo, ApiHandler.room, errText_einvip_size, echo]
      exact ⟨fun fits => by omega, fun fits => by omega⟩
  | gate handler =>
      rw [ApiHandler.echo, ApiHandler.room, errText_enocon_size, echo]
      exact ⟨fun fits => by omega, fun fits => by omega⟩

/-- A missing address is echoed as `(null)`. -/
theorem echo_null_fits (handler : ApiHandler) : ErrorFits handler.echo [.text none] := by
  rw [errorFits_iff]
  cases handler with
  | connect =>
      rw [ApiHandler.echo, errText_einvip_size]
      decide
  | gate handler =>
      rw [ApiHandler.echo, errText_enocon_size]
      decide

/-- The errors of a handler fit their arrays exactly if an address that it echoes without
a check has no more bytes than there is room for. -/
theorem errorsFit_iff (handler : ApiHandler) (fate : Fate) (body : Body) :
    (forall code args, handler.answer fate body = some (.error code args) ->
      ErrorFits code args) ↔
      (handler.Echoes fate body ->
        forall ip, body.cmtsIp = some ip -> ip.utf8ByteSize ≤ handler.room) := by
  constructor
  · intro fits echoes ip address
    exact (echo_fits_iff handler address).mp (fits _ _ (answer_of_echoes echoes))
  · intro short code args answers
    cases answer_error answers with
    | plain => exact errText_plain_fits code
    | number code id => exact errText_number_fits code id
    | unused known => exact errText_unused_fits known _
    | conflict refused => exact refused.fits
    | echo echoes =>
        cases address : body.cmtsIp with
        | none => exact echo_null_fits handler
        | some ip =>
            rw [← address]
            exact (echo_fits_iff handler address).mpr (short echoes ip address)

/-- A Gate-Info with an address of 55 letters. -/
def longBody : Body where
  empty := false
  doc := some (.obj [("input", .obj [("cmts_ip",
    .str "aaaaaaaaaaaaaaaaaaaaaaaaaaaaaaaaaaaaaaaaaaaaaaaaaaaaaaa")])])

/-- Its null byte is behind `e`. -/
theorem longAddress_not_fits : Exists fun code => Exists fun args =>
    (ApiHandler.gate .gctl07).answer idleFate longBody = some (.error code args) ∧
      ¬ ErrorFits code args := by
  have answers : (ApiHandler.gate .gctl07).answer idleFate longBody =
      some (.error 104 [.text longBody.cmtsIp]) := by
    rfl
  have long : 90 ≤ (errText 104 [.text longBody.cmtsIp]).utf8ByteSize := by decide +kernel
  refine ⟨104, [.text longBody.cmtsIp], answers, fun fits => ?_⟩
  exact Nat.not_lt_of_le long fits.e

/-! ## Which errors are read back -/

/-- The arguments of an error with the text of the request as it stands in the document. -/
def Body.verbatim (body : Body) : List Vararg -> List Vararg
  | .text _ :: args => .text body.cmtsText :: args
  | args => args

section Reading

open JsonText

/-- A text without a character to escape has no null byte either. -/
theorem cString_of_clean {text : String} (plain : clean text.toList = true) :
    cString text = text := by
  have kept : text.toList.takeWhile (· != '\x00') = text.toList := by
    refine List.takeWhile_eq_self_iff.mpr fun c member => ?_
    have first := List.all_eq_true.mp plain c member
    refine bne_iff_ne.mpr ?_
    rintro rfl
    exact absurd first (by decide)
  rw [cString, kept, String.ofList_toList]

theorem cString_length (text : String) : (cString text).length ≤ text.length := by
  rw [cString, ← String.length_toList, String.toList_ofList, ← String.length_toList (s := text)]
  exact (List.takeWhile_prefix _).length_le

/-- An error with an address between two fixed texts is read back, with the whole text of
the request, exactly if that needs no escape. -/
theorem saysError_echo_iff {code : Nat} {front back : String} (text : String)
    (plainFront : clean front.toList = true) (plainBack : clean back.toList = true) :
    SaysError (apiError code (front ++ cString text ++ back)) (front ++ text ++ back) ↔
      clean text.toList = true := by
  have shorter := cString_length text
  have long : (front ++ cString text ++ back).length ≤ (front ++ text ++ back).length := by
    simp only [String.length_append]
    omega
  rw [saysError_iff long]
  constructor
  · rintro ⟨plain, same⟩
    have same := congrArg String.toList same
    simp only [String.toList_append] at same plain
    have middle := List.append_cancel_left (List.append_cancel_right same)
    rw [clean_append, clean_append, Bool.and_eq_true, Bool.and_eq_true] at plain
    rw [middle]
    exact plain.1.2
  · intro plain
    rw [cString_of_clean plain]
    simp only [String.toList_append, clean_append, plainFront, plain, plainBack, Bool.and_self,
      and_self]

/-- The error of a handler, as it is found in its body. -/
def Body.SaysWhole (body : Body) (code : UInt8) (args : List Vararg) : Prop :=
  SaysError (apiError code.toNat (errText code args)) (errText code (body.verbatim args))

theorem saysWhole_plain {body : Body} {code : UInt8} {args : List Vararg}
    (same : errText code (body.verbatim args) = errText code args)
    (plain : clean (errText code args).toList = true) : body.SaysWhole code args := by
  rw [Body.SaysWhole, same, saysError_iff (Nat.le_refl _)]
  exact ⟨plain, rfl⟩

theorem errText_clean (code : UInt8) {args : List Vararg} (none : percentS args = "")
    (number : clean (percentU args).toList = true) : clean (errText code args).toList = true := by
  unfold errText
  split
  case h_10 =>
    simp only [String.toList_append, clean_append, number, Bool.and_true]
    decide
  all_goals
    try rw [none]
    decide

theorem socketError_clean :
    clean ("failed to establish socket connection" : String).toList = true := by decide

theorem roomError_clean :
    clean ("maximum number of connections has been reached" : String).toList = true := by decide

theorem saysWhole_echo_iff {body : Body} {text : String} (there : body.cmtsText = some text)
    {code : UInt8} (known : code = 100 ∨ code = 104 ∨ code = 111) :
    body.SaysWhole code [.text body.cmtsIp] ↔ clean text.toList = true := by
  rw [Body.SaysWhole, Body.verbatim, body.cmtsIp_eq, there, Option.map_some]
  rcases known with rfl | rfl | rfl
  · have echo := @saysError_echo_iff 100 "connection already established on " "" text (by decide)
      (by decide)
    rw [String.append_empty, String.append_empty] at echo
    exact echo
  · exact @saysError_echo_iff 104 "no connection has been found for '" "'" text (by decide)
      (by decide)
  · exact @saysError_echo_iff 111 "invalid ip address '" "'" text (by decide) (by decide)

theorem ApiHandler.echo_known (handler : ApiHandler) :
    handler.echo = 100 ∨ handler.echo = 104 ∨ handler.echo = 111 := by
  cases handler with
  | connect => exact Or.inr (Or.inr rfl)
  | gate _ => exact Or.inr (Or.inl rfl)

theorem saysWhole_null {body : Body} (missing : body.cmtsText = none) {code : UInt8}
    (known : code = 100 ∨ code = 104 ∨ code = 111) :
    body.SaysWhole code [.text body.cmtsIp] := by
  rw [body.cmtsIp_eq, missing, Option.map_none]
  refine saysWhole_plain (by rw [Body.verbatim, missing]) ?_
  rcases known with rfl | rfl | rfl
  · decide
  · decide
  · decide

/-- The errors of a handler that fit are read back with the whole address of the request
exactly if an address that is put into them needs no escape. -/
theorem saysWhole_iff (handler : ApiHandler) (fate : Fate) (body : Body) :
    (forall code args, handler.answer fate body = some (.error code args) ->
      ErrorFits code args -> body.SaysWhole code args) ↔
      (handler.Echoes fate body ∨ handler.Conflicts fate body ->
        forall text, body.cmtsText = some text ->
          (cString text).utf8ByteSize ≤ handler.room -> clean text.toList = true) := by
  have address : forall text, body.cmtsText = some text -> body.cmtsIp = some (cString text) :=
    fun text there => by rw [body.cmtsIp_eq, there, Option.map_some]
  constructor
  · intro found repeated text there short
    rcases repeated with echoes | refused
    · have fits := (echo_fits_iff handler (address text there)).mpr short
      exact (saysWhole_echo_iff there handler.echo_known).mp
        (found _ _ (answer_of_echoes echoes) fits)
    · exact (saysWhole_echo_iff there (Or.inl rfl)).mp
        (found _ _ (answer_of_conflicts refused) refused.fits)
  · intro plain code args answers fits
    cases answer_error answers with
    | plain => exact saysWhole_plain rfl (errText_clean code rfl rfl)
    | number code id => exact saysWhole_plain rfl (errText_clean code rfl (clean_toString _))
    | unused known =>
        rcases known with rfl | rfl
        · exact saysWhole_plain rfl socketError_clean
        · exact saysWhole_plain rfl roomError_clean
    | conflict refused =>
        cases there : body.cmtsText with
        | none => exact saysWhole_null there (Or.inl rfl)
        | some text =>
            have short := refused.short (address text there)
            have room : 15 ≤ handler.room := by
              rw [refused.1]
              decide
            exact (saysWhole_echo_iff there (Or.inl rfl)).mpr
              (plain (Or.inr refused) text there (Nat.le_trans short room))
    | echo echoes =>
        cases there : body.cmtsText with
        | none => exact saysWhole_null there handler.echo_known
        | some text =>
            have short := (echo_fits_iff handler (address text there)).mp fits
            exact (saysWhole_echo_iff there handler.echo_known).mpr
              (plain (Or.inl echoes) text there short)

end Reading

/-- A Gate-Info with a quote in its address. -/
def quotedBody : Body where
  empty := false
  doc := some (.obj [("input", .obj [("cmts_ip", .str "10.0.0.1\"x")])])

/-- No reader finds the message in its body. -/
theorem quotedAddress_not_said : Exists fun code => Exists fun args =>
    (ApiHandler.gate .gctl07).answer idleFate quotedBody = some (.error code args) ∧
      ErrorFits code args ∧ ¬ quotedBody.SaysWhole code args := by
  have there : quotedBody.cmtsText = some "10.0.0.1\"x" := rfl
  have known : (104 : UInt8) = 100 ∨ (104 : UInt8) = 104 ∨ (104 : UInt8) = 111 := by decide
  have answers : (ApiHandler.gate .gctl07).answer idleFate quotedBody =
      some (.error 104 [.text quotedBody.cmtsIp]) := by
    rfl
  have fits : ErrorFits 104 [.text quotedBody.cmtsIp] := ⟨by decide +kernel, by decide +kernel⟩
  refine ⟨104, [.text quotedBody.cmtsIp], answers, fits, ?_⟩
  rw [saysWhole_echo_iff there known]
  decide

end PolicyServer
