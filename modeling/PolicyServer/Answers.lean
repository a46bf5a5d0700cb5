import PolicyServer.Lib.JsonText
import PolicyServer.Routes
import PolicyServer.Pcmm

namespace PolicyServer

open Lib

/-!
# The texts of answers

`json_err`, `json_ok` and `json_frommsg` write the body of an answer with `sprintf`.
A text goes into the body of an error as it is, and so a reader of JSON finds it
there only if nothing of it needs an escape (`saysError_iff`).
-/

/-! ## Errors -/

/-- A variable argument of `json_err`. -/
inductive Vararg where
  | text (text : Option String)
  | id (id : UInt16)
  deriving DecidableEq, Repr

/-- `%s`, which writes a null pointer out. -/
def percentS : List Vararg -> String
  | .text text :: _ => text.getD "(null)"
  | _ => ""

/-- `%u`. -/
def percentU : List Vararg -> String
  | .id id :: _ => toString id.toNat
  | _ => ""

/-- The array `e` of `json_err`. -/
def errText (code : UInt8) (args : List Vararg) : String :=
  match code.toNat with
  | 105 => "invalid payload"
  | 106 => "invalid gate-specification given"
  | 107 => "invalid traffic-profile given"
  | 108 => "invalid classifier type given"
  | 109 => "invalid number of classifiers, expected >1/<5"
  | 103 => "maximum number of connections has been reached"
  | 102 => "failed to establish socket connection"
  | 100 => "connection already established on " ++ percentS args
  | 101 => "no cops connection has been established"
  | 110 => "timed out waiting for id '" ++ percentU args ++ "'"
  | 104 => "no connection has been found for '" ++ percentS args ++ "'"
  | 111 => "invalid ip address '" ++ percentS args ++ "'"
  | _ => "undefined error"

/-- `API_ERROR`, the array `buffer` of `json_err`. -/
def apiError (code : Nat) (e : String) : String :=
  "\x7b\"output\": \x7b\"error-code\": " ++ toString code ++ ", \"error-message\": \"" ++ e ++
    "\"\x7d\x7d"

theorem jsonErr_eq (code : Nat) (message : String) :
    jsonErr code message = .body 400 (apiError code message) := rfl

/-! ## Times -/

/-- A time as `%f` writes it. -/
structure Seconds where
  negative : Bool
  whole : Nat
  micros : Fin 1000000
  deriving DecidableEq, Repr

namespace Seconds

/-- The six digits behind the point. -/
def fraction (seconds : Seconds) : List Char :=
  [seconds.micros.val / 100000, seconds.micros.val / 10000 % 10, seconds.micros.val / 1000 % 10,
    seconds.micros.val / 100 % 10, seconds.micros.val / 10 % 10, seconds.micros.val % 10].map
      Nat.digitChar

def text (seconds : Seconds) : String :=
  .ofList (JsonText.fixedText seconds.negative seconds.whole seconds.fraction)

end Seconds

/-- The times that a handler measures. -/
structure Timings where
  build : Seconds
  wait : Seconds
  read : Seconds
  deriving DecidableEq, Repr

/-- `METRIC_ATTACH`, the array `metrics` of `json_frommsg`. -/
def metricAttach (timings : Timings) : String :=
  ", \"build-time\": " ++ timings.build.text ++ ", \"wait-time\": " ++ timings.wait.text ++
    ", \"read-time\": " ++ timings.read.text ++ "\x7d"

/-! ## Answers -/

/-- How a handler ends: it waits for a lock that it holds itself, returns without a
body, or sends one. -/
inductive Answer where
  | stuck
  | complete
  | error (code : UInt8) (args : List Vararg)
  | dryRun
  | connected (ip : String)
  | report (line : String) (timings : Timings)
  deriving DecidableEq, Repr

/-- What the client is sent, where the texts fit their arrays. -/
def Answer.reply : Answer -> Option Reply
  | .stuck => none
  | .complete => some .complete
  | .error code args => some (jsonErr code.toNat (errText code args))
  | .dryRun =>
      some (.body 200 ("\x7b\"output\": \x7b\"cops-gate-id\": 0, \"GateCmd\": \"GATE-DR-ACK\", " ++
        "\"ApplicationId\": 21003\x7d, \"build-time\": 0.000000, \"wait-time\": 0.000000\x7d"))
  | .connected ip => some (jsonConnect ip)
  | .report line timings => some (.body 200 (line ++ metricAttach timings))

/-! ## An error as a reader finds it -/

section Errors

open JsonText

/-- The members of an error, the message as a text between quotes. -/
def codeField (code : Nat) : Field where
  key := "error-code"
  text := Nat.toDigits 10 code
  value := .num code 0

def messageField (message : String) : Field where
  key := "error-message"
  text := quoted message.toList
  value := .str message

def outputField (code : Nat) (message : String) : Field where
  key := "output"
  text := objectText (codeField code) [messageField message]
  value := .obj [("error-code", .num code 0), ("error-message", .str message)]

theorem apiError_toList (code : Nat) (e : String) :
    (apiError code e).toList = objectText (outputField code e) [] := by
  unfold apiError
  simp only [objectText, fieldsText, Field.chars, memberChars, outputField, codeField, messageField,
    quoted, String.toList_append, Nat.toString_eq_repr, Nat.toList_repr, String.reduceToList,
    List.append_assoc, List.cons_append, List.nil_append]

theorem errorKeys_clean : clean "error-code".toList = true ∧ clean "error-message".toList = true ∧
    clean "output".toList = true := by decide

theorem codeField_isRead (code : Nat) : (codeField code).IsRead :=
  ⟨errorKeys_clean.1, reads_digits code⟩

theorem messageField_isRead {message : String} (plain : clean message.toList = true) :
    (messageField message).IsRead :=
  ⟨errorKeys_clean.2.1, reads_string plain⟩

theorem outputField_isRead {code : Nat} {message : String} (plain : clean message.toList = true) :
    (outputField code message).IsRead := by
  refine ⟨errorKeys_clean.2.2, reads_object (codeField_isRead code) ?_⟩
  intro field member
  rw [List.mem_singleton.mp member]
  exact messageField_isRead plain

/-- A client that reads the body finds this message in it. -/
def SaysError (text message : String) : Prop :=
  Exists fun value => parse text = some value ∧
    (value.member "output").bind (fun output => output.member "error-message") = some (.str message)

/-- What a reader makes of the object in an error, and of the text in that. -/
theorem readValue_output {code : Nat} {message : String} {fuel : Nat}
    (enough : (codeField code).chars.length + 20 ≤ fuel) {tail rest : List Char}
    (last : '"' ∉ tail) {value : Value}
    (reads : readValue fuel ((outputField code message).text ++ tail) = some (value, rest)) :
    Exists fun text => value.member "error-message" = some (.str text) ∧
      Within message.toList text := by
  have key : "error-message".toList.length = 13 := by decide
  obtain ⟨fuel, rfl⟩ : Exists fun less => fuel = less + 3 := ⟨fuel - 3, by omega⟩
  rw [outputField, readValue_object] at reads
  rcases Option.map_eq_some_iff.mp reads with ⟨⟨members, _⟩, reads, made⟩
  have comma : fieldsText (codeField code) [messageField message] ++ '\x7d' :: tail =
      (codeField code).chars ++
        ',' :: ' ' :: ((messageField message).chars ++ '\x7d' :: tail) := by
    simp only [fieldsText, List.append_assoc, List.cons_append]
  rw [comma, readMembers_field (codeField_isRead code) (by omega) (ends_cons _ (by decide)),
    skipSpace_cons rfl] at reads
  change (readMembers (fuel + 1) _).map _ = _ at reads
  rcases Option.map_eq_some_iff.mp reads with ⟨⟨others, _⟩, reads, made'⟩
  rw [readMembers_space] at reads
  have closed : '"' ∉ '\x7d' :: tail := List.not_mem_cons_of_ne_of_not_mem (by decide) last
  rcases readMembers_quoted errorKeys_clean.2.1 closed (by omega) reads with
    ⟨text, more, rfl, within⟩
  rw [← (Prod.mk.inj made).1, ← (Prod.mk.inj made').1]
  exact ⟨text, rfl, within⟩

/-- The message of an error is found in its body, with nothing lost, exactly if it
needs no escape. -/
theorem saysError_iff {code : Nat} {e message : String} (whole : e.length ≤ message.length) :
    SaysError (apiError code e) message ↔ clean e.toList = true ∧ message = e := by
  constructor
  · rintro ⟨value, parsed, found⟩
    rcases Option.bind_eq_some_iff.mp parsed with ⟨⟨value', rest⟩, reads, same⟩
    have equal : value' = value := by
      dsimp only at same
      split at same
      · exact Option.some.inj same
      · cases same
    have long : (codeField code).chars.length + 28 ≤ (apiError code e).length := by
      have key : "error-message".toList.length = 13 := by decide
      rw [← String.length_toList, apiError_toList]
      simp only [objectText, fieldsText, Field.chars, outputField, messageField, memberChars,
        quoted, List.length_cons, List.length_append, List.length_nil, key]
      omega
    rw [← equal] at found
    rw [apiError_toList, ← List.append_nil (objectText _ _), readValue_object] at reads
    rcases Option.map_eq_some_iff.mp reads with ⟨⟨members, _⟩, reads, made⟩
    obtain ⟨fuel, more⟩ : Exists fun fuel => (apiError code e).length = fuel + 1 :=
      ⟨(apiError code e).length - 1, by omega⟩
    have key : "output".toList.length = 6 := by decide
    have begins : fieldsText (outputField code e) [] =
        memberChars "output" (outputField code e).text := rfl
    rw [more, begins, readMembers_member errorKeys_clean.2.2 (by omega)] at reads
    rcases Option.bind_eq_some_iff.mp reads with ⟨⟨output, behind⟩, inner, reads⟩
    rcases readValue_output (by omega) (by decide) inner with ⟨text, named, within⟩
    have first : Exists fun others => members = ("output", output) :: others := by
      dsimp only at reads
      split at reads
      · rcases Option.map_eq_some_iff.mp reads with ⟨⟨others, _⟩, _, list⟩
        exact ⟨others, (Prod.mk.inj list).1.symm⟩
      · exact ⟨[], (Prod.mk.inj (Option.some.inj reads)).1.symm⟩
      · cases reads
    rcases first with ⟨others, rfl⟩
    rw [← (Prod.mk.inj made).1] at found
    have same : text = message := by
      have found : output.member "error-message" = some (.str message) := found
      rw [named] at found
      exact Value.str.inj (Option.some.inj found)
    have all := within.whole (Nat.le_antisymm within.shorter (by
      rw [same, String.length_toList, String.length_toList]
      exact whole))
    exact ⟨all.2, by rw [← same]; exact String.toList_inj.mp all.1⟩
  · rintro ⟨plain, rfl⟩
    have isRead : Reads (apiError code message).toList
        (.obj [(outputField code message).member]) := by
      rw [apiError_toList]
      exact reads_object (outputField_isRead plain) fun _ impossible => by cases impossible
    exact ⟨_, parse_of_reads isRead, rfl⟩

end Errors

end PolicyServer
