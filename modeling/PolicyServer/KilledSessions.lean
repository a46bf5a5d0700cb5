import Mathlib.Data.List.Basic
import PolicyServer.SessionLoop

namespace PolicyServer

open Lib

/-!
# Sessions that are killed

`gctl_lcm_reset` sets `die` and joins the thread.  The thread looks at `die` only at the
head of its loop, and not in the loop of attempts: an attempt that fails is followed by
another one for as long as the attempts fail.  `pthread_cancel` is left out where `linux`
is defined.
-/

/-- Behind the kill at most one attempt begins, and none behind one that has failed. -/
structure Stops (log : List Mark) : Prop where
  once : ¬ [Mark.killed, .begun, .begun].Sublist log
  never : ¬ [Mark.killed, .failed, .begun].Sublist log

/-- The thread stops so far, and does when it wakes up. -/
structure Settled (stack : Memory) (thread : Thread) : Prop where
  now : Stops thread.log
  woken : forall after, thread.step stack .wake = some after -> Stops after.log

/-- `sock_connect` returns 0: the address or the options are refused, or `select` fails,
times out, or is interrupted too often. -/
def Kernel.Refused (kernel : Kernel) : Prop :=
  kernel.addressOk = false ∨ (kernel.socket && kernel.sockoptsOk) = false ∨
    kernel.connect ≠ .connected ∧ selectLoop 0 kernel.selects = some false

/-- Once the session is killed, the attempt does not fail. -/
def KillStep (stack : Memory) (thread : Thread) : ThreadStep -> Prop
  | .connect kernel => thread.die = true -> ¬ kernel.Refused
  | .handshake opens requests =>
      thread.die = true ->
        ¬ Expires stack 1 (requests.start + 10) (opens.poll stack thread.self 6).1
          requests.start requests.calls
  | _ => True

theorem refused_iff (kernel : Kernel) : sockConnect kernel.env = some false ↔ kernel.Refused := by
  unfold sockConnect Kernel.env Kernel.Refused
  dsimp only
  cases kernel.addressOk with
  | false => exact iff_of_true rfl (Or.inl rfl)
  | true =>
      cases (kernel.socket && kernel.sockoptsOk) with
      | false => exact iff_of_true rfl (Or.inr (Or.inl rfl))
      | true =>
          rw [if_neg (by decide), if_neg (by decide)]
          by_cases connected : kernel.connect = .connected
          · rw [if_pos (beq_iff_eq.mpr connected)]
            constructor
            · intro impossible
              cases impossible
            · rintro (impossible | impossible | ⟨apart, _⟩)
              · cases impossible
              · cases impossible
              · exact absurd connected apart
          · rw [if_neg (fun same => connected (beq_iff_eq.mp same))]
            constructor
            · intro failed
              exact Or.inr (Or.inr ⟨connected, failed⟩)
            · rintro (impossible | impossible | ⟨_, failed⟩)
              · cases impossible
              · cases impossible
              · exact failed

/-! ## Logs -/

theorem sublist_concat_iff (front log : List Mark) (last mark : Mark) :
    (front ++ [last]).Sublist (log ++ [mark]) ↔
      (front ++ [last]).Sublist log ∨ last = mark ∧ front.Sublist log := by
  have turn : forall left right : List Mark,
      left.Sublist right ↔ left.reverse.Sublist right.reverse :=
    fun _ _ => List.reverse_sublist.symm
  rw [turn (front ++ [last]) (log ++ [mark]), turn (front ++ [last]) log, turn front log,
    List.reverse_append, List.reverse_append]
  exact List.cons_sublist_cons'

/-- What a thread has gone through whose attempts do not fail once it is killed. -/
structure KillGood (thread : Thread) : Prop where
  alive : thread.die = false -> Mark.killed ∉ thread.log
  killed : thread.die = true -> Mark.killed ∈ thread.log
  registered : thread.die = true -> thread.registered = true
  unfailed : ¬ [Mark.killed, .failed].Sublist thread.log
  spent : [Mark.killed, .begun].Sublist thread.log ->
    thread.phase = .connecting ∨ thread.phase = .handshaking ∨ thread.phase = .head ∨
      thread.phase = .returned
  once : ¬ [Mark.killed, .begun, .begun].Sublist thread.log

section Good

variable {stack : Memory} {thread after : Thread}

theorem KillGood.stops (good : KillGood thread) : Stops thread.log := by
  refine ⟨good.once, fun never => good.unfailed ?_⟩
  exact (List.sublist_append_left [Mark.killed, .failed] [.begun]).trans never

theorem killGood_start (dryRun : Bool) : KillGood (Thread.start dryRun) := by
  have alive : (Thread.start dryRun).die ≠ true := Bool.false_ne_true
  cases dryRun with
  | true =>
      exact ⟨by decide, fun die => absurd die alive, fun die => absurd die alive, by decide,
        by decide, by decide⟩
  | false =>
      exact ⟨by decide, fun die => absurd die alive, fun die => absurd die alive, by decide,
        by decide, by decide⟩

/-- An attempt that fails is well behaved only before the kill. -/
theorem killGood_fail (good : KillGood thread) (alive : thread.die = false) :
    KillGood thread.fail := by
  have unkilled : Mark.killed ∉ thread.fail.log := by
    intro member
    rcases List.mem_append.mp member with there | there
    · exact good.alive alive there
    · cases List.mem_singleton.mp there
  have without : forall rest, ¬ (Mark.killed :: rest).Sublist thread.fail.log :=
    fun rest impossible => unkilled (impossible.subset List.mem_cons_self)
  have living : thread.fail.die ≠ true := by
    intro die
    have die : thread.die = true := die
    rw [alive] at die
    cases die
  exact ⟨fun _ => unkilled, fun die => absurd die living, fun die => absurd die living,
    without _, fun begun => absurd begun (without _), without _⟩

/-- Another attempt begins where none has begun since the kill. -/
theorem killGood_retry (good : KillGood thread)
    (unspent : ¬ [Mark.killed, .begun].Sublist thread.log) : KillGood thread.retry := by
  refine ⟨fun alive member => ?_, fun die => List.mem_append_left _ (good.killed die),
    good.registered, fun failed => ?_, fun _ => Or.inl rfl, fun twice => ?_⟩
  · rcases List.mem_append.mp member with there | there
    · exact good.alive alive there
    · cases List.mem_singleton.mp there
  · rcases (sublist_concat_iff [.killed] thread.log .failed .begun).mp failed with
      there | ⟨impossible, _⟩
    · exact good.unfailed there
    · cases impossible
  · rcases (sublist_concat_iff [.killed, .begun] thread.log .begun .begun).mp twice with
      there | ⟨_, there⟩
    · exact good.once there
    · exact unspent there

/-- Where nothing is logged, an attempt that has begun may go on, and end well. -/
theorem killGood_move {after : Thread} (good : KillGood thread) (die : after.die = thread.die)
    (registered : thread.registered = true -> after.registered = true)
    (log : after.log = thread.log)
    (spent : [Mark.killed, .begun].Sublist thread.log ->
      after.phase = .connecting ∨ after.phase = .handshaking ∨ after.phase = .head ∨
        after.phase = .returned) : KillGood after := by
  rw [← log] at spent
  refine ⟨fun alive => ?_, fun killed => ?_, fun killed => ?_, ?_, spent, ?_⟩
  · rw [log]
    exact good.alive (die ▸ alive)
  · rw [log]
    exact good.killed (die ▸ killed)
  · exact registered (good.registered (die ▸ killed))
  · rw [log]
    exact good.unfailed
  · rw [log]
    exact good.once

/-- An attempt that fails behind the kill is followed by another one. -/
theorem not_settled_fail (killed : Mark.killed ∈ thread.log)
    (registered : thread.registered = true) : ¬ Settled stack thread.fail := by
  intro settled
  have sleeping : thread.fail.phase = .sleeping := if_pos registered
  have woken := settled.woken thread.fail.retry (by simp only [Thread.step, sleeping])
  refine woken.never ?_
  have first : [Mark.killed].Sublist thread.log := List.singleton_sublist.mpr killed
  exact (first.append (List.Sublist.refl [Mark.failed])).append (List.Sublist.refl [Mark.begun])

/-! ## One step -/

/-- Another attempt is only begun where none has begun since the kill. -/
theorem KillGood.unspent (good : KillGood thread)
    (here : thread.phase = .sleeping ∨ thread.phase = .receiving) :
    ¬ [Mark.killed, .begun].Sublist thread.log := by
  intro begun
  rcases good.spent begun with there | there | there | there <;> rw [there] at here <;>
    rcases here with impossible | impossible <;> cases impossible

theorem KillGood.settled (good : KillGood thread) : Settled stack thread := by
  refine ⟨good.stops, fun after moved => ?_⟩
  rcases Thread.step_wake moved with ⟨here, rfl⟩
  exact (killGood_retry good (good.unspent (Or.inl here))).stops

/-- Behind a step the thread is settled exactly if the step is allowed. -/
structure KillKept (stack : Memory) (allowed : Prop) (after : Thread) : Prop where
  good : allowed -> KillGood after
  bad : ¬ allowed -> ¬ Settled stack after

/-- An attempt that has failed for this reason. -/
theorem killKept_fail {reason : Prop} (good : KillGood thread) (holds : reason) :
    KillKept stack (thread.die = true -> ¬ reason) thread.fail := by
  cases die : thread.die with
  | false =>
      refine ⟨fun _ => killGood_fail good die, fun bad => ?_⟩
      refine absurd (fun killed => ?_) bad
      cases killed
  | true =>
      exact ⟨fun allowed => absurd holds (allowed rfl),
        fun _ => not_settled_fail (good.killed die) (good.registered die)⟩

/-- An attempt that has not. -/
theorem killKept_pass {killed reason : Prop} (good : KillGood after) (fails : ¬ reason) :
    KillKept stack (killed -> ¬ reason) after :=
  ⟨fun _ => good, fun bad => absurd (fun _ => fails) bad⟩

theorem killKept_connect {kernel : Kernel} (good : KillGood thread)
    (moved : thread.step stack (.connect kernel) = some after) :
    KillKept stack (KillStep stack thread (.connect kernel)) after := by
  rcases Thread.step_connect moved with ⟨_, wire, connected, returns, rfl⟩
  have returned := thread.wire.connect_returned kernel
  rw [returns] at returned
  cases connected with
  | true =>
      have good : KillGood { thread with wire, phase := .handshaking } :=
        killGood_move good rfl id rfl fun _ => Or.inr (Or.inl rfl)
      refine killKept_pass good fun refused => ?_
      rw [(refused_iff kernel).mpr refused] at returned
      cases returned
  | false =>
      have good : KillGood { thread with wire } := killGood_move good rfl id rfl good.spent
      exact killKept_fail good ((refused_iff kernel).mp returned.symm)

theorem killKept_handshake {opens requests : Window} (good : KillGood thread)
    (moved : thread.step stack (.handshake opens requests) = some after) :
    KillKept stack (KillStep stack thread (.handshake opens requests)) after := by
  rcases Thread.step_handshake moved with ⟨_, admitted, requested, rfl⟩
  cases admitted with
  | true =>
      have good : KillGood { thread with
          self := (requests.poll stack (opens.poll stack thread.self 6).1 1).1
          registered := true
          phase := .head } :=
        killGood_move good rfl (fun _ => rfl) rfl fun _ => Or.inr (Or.inr (Or.inl rfl))
      refine killKept_pass good fun expires => ?_
      have failed : (requests.poll stack (opens.poll stack thread.self 6).1 1).2 = some false :=
        pollLoop_false_iff.mpr expires
      rw [requested] at failed
      cases failed
  | false =>
      have good : KillGood
          { thread with self := (requests.poll stack (opens.poll stack thread.self 6).1 1).1 } :=
        killGood_move good rfl id rfl good.spent
      exact killKept_fail good (pollLoop_false_iff.mp requested)

theorem killGood_kill (good : KillGood thread) (registered : thread.registered = true) :
    KillGood { thread with die := true, log := thread.log ++ [.killed] } := by
  have other : forall mark, mark ≠ Mark.killed -> forall front,
      (front ++ [mark]).Sublist (thread.log ++ [.killed]) ->
        (front ++ [mark]).Sublist thread.log := by
    intro mark apart front sublist
    rcases (sublist_concat_iff front thread.log mark .killed).mp sublist with there | ⟨same, _⟩
    · exact there
    · exact absurd same apart
  refine ⟨fun impossible => ?_, fun _ => List.mem_append_right _ List.mem_cons_self,
    fun _ => registered, fun failed => ?_, fun begun => ?_, fun twice => ?_⟩
  · cases impossible
  · exact good.unfailed (other .failed (by decide) [.killed] failed)
  · exact good.spent (other .begun (by decide) [.killed] begun)
  · exact good.once (other .begun (by decide) [.killed, .begun] twice)

theorem killGood_test (good : KillGood thread) (moved : thread.step stack .test = some after) :
    KillGood after := by
  rcases Thread.step_test moved with ⟨_, rfl⟩
  refine killGood_move good rfl id rfl fun begun => ?_
  have killed := begun.subset List.mem_cons_self
  cases die : thread.die with
  | true => exact Or.inr (Or.inr (Or.inr rfl))
  | false => exact absurd killed (good.alive die)

theorem killGood_receive {socket : Socket} (good : KillGood thread)
    (moved : thread.step stack (.receive socket) = some after) : KillGood after := by
  rcases Thread.step_receive moved with ⟨here, self, opcode, _, rfl⟩
  have unspent := good.unspent (Or.inr here)
  unfold Thread.dispatch
  split
  · refine killGood_retry ?_ unspent
    exact killGood_move good rfl id rfl fun begun => absurd begun unspent
  · exact killGood_move good rfl id rfl fun begun => absurd begun unspent

theorem killKept {label : ThreadStep} (good : KillGood thread)
    (moved : thread.step stack label = some after) :
    KillKept stack (KillStep stack thread label) after := by
  -- the steps that are always allowed
  have always (good' : KillGood after) : KillKept stack True after :=
    ⟨fun _ => good', fun never => absurd trivial never⟩
  cases label with
  | connect kernel => exact killKept_connect good moved
  | handshake opens requests => exact killKept_handshake good moved
  | test => exact always (killGood_test good moved)
  | receive socket => exact always (killGood_receive good moved)
  | wake =>
      rcases Thread.step_wake moved with ⟨here, rfl⟩
      exact always (killGood_retry good (good.unspent (Or.inl here)))
  | kill =>
      rcases Thread.step_kill moved with ⟨registered, rfl⟩
      exact always (killGood_kill good registered)

end Good

/-- In every run the thread stops when it is killed exactly if no attempt of the run
fails from then on. -/
theorem settled_iff (stack : Memory) (dryRun : Bool) (steps : List ThreadStep) :
    System.Along (Thread.step stack) (Settled stack) (Thread.start dryRun) steps ↔
      System.Within (Thread.step stack) (KillStep stack) (Thread.start dryRun) steps := by
  refine System.along_iff_within (fun thread (good : KillGood thread) => good.settled)
    ?_ ?_ steps (killGood_start dryRun)
  · intro thread label after good moved
    have kept := killKept good moved
    exact ⟨fun settled => by_contra fun bad => kept.bad bad settled,
      fun allowed => (kept.good allowed).settled⟩
  · intro thread label after good allowed moved
    exact (killKept good moved).good allowed

/-- A Client-Close, then the kill, then a peer that does not answer any more. -/
def killedRun : List ThreadStep :=
  [.connect ⟨true, true, true, .connected, [], false⟩,
    .handshake ⟨0, [(⟨[], []⟩, 10)]⟩
      ⟨10, [(⟨[16, 1, 128, 10, 0, 0, 0, 8], []⟩, 11)]⟩,
    .test, .receive ⟨[16, 8, 128, 10, 0, 0, 0, 8], []⟩, .kill,
    .connect ⟨true, true, true, .inProgress, [.timeout], false⟩]

/-- The attempt fails, and another one begins. -/
theorem killedRun_not_settled :
    ¬ System.Along (Thread.step fun _ => 0) (Settled fun _ => 0) (Thread.start false)
      killedRun := by
  rintro ⟨_, later⟩
  have admitted := (later _ rfl).2 _ rfl
  have closed := (admitted.2 _ rfl).2 _ rfl
  have failed := (closed.2 _ rfl).2 _ rfl
  have woken : Stops [.begun, .begun, .killed, .failed, .begun] := failed.woken _ rfl
  exact woken.never (by decide)

end PolicyServer
