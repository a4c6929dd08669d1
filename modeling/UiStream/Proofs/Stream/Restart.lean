import UiStream.Proofs.Stream.Replay

/-!
# Ending and beginning afresh

A call that fails ends a session: until the next reset all calls are refused, and none changes
anything (`Session.replies_run_of_aborted`).  A reset makes it a new session, but for its version.
The version is only counted up and never looked at, so that a session whose version is higher
answers the same and stays as much ahead (`Session.replies_run_ahead`).

Both are about what a call answers and leaves, and apart from a reset every call does the same with
the lines that the buffer gives it: it takes them (`Session.take`), and tells more or less of it.
-/

namespace UiStream

namespace Session

/-! ## Replies -/

/-- What a call answers if it is not refused and does not fail. -/
inductive Reply where
  | updated (update : SessionUpdate)
  | finished (document : Json)
  | begun
deriving DecidableEq, Repr

/-- What a call answers. -/
def reply (session : Session) : Call → Except SessionError Reply
  | .push text => (session.push text).1.map .updated
  | .pushBytes bytes => (session.pushBytes bytes).1.map .updated
  | .result => session.result.1.map .finished
  | .reset _ => .ok .begun

/-- What calls answer, one after the other. -/
def replies (session : Session) : List Call → List (Except SessionError Reply)
  | [] => []
  | call :: rest => session.reply call :: (session.next call).replies rest

/-! ## Calls that take lines -/

/-- The lines that a call gets out of the buffer, and the buffer after it. -/
def Call.lines (buffer : LineBuffer) : Call → List (List Char) × LineBuffer
  | .push text => buffer.push text
  | .pushBytes bytes => buffer.pushBytes bytes
  | .result => (buffer.takeRest.1.toList, buffer.takeRest.2)
  | .reset _ => ([], {})

/-- What a call tells of an update. -/
def Call.tell : Call → SessionUpdate → Reply
  | .push _ | .pushBytes _ => .updated
  | .result => fun update => .finished update.document
  | .reset _ => fun _ => .begun

/-- Takes lines that have come out of the buffer, unless the session has ended. -/
def take (session : Session) (cut : List (List Char) × LineBuffer) :
    Except SessionError SessionUpdate × Session :=
  session.whenLive (process { session with buffer := cut.2 } cut.1)

variable {session : Session} {call : Call}

/-- A session that takes lines is refused it, or advances behind them. -/
theorem take_eq (session : Session) (cut : List (List Char) × LineBuffer) :
    session.take cut =
      if session.isAborted then (.error .aborted, session)
      else
        let after := takeLines session.options session.progress cut.1
        (answer after, advance { session with buffer := cut.2 } after) := by
  rw [take, whenLive, process_eq]
  rfl

/-- The result is a call that takes the rest. -/
theorem result_eq_take (session : Session) :
    let taken := session.take (session.buffer.takeRest.1.toList, session.buffer.takeRest.2)
    session.result = (taken.1.map (·.document), taken.2) := by
  unfold result take whenLive
  split <;> rfl

/-- Every call but a reset takes lines. -/
theorem reply_next_eq_take (session : Session) (ongoing : ∀ document, call ≠ .reset document) :
    session.reply call = (session.take (call.lines session.buffer)).1.map call.tell ∧
      session.next call = (session.take (call.lines session.buffer)).2 := by
  cases call with
  | push | pushBytes => exact ⟨rfl, rfl⟩
  | result =>
    rw [reply, next, result_eq_take]
    refine ⟨?_, rfl⟩
    dsimp only [Call.lines]
    cases (session.take (session.buffer.takeRest.1.toList, session.buffer.takeRest.2)).1 <;> rfl
  | reset document => exact absurd rfl (ongoing document)

/-! ## Sessions that have ended -/

/-- A session that has ended refuses to take lines. -/
theorem take_of_aborted (ended : session.isAborted = true) (cut : List (List Char) × LineBuffer) :
    session.take cut = (.error .aborted, session) := by
  rw [take_eq, if_pos ended]

/-- A failure while lines are taken ends the session. -/
theorem isAborted_take {cut : List (List Char) × LineBuffer} {error : SessionError}
    (failed : (session.take cut).1 = .error error) : (session.take cut).2.isAborted = true := by
  rw [take_eq] at failed ⊢
  split at failed
  · next ended => rw [if_pos ended]; exact ended
  · next live =>
    rw [if_neg live]
    dsimp only [answer, advance] at failed ⊢
    split at failed
    · cases failed
    · next failure => rw [failure]; rfl

/-- A call that fails ends the session. -/
theorem isAborted_next {error : SessionError} (failed : session.reply call = .error error) :
    (session.next call).isAborted = true := by
  by_cases ongoing : ∀ document, call ≠ .reset document
  · obtain ⟨answered, after⟩ := reply_next_eq_take session ongoing
    rw [after]
    rw [answered] at failed
    cases taken : (session.take (call.lines session.buffer)).1 with
    | ok update => rw [taken] at failed; cases failed
    | error inner => exact isAborted_take taken
  · obtain ⟨document, rfl⟩ := not_forall_not.mp ongoing
    cases failed

/-- A session that has ended refuses a call and stays as it is. -/
theorem reply_next_of_aborted (ended : session.isAborted = true)
    (ongoing : ∀ document, call ≠ .reset document) :
    session.reply call = .error .aborted ∧ session.next call = session := by
  obtain ⟨answered, after⟩ := reply_next_eq_take session ongoing
  rw [answered, after, take_of_aborted ended]
  exact ⟨rfl, rfl⟩

/-- A session that has ended refuses calls and stays as it is, as long as none is a reset. -/
theorem replies_run_of_aborted (ended : session.isAborted = true) {calls : List Call}
    (ongoing : ∀ document, .reset document ∉ calls) :
    session.replies calls = calls.map (fun _ => .error .aborted) ∧ session.run calls = session := by
  induction calls with
  | nil => exact ⟨rfl, rfl⟩
  | cons call rest ih =>
    obtain ⟨refused, same⟩ := reply_next_of_aborted ended fun document h =>
      ongoing document (h ▸ List.mem_cons_self)
    obtain ⟨later, stays⟩ := ih fun document h => ongoing document (List.mem_cons_of_mem _ h)
    rw [replies, refused, same, later, run, List.foldl_cons, same]
    exact ⟨rfl, stays⟩

/-! ## Versions -/

/-- The session with a higher version. -/
def ahead (n : Nat) (session : Session) : Session :=
  { session with version := session.version + n }

/-- Taking lines does not depend on the version, and adds the same to it. -/
theorem take_ahead (n : Nat) (session : Session) (cut : List (List Char) × LineBuffer) :
    (session.ahead n).take cut = ((session.take cut).1, (session.take cut).2.ahead n) := by
  have same : (session.ahead n).isAborted = session.isAborted := rfl
  rw [take_eq, take_eq, same]
  split
  · rfl
  · refine Prod.ext rfl ?_
    dsimp only [advance, ahead, progress]
    split
    · rfl
    · rw [Nat.add_right_comm]

/-- A call does not depend on the version, and adds the same to it. -/
theorem reply_next_ahead (n : Nat) (session : Session) (call : Call) :
    (session.ahead n).reply call = session.reply call ∧
      (session.ahead n).next call = (session.next call).ahead n := by
  by_cases ongoing : ∀ document, call ≠ .reset document
  · obtain ⟨answered, after⟩ := reply_next_eq_take session ongoing
    obtain ⟨answered', after'⟩ := reply_next_eq_take (session.ahead n) ongoing
    have same : (session.ahead n).buffer = session.buffer := rfl
    rw [answered', after', same, take_ahead, answered, after]
    exact ⟨rfl, rfl⟩
  · obtain ⟨document, rfl⟩ := not_forall_not.mp ongoing
    exact ⟨rfl, rfl⟩

/-- Calls do not depend on the version, and add the same to it. -/
theorem replies_run_ahead (n : Nat) (session : Session) (calls : List Call) :
    (session.ahead n).replies calls = session.replies calls ∧
      (session.ahead n).run calls = (session.run calls).ahead n := by
  induction calls generalizing session with
  | nil => exact ⟨rfl, rfl⟩
  | cons call rest ih =>
    obtain ⟨same, next⟩ := reply_next_ahead n session call
    obtain ⟨later, after⟩ := ih (session.next call)
    rw [replies, replies, same, next, later, run, List.foldl_cons, next]
    exact ⟨rfl, after⟩

/-- Calls keep the options. -/
theorem options_run (session : Session) (calls : List Call) :
    (session.run calls).options = session.options := by
  induction calls generalizing session with
  | nil => rfl
  | cons call rest ih =>
    refine (ih (session.next call)).trans ?_
    obtain ⟨document, rfl, after⟩ | ⟨-, after | ⟨buffer, lines, after⟩⟩ :=
      next_cases session call <;> rw [after] <;> rfl

/-- A reset makes a session that is ahead of a new one. -/
theorem reset_eq_ahead (session : Session) (document : Json) :
    session.reset document = (start document session.options).ahead session.version := by
  simp [reset, start, ahead]

/-- **A session ends for good, and begins afresh.**  After a call that has failed on a patch, all
calls up to the next reset are refused, and the session stays as it is.  After a reset, whatever was
before, all calls answer what they answer on a new session with the same options, and leave what
they leave there, but for the version, which is ahead by what it was at the reset. -/
theorem ends_and_restarts (seed : Json) (options : SessionOptions) (calls : List Call) :
    let session := (start seed options).run calls
    (∀ call line error, session.reply call = .error (.patchFailed line error) →
      ∀ later, (∀ document, .reset document ∉ later) →
        (session.next call).replies later = later.map (fun _ => .error .aborted) ∧
          (session.next call).run later = session.next call) ∧
    ∀ document later,
      (session.reset document).replies later = (start document options).replies later ∧
        (session.reset document).run later =
          ((start document options).run later).ahead session.version := by
  intro session
  constructor
  · intro call line error failed later ongoing
    exact replies_run_of_aborted (isAborted_next failed) ongoing
  · intro document later
    have same : session.options = options := options_run _ calls
    rw [reset_eq_ahead, same]
    exact replies_run_ahead _ _ _

/-- A session that fails while it holds the first byte of a character, and its reset. -/
theorem ends_and_restarts_pending :
    let options : SessionOptions := { onFailure := .abort }
    let added := "\x7b\"op\":\"add\",\"path\":\"/a\",\"value\":null\x7d\n".toList
    let line := "\x7b\"op\":\"test\",\"path\":\"/a\",\"value\":true\x7d"
    let failing : Call := .push (line.toList ++ ['\n'])
    let session := (start .emptyObject options).run [.push added, .pushBytes [0xE2]]
    let ended := (start .emptyObject options).run [.push added, .pushBytes [0xE2], failing]
    let document : Json := .object [("a", .bool true)]
    session.reply failing = .error (.patchFailed line (.testFailed "/a")) ∧
      (session.next failing).replies [.pushBytes [0x82], .result] =
        [.error .aborted, .error .aborted] ∧
      (ended.reset document).replies [failing, .result] =
        (start document options).replies [failing, .result] := by
  intro options added line failing session ended document
  have failed : session.reply failing = .error (.patchFailed line (.testFailed "/a")) := by
    decide +kernel
  have latched := (ends_and_restarts .emptyObject options [.push added, .pushBytes [0xE2]]).1
    failing line _ failed [.pushBytes [0x82], .result] (by simp)
  have afresh := (ends_and_restarts .emptyObject options
    [.push added, .pushBytes [0xE2], failing]).2 document [failing, .result]
  exact ⟨failed, latched.1, afresh.1⟩

end Session

end UiStream
