import UiStream.Proofs.Patch.Alike
import UiStream.Proofs.Stream.Classification
import UiStream.Proofs.Stream.Compilation

/-!
# Replaying the history of a session

The patches a session has applied make its document again from the one it began with, but for the
order of members (`Session.replay`).  A patch that failed is not among them, and yet a failed move
can have changed the order of members; so the document that is replayed is alike the one of the
session, not the same, and what carries the proof is that a patch does the same to alike documents
(`Patch.apply_alike`).

`Replays` is the invariant: a line keeps it (`replays_takeLine`), the loop over lines keeps it, and
so does every call (`Session.replays_next`).
-/

namespace UiStream

open Json (Alike alike_self)

/-! ## Patches from lines -/

/-- The value of a patch comes from the object it was decoded from. -/
theorem Patch.distinct_of_decode {members : Members} (h : (Json.object members).Distinct)
    {patch : Patch} (decoded : Patch.decode (.object members) = .ok patch) : patch.Distinct := by
  have value : (valueMember members).Distinct := by
    unfold valueMember
    cases found : Members.find? "value" members with
    | none => trivial
    | some v => exact h.member found
  obtain ⟨-, -, argument⟩ := (decode_object_iff members patch).mp decoded
  cases patch with
  | add | replace => cases argument; rintro _ ⟨⟩; exact value
  | test => cases argument; exact fun v found => h.member found
  | remove | move | copy => rintro _ ⟨⟩

/-- The patch in a line carries no value that repeats a key. -/
theorem Patch.distinct_of_patchOfLine? {line : List Char} {patch : Patch}
    (h : patchOfLine? line = some patch) : patch.Distinct := by
  obtain ⟨v, parsed, decoded⟩ := (patchOfLine?_eq_some_iff line patch).mp h
  obtain ⟨members, rfl⟩ := exists_object_of_decode decoded
  exact distinct_of_decode (Json.distinct_of_parse? parsed) decoded

/-! ## The invariant -/

/-- Applied to the seed, the patches succeed and give the document, but for the order of
members. -/
def Replays (seed : Json) (patches : List Patch) (document : Json) : Prop :=
  ∃ replayed, Patch.applyAll patches seed = .done replayed ∧ Alike replayed document

/-- Patches are applied one batch after the other. -/
theorem Patch.applyAll_append {first : List Patch} {seed made : Json}
    (done : applyAll first seed = .done made) (second : List Patch) :
    applyAll (first ++ second) seed = applyAll second made := by
  induction first generalizing seed with
  | nil => cases done; rfl
  | cons patch rest ih =>
    rw [List.cons_append, applyAll]
    rw [applyAll] at done
    cases failed : (patch.apply seed).error with
    | none => rw [failed] at done; exact ih done
    | some error => simp only [failed] at done; rw [done] at failed; cases failed

variable {seed : Json} {patches : List Patch} {document : Json}

/-- An applied patch goes onto the history. -/
theorem Replays.apply (h : Replays seed patches document) {patch : Patch}
    (distinct : patch.Distinct) (applied : (patch.apply document).error = none) :
    Replays seed (patches ++ [patch]) (patch.apply document).document := by
  obtain ⟨replayed, done, alike⟩ := h
  have again := Patch.apply_alike distinct alike
  refine ⟨(patch.apply replayed).document, ?_, again.document⟩
  rw [Patch.applyAll_append done, Patch.applyAll]
  simp only [again.error.trans applied]
  rfl

/-- A patch that failed does not. -/
theorem Replays.fail (h : Replays seed patches document) {patch : Patch} {error : PatchError}
    (failed : (patch.apply document).error = some error) :
    Replays seed patches (patch.apply document).document := by
  obtain ⟨replayed, done, alike⟩ := h
  exact ⟨replayed, done, alike.trans (Patch.alike_of_error patch alike.symm.distinct failed)⟩

namespace Session

/-- A line keeps the invariant. -/
theorem replays_takeLine (options : SessionOptions) {progress : Progress}
    (h : Replays seed (patches ++ progress.applied) progress.document) (line : List Char) :
    Replays seed (patches ++ (takeLine options progress line).applied)
      (takeLine options progress line).document := by
  rw [takeLine_eq]
  split
  · exact h
  · have noted : Replays seed (patches ++ (progress.note options (trim line)).applied)
        (progress.note options (trim line)).document := by
      unfold Progress.note
      split <;> exact h
    generalize progress.note options (trim line) = progress at noted
    unfold settle
    cases found : patchOfLine? (trim line) with
    | none => exact noted
    | some patch =>
      cases failed : (patch.apply progress.document).error with
      | none =>
        simp only [failed]
        rw [← List.append_assoc]
        exact noted.apply (Patch.distinct_of_patchOfLine? found) failed
      | some error =>
        cases policy : options.onFailure <;> simp only [failed] <;> exact noted.fail failed

/-- Lines keep the invariant. -/
theorem replays_takeLines (options : SessionOptions) {progress : Progress}
    (h : Replays seed (patches ++ progress.applied) progress.document) (lines : List (List Char)) :
    Replays seed (patches ++ (takeLines options progress lines).applied)
      (takeLines options progress lines).document := by
  induction lines generalizing progress with
  | nil => exact h
  | cons line rest ih =>
    have after := replays_takeLine options h line
    rw [takeLines_cons]
    cases (takeLine options progress line).failure with
    | none => exact ih after
    | some error => exact after

/-! ## Runs -/

/-- A call that may change a session. -/
inductive Call where
  | push (text : List Char)
  | pushBytes (bytes : List UInt8)
  | result
  | reset (document : Json)

/-- The session after a call, whatever the call answers. -/
def next (session : Session) : Call → Session
  | .push text => (session.push text).2
  | .pushBytes bytes => (session.pushBytes bytes).2
  | .result => session.result.2
  | .reset document => session.reset document

/-- The session after calls. -/
def run (session : Session) (calls : List Call) : Session := calls.foldl next session

/-- The document a session begins with after a call. -/
def seedAfter (seed : Json) : Call → Json
  | .reset document => document
  | _ => seed

/-- Whether a call adds to the history. -/
def applies (session : Session) (call : Call) : Bool :=
  session.patches.length < (session.next call).patches.length

/-- How many of the calls add to the history. -/
def countApplying (session : Session) : List Call → Nat
  | [] => 0
  | call :: rest =>
    (if session.applies call then 1 else 0) + countApplying (session.next call) rest

/-- A session that has ended stays as it is. -/
theorem whenLive_cases {α : Type} (session : Session) (call : Except SessionError α × Session) :
    (session.whenLive call).2 = session ∨ (session.whenLive call).2 = call.2 := by
  unfold whenLive
  split
  · exact .inl rfl
  · exact .inr rfl

/-- What a call does: it begins afresh, is refused, or takes lines. -/
theorem next_cases (session : Session) (call : Call) :
    (∃ document, call = .reset document ∧ session.next call = session.reset document) ∨
      (∀ seed, seedAfter seed call = seed) ∧
        (session.next call = session ∨
          ∃ buffer lines, session.next call = advance { session with buffer }
            (takeLines session.options session.progress lines)) := by
  have taken (session : Session) (lines : List (List Char)) : (session.process lines).2 =
      session.advance (takeLines session.options session.progress lines) :=
    congrArg Prod.snd (process_eq session lines)
  cases call with
  | reset document => exact .inl ⟨document, rfl, rfl⟩
  | push text =>
    refine .inr ⟨fun _ => rfl, (whenLive_cases session _).imp_right fun live => ?_⟩
    exact ⟨_, _, live.trans (taken ..)⟩
  | pushBytes bytes =>
    refine .inr ⟨fun _ => rfl, (whenLive_cases session _).imp_right fun live => ?_⟩
    exact ⟨_, _, live.trans (taken ..)⟩
  | result =>
    refine .inr ⟨fun _ => rfl, (whenLive_cases session _).imp_right fun live => ?_⟩
    exact ⟨_, _, live.trans (taken ..)⟩

/-- A call keeps the invariant. -/
theorem replays_next {session : Session} (h : Replays seed session.patches session.document)
    {call : Call} (distinct : ∀ document, call = .reset document → document.Distinct) :
    Replays (seedAfter seed call) (session.next call).patches (session.next call).document := by
  rcases next_cases session call with
    ⟨document, rfl, after⟩ | ⟨same, after | ⟨buffer, lines, after⟩⟩
  · rw [after]
    exact ⟨document, rfl, alike_self.mpr (distinct document rfl)⟩
  · rw [after, same]
    exact h
  · rw [after, same]
    refine replays_takeLines session.options ?_ lines
    rw [progress, List.append_nil]
    exact h

/-- A call counts in the version exactly if it adds to the history. -/
theorem version_next (session : Session) (call : Call) :
    (session.next call).version =
      session.version + if session.applies call then 1 else 0 := by
  unfold applies
  rcases next_cases session call with
    ⟨document, rfl, after⟩ | ⟨same, after | ⟨buffer, lines, after⟩⟩
  · simp [after, reset]
  · simp [after]
  · rw [after]
    simp only [advance, List.length_append]
    cases (takeLines session.options session.progress lines).applied <;> simp

theorem version_run (session : Session) (calls : List Call) :
    (session.run calls).version = session.version + session.countApplying calls := by
  induction calls generalizing session with
  | nil => rfl
  | cons call rest ih =>
    rw [countApplying, ← Nat.add_assoc, ← version_next]
    exact ih (session.next call)

theorem replays_run {session : Session} (h : Replays seed session.patches session.document)
    {calls : List Call} (distinct : ∀ document, .reset document ∈ calls → document.Distinct) :
    Replays (calls.foldl seedAfter seed) (session.run calls).patches
      (session.run calls).document := by
  induction calls generalizing seed session with
  | nil => exact h
  | cons call rest ih =>
    refine ih (replays_next h fun document same => ?_) fun document later => ?_
    · exact distinct document (same ▸ .head _)
    · exact distinct document (.tail _ later)

/-- **A session can be replayed.**  After any calls the patches it has applied succeed on the
document of its beginning or of its last reset, and give its document but for the order of members.
The version is the number of calls that applied a patch. -/
theorem replay (seed : Json) (options : SessionOptions) (calls : List Call)
    (distinct : seed.Distinct) (resets : ∀ document, .reset document ∈ calls → document.Distinct) :
    let session := (start seed options).run calls
    (∃ replayed, Patch.applyAll session.patches (calls.foldl seedAfter seed) = .done replayed ∧
      Alike replayed session.document) ∧
    session.version = (start seed options).countApplying calls := by
  refine ⟨replays_run ⟨seed, rfl, alike_self.mpr distinct⟩ resets, ?_⟩
  rw [version_run]
  exact Nat.zero_add _

/-- A session with a move that fails and reorders its document, and a reset. -/
theorem replay_failed_move :
    let seed : Json := .object [("a", .null), ("list", .array [])]
    let other : Json := .object [("b", .null)]
    let calls : List Call :=
      [.push "\x7b\"op\":\"move\",\"from\":\"/a\",\"path\":\"/list/x\"\x7d\n".toList, .result,
        .reset other, .push "\x7b\"op\":\"remove\",\"path\":\"/b\"\x7d".toList, .result]
    let session := (start seed {}).run calls
    seed.Distinct ∧ (∀ document, .reset document ∈ calls → document.Distinct) ∧
      calls.foldl seedAfter seed = other ∧
      (∃ replayed, Patch.applyAll session.patches (calls.foldl seedAfter seed) = .done replayed ∧
        Alike replayed session.document) ∧
      session.version = (start seed {}).countApplying calls := by
  intro seed other calls session
  have distinct : seed.Distinct := ⟨by decide, trivial, trivial, trivial⟩
  have resets : ∀ document, .reset document ∈ calls → document.Distinct := by
    intro document h
    have : document = other := by simpa [calls] using h
    exact this ▸ ⟨by decide, trivial, trivial⟩
  exact ⟨distinct, resets, rfl, replay seed {} calls distinct resets⟩

end Session

end UiStream
