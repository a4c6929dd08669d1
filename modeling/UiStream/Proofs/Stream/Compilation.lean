import UiStream.Proofs.Stream.Lines
import UiStream.Proofs.Text.Trim
import UiStream.Proofs.Text.Utf8
import UiStream.Stream.Session

/-!
# A stream compiled as a whole

`compileStream` says what becomes of a stream without any session: its bytes are decoded at once,
the lines are trimmed, the blank ones and, if asked for, the repeated ones are dropped, and the
patches among the others are applied in order.  `Session.takeAll_compileStream` says that a session
does just that, however the stream is cut.

The proof goes through `takeLines`, the loop of a session over its lines.  It can be stopped
between two lines and taken up again (`takeLines_append`), which is all that a cut does to it, and
over a whole stream it applies the lines that are left after repeated ones are dropped
(`takeLines_compilation`).
-/

namespace UiStream

/-! ## The stream as a whole -/

/-- What the patches of a stream have made of a document, the patches that were applied, and the
failure that ended the stream, if one did. -/
structure Compilation where
  document : Json
  patches : List Patch := []
  failure : Option SessionError := none

/-- A compilation that other patches came before. -/
def Compilation.behind (earlier : List Patch) (later : Compilation) : Compilation :=
  { later with patches := earlier ++ later.patches }

/-- The trimmed lines of a text that are not blank, and of equal ones only the first if repeated
lines are to be dropped. -/
def candidates (dedupe : Bool) (text : List Char) : List (List Char) :=
  let lines := ((splitOn '\n' text).map trim).filter (!·.isEmpty)
  if dedupe then lines.eraseDups else lines

/-- Applies the patches among trimmed lines in order.  One that fails is passed over or ends the
stream. -/
def applyLines (policy : FailurePolicy) : List (List Char) → Json → Compilation
  | [], document => { document }
  | line :: rest, document =>
    match patchOfLine? line with
    | none => applyLines policy rest document
    | some patch =>
      match (patch.apply document).error, policy with
      | none, _ => (applyLines policy rest (patch.apply document).document).behind [patch]
      | some _, .skip => applyLines policy rest (patch.apply document).document
      | some error, .abort =>
        { document := (patch.apply document).document
          failure := some (.patchFailed (String.ofList line) error) }

/-- What becomes of a document by the patches of a stream with the given text. -/
def compileStream (options : SessionOptions) (text : List Char) (document : Json) : Compilation :=
  applyLines options.onFailure (candidates options.dedupe text) document

/-! ## Lines that have not come before -/

/-- The lines among some that have not been seen, each once. -/
def newLines (seen lines : List (List Char)) : List (List Char) :=
  (lines.filter (!seen.contains ·)).eraseDups

theorem newLines_nil (lines : List (List Char)) : newLines [] lines = lines.eraseDups :=
  congrArg List.eraseDups (List.filter_eq_self.mpr fun _ _ => rfl)

/-- A line that was seen is no new one. -/
theorem newLines_cons_of_seen {seen : List (List Char)} {line : List Char}
    (old : seen.contains line = true) (rest : List (List Char)) :
    newLines seen (line :: rest) = newLines seen rest := by
  rw [newLines, List.filter_cons_of_neg (by rw [old]; decide), newLines]

/-- A line that was not seen is new, and seen from there on. -/
theorem newLines_cons_of_new {seen : List (List Char)} {line : List Char}
    (new : seen.contains line = false) (rest : List (List Char)) :
    newLines seen (line :: rest) = line :: newLines (line :: seen) rest := by
  have both : (fun l => !(l == line) && !seen.contains l) =
      fun l => !(line :: seen).contains l := by
    funext l
    rw [List.contains_cons, Bool.not_or]
  rw [newLines, List.filter_cons_of_pos (by rw [new]; decide), List.eraseDups_cons,
    List.filter_filter, both, newLines]

/-- The lines a session looks at when it has seen some already. -/
def unseen (dedupe : Bool) (seen lines : List (List Char)) : List (List Char) :=
  let lines := (lines.map trim).filter (!·.isEmpty)
  if dedupe then newLines seen lines else lines

/-- The lines a session has seen after another one. -/
def noteSeen (dedupe : Bool) (seen : List (List Char)) (line : List Char) : List (List Char) :=
  if dedupe then line :: seen else seen

/-- Whether a session passes a line over: it is blank, or came before. -/
def passesOver (dedupe : Bool) (seen : List (List Char)) (line : List Char) : Bool :=
  (trim line).isEmpty || (dedupe && seen.contains (trim line))

theorem unseen_nil (dedupe : Bool) (seen : List (List Char)) : unseen dedupe seen [] = [] := by
  cases dedupe <;> rfl

/-- A line that is not passed over is looked at and noted. -/
theorem unseen_cons (dedupe : Bool) (seen : List (List Char)) (line : List Char)
    (rest : List (List Char)) :
    unseen dedupe seen (line :: rest) =
      if passesOver dedupe seen line then unseen dedupe seen rest
      else trim line :: unseen dedupe (noteSeen dedupe seen (trim line)) rest := by
  unfold unseen noteSeen passesOver
  rw [List.map_cons]
  cases blank : (trim line).isEmpty with
  | true => rw [List.filter_cons_of_neg (by rw [blank]; decide)]; rfl
  | false =>
    rw [List.filter_cons_of_pos (by rw [blank]; decide)]
    cases dedupe with
    | false => rfl
    | true =>
      cases old : seen.contains (trim line) with
      | true => exact newLines_cons_of_seen old _
      | false => exact newLines_cons_of_new old _

/-- To a session that has seen nothing all candidates are new. -/
theorem unseen_textLines (dedupe : Bool) (text : List Char) :
    unseen dedupe [] (LineBuffer.textLines text) = candidates dedupe text := by
  have lines : ((splitOn '\n' text).map trim).filter (!·.isEmpty) =
      ((LineBuffer.textLines text).map trim).filter (!·.isEmpty) := by
    rw [LineBuffer.splitOn_eq_textLines, List.map_append, List.filter_append]
    cases (LineBuffer.cut text).2 <;> simp [trim, trimStart, trimEnd]
  rw [unseen, candidates, lines, newLines_nil]

namespace Session

/-! ## The loop over lines -/

/-- The progress of a session that has seen another line. -/
def Progress.note (options : SessionOptions) (progress : Progress) (line : List Char) :
    Progress :=
  if options.dedupe then { progress with seen := line :: progress.seen } else progress

/-- What a session does with a line that is new. -/
def settle (options : SessionOptions) (progress : Progress) (line : List Char) : Progress :=
  match patchOfLine? line with
  | none => progress
  | some patch =>
    let document := (patch.apply progress.document).document
    match (patch.apply progress.document).error with
    | none => { progress with document, applied := progress.applied ++ [patch] }
    | some error =>
      match options.onFailure with
      | .skip => { progress with document }
      | .abort =>
        { progress with document, failure := some (.patchFailed (String.ofList line) error) }

/-- A line is passed over, or noted and settled. -/
theorem takeLine_eq (options : SessionOptions) (progress : Progress) (line : List Char) :
    takeLine options progress line =
      if passesOver options.dedupe progress.seen line then progress
      else settle options (progress.note options (trim line)) (trim line) := rfl

/-- The loop stops at a failure. -/
theorem takeLines_cons (options : SessionOptions) (progress : Progress) (line : List Char)
    (rest : List (List Char)) :
    takeLines options progress (line :: rest) =
      match (takeLine options progress line).failure with
      | none => takeLines options (takeLine options progress line) rest
      | some _ => takeLine options progress line := rfl

/-- The loop can be stopped between two lines and taken up again. -/
theorem takeLines_append (options : SessionOptions) {progress : Progress}
    (running : progress.failure = none) (a b : List (List Char)) :
    takeLines options progress (a ++ b) =
      match (takeLines options progress a).failure with
      | none => takeLines options (takeLines options progress a) b
      | some _ => takeLines options progress a := by
  induction a generalizing progress with
  | nil => rw [takeLines, running]; rfl
  | cons line a ih =>
    rw [List.cons_append, takeLines_cons, takeLines_cons]
    cases failure : (takeLine options progress line).failure with
    | none => exact ih failure
    | some error => simp only [failure]

/-- A progress that other patches came before. -/
def Progress.behind (earlier : List Patch) (progress : Progress) : Progress :=
  { progress with applied := earlier ++ progress.applied }

/-- The patches applied before a line do not matter for what it does. -/
theorem takeLine_behind (options : SessionOptions) (earlier : List Patch) (progress : Progress)
    (line : List Char) :
    takeLine options (progress.behind earlier) line =
      (takeLine options progress line).behind earlier := by
  have noted : (progress.behind earlier).note options (trim line) =
      (progress.note options (trim line)).behind earlier := by
    unfold Progress.note; split <;> rfl
  rw [takeLine_eq, takeLine_eq, noted]
  by_cases passed : passesOver options.dedupe progress.seen line = true
  · rw [if_pos passed, if_pos (by exact passed)]
  · rw [if_neg passed, if_neg (by exact passed)]
    generalize progress.note options (trim line) = progress
    cases found : patchOfLine? (trim line) with
    | none => simp [settle, found]
    | some patch =>
      cases failed : (patch.apply progress.document).error with
      | none => simp [settle, Progress.behind, found, failed]
      | some error =>
        cases policy : options.onFailure <;> simp [settle, Progress.behind, found, failed, policy]

/-- The patches applied before some lines do not matter for what they do. -/
theorem takeLines_behind (options : SessionOptions) (earlier : List Patch) (progress : Progress)
    (lines : List (List Char)) :
    takeLines options (progress.behind earlier) lines =
      (takeLines options progress lines).behind earlier := by
  induction lines generalizing progress with
  | nil => rfl
  | cons line rest ih =>
    rw [takeLines_cons, takeLines_cons, takeLine_behind]
    cases failure : (takeLine options progress line).failure with
    | none => simpa [Progress.behind, failure] using ih (takeLine options progress line)
    | some error => simp [Progress.behind, failure]

/-- What a progress amounts to at its end. -/
def Progress.compilation (progress : Progress) : Compilation :=
  { document := progress.document, patches := progress.applied, failure := progress.failure }

/-- Over its lines a session applies those that are new to it. -/
theorem takeLines_compilation (options : SessionOptions) (lines seen : List (List Char))
    (document : Json) :
    (takeLines options ⟨document, seen, [], none⟩ lines).compilation =
      applyLines options.onFailure (unseen options.dedupe seen lines) document := by
  induction lines generalizing seen document with
  | nil => rw [unseen_nil]; rfl
  | cons line rest ih =>
    rw [takeLines_cons, takeLine_eq, unseen_cons]
    by_cases passed : passesOver options.dedupe seen line = true
    · rw [if_pos passed, if_pos passed]
      exact ih seen document
    · have noted : Progress.note options ⟨document, seen, [], none⟩ (trim line) =
          ⟨document, noteSeen options.dedupe seen (trim line), [], none⟩ := by
        unfold Progress.note noteSeen; split <;> rfl
      rw [if_neg passed, if_neg passed, noted, applyLines]
      generalize noteSeen options.dedupe seen (trim line) = seen
      cases found : patchOfLine? (trim line) with
      | none => simpa only [settle, found] using ih seen document
      | some patch =>
        have later := ih seen (patch.apply document).document
        cases failed : (patch.apply document).error with
        | none =>
          simp only [settle, found, failed, ← later]
          exact congrArg Progress.compilation (takeLines_behind options [patch]
            ⟨(patch.apply document).document, seen, [], none⟩ rest)
        | some error =>
          cases policy : options.onFailure with
          | skip => simpa only [settle, found, failed, policy] using later
          | abort => simp only [settle, found, failed, policy, Progress.compilation]

/-! ## A session over pieces -/

/-- A session behind the lines of a call. -/
def advance (session : Session) (progress : Progress) : Session :=
  { session with
    document := progress.document
    seen := progress.seen
    patches := session.patches ++ progress.applied
    version := if progress.applied.isEmpty then session.version else session.version + 1
    isAborted := progress.failure.isSome }

/-- What a call answers after its lines. -/
def answer (progress : Progress) : Except SessionError SessionUpdate :=
  match progress.failure with
  | none => .ok ⟨progress.document, progress.applied⟩
  | some error => .error error

/-- Where a session stands in front of the lines of a call. -/
def progress (session : Session) : Progress := ⟨session.document, session.seen, [], none⟩

theorem process_eq (session : Session) (lines : List (List Char)) :
    session.process lines =
      let after := takeLines session.options session.progress lines
      (answer after, session.advance after) := by
  unfold process answer progress advance
  dsimp only
  cases (takeLines session.options ⟨session.document, session.seen, [], none⟩ lines).failure <;> rfl

/-- What has become of a document when a run over a session ends. -/
def outcome (ended : Option SessionError × Session) : Compilation :=
  { document := ended.2.document, patches := ended.2.patches, failure := ended.1 }

/-- A session that takes pieces takes the lines of all of them in one go. -/
theorem outcome_takeAll (session : Session) (live : session.isAborted = false)
    (pieces : List (List UInt8)) :
    outcome (session.takeAll pieces) =
      (takeLines session.options session.progress
        (session.buffer.linesOf pieces)).compilation.behind session.patches := by
  induction pieces generalizing session with
  | nil =>
    rw [takeAll, result, whenLive, if_neg (ne_true_of_eq_false live), LineBuffer.linesOf]
    dsimp only
    rw [process_eq]
    dsimp only [progress, answer]
    cases failure : (takeLines session.options _ session.buffer.takeRest.1.toList).failure <;>
      simp [outcome, advance, Progress.compilation, Compilation.behind, failure, Except.map]
  | cons piece rest ih =>
    rw [takeAll, pushBytes, whenLive, if_neg (ne_true_of_eq_false live), LineBuffer.linesOf,
      takeLines_append _ rfl]
    dsimp only
    rw [process_eq]
    dsimp only [progress, answer]
    generalize after : takeLines session.options _ (session.buffer.pushBytes piece).1 = now
    cases failure : now.failure with
    | some error => simp [outcome, advance, Progress.compilation, Compilation.behind, failure]
    | none =>
      have split : now = Progress.behind now.applied ⟨now.document, now.seen, [], none⟩ := by
        rw [← failure]; simp [Progress.behind]
      have later := takeLines_behind session.options now.applied
        ⟨now.document, now.seen, [], none⟩ ((session.buffer.pushBytes piece).2.linesOf rest)
      rw [← split] at later
      dsimp only
      rw [ih _ (by simp [advance, failure]), later]
      simp [Progress.compilation, Progress.behind, Compilation.behind, advance, progress]

/-- However a stream is cut, a session makes of it what its text makes as a whole. -/
theorem takeAll_compileStream (options : SessionOptions) (document : Json)
    (pieces : List (List UInt8)) :
    outcome ((start document options).takeAll pieces) =
      compileStream options (Utf8.decodeLossy pieces.flatten) document := by
  rw [outcome_takeAll _ rfl, LineBuffer.linesOf_eq _ List.not_mem_nil]
  change Compilation.behind [] _ = _
  rw [compileStream, ← LineBuffer.wholeText_empty, ← unseen_textLines]
  exact takeLines_compilation options _ [] document

end Session

/-! ## A text compiled in one go -/

theorem patchOfLine?_trim (line : List Char) : patchOfLine? (trim line) = patchOfLine? line := by
  rw [patchOfLine?, patchOfLine?, trim_trim]

/-- A blank line is no patch. -/
theorem patchOfLine?_of_blank {line : List Char} (blank : trim line = []) :
    patchOfLine? line = none := by
  rw [patchOfLine?, blank]
  rfl

/-- The patches of a text are those of its candidates, repeated ones included. -/
theorem filterMap_candidates (text : List Char) :
    (candidates false text).filterMap patchOfLine? =
      (splitOn '\n' text).filterMap patchOfLine? := by
  rw [candidates, if_neg Bool.false_ne_true]
  induction splitOn '\n' text with
  | nil => rfl
  | cons line rest ih =>
    rw [List.map_cons, List.filter_cons, List.filterMap_cons]
    cases blank : trim line with
    | nil => rw [patchOfLine?_of_blank blank]; exact ih
    | cons c cs =>
      change List.filterMap patchOfLine? ((c :: cs) :: _) = _
      rw [List.filterMap_cons, ← blank, patchOfLine?_trim, ih]

/-- Up to the first failure, lines do what their patches do. -/
theorem applyLines_abort (lines : List (List Char)) (document : Json) :
    let compilation := applyLines .abort lines document
    match (Patch.applyAll (lines.filterMap patchOfLine?) document).toExcept with
    | .ok made => compilation.failure = none ∧ compilation.document = made
    | .error error => ∃ line, compilation.failure = some (.patchFailed line error) := by
  induction lines generalizing document with
  | nil => exact ⟨rfl, rfl⟩
  | cons line rest ih =>
    rw [applyLines, List.filterMap_cons]
    cases patchOfLine? line with
    | none => exact ih document
    | some patch =>
      dsimp only
      rw [Patch.applyAll]
      cases failed : (patch.apply document).error with
      | none => exact ih (patch.apply document).document
      | some error =>
        simp only [Applied.toExcept, failed]
        exact ⟨_, rfl⟩

/-- **Cuts do not show.**  A session that takes a stream in pieces, up to its first error, ends
with the document, the patches and the error of the stream compiled as a whole, from the text that
all its bytes stand for.  If it drops no repeated lines and ends at a failure, this is what the text
compiled in one go comes to. -/
theorem Session.takeAll_eq_whole (document : Json) (options : SessionOptions)
    (pieces : List (List UInt8)) :
    let text := Utf8.decodeLossy pieces.flatten
    Utf8.Lossy pieces.flatten text ∧
    (let ended := (start document options).takeAll pieces
      let whole := compileStream options text document
      ended.2.document = whole.document ∧ ended.2.patches = whole.patches ∧
        ended.1 = whole.failure) ∧
    (let ended := (start document ⟨false, .abort⟩).takeAll pieces
      let compiled := compileText text document
      (∀ made, compiled = .ok made ↔ ended.1 = none ∧ ended.2.document = made) ∧
        ∀ error, compiled = .error error ↔
          ∃ line, ended.1 = some (.patchFailed line error)) := by
  intro text
  have whole := takeAll_compileStream options document pieces
  have aborting := takeAll_compileStream ⟨false, .abort⟩ document pieces
  refine ⟨Utf8.lossy_iff.mpr rfl, ⟨congrArg (·.document) whole, congrArg (·.patches) whole,
    congrArg (·.failure) whole⟩, ?_⟩
  have lines := applyLines_abort (candidates false text) document
  have failure : ((start document ⟨false, .abort⟩).takeAll pieces).1 = _ :=
    congrArg (·.failure) aborting
  have made : ((start document ⟨false, .abort⟩).takeAll pieces).2.document = _ :=
    congrArg (·.document) aborting
  rw [filterMap_candidates] at lines
  dsimp only [compileStream] at failure made
  dsimp only [compileText]
  rw [failure, made]
  generalize (Patch.applyAll _ document).toExcept = compiled at lines
  generalize applyLines .abort _ document = compilation at lines
  cases compiled with
  | ok d => exact ⟨fun _ => by simp [lines], fun _ => by simp [lines.1]⟩
  | error e =>
    obtain ⟨line, failed⟩ := lines
    exact ⟨fun _ => by simp [failed], fun _ => by simp [failed]⟩

end UiStream
