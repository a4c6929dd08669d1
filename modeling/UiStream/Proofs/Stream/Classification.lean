import UiStream.Proofs.Json.Trimmed
import UiStream.Proofs.Patch.Decoding
import UiStream.Stream.PatchLine

/-!
# Which lines are patches

A line is a patch exactly when its text, without the blanks around it, is a value that decodes as
one (`patchOfLine?_eq_some_iff`): what is looked at before the patch is decoded turns no such line
away, because the text of an object begins with a brace, and an object that decodes has a path and
the name of an operation, which is not empty.

Blanks of any kind around the text of a value make no difference, whether JSON knows them or not
(`patchOfLine?_append`): those that JSON does not know are trimmed away, and the trimmed text has
the same value (`Json.parse?_trim`).
-/

namespace UiStream

/-- No operation has the empty name. -/
theorem Patch.truthy_op (patch : Patch) : Json.truthy? (some (.string patch.op)) = true := by
  cases patch <;> rfl

/-- An object that decodes has an operation and a path. -/
theorem Patch.gates_of_decode {members : Members} {patch : Patch}
    (h : decode (.object members) = .ok patch) :
    Json.truthy? (Members.find? "op" members) = true ∧ Members.has "path" members = true := by
  obtain ⟨named, placed, -⟩ := (decode_object_iff members patch).mp h
  rw [named, Members.has, placed]
  exact ⟨patch.truthy_op, rfl⟩

/-- A line is a patch exactly when its trimmed text is a value that decodes as the patch. -/
theorem patchOfLine?_eq_some_iff (line : List Char) (patch : Patch) :
    patchOfLine? line = some patch ↔
      ∃ v, Json.parse? (String.ofList (trim line)) = some v ∧ Patch.decode v = .ok patch := by
  rw [patchOfLine?, patchOfTrimmed?]
  constructor
  · intro h
    split at h
    · split at h
      · next members parsed =>
        split at h
        · cases decoded : Patch.decode (.object members) with
          | error => rw [decoded] at h; cases h
          | ok found =>
            rw [decoded] at h
            cases h
            exact ⟨_, parsed, decoded⟩
        · cases h
      · cases h
    · cases h
  · rintro ⟨v, parsed, decoded⟩
    obtain ⟨members, rfl⟩ := Patch.exists_object_of_decode decoded
    have brace : (trim line).head? = some '{' := by
      rw [← trim_trim, head?_trim]
      exact Json.head?_trimStart_of_parse? parsed
    obtain ⟨named, placed⟩ := Patch.gates_of_decode decoded
    rw [if_pos brace, parsed]
    dsimp only
    rw [named, placed, decoded]
    rfl

/-- The text of a value that decodes is a patch with blanks of any kind around it. -/
theorem patchOfLine?_append {before text after : List Char} {v : Json} {patch : Patch}
    (front : Blanks before) (behind : Blanks after)
    (parsed : Json.parse? (String.ofList text) = some v) (decoded : Patch.decode v = .ok patch) :
    patchOfLine? (before ++ text ++ after) = some patch := by
  rw [patchOfLine?_eq_some_iff, trim_append front behind]
  exact ⟨v, Json.parse?_trim parsed, decoded⟩

/-- **Lines are told from prose exactly, and an encoded patch is found again.**  A line is a patch
if and only if its trimmed text is a value that decodes as that patch.  Decoding undoes encoding,
so that a text which parses to the encoded patch is that patch, with blanks of any kind around it;
if it parses to the encoded patch but for the order of members, it is the patch but for the order
of members inside its value. -/
theorem patch_lines_exact (patch : Patch) :
    (∀ line, patchOfLine? line = some patch ↔
      ∃ v, Json.parse? (String.ofList (trim line)) = some v ∧ Patch.decode v = .ok patch) ∧
    Patch.decode patch.encode = .ok patch ∧
    (∀ before text after, Blanks before → Blanks after →
      Json.parse? (String.ofList text) = some patch.encode →
        patchOfLine? (before ++ text ++ after) = some patch) ∧
    ∀ before text after v, Blanks before → Blanks after →
      Json.parse? (String.ofList text) = some v → Json.Alike v patch.encode →
        ∃ found, patchOfLine? (before ++ text ++ after) = some found ∧ found.SameChange patch := by
  refine ⟨fun line => patchOfLine?_eq_some_iff line patch, patch.decode_encode, ?_, ?_⟩
  · intro before text after front behind parsed
    exact patchOfLine?_append front behind parsed patch.decode_encode
  · intro before text after v front behind parsed alike
    obtain ⟨found, decoded, same⟩ := Patch.decode_alike alike patch.decode_encode
    exact ⟨found, patchOfLine?_append front behind parsed decoded, same⟩

/-- A test without a value, spaced as JSON allows and between blanks that JSON does not know; and
the same test with its members turned around. -/
theorem patch_lines_exact_spaced :
    Json.parse? (String.ofList "\x7b\"op\" : \"test\", \"path\" : \"\"\x7d\n".toList) =
        some (Patch.test "" none).encode ∧
      patchOfLine? (['\xa0', '\t'] ++ "\x7b\"op\" : \"test\", \"path\" : \"\"\x7d\n".toList ++
        ['\u3000']) = some (.test "" none) ∧
      ∃ found, patchOfLine? ([' '] ++ "\x7b\"path\": \"\", \"op\": \"test\"\x7d".toList ++
        ['\u2028']) = some found ∧ found.SameChange (.test "" none) := by
  have straight :
      Json.parse? (String.ofList "\x7b\"op\" : \"test\", \"path\" : \"\"\x7d\n".toList) =
        some (Patch.test "" none).encode := by decide +kernel
  have turned : Json.parse? (String.ofList "\x7b\"path\": \"\", \"op\": \"test\"\x7d".toList) =
      some (.object [("path", .string ""), ("op", .string "test")]) := by decide +kernel
  have alike : Json.Alike (.object [("path", .string ""), ("op", .string "test")])
      (Patch.test "" none).encode := by
    refine Json.alike_of_find? (Json.distinct_of_parse? turned)
      (Json.distinct_of_parse? straight) fun key => ?_
    by_cases path : "path" = key
    · subst path; rfl
    · simp only [Members.find?, if_neg path]
  obtain ⟨-, -, encoded, reordered⟩ := patch_lines_exact (.test "" none)
  exact ⟨straight, encoded ['\xa0', '\t'] _ ['\u3000'] (by decide) (by decide) straight,
    reordered [' '] _ ['\u2028'] _ (by decide) (by decide) turned alike⟩

end UiStream
