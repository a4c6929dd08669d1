import UiStream.Patch.Codec
import UiStream.Proofs.Json.Alike

/-!
# What a patch is decoded from

`Patch.decode_object_iff` says which objects decode as a patch: those whose members `op` and
`path` are its operation and its place, and whose other members hold its argument
(`Patch.Argument`).  Decoding therefore looks at members by their keys alone, and takes alike
objects to the same change (`Patch.decode_alike`).
-/

namespace UiStream

namespace Patch

variable {members : Members}

theorem stringMember_of_find? {key s : String}
    (h : Members.find? key members = some (.string s)) : stringMember members key = .ok s := by
  rw [stringMember, h]

/-- Where decoding goes on behind a member that must be a string, the member is one. -/
theorem exists_of_stringMember_bind {key : String} {next : String → Except OperationFault Patch}
    {patch : Patch} (h : stringMember members key >>= next = .ok patch) :
    ∃ s, Members.find? key members = some (.string s) ∧ next s = .ok patch := by
  unfold stringMember at h
  split at h
  · next s found => exact ⟨s, found, h⟩
  · cases h
  · cases h

/-- The members hold what the patch needs besides its operation and its place: the source of what
it moves or copies, or its value, which may be missing. -/
def Argument (members : Members) : Patch → Prop
  | add _ value | replace _ value => valueMember members = value
  | remove _ => True
  | move source _ | copy source _ => Members.find? "from" members = some (.string source)
  | test _ value => Members.find? "value" members = value

/-- **An object decodes as the patch that its members describe, and as no other.** -/
theorem decode_object_iff (members : Members) (patch : Patch) :
    decode (.object members) = .ok patch ↔
      Members.find? "op" members = some (.string patch.op) ∧
        Members.find? "path" members = some (.string patch.path) ∧ Argument members patch := by
  constructor
  · intro h
    obtain ⟨op, named, h⟩ := exists_of_stringMember_bind h
    obtain ⟨path, placed, h⟩ := exists_of_stringMember_bind h
    rw [named, placed]
    split at h
    · next same => cases h; exact ⟨by rw [same]; rfl, rfl, rfl⟩
    split at h
    · next same => cases h; exact ⟨by rw [same]; rfl, rfl, trivial⟩
    split at h
    · next same => cases h; exact ⟨by rw [same]; rfl, rfl, rfl⟩
    split at h
    · next same =>
      obtain ⟨source, found, ⟨⟩⟩ := exists_of_stringMember_bind h
      exact ⟨by rw [same]; rfl, rfl, found⟩
    split at h
    · next same =>
      obtain ⟨source, found, ⟨⟩⟩ := exists_of_stringMember_bind h
      exact ⟨by rw [same]; rfl, rfl, found⟩
    split at h
    · next same => cases h; exact ⟨by rw [same]; rfl, rfl, rfl⟩
    · cases h
  · rintro ⟨named, placed, argument⟩
    rw [decode, stringMember_of_find? named, stringMember_of_find? placed]
    cases patch with
    | add | replace | test => cases argument; rfl
    | remove => rfl
    | move | copy =>
      simp only [bind, Except.bind, stringMember_of_find? argument]
      rfl

/-- Nothing but an object decodes. -/
theorem exists_object_of_decode {v : Json} {patch : Patch} (h : decode v = .ok patch) :
    ∃ members, v = .object members := by
  cases v with
  | object members => exact ⟨members, rfl⟩
  | _ => cases h

/-- The same change, but for the order of members inside the value that it carries. -/
structure SameChange (one other : Patch) : Prop where
  op : one.op = other.op
  path : one.path = other.path
  source : one.source? = other.source?
  value : Option.Rel Json.Alike one.value? other.value?

/-- **Alike objects decode as the same change.** -/
theorem decode_alike {v w : Json} (h : Json.Alike v w) {patch : Patch}
    (decoded : decode w = .ok patch) : ∃ found, decode v = .ok found ∧ found.SameChange patch := by
  obtain ⟨others, rfl⟩ := exists_object_of_decode decoded
  cases h with
  | @object members _ nodup nodup' keys each =>
  have both := (Json.alike_object.mp (.object nodup nodup' keys each)).2.2
  have string {key s : String} (found : Members.find? key others = some (.string s)) :
      Members.find? key members = some (.string s) := by
    have rel := both key
    rw [found] at rel
    generalize Members.find? key members = here at rel
    cases rel with
    | some rel => cases rel; rfl
  have value : Json.Alike (valueMember members) (valueMember others) := by
    obtain ⟨here, there⟩ | ⟨a, b, here, there, rel⟩ := (both "value").none_or_some
    · rw [valueMember, valueMember, here, there]
      exact .null
    · rw [valueMember, valueMember, here, there]
      exact rel
  obtain ⟨named, placed, argument⟩ := (decode_object_iff _ _).mp decoded
  have names := string named
  have places := string placed
  have reads (found : Patch) (op : found.op = patch.op) (path : found.path = patch.path)
      (argument : Argument members found) : decode (.object members) = .ok found :=
    (decode_object_iff _ _).mpr ⟨op ▸ names, path ▸ places, argument⟩
  cases patch with
  | add path _ =>
    cases argument
    exact ⟨add path (valueMember members), reads _ rfl rfl rfl, rfl, rfl, rfl, .some value⟩
  | replace path _ =>
    cases argument
    exact ⟨replace path (valueMember members), reads _ rfl rfl rfl, rfl, rfl, rfl, .some value⟩
  | test path _ =>
    cases argument
    exact ⟨test path (Members.find? "value" members), reads _ rfl rfl rfl, rfl, rfl, rfl,
      both "value"⟩
  | remove path => exact ⟨remove path, reads _ rfl rfl trivial, rfl, rfl, rfl, .none⟩
  | move source path =>
    exact ⟨move source path, reads _ rfl rfl (string argument), rfl, rfl, rfl, .none⟩
  | copy source path =>
    exact ⟨copy source path, reads _ rfl rfl (string argument), rfl, rfl, rfl, .none⟩

end Patch

end UiStream
