import UiStream.Check.Basic
import UiStream.Proofs.Json.Members
import UiStream.Proofs.Expression.Written
import UiStream.Proofs.Record.Written
import UiStream.Proofs.Spec.Decoding

/-!
# Specifications that are written

What is written for a specification that was read is read back as the same specification; so what
is written is a normal form, which reading and writing again leave as it is.  The same holds of
bindings and of the checks of a field (`Spec.normal_forms`).

Each type has its lemma `decode_encode`, and they go by the types of the fields: each field is found
among the members that were written, and read back.  Most values are read back whatever they are.
Only a specification has to be one that a document gives (`Spec.Readable`): a `null` state would be
taken for none, and an extra member with the name of a field for that field.
-/

namespace UiStream

/-! ## Bindings -/

theorem Confirm.decode_encode (confirm : Confirm) : decode confirm.encode = .ok confirm := by
  obtain ⟨title, message, _ | _, _ | _, _ | _ | _⟩ := confirm <;> rfl

theorem Continuation.decode_encode (continuation : Continuation) :
    decode continuation.encode = .ok continuation := by
  cases continuation <;> rfl

theorem Continuation.encode_ne_null (continuation : Continuation) :
    continuation.encode ≠ .null := by
  cases continuation <;> nofun

namespace Binding

/-- The record of a binding that is written as an object. -/
def recordOf (members : Members) : Record :=
  ⟨"ActionBinding", ["action", "params", "confirm", "onSuccess", "onError"], members, none⟩

/-- Reading a binding goes by its record. -/
theorem decode_object (members : Members) :
    decode (.object members) = (do
      let action := (recordOf members).required "action" Reader.text
      let params := (recordOf members).defaulted "params" Reader.map []
      let confirm? := (recordOf members).optional "confirm" Confirm.decode
      let onSuccess? := (recordOf members).optional "onSuccess" Continuation.decode
      let onError? := (recordOf members).optional "onError" Continuation.decode
      (recordOf members).settle [("action", faultOf action), ("params", faultOf params),
        ("confirm", faultOf confirm?), ("onSuccess", faultOf onSuccess?),
        ("onError", faultOf onError?)]
      return { action := ← action, params := ← params, confirm? := ← confirm?,
               onSuccess? := ← onSuccess?, onError? := ← onError? }) := rfl

/-- A binding is read back. -/
theorem decode_encode (binding : Binding) : decode binding.encode = .ok binding := by
  rw [encode, decode_object]
  generalize written : recordOf _ = record
  have object : record.length? = none := by rw [← written]; rfl
  have action : record.required "action" Reader.text = .ok binding.action := by
    rw [← written]
    rfl
  have params : record.defaulted "params" Reader.map [] = .ok binding.params := by
    apply Record.defaulted_map_of_find?
    simp [← written, recordOf, Members.find?]
  have confirm : record.optional "confirm" Confirm.decode = .ok binding.confirm? := by
    apply Record.optional_of_find? Confirm.encode _ (fun c _ => c.decode_encode)
      (fun _ _ null => by cases null)
    simp [← written, recordOf, Members.find?]
  have success : record.optional "onSuccess" Continuation.decode = .ok binding.onSuccess? := by
    apply Record.optional_of_find? Continuation.encode _ (fun c _ => c.decode_encode)
      (fun c _ => c.encode_ne_null)
    simp [← written, recordOf, Members.find?]
  have failure : record.optional "onError" Continuation.decode = .ok binding.onError? := by
    apply Record.optional_of_find? Continuation.encode _ (fun c _ => c.decode_encode)
      (fun c _ => c.encode_ne_null)
    simp [← written, recordOf, Members.find?]
  dsimp only
  rw [action, params, confirm, success, failure,
    (record.settle_eq_ok_iff object _).mpr (by simp [faultOf])]
  rfl

end Binding

namespace Bindings

/-- A list of bindings is not taken for one that is written as an array: in front of it would stand
the name of an action. -/
theorem exists_fault_of_many (bindings : List Binding) :
    ∃ fault, Binding.decode (.array (bindings.map Binding.encode)) = .error fault := by
  cases bindings with
  | nil => exact ⟨_, rfl⟩
  | cons binding rest => exact ⟨_, rfl⟩

/-- The bindings of an event are read back, one as one and a list as a list. -/
theorem decode_encode (bindings : Bindings) : decode bindings.encode = .ok bindings := by
  cases bindings with
  | one binding => rw [encode, decode, binding.decode_encode]
  | many bindings =>
    obtain ⟨fault, single⟩ := exists_fault_of_many bindings
    rw [encode, decode, single, Reader.listOf_map fun binding _ => binding.decode_encode]

end Bindings

/-! ## Checks of a field -/

theorem FieldCheck.decode_encode (check : FieldCheck) : decode check.encode = .ok check := by
  obtain ⟨type, _ | _, message⟩ := check <;> rfl

theorem CheckMoment.variant_encode (moment : CheckMoment) :
    Reader.variant names moment.encode = .ok moment := by
  cases moment <;> rfl

theorem CheckMoment.encode_ne_null (moment : CheckMoment) : moment.encode ≠ .null := by
  cases moment <;> nofun

theorem Reader.condition_encode (condition : Condition) :
    Reader.condition condition.encode = .ok condition := by
  rw [Reader.condition, condition.decode_encode]

namespace FieldChecks

/-- The record of the checks of a field that are written as an object. -/
def recordOf (members : Members) : Record :=
  ⟨"ValidationConfig", ["checks", "validateOn", "enabled"], members, none⟩

/-- Reading the checks of a field goes by their record. -/
theorem decode_object (members : Members) :
    decode (.object members) = (do
      let checks := (recordOf members).defaulted "checks" (Reader.listOf FieldCheck.decode) []
      let validateOn? := (recordOf members).optional "validateOn" (Reader.variant CheckMoment.names)
      let enabled? := (recordOf members).optional "enabled" Reader.condition
      (recordOf members).settle [("checks", faultOf checks), ("validateOn", faultOf validateOn?),
        ("enabled", faultOf enabled?)]
      return { checks := ← checks, validateOn? := ← validateOn?, enabled? := ← enabled? }) := rfl

/-- The checks of a field are read back. -/
theorem decode_encode (field : FieldChecks) : decode field.encode = .ok field := by
  rw [encode, decode_object]
  generalize written : recordOf _ = record
  have object : record.length? = none := by rw [← written]; rfl
  have checks : record.defaulted "checks" (Reader.listOf FieldCheck.decode) [] =
      .ok field.checks := by
    rw [← written, Record.defaulted_of_find? rfl]
    exact Reader.listOf_map fun check _ => check.decode_encode
  have moment : record.optional "validateOn" (Reader.variant CheckMoment.names) =
      .ok field.validateOn? := by
    apply Record.optional_of_find? CheckMoment.encode _ (fun m _ => m.variant_encode)
      (fun m _ => m.encode_ne_null)
    simp [← written, recordOf, Members.find?]
  have enabled : record.optional "enabled" Reader.condition = .ok field.enabled? := by
    apply Record.optional_of_find? Condition.encode _ (fun c _ => Reader.condition_encode c)
      (fun c _ => c.encode_ne_null)
    simp [← written, recordOf, Members.find?]
  dsimp only
  rw [checks, moment, enabled, (record.settle_eq_ok_iff object _).mpr (by simp [faultOf])]
  rfl

end FieldChecks

/-! ## Elements -/

theorem Repetition.decode_encode (repetition : Repetition) :
    decode repetition.encode = .ok repetition := by
  obtain ⟨statePath, _ | _⟩ := repetition <;> rfl

namespace Element

/-- No extra member has the name of a field. -/
def ExtraApart (element : Element) : Prop := ∀ member ∈ element.extra, member.1 ∉ fields

/-- What an element carries besides its fields are members that are no fields. -/
theorem extraApart_of_decode {v : Json} {element : Element} (decoded : decode v = .ok element) :
    element.ExtraApart := by
  intro member h
  cases v with
  | object members =>
    rw [← (decode_eq_ok_iff.mp decoded).extra] at h
    simpa [recordOf] using (List.mem_filter.mp h).2
  | null | bool | number | string | array => cases decoded

/-- The members of the fields that are written. -/
def fieldMembers (element : Element) : Members :=
  [("type", .string element.type), ("props", .object element.props)] ++
    optionalMember "children" (element.children?.map fun keys => .array (keys.map .string)) ++
    optionalMember "visible" (element.visible?.map Condition.encode) ++
    optionalMember "on" (element.events?.map encodeEvents) ++
    optionalMember "repeat" (element.repetition?.map Repetition.encode)

theorem encode_eq (element : Element) :
    element.encode = .object (element.fieldMembers ++ element.extra) := rfl

/-- The members of the fields have the names of fields. -/
theorem mem_fields_of_mem_fieldMembers {element : Element} {member : String × Json}
    (h : member ∈ element.fieldMembers) : member.1 ∈ fields := by
  simp only [fieldMembers, List.mem_append, List.mem_cons, List.not_mem_nil, or_false] at h
  rcases h with (((((rfl | rfl) | h) | h) | h) | h)
  · exact List.mem_cons_self
  · exact List.mem_cons_of_mem _ List.mem_cons_self
  all_goals
    rw [Members.key_of_mem_optionalMember h]
    decide

variable {element : Element}

/-- The members of fields are left aside when the others are kept. -/
theorem others_encode (apart : element.ExtraApart) :
    (recordOf (element.fieldMembers ++ element.extra)).others = element.extra := by
  have known : element.fieldMembers.filter (!fields.contains ·.1) = [] := by
    refine List.filter_eq_nil_iff.mpr fun member h => ?_
    simpa using mem_fields_of_mem_fieldMembers h
  have unknown : element.extra.filter (!fields.contains ·.1) = element.extra := by
    refine List.filter_eq_self.mpr fun member h => ?_
    simpa using apart member h
  change (element.fieldMembers ++ element.extra).filter _ = _
  rw [List.filter_append]
  exact (congrArg₂ _ known unknown)

/-- A field is looked for among the members of fields only. -/
theorem find?_encode (apart : element.ExtraApart) {field : String} (known : field ∈ fields) :
    Members.find? field (recordOf (element.fieldMembers ++ element.extra)).members =
      Members.find? field element.fieldMembers := by
  have absent : Members.find? field element.extra = none := by
    refine Members.find?_eq_none_iff.mpr fun h => ?_
    obtain ⟨member, listed, rfl⟩ := List.mem_map.mp h
    exact apart member listed known
  change Members.find? field (element.fieldMembers ++ element.extra) = _
  rw [Members.find?_append, absent, Option.or_none]

/-- An element is read back if no extra member could be taken for a field. -/
theorem decode_encode (apart : element.ExtraApart) : decode element.encode = .ok element := by
  rw [encode_eq]
  refine decode_of_fields ⟨?_, ?_, ?_, ?_, ?_, ?_, others_encode apart⟩
  · rfl
  · rfl
  · apply Record.optional_of_find? (fun keys : List String => .array (keys.map .string)) _
      (fun keys _ => Reader.listOf_map fun _ _ => rfl) (fun _ _ null => by cases null)
    rw [find?_encode apart (by decide)]
    simp [fieldMembers, Members.find?]
  · apply Record.optional_of_find? Condition.encode _ (fun c _ => Reader.condition_encode c)
      (fun c _ => c.encode_ne_null)
    rw [find?_encode apart (by decide)]
    simp [fieldMembers, Members.find?]
  · apply Record.optional_of_find? encodeEvents _
      (fun events _ => Reader.mapOf_map fun event _ => event.2.decode_encode)
      (fun _ _ null => by cases null)
    rw [find?_encode apart (by decide)]
    simp [fieldMembers, Members.find?]
  · apply Record.optional_of_find? Repetition.encode _ (fun r _ => r.decode_encode)
      (fun _ _ null => by cases null)
    rw [find?_encode apart (by decide)]
    simp [fieldMembers, Members.find?]

end Element

/-! ## Specifications -/

namespace Spec

/-- What a document can give: extra members of elements are no fields, and the state is not
`null`. -/
structure Readable (spec : Spec) : Prop where
  extra : ∀ entry ∈ spec.elements, entry.2.ExtraApart
  state : spec.state? ≠ some .null

variable {spec : Spec}

/-- A specification that was read is one that a document can give. -/
theorem readable_of_decode {v : Json} (decoded : decode v = .ok spec) : spec.Readable := by
  unfold decode at decoded
  obtain ⟨record, -, decoded⟩ := bind_eq_ok_iff.mp decoded
  dsimp only at decoded
  obtain ⟨-, -, decoded⟩ := bind_eq_ok_iff.mp decoded
  obtain ⟨root, -, decoded⟩ := bind_eq_ok_iff.mp decoded
  obtain ⟨elements, given, decoded⟩ := bind_eq_ok_iff.mp decoded
  obtain ⟨state?, stated, decoded⟩ := bind_eq_ok_iff.mp decoded
  cases decoded
  constructor
  · obtain ⟨-, rfl⟩ | ⟨v, -, read⟩ := Record.defaulted_eq_ok_iff.mp given
    · exact fun _ h => nomatch h
    · cases v with
      | object members =>
        intro entry h
        obtain ⟨v, decoded⟩ := Reader.exists_read_of_mem read h
        exact Element.extraApart_of_decode decoded
      | null | bool | number | string | array => cases read
  · obtain ⟨-, rfl⟩ | ⟨v, -, read⟩ := Record.defaulted_eq_ok_iff.mp stated
    · nofun
    · cases v <;> cases read <;> nofun

/-- A specification that a document can give is read back. -/
theorem Readable.decode_encode (readable : spec.Readable) : decode spec.encode = .ok spec := by
  refine decode_eq_ok_iff.mpr ⟨rfl, ?_, ?_⟩
  · rw [elementsIn, Record.defaulted_of_find? rfl]
    exact Reader.mapOf_map fun entry h => Element.decode_encode (readable.extra entry h)
  · apply Record.optional_of_find? id _ (fun _ _ => rfl)
      (fun state given null => readable.state (given.trans (congrArg some null)))
    simp [recordOf, Members.find?]

end Spec

/-! ## Normal forms -/

/-- The normal form of a value: what is written for what was read. -/
def Reader.normalForm {α : Type} (read : Reader α) (write : α → Json) : Reader Json :=
  fun v => (read v).map write

/-- What is read back is written again as it was. -/
theorem Reader.normalForm_idempotent {α : Type} {read : Reader α} {write : α → Json}
    (back : ∀ v a, read v = .ok a → read (write a) = .ok a) {v w : Json}
    (written : read.normalForm write v = .ok w) : read.normalForm write w = .ok w := by
  obtain ⟨a, given, rfl⟩ := map_eq_ok_iff.mp written
  rw [normalForm, back v a given]
  rfl

/-- **Writing gives normal forms.**  What was read of any value, as a specification, a binding or
the checks of a field, is read back from what is written for it; and what is written is written
again as it is. -/
theorem Spec.normal_forms :
    ((∀ v spec, Spec.decode v = .ok spec → Spec.decode spec.encode = .ok spec) ∧
      ∀ v w, Reader.normalForm Spec.decode Spec.encode v = .ok w →
        Reader.normalForm Spec.decode Spec.encode w = .ok w) ∧
    ((∀ v binding, Binding.decode v = .ok binding →
        Binding.decode binding.encode = .ok binding) ∧
      ∀ v w, Reader.normalForm Binding.decode Binding.encode v = .ok w →
        Reader.normalForm Binding.decode Binding.encode w = .ok w) ∧
    (∀ v field, FieldChecks.decode v = .ok field →
        FieldChecks.decode field.encode = .ok field) ∧
      ∀ v w, Reader.normalForm FieldChecks.decode FieldChecks.encode v = .ok w →
        Reader.normalForm FieldChecks.decode FieldChecks.encode w = .ok w := by
  have specs (v : Json) (spec : Spec) (given : Spec.decode v = .ok spec) :
      Spec.decode spec.encode = .ok spec := (Spec.readable_of_decode given).decode_encode
  have bindings (v : Json) (binding : Binding) (_ : Binding.decode v = .ok binding) :
      Binding.decode binding.encode = .ok binding := binding.decode_encode
  have fields (v : Json) (field : FieldChecks) (_ : FieldChecks.decode v = .ok field) :
      FieldChecks.decode field.encode = .ok field := field.decode_encode
  exact ⟨⟨specs, fun _ _ => Reader.normalForm_idempotent specs⟩,
    ⟨bindings, fun _ _ => Reader.normalForm_idempotent bindings⟩,
    fields, fun _ _ => Reader.normalForm_idempotent fields⟩

/-- A specification whose records are arrays, with a list of one binding, a `null` condition, and an
extra member. -/
theorem Spec.normal_forms_arrays :
    let press := Json.array [.array [.string "save"]]
    let element := Json.object [("note", .null), ("visible", .null),
      ("on", .object [("press", press)]), ("repeat", .array [.string "/rows", .string "id"])]
    let v := Json.array [.string "list", .object [("list", element)], .null]
    let binding := Json.object [("action", .string "save")]
    let written := Json.object [("type", .string ""), ("props", .object []),
      ("on", .object [("press", .array [binding])]),
      ("repeat", .object [("statePath", .string "/rows"), ("key", .string "id")]), ("note", .null)]
    let w := Json.object [("root", .string "list"), ("elements", .object [("list", written)])]
    Reader.normalForm Spec.decode Spec.encode v = .ok w ∧
      Reader.normalForm Spec.decode Spec.encode w = .ok w := by
  intro press element v binding written w
  have first : Reader.normalForm Spec.decode Spec.encode v = .ok w := by rfl
  exact ⟨first, normal_forms.1.2 v w first⟩

end UiStream
