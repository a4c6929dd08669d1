import UiStream.Proofs.Record.Settled
import UiStream.Spec.Basic

/-!
# Specifications that decode

An element that is written as an object decodes to what its fields give, and does not decode if one
of them gives nothing (`Element.decode_eq_ok_iff`, `Element.exists_decode_iff`).  The same holds of
a specification (`Spec.decode_eq_ok_iff`).
-/

namespace UiStream

namespace Element

variable {members : Members}

/-- The record of an element that is written as an object. -/
def recordOf (members : Members) : Record := ⟨"Element", fields, members, none⟩

/-- Reading an element goes by its record. -/
theorem decode_object (members : Members) :
    decode (.object members) = (do
      (recordOf members).settle (faultsIn (recordOf members))
      return { type := ← typeIn (recordOf members), props := ← propsIn (recordOf members),
               children? := ← childrenIn (recordOf members),
               visible? := ← visibleIn (recordOf members),
               events? := ← eventsIn (recordOf members),
               repetition? := ← repetitionIn (recordOf members),
               extra := (recordOf members).others }) := rfl

/-- What the fields of an element give. -/
structure Fields (members : Members) (element : Element) : Prop where
  type : typeIn (recordOf members) = .ok element.type
  props : propsIn (recordOf members) = .ok element.props
  children : childrenIn (recordOf members) = .ok element.children?
  visible : visibleIn (recordOf members) = .ok element.visible?
  events : eventsIn (recordOf members) = .ok element.events?
  repetition : repetitionIn (recordOf members) = .ok element.repetition?
  extra : (recordOf members).others = element.extra

/-- No field has a fault if every field gives something. -/
theorem faultsIn_eq_none_iff :
    (∀ fault ∈ faultsIn (recordOf members), fault.2 = none) ↔
      ∃ element, Fields members element := by
  simp only [faultsIn, List.forall_mem_cons, faultOf_eq_none_iff]
  constructor
  · rintro ⟨⟨type, h₁⟩, ⟨props, h₂⟩, ⟨children?, h₃⟩, ⟨visible?, h₄⟩, ⟨events?, h₅⟩,
      ⟨repetition?, h₆⟩, -⟩
    exact ⟨⟨type, props, children?, visible?, events?, repetition?, _⟩,
      ⟨h₁, h₂, h₃, h₄, h₅, h₆, rfl⟩⟩
  · rintro ⟨element, h₁, h₂, h₃, h₄, h₅, h₆, -⟩
    exact ⟨⟨_, h₁⟩, ⟨_, h₂⟩, ⟨_, h₃⟩, ⟨_, h₄⟩, ⟨_, h₅⟩, ⟨_, h₆⟩, fun _ h => nomatch h⟩

/-- An element decodes to what its fields give. -/
theorem decode_of_fields {element : Element} (given : Fields members element) :
    decode (.object members) = .ok element := by
  have settled := (Record.settle_eq_ok_iff (recordOf members) rfl _).mpr
    (faultsIn_eq_none_iff.mpr ⟨element, given⟩)
  obtain ⟨h₁, h₂, h₃, h₄, h₅, h₆, h₇⟩ := given
  rw [decode_object, settled, h₁, h₂, h₃, h₄, h₅, h₆, h₇]
  rfl

/-- An element decodes if no field has a fault. -/
theorem exists_decode_iff :
    (∃ element, decode (.object members) = .ok element) ↔
      ∀ fault ∈ faultsIn (recordOf members), fault.2 = none := by
  constructor
  · rintro ⟨element, decoded⟩
    rw [← Record.settle_eq_ok_iff (recordOf members) rfl]
    rw [decode_object] at decoded
    cases settled : (recordOf members).settle (faultsIn (recordOf members)) with
    | error fault => rw [settled] at decoded; cases decoded
    | ok _ => rfl
  · intro flawless
    obtain ⟨element, given⟩ := faultsIn_eq_none_iff.mp flawless
    exact ⟨element, decode_of_fields given⟩

/-- An element is what its fields give. -/
theorem decode_eq_ok_iff {element : Element} :
    decode (.object members) = .ok element ↔ Fields members element := by
  refine ⟨fun decoded => ?_, decode_of_fields⟩
  obtain ⟨other, given⟩ := faultsIn_eq_none_iff.mp (exists_decode_iff.mp ⟨element, decoded⟩)
  cases decoded.symm.trans (decode_of_fields given)
  exact given

end Element

namespace Spec

variable {members : Members}

/-- The record of a specification that is written as an object. -/
def recordOf (members : Members) : Record :=
  ⟨"Spec", ["root", "elements", "state"], members, none⟩

/-- The root that the members of a specification give. -/
def rootIn (members : Members) : Except DecodeFault String :=
  (recordOf members).defaulted "root" Reader.text ""

/-- The elements that the members of a specification give. -/
def elementsIn (members : Members) : Except DecodeFault (List (String × Element)) :=
  (recordOf members).defaulted "elements" (Reader.mapOf Element.decode) []

/-- The state that the members of a specification give. -/
def stateIn (members : Members) : Except DecodeFault (Option Json) :=
  (recordOf members).optional "state" Reader.value

/-- Any value can be a state. -/
theorem exists_stateIn (members : Members) : ∃ state?, stateIn members = .ok state? := by
  rw [stateIn, Record.optional, Record.defaulted]
  cases Members.find? "state" (recordOf members).members with
  | none => exact ⟨_, rfl⟩
  | some v => cases v <;> exact ⟨_, rfl⟩

/-- Reading a specification goes by its record. -/
theorem decode_object (members : Members) :
    decode (.object members) = (do
      (recordOf members).settle [("root", faultOf (rootIn members)),
        ("elements", faultOf (elementsIn members)), ("state", faultOf (stateIn members))]
      return { root := ← rootIn members, elements := ← elementsIn members,
               state? := ← stateIn members }) := rfl

/-- A specification is what its fields give. -/
theorem decode_eq_ok_iff {spec : Spec} :
    decode (.object members) = .ok spec ↔
      rootIn members = .ok spec.root ∧ elementsIn members = .ok spec.elements ∧
        stateIn members = .ok spec.state? := by
  have settled := Record.settle_eq_ok_iff (recordOf members) rfl
    [("root", faultOf (rootIn members)), ("elements", faultOf (elementsIn members)),
      ("state", faultOf (stateIn members))]
  simp only [List.forall_mem_cons, faultOf_eq_none_iff] at settled
  rw [decode_object]
  constructor
  · intro decoded
    cases outcome : (recordOf members).settle [("root", faultOf (rootIn members)),
        ("elements", faultOf (elementsIn members)), ("state", faultOf (stateIn members))] with
    | error fault => rw [outcome] at decoded; cases decoded
    | ok _ =>
      obtain ⟨⟨root, h₁⟩, ⟨elements, h₂⟩, ⟨state?, h₃⟩, -⟩ := settled.mp outcome
      rw [outcome, h₁, h₂, h₃] at decoded
      cases decoded
      exact ⟨h₁, h₂, h₃⟩
  · rintro ⟨h₁, h₂, h₃⟩
    rw [settled.mpr ⟨⟨_, h₁⟩, ⟨_, h₂⟩, ⟨_, h₃⟩, fun _ h => nomatch h⟩, h₁, h₂, h₃]
    rfl

end Spec

end UiStream
