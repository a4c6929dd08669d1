import UiStream.Validation.Outline

/-!
# Validation

`Outline.problems` lists what is wrong with a specification.  Without a root or without elements
there is nothing more to look at; otherwise each element is looked at in turn, and elements that
cannot be reached come last, if they are asked for.
-/

namespace UiStream

/-- The problems of one element: fields that do not decode, children that do not exist, fields
among its properties. -/
def ElementOutline.problems (element : ElementOutline) (key : String) (keys : List String) :
    List Problem :=
  element.faults.map (.invalidElement key) ++
  (element.children.filter (!keys.contains ·)).map (.missingChild key) ++
  (ElementField.all.filter fun field => Members.has field.name (element.props?.getD [])).map
    (.misplacedField key)

namespace Outline

/-- The problems of the elements, one after another. -/
def elementProblems (outline : Outline) : List Problem :=
  outline.elements.flatMap fun (key, element) => element.problems key outline.keys

/-- The elements that cannot be reached. -/
def orphans (outline : Outline) : List Problem :=
  let reachable := outline.reachable
  (outline.keys.filter (!reachable.contains ·)).map fun key => .orphan key outline.root

/-- What is wrong with a specification. -/
def problems (outline : Outline) (checkOrphans : Bool) : List Problem :=
  if outline.root = "" then [.missingRoot]
  else
    (if outline.keys.contains outline.root then [] else [.rootNotFound outline.root]) ++
    if outline.elements.isEmpty then [.emptySpec]
    else outline.elementProblems ++ if checkOrphans then outline.orphans else []

end Outline

/-- What is wrong with a specification. -/
def Spec.problems (spec : Spec) (checkOrphans : Bool) : List Problem :=
  spec.outline.problems checkOrphans

/-- What is wrong with the specification in a document. -/
def documentProblems (document : Json) (checkOrphans : Bool) : List Problem :=
  (Outline.ofDocument document).problems checkOrphans

end UiStream
