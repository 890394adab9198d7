import TypeGrading.Descriptor.Reader
import TypeGrading.Divergence

/-!
# Comparing descriptors

Two descriptor texts are read, the left one first, and their trees compared.

* `gradeDescriptors`: the grade of two texts;
* `matchDescriptors`: two texts have to be identical, and the second has to be there.
-/

namespace TypeGrading.Compare

open Descriptor (DescriptorError parse)

/-- The grade of two descriptors under a resolver. -/
def gradeDescriptors (r : Resolver) (left right : String) : Except DescriptorError Grade := do
  let a ← parse left
  let b ← parse right
  pure (grade r a.root b.root)

/-- Why two descriptors did not pass a strict comparison. -/
inductive CompareError
  | descriptor (error : DescriptorError)
  | mismatch (error : Mismatch)
  deriving DecidableEq

/-- Two descriptors have to be identical; without a second one the comparison fails once the first
has been read. -/
def matchDescriptors (r : Resolver) (left : String) (right : Option String) :
    Except CompareError Unit := do
  let a ← (parse left).mapError .descriptor
  let b ← (right.mapM parse).mapError .descriptor
  ((strict a.root (b.map Tree.TypeTree.root)).answer r).mapError .mismatch

end TypeGrading.Compare
