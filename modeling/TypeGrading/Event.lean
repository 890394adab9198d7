import TypeGrading.Descriptor.Error
import TypeGrading.Grade

/-!
# Events

What a run has to tell besides its result. Paths are texts as shown to a user.
-/

namespace TypeGrading

/-- Something worth telling that happened during a run. -/
inductive Event
  | noConfigFound
  | loadingConfig (path : String)
  | loadingBase (path base : String)
  | descriptorParsed (descriptor : String) (node : Nat)
  | descriptorRejected (error : Descriptor.DescriptorError)
  | countMismatch (name : String) (left right : Nat)
  | relationCached (left right : String) (relation : Relation)
  | pairUnresolved (left right : String) (error : ResolveError)
  | namesDiffer (left right : String) (grade : Grade)
  | comparisonFinished (grade : Grade) (cached : Nat)
  deriving DecidableEq

end TypeGrading
