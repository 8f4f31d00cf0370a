import WorkloadBindings.Workload.Pod

/-!
# Workloads

A workload is any resource shaped like a Deployment, a StatefulSet or a Job: it has metadata and a
template for its pods. `Workload.decode` reads these two out of a resource and ignores all else.
-/

namespace WorkloadBindings

/-- The template for the pods of a workload. -/
structure PodTemplate where
  metadata : Option Metadata := none
  spec : Option PodSpec := none
  deriving DecidableEq

namespace PodTemplate

/-- The wire shape of a template. -/
def shape : Shape :=
  .api "PodTemplateSpec"
    [("metadata", .nullable, Metadata.shape), ("spec", .nullable, PodSpec.shape)]

/-- The template that a value of its shape writes. -/
def ofJson (j : Json) : PodTemplate where
  metadata := (j.get? "metadata").map Metadata.ofJson
  spec := (j.get? "spec").map PodSpec.ofJson

/-- The template as an object. -/
def toJson (t : PodTemplate) : Json :=
  .record [("metadata", t.metadata.map Metadata.toJson), ("spec", t.spec.map PodSpec.toJson)]

end PodTemplate

/-- A resource that runs pods. -/
structure Workload where
  metadata : Metadata := {}
  template : PodTemplate := {}
  deriving DecidableEq

namespace Workload

/-- The wire shape of a workload. -/
def shape : Shape :=
  .declared "PodSpecable" ["metadata", "spec"]
    [("metadata", .lenient (.obj []), Metadata.shape),
     ("spec", .lenient (.obj [("template", .obj [])]),
       .declared "PodSpecableSpec" ["template"]
         [("template", .lenient (.obj []), PodTemplate.shape)])]

/-- The workload that a value of its shape writes. -/
def ofJson (j : Json) : Workload where
  metadata := Metadata.ofJson ((j.get? "metadata").getD (.obj []))
  template := PodTemplate.ofJson (((j.get? "spec").bind (·.get? "template")).getD (.obj []))

/-- The workload as an object. -/
def toJson (w : Workload) : Json :=
  .obj [("metadata", w.metadata.toJson), ("spec", .obj [("template", w.template.toJson)])]

/-- Reads a workload. -/
def decode (j : Json) : Except DecodeError Workload := (shape.conform j).map ofJson

/-- The workload is being deleted. -/
def isDeleting (w : Workload) : Bool := w.metadata.isDeleting

end Workload

end WorkloadBindings
